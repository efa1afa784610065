import Mathlib.Tactic.Use
import Rollout.Log.Logging
import Rollout.Proofs.Files.Trees

/-!
# Opening a file for the log

A file for the log is opened in a folder that is there or can be made.  A file that can be opened
after other things have been made and written could have been opened before them.
-/

namespace Rollout.Log

open Disk

variable {disk disk' : Disk} {path place : Path}

/-- A file is opened in a folder that can be had. -/
theorem openFile_eq_ok_iff :
  openFile disk path = (disk', .ok place)
    ↔ disk.Offers path.parent ∧ place = disk.resolve path
      ∧ (disk.ensureFolder path.parent).1.append place "" = .ok disk'
  := by
  have hresolve := (within_ensureFolder disk path.parent).keeps.resolve path
  rw [openFile, Offers]
  generalize disk.ensureFolder path.parent = made at hresolve ⊢
  obtain ⟨after, fault⟩ := made
  cases fault with
  | some fault => simp
  | none =>
    dsimp only at hresolve ⊢
    rw [hresolve]
    cases hadded : after.append (disk.resolve path) "" with
    | error fault =>
      constructor
      · rintro ⟨⟩
      · rintro ⟨-, rfl, h⟩
        rw [hadded] at h
        cases h
    | ok final =>
      constructor
      · rintro ⟨⟩
        exact ⟨rfl, rfl, hadded⟩
      · rintro ⟨-, rfl, h⟩
        rw [hadded] at h
        cases h
        rfl

/-- If a file cannot be opened, all that has come of it are folders. -/
theorem disk_of_openFile_eq_error
    {fault : Fault} (h : openFile disk path = (disk', .error fault)) :
  disk' = (disk.ensureFolder path.parent).1
  := by
  rw [openFile] at h
  generalize disk.ensureFolder path.parent = made at h ⊢
  obtain ⟨after, fault'⟩ := made
  cases fault' with
  | some fault' =>
    cases h
    rfl
  | none =>
    dsimp only at h
    split at h
    · cases h
      rfl
    · cases h

theorem within_openFile
    {fault : Fault} (h : openFile disk path = (disk', .error fault)) :
  disk.Within disk'
  := by
  rw [disk_of_openFile_eq_error h]
  apply within_ensureFolder

theorem evolves_openFile
    (disk : Disk) (path : Path) :
  disk.Evolves (openFile disk path).1
  := by
  generalize hopened : openFile disk path = opened
  obtain ⟨disk', result⟩ := opened
  have hfolder := evolves_ensureFolder disk path.parent
  cases result with
  | error fault =>
    rw [disk_of_openFile_eq_error hopened]
    apply hfolder
  | ok place =>
    obtain ⟨-, -, hadded⟩ := openFile_eq_ok_iff.mp hopened
    apply hfolder.trans (evolves_append hadded)

/-- Texts can be added to a file that has been opened. -/
theorem exists_takes_openFile
    (h : openFile disk path = (disk', .ok place)) :
  ∃ content, disk'.Takes place content
  := by
  obtain ⟨-, -, hadded⟩ := openFile_eq_ok_iff.mp h
  obtain ⟨_, -, htakes⟩ := exists_takes_of_append hadded
  exact ⟨_, htakes⟩

/-- A file can be opened. -/
def Opens (disk : Disk) (path : Path) : Prop :=
  ∃ disk' place, openFile disk path = (disk', .ok place)

/-- In a tree a file can be opened exactly if its folder can be had, and no folder is in the place
of the file then. -/
theorem opens_iff
    (h : disk.IsTree) :
  Opens disk path
    ↔ disk.Offers path.parent ∧ (disk.resolve path).Fits
      ∧ (disk.ensureFolder path.parent).1.node? (disk.reach path path.parts) ≠ some .folder
  := by
  have htree := h.ensureFolder path.parent
  have hkeeps := (within_ensureFolder disk path.parent).keeps
  -- The place of the file is in a folder once its folder has been made.
  have hlocate : disk.Offers path.parent → (disk.resolve path).Fits →
      (disk.ensureFolder path.parent).1.locate (disk.resolve path)
          = .ok (disk.reach path path.parts)
        ∧ (disk.ensureFolder path.parent).1.node? (disk.reach path path.parts).dropLast
          = some .folder := by
    intro hoffers hfits
    rw [← hkeeps.resolve, ← hkeeps.reach]
    have houter := htree.node?_outer (p := path) (by
      intro init hinit hne
      apply (isFolder_iff_reach.mp (isFolder_ensureFolder hoffers)).2 init
      apply prefix_dropLast hinit hne)
    rw [← hkeeps.resolve] at hfits
    exact ⟨htree.locate_resolve hfits houter, houter⟩
  constructor
  · rintro ⟨disk', place, hopened⟩
    obtain ⟨hoffers, rfl, hadded⟩ := openFile_eq_ok_iff.mp hopened
    obtain ⟨other, hother, hfree, -⟩ := append_eq_ok_iff.mp hadded
    have hfits := (locate_eq_ok_iff_reach.mp hother).2.1
    rw [(hlocate hoffers hfits).1] at hother
    cases hother
    exact ⟨hoffers, hfits, hfree⟩
  · rintro ⟨hoffers, hfits, hfree⟩
    obtain ⟨hplace, houter⟩ := hlocate hoffers hfits
    obtain ⟨disk', hadded⟩ := exists_append hplace hfree houter ""
    exact ⟨disk', disk.resolve path, openFile_eq_ok_iff.mpr ⟨hoffers, rfl, hadded⟩⟩

/-- A file that can be opened on a tree that has grown could be opened before. -/
theorem opens_of_evolves
    (h : disk.IsTree) (hevolves : disk.Evolves disk') (hopens : Opens disk' path) :
  Opens disk path
  := by
  obtain ⟨hoffers, hfits, hfree⟩ := (opens_iff (hevolves.tree h)).mp hopens
  apply (opens_iff h).mpr
  rw [hevolves.resolve] at hfits
  refine ⟨hevolves.offers hoffers, hfits, ?_⟩
  intro hfolder
  apply hfree
  have hfolder' := isFolder_iff_reach.mp (isFolder_ensureFolder hoffers)
  have hkeeps := (within_ensureFolder disk' path.parent).keeps
  rw [hevolves.reach]
  obtain hthere | ⟨-, init, hinit, hplace⟩ := node?_ensureFolder hfolder
  · apply hkeeps.folder _ (hevolves.folder _ hthere)
  · rw [← hplace, ← hevolves.reach, ← hkeeps.reach]
    apply hfolder'.2 init hinit

end Rollout.Log
