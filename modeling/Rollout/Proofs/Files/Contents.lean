import Mathlib.Tactic.Use
import Rollout.Proofs.Files.Folders

/-!
# What files hold

Texts that are written one after another stay until another one is written at the same place:
what a file holds at the end is the last text that was written there.  Folders that are made in
between change nothing about that.
-/

namespace Rollout.Disk

variable {d d' d'' : Disk} {p : Path} {place : List String} {text : String}
  {files more : List (Path × String)}

/-- The last of some texts, each with the path of its file, that belongs at a place. -/
def lastAt? (d : Disk) (place : List String) (files : List (Path × String)) : Option String :=
  ((files.filter (fun file => (d.locate file.1).toOption = some place)).getLast?).map Prod.snd

/-- The last text at a place is among those that follow, or else it is the first one. -/
theorem lastAt?_cons
    (d : Disk) (place : List String) (p : Path) (text : String) (files : List (Path × String)) :
  d.lastAt? place ((p, text) :: files)
    = (d.lastAt? place files).or
      (if (d.locate p).toOption = some place then some text else none)
  := by
  rw [lastAt?, List.filter_cons]
  split
  · rename_i hplace
    rw [List.getLast?_cons, if_pos (of_decide_eq_true hplace), lastAt?]
    cases List.getLast? (files.filter fun file => (d.locate file.1).toOption = some place) with
    | none => rfl
    | some file => rfl
  · rename_i hplace
    rw [if_neg (fun h => hplace (decide_eq_true h)), Option.or_none, lastAt?]

/-- A disk has become another one by texts that were written one after another, each with the
path of its file, and by folders that were made in between. -/
inductive Writes : Disk → List (Path × String) → Disk → Prop where
  /-- Nothing has been done. -/
  | refl (d : Disk) : Writes d [] d
  /-- A folder has been made first. -/
  | folder {d d' : Disk} {files : List (Path × String)} (p : Path)
      (rest : Writes (d.ensureFolder p).1 files d') : Writes d files d'
  /-- A text has been written first. -/
  | file {d d' d'' : Disk} {files : List (Path × String)} {p : Path} {text : String}
      (written : d.write p (.text text) = .ok d') (rest : Writes d' files d'') :
      Writes d ((p, text) :: files) d''

theorem Writes.trans
    (h : d.Writes files d') (h' : d'.Writes more d'') :
  d.Writes (files ++ more) d''
  := by
  induction h with
  | refl => apply h'
  | folder p rest ih => exact .folder p (ih h')
  | file written rest ih => exact .file written (ih h')

theorem Writes.keeps
    (h : d.Writes files d') :
  d.Keeps d'
  := by
  induction h with
  | refl => apply Keeps.refl
  | folder p rest ih => exact (within_ensureFolder _ p).keeps.trans ih
  | file written rest ih => exact (keeps_write written).trans ih

/-- A file holds the last text that has been written at its place, and otherwise what it has
held before. -/
theorem Writes.node?
    (h : d.Writes files d') (hnode : d.node? place = some (.file (.text text))) :
  d'.node? place = some (.file (.text ((d'.lastAt? place files).getD text)))
  := by
  induction h generalizing text with
  | refl => apply hnode
  | folder p rest ih =>
    apply ih
    apply (within_ensureFolder _ p).node place _ hnode
  | file written rest ih =>
    rename_i before after final files p new
    have hkeeps := rest.keeps
    obtain ⟨other, hlocate, hfree, -, hafter⟩ := write_eq_ok_iff.mp written
    have hfinal := hkeeps.locate ((keeps_write written).locate hlocate)
    have hnode' : after.node? place
        = some (.file (.text (if other = place then new else text))) := by
      rw [hafter, node?_insert hfree]
      split
      · rfl
      · apply hnode
    rw [ih hnode', lastAt?_cons, hfinal]
    cases final.lastAt? place files with
    | some last => rfl
    | none =>
      by_cases hplace : other = place
      · simp [hplace, Except.toOption]
      · simp [hplace, Except.toOption]

/-- A text that has been written can be read as long as no other one has been written at the
same place after it, and otherwise the last of these is read. -/
theorem Writes.read
    (h : d.Writes (files ++ (p, text) :: more) d') :
  ∃ place, d'.locate p = .ok place
    ∧ d'.read p = .ok (.text ((d'.lastAt? place more).getD text))
  := by
  generalize hall : files ++ (p, text) :: more = all at h
  induction h generalizing files with
  | refl => simp at hall
  | folder q rest ih => exact ih hall
  | file written rest ih =>
    rename_i before after final others q new
    cases files with
    | cons file files =>
      obtain ⟨-, hall⟩ := List.cons.inj hall
      exact ih hall
    | nil =>
      obtain ⟨⟨⟩, rfl⟩ := List.cons.inj hall
      obtain ⟨place, hlocate, hfree, -, hafter⟩ := write_eq_ok_iff.mp written
      have hfinal := rest.keeps.locate ((keeps_write written).locate hlocate)
      have hnode : after.node? place = some (.file (.text text)) := by
        rw [hafter, node?_insert hfree, if_pos rfl]
      use place, hfinal
      rw [Disk.read, stat, hfinal]
      dsimp only
      rw [rest.node? hnode]

end Rollout.Disk
