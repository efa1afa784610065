import Mathlib.Tactic.Use
import Rollout.Stub

/-!
# Paths that no file can have

A path that is read from a text is one that no file can have exactly if the text holds the
character that no path may hold, and so is a path that is built from it.
-/

namespace Rollout

/-- A text holds the character that no path may hold. -/
def HoldsNul (s : String) : Prop :=
  '\x00' ∈ s.toList

instance : DecidablePred HoldsNul :=
  fun _ => inferInstanceAs (Decidable (_ ∈ _))

namespace Path

/-- To take a text apart at its slashes loses no other character. -/
theorem flatten_splitSlashes
    (s : List Char) :
  (splitSlashes s).flatten = s.filter (· ≠ '/')
  := by
  induction s with
  | nil => rfl
  | cons first rest ih =>
    rw [splitSlashes, List.filter_cons, ← ih]
    split
    · rename_i hslash
      simp [hslash]
    · rename_i hother
      cases splitSlashes rest with
      | nil => simp [hother]
      | cons piece more => simp [hother]

theorem exists_mem_splitSlashes_iff
    {c : Char} (h : c ≠ '/') {s : List Char} :
  (∃ piece ∈ splitSlashes s, c ∈ piece) ↔ c ∈ s
  := by
  rw [← List.mem_flatten, flatten_splitSlashes, List.mem_filter]
  simp [h]

/-- A path keeps all characters of its text, in order, that are of a kind that neither slashes
nor dots are of. -/
theorem filter_ofText
    {p : Char → Bool} (hslash : p '/' = false) (hdot : p '.' = false) (s : String) :
  ((ofText s).parts.flatMap String.toList).filter p = s.toList.filter p
  := by
  have hchars : s.toList.filter p = (splitSlashes s.toList).flatten.filter p := by
    rw [flatten_splitSlashes, List.filter_filter]
    apply List.filter_congr
    intro c _
    by_cases hc : c = '/'
    · simp [hc, hslash]
    · simp [hc]
  rw [hchars, ofText]
  -- The pieces that are left out hold no such character.
  generalize splitSlashes s.toList = pieces
  induction pieces with
  | nil => rfl
  | cons piece rest ih =>
    rw [List.map_cons, List.flatten_cons, List.filter_append, ← ih, List.filter_cons]
    split
    · rw [List.flatMap_cons, List.filter_append, String.toList_ofList]
    · rename_i hout
      simp only [ne_eq, decide_not, Bool.and_eq_true, Bool.not_eq_eq_eq_not, Bool.not_true,
        decide_eq_false_iff_not, not_and, Classical.not_not] at hout
      have hnone : piece.filter p = [] := by
        by_cases hempty : String.ofList piece = ""
        · rw [← String.toList_inj, String.toList_ofList] at hempty
          rw [hempty]
          rfl
        · have honly := hout hempty
          rw [← String.toList_inj, String.toList_ofList] at honly
          rw [honly]
          simp [hdot]
      rw [hnone, List.nil_append]

theorem hasNul_ofText_iff
    {s : String} :
  (ofText s).hasNul = true ↔ HoldsNul s
  := by
  rw [HoldsNul, ← exists_mem_splitSlashes_iff (by decide), hasNul, ofText]
  -- No name is left out of the path that holds the character.
  have hkept : ∀ piece : List Char, '\x00' ∈ piece →
      String.ofList piece ≠ "" ∧ String.ofList piece ≠ "." := by
    intro piece hpiece
    constructor
    · intro h
      rw [← String.toList_inj, String.toList_ofList] at h
      rw [h] at hpiece
      cases hpiece
    · intro h
      rw [← String.toList_inj, String.toList_ofList] at h
      rw [h] at hpiece
      revert hpiece
      decide
  simp only [List.any_filter, List.any_map, List.any_eq_true]
  constructor
  · rintro ⟨piece, hpiece, h⟩
    use piece, hpiece
    simpa using (Bool.and_eq_true_iff.mp h).2
  · rintro ⟨piece, hpiece, h⟩
    use piece, hpiece
    simpa [h] using hkept piece h

/-- What is seen from a folder has a path that no file can have if it has one of its own. -/
theorem hasNul_join
    {folder p : Path} (h : folder.hasNul = false) :
  (folder.join p).hasNul = p.hasNul
  := by
  rw [join]
  split
  · rfl
  · rw [hasNul] at h ⊢
    rw [List.any_append, h, Bool.false_or, hasNul]

end Path

namespace Recorder

variable {folder : Path} {type id : String}

theorem hasNul_typePath_iff
    (h : folder.hasNul = false) :
  (typePath folder type).hasNul = true ↔ HoldsNul type
  := by
  rw [typePath, Path.hasNul_join h, Path.hasNul_ofText_iff]
  simp [HoldsNul]

theorem hasNul_payloadPath_iff
    (h : folder.hasNul = false) :
  (payloadPath folder type id).hasNul = true ↔ HoldsNul type ∨ HoldsNul id
  := by
  rw [payloadPath, Path.hasNul_join h, Path.hasNul_ofText_iff]
  simp [HoldsNul]

end Recorder

end Rollout
