import Mathlib.Data.List.TakeWhile
import Rollout.Template.Render

/-!
# Keys

A block stands for a variable or a property if its text is a key, apart from blanks around it
and a mark in front.  Otherwise it stands for nothing, and its text is neither a key nor a key
that is marked as one of a variable.
-/

namespace Rollout.Template

open Rollout.Text

/-! ### The characters of a key -/

theorem mem_dropWhile
    {p : Char → Bool} {c : Char} {s : List Char} (hc : c ∈ s) (hp : p c = false) :
  c ∈ s.dropWhile p
  := by
  rw [← List.takeWhile_append_dropWhile (p := p) (l := s), List.mem_append] at hc
  apply hc.resolve_left
  intro htaken
  rw [List.mem_takeWhile_imp htaken] at hp
  cases hp

/-- Trimming takes blanks away and nothing else. -/
theorem mem_trimChars
    {c : Char} {s : List Char} (hc : c ∈ s) (hblank : isBlank c = false) :
  c ∈ trimChars s
  := by
  rw [trimChars, List.mem_reverse]
  apply mem_dropWhile _ hblank
  rw [List.mem_reverse]
  apply mem_dropWhile hc hblank

theorem mem_dropDot
    {c : Char} {s : List Char} (hc : c ∈ s) (hdot : c ≠ '.') :
  c ∈ dropDot s
  := by
  rw [dropDot.eq_def]
  split
  · exact (List.mem_cons.mp hc).resolve_left hdot
  · apply hc

theorem notMem_of_isKey
    {c : Char} {s : List Char} (h : isKey s = true) (hc : isKeyRest c = false) :
  c ∉ s
  := by
  rw [isKey.eq_def] at h
  split at h
  · cases h
  · rename_i first rest
    rw [Bool.and_eq_true, List.all_eq_true] at h
    intro hmem
    rcases List.mem_cons.mp hmem with rfl | hrest
    · rw [isKeyRest, h.1] at hc
      cases hc
    · rw [h.2 c hrest] at hc
      cases hc

/-- A block that names a property holds no closing brace. -/
theorem notMem_of_ofInner
    {inner : List Char} {key : String} (h : Placeholder.ofInner inner = .property key) :
  '}' ∉ inner
  := by
  intro hmem
  have hbody := mem_dropDot (mem_trimChars hmem (by decide)) (by decide)
  simp only [Placeholder.ofInner] at h
  split at h
  · cases h
  · split at h
    · rename_i hkey
      exact notMem_of_isKey hkey (by decide) hbody
    · cases h

/-! ### What a block stands for -/

/-- The key of a marked variable is what follows the mark, if this is a key. -/
theorem variableKey?_eq_some_iff
    {s key : List Char} :
  variableKey? s = some key ↔ s = 'E' :: 'n' :: 'v' :: '.' :: key ∧ isKey key = true
  := by
  rw [variableKey?.eq_def]
  split
  · rename_i rest
    by_cases hkey : isKey rest = true
    · simp only [hkey, if_true, Option.some_inj, List.cons.injEq, true_and]
      grind
    · simp only [hkey]
      grind
  · rename_i hnot
    constructor
    · intro h
      cases h
    · rintro ⟨rfl, -⟩
      exact absurd rfl (hnot key)

/-- What a block may stand for. -/
inductive Placeholder.IsProper : Placeholder → Prop where
  | variable {key : String} (is_key : isKey key.toList = true) : IsProper (.variable key)
  | property {key : String} (is_key : isKey key.toList = true) : IsProper (.property key)
  | unsupported {inner : String} (not_key : isKey (trim inner).toList = false)
      (not_marked : variableKey? (trim inner).toList = none) : IsProper (.unsupported inner)

theorem dropDot_cases
    (s : List Char) :
  dropDot s = s ∨ ∃ rest, s = '.' :: rest
  := by
  rw [dropDot.eq_def]
  split
  · exact .inr ⟨_, rfl⟩
  · exact .inl rfl

/-- A text that is neither a key nor a marked key without its leading dot is none with it. -/
theorem not_key_of_dropDot
    {s : List Char} (hmarked : variableKey? (dropDot s) = none) (hkey : isKey (dropDot s) = false) :
  isKey s = false ∧ variableKey? s = none
  := by
  rcases dropDot_cases s with heq | ⟨rest, rfl⟩
  · rw [heq] at hmarked hkey
    exact ⟨hkey, hmarked⟩
  · exact ⟨rfl, rfl⟩

theorem isProper_ofInner
    (inner : List Char) :
  (Placeholder.ofInner inner).IsProper
  := by
  simp only [Placeholder.ofInner]
  split
  · rename_i key hkey
    apply Placeholder.IsProper.variable
    rw [String.toList_ofList]
    exact (variableKey?_eq_some_iff.mp hkey).2
  · rename_i hmarked
    split
    · rename_i hkey
      apply Placeholder.IsProper.property
      rw [String.toList_ofList]
      apply hkey
    · rename_i hkey
      obtain ⟨hnotKey, hnotMarked⟩ := not_key_of_dropDot hmarked (Bool.eq_false_iff.mpr hkey)
      apply Placeholder.IsProper.unsupported
      · rw [trim, String.toList_ofList, String.toList_ofList]
        apply hnotKey
      · rw [trim, String.toList_ofList, String.toList_ofList]
        apply hnotMarked

end Rollout.Template
