import Mathlib.Tactic.Use
import Rollout.Proofs.Identity.Distinct

/-!
# Coordinates and their text forms

A text is read as a coordinate by its first two colons.  So every text with two colons is the
text form of the coordinate that is read from it, and the coordinates that are read are those in
whose projects and types no colon occurs.
-/

namespace Rollout.Coordinate

/-! ### One mark -/

section

variable {mark : Char} {s before after : List Char}

/-- A text is taken apart at its first mark. -/
theorem splitAt?_eq_some_iff :
  splitAt? mark s = some (before, after) ↔ s = before ++ mark :: after ∧ mark ∉ before
  := by
  constructor
  · intro h
    induction s generalizing before with
    | nil => cases h
    | cons c rest ih =>
      rw [splitAt?] at h
      split at h
      · rename_i hmark
        cases h
        exact ⟨by rw [hmark, List.nil_append], List.not_mem_nil⟩
      · rename_i hother
        obtain ⟨⟨inner, outer⟩, hsplit, hparts⟩ := Option.map_eq_some_iff.mp h
        cases hparts
        obtain ⟨hrest, hfree⟩ := ih hsplit
        use by rw [hrest, List.cons_append]
        rw [List.mem_cons, not_or]
        exact ⟨Ne.symm hother, hfree⟩
  · rintro ⟨rfl, hfree⟩
    apply splitAt?_append hfree

/-- Before the first mark there is none, so one mark fewer follows it. -/
theorem count_of_splitAt?
    (h : splitAt? mark s = some (before, after)) :
  s.count mark = after.count mark + 1
  := by
  obtain ⟨rfl, hfree⟩ := splitAt?_eq_some_iff.mp h
  rw [List.count_append, List.count_eq_zero.mpr hfree, List.count_cons_self, Nat.zero_add]

/-- A text that holds a mark is taken apart at it. -/
theorem exists_splitAt?
    (h : 0 < s.count mark) :
  ∃ before after, splitAt? mark s = some (before, after)
  := by
  obtain ⟨before, after, hs, hfree⟩ := List.eq_append_cons_of_mem (List.count_pos_iff.mp h)
  exact ⟨before, after, splitAt?_eq_some_iff.mpr ⟨hs, hfree⟩⟩

end

/-! ### Two colons -/

variable {s : String} {c : Coordinate}

theorem parse?_eq_some_iff_splits :
  parse? s = some c ↔ ∃ rest, splitAt? ':' s.toList = some (c.project.toList, rest)
    ∧ splitAt? ':' rest = some (c.type.toList, c.id.toList)
  := by
  rw [parse?]
  constructor
  · intro h
    obtain ⟨⟨project, rest⟩, hproject, h⟩ := Option.bind_eq_some_iff.mp h
    obtain ⟨⟨type, id⟩, htype, h⟩ := Option.bind_eq_some_iff.mp h
    cases h
    use rest
    simp only [String.toList_ofList]
    exact ⟨hproject, htype⟩
  · rintro ⟨rest, hproject, htype⟩
    rw [hproject, Option.bind_eq_bind, Option.bind_some]
    dsimp only
    rw [htype, Option.bind_some]
    simp only [String.ofList_toList]
    rfl

/-- The coordinate that is read from a text is the one with this text form in whose project and
type no colon occurs. -/
theorem parse?_eq_some_iff :
  parse? s = some c ↔ c.toText = s ∧ ¬ c.IsMarked ':'
  := by
  rw [parse?_eq_some_iff_splits, ← String.toList_inj, toList_toText, joinedBy, IsMarked, not_or]
  constructor
  · rintro ⟨rest, hproject, htype⟩
    obtain ⟨hs, hfree⟩ := splitAt?_eq_some_iff.mp hproject
    obtain ⟨hrest, hfree'⟩ := splitAt?_eq_some_iff.mp htype
    rw [hs, hrest]
    exact ⟨rfl, hfree, hfree'⟩
  · rintro ⟨hs, hfree, hfree'⟩
    rw [← hs]
    exact ⟨_, splitAt?_append hfree _, splitAt?_append hfree' _⟩

/-- A text can be read as a coordinate exactly if it holds two colons. -/
theorem exists_parse?_iff :
  (∃ c, parse? s = some c) ↔ 2 ≤ s.toList.count ':'
  := by
  constructor
  · rintro ⟨c, h⟩
    obtain ⟨rest, hproject, htype⟩ := parse?_eq_some_iff_splits.mp h
    rw [count_of_splitAt? hproject, count_of_splitAt? htype]
    omega
  · intro h
    obtain ⟨project, rest, hproject⟩ := exists_splitAt? (Nat.lt_of_lt_of_le Nat.two_pos h)
    rw [count_of_splitAt? hproject] at h
    obtain ⟨type, id, htype⟩ := exists_splitAt? (Nat.lt_of_succ_le (Nat.le_of_succ_le_succ h))
    use ⟨String.ofList project, String.ofList type, String.ofList id⟩
    apply parse?_eq_some_iff_splits.mpr
    simp only [String.toList_ofList]
    exact ⟨rest, hproject, htype⟩

/-- Exactly the texts with at least two colons are read, and each as a coordinate of which it is
the text form.  A coordinate is read back from its text form exactly if neither its project nor
its type holds a colon. -/
theorem textForm_read_back
    (s : String) (c : Coordinate) :
  (parse? s).map toText = (if 2 ≤ s.toList.count ':' then some s else none)
    ∧ (parse? c.toText = some c ↔ ':' ∉ c.project.toList ∧ ':' ∉ c.type.toList)
  := by
  constructor
  · split
    · rename_i hcolons
      obtain ⟨d, hd⟩ := exists_parse?_iff.mpr hcolons
      rw [hd, Option.map_some, (parse?_eq_some_iff.mp hd).1]
    · rename_i hcolons
      rw [Option.map_eq_none_iff, Option.eq_none_iff_forall_ne_some]
      intro d hd
      exact hcolons (exists_parse?_iff.mp ⟨d, hd⟩)
  · rw [parse?_eq_some_iff, IsMarked, not_or]
    exact and_iff_right rfl

/-- A colon in a project is taken for its end. -/
example :
  parse? (toText ⟨"shop:eu", "tags", "rule"⟩) = some ⟨"shop", "eu", "tags:rule"⟩
  := by decide

end Rollout.Coordinate
