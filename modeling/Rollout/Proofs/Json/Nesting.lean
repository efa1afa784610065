import Rollout.Proofs.Json.LongInteger

/-!
# How deep reading goes

Every array and every object that is entered has an opening bracket of its own in the text, so
reading goes no deeper than there are opening brackets.  With nothing but opening brackets in front
it goes as deep.
-/

namespace Rollout.Json

/-- Whether an array or an object begins with a character. -/
def isOpening (c : Char) : Bool :=
  c == '[' || c == '{'

/-- How many opening brackets there are in a text. -/
def openings (s : List Char) : Nat :=
  s.countP isOpening

theorem openings_le
    {s t : List Char} (h : t <:+ s) :
  openings t ≤ openings s
  := h.sublist.countP_le

/-- After an opening bracket there is one less to come. -/
theorem lt_openings_cons
    {c : Char} (hc : isOpening c = true) {levels : Nat} {rest t : List Char} (ht : t <:+ rest)
    (h : levels < openings t) :
  levels + 1 < openings (c :: rest)
  := by
  have hle := openings_le ht
  rw [openings, List.countP_cons_of_pos hc]
  rw [openings, openings] at hle
  rw [openings] at h
  omega

theorem suffix_of_afterComma?
    {fuel : Nat} {s t : List Char} (h : afterComma? fuel s = some t) :
  t <:+ s
  := by
  have hreads := reads_readValue fuel s
  rw [afterComma?] at h
  split at h
  · cases h
  · rename_i v rest hread
    rw [hread] at hreads
    cases hreads with
    | ok suffix =>
      split at h
      · rename_i hskip
        cases h
        exact ((skipSpace_suffix _).trans (suffix_of_skipSpace hskip)).trans suffix
      · cases h

theorem suffix_of_memberValue?
    {s t : List Char} (h : memberValue? s = some t) :
  t <:+ s
  := by
  rw [memberValue?.eq_def] at h
  split at h
  · cases h
  · rename_i c afterQuote
    split at h
    · have hreads : Reads afterQuote (readString afterQuote) := reads_readPoints _ _ afterQuote
      split at h
      · cases h
      · rename_i points rest hread
        rw [hread] at hreads
        split at h
        · rename_i hskip
          cases h
          cases hreads with
          | ok suffix =>
            apply ((skipSpace_suffix _).trans (suffix_of_skipSpace hskip)).trans
            apply suffix.trans (List.suffix_cons c afterQuote)
        · cases h
    · cases h

mutual

/-- Each array and object that is entered to read a value has an opening bracket. -/
theorem lt_openings_of_valueExceeds :
    ∀ (fuel levels : Nat) (s : List Char), valueExceeds fuel levels s = true →
      levels < openings s
  | 0, _, _, h => by
      rw [valueExceeds] at h
      cases h
  | fuel + 1, levels, s, h => by
      rw [valueExceeds.eq_def] at h
      dsimp only at h
      split at h
      · rw [openings, List.countP_cons_of_pos rfl]
        apply Nat.succ_pos
      · rw [openings, List.countP_cons_of_pos rfl]
        apply Nat.succ_pos
      · rename_i rest levels
        apply lt_openings_cons rfl (skipSpace_suffix rest)
        apply lt_openings_of_itemsExceed fuel levels _ h
      · rename_i rest levels
        apply lt_openings_cons rfl (skipSpace_suffix rest)
        apply lt_openings_of_membersExceed fuel levels _ h
      · cases h

theorem lt_openings_of_itemsExceed :
    ∀ (fuel levels : Nat) (s : List Char), itemsExceed fuel levels s = true → levels < openings s
  | 0, _, _, h => by
      rw [itemsExceed] at h
      cases h
  | fuel + 1, levels, s, h => by
      rw [itemsExceed, Bool.or_eq_true] at h
      rcases h with hvalue | hrest
      · apply lt_openings_of_valueExceeds fuel levels s hvalue
      · obtain ⟨t, ht, hmore⟩ := (Option.any_eq_true _ _).mp hrest
        have hlt := lt_openings_of_itemsExceed fuel levels t hmore
        exact hlt.trans_le (openings_le (suffix_of_afterComma? ht))

theorem lt_openings_of_membersExceed :
    ∀ (fuel levels : Nat) (s : List Char), membersExceed fuel levels s = true →
      levels < openings s
  | 0, _, _, h => by
      rw [membersExceed] at h
      cases h
  | fuel + 1, levels, s, h => by
      rw [membersExceed] at h
      obtain ⟨value, hvalue, h⟩ := (Option.any_eq_true _ _).mp h
      apply lt_of_lt_of_le _ (openings_le (suffix_of_memberValue? hvalue))
      rw [Bool.or_eq_true] at h
      rcases h with hvalue | hrest
      · apply lt_openings_of_valueExceeds fuel levels value hvalue
      · obtain ⟨t, ht, hmore⟩ := (Option.any_eq_true _ _).mp hrest
        have hlt := lt_openings_of_membersExceed fuel levels t hmore
        exact hlt.trans_le (openings_le (suffix_of_afterComma? ht))

end

end Rollout.Json
