import Mathlib.Data.List.Infix
import Mathlib.Data.List.TakeWhile
import Mathlib.Tactic.Use
import Rollout.Json.Reader

/-!
# Where reading stops for an integer

Reading a JSON text consumes it from the front, so whatever is read at some point is a part
of the whole text.  Hence the reading stops for an integer with too many digits only if so
many digits stand in a row somewhere in the text.
-/

namespace Rollout.Json

open Rollout.Text

/-- More digits stand in a row than an integer may have. -/
def HasLongRun (s : List Char) : Prop :=
  ∃ digits, digits <:+: s ∧ (∀ c ∈ digits, isDigit c = true) ∧ integerDigitLimit < digits.length

theorem HasLongRun.of_suffix
    {s t : List Char} (hts : t <:+ s) (h : HasLongRun t) :
  HasLongRun s
  := by
  obtain ⟨digits, hinfix, hdigits⟩ := h
  exact ⟨digits, hinfix.trans hts.isInfix, hdigits⟩

/-- What comes of reading from the front of a text: something and what is left of the text,
or a stop, which is for an integer only if the text has the digits for it. -/
inductive Reads {α : Type} (s : List Char) : Except Stop (α × List Char) → Prop where
  | ok {a : α} {rest : List Char} (suffix : rest <:+ s) : Reads s (.ok (a, rest))
  | malformed {reason : Reason} {left : Nat} : Reads s (.error (.malformed reason left))
  | longInteger (long : HasLongRun s) : Reads s (.error .longInteger)

namespace Reads

variable {α β : Type} {s t : List Char}

theorem of_suffix
    {x : Except Stop (α × List Char)} (hts : t <:+ s) (h : Reads t x) :
  Reads s x
  := by
  cases h with
  | ok suffix => exact .ok (suffix.trans hts)
  | malformed => exact .malformed
  | longInteger long => exact .longInteger (long.of_suffix hts)

theorem bind
    {x : Except Stop (α × List Char)} {f : α × List Char → Except Stop (β × List Char)}
    (h : Reads s x) (hf : ∀ a rest, rest <:+ s → Reads rest (f (a, rest))) :
  Reads s (x >>= f)
  := by
  cases h with
  | ok suffix => exact (hf _ _ suffix).of_suffix suffix
  | malformed => exact .malformed
  | longInteger long => exact .longInteger long

end Reads

theorem skipSpace_suffix
    (s : List Char) :
  skipSpace s <:+ s
  := List.dropWhile_suffix _

theorem suffix_of_skipSpace
    {s rest : List Char} {c : Char} (h : skipSpace s = c :: rest) :
  rest <:+ s
  := by
  apply (List.suffix_cons c rest).trans
  rw [← h]
  apply skipSpace_suffix

/-! ### Strings -/

theorem fourHex?_suffix
    {s rest : List Char} {n : Nat} (h : fourHex? s = some (n, rest)) :
  rest <:+ s
  := by
  rw [fourHex?.eq_def] at h
  split at h
  · rename_i a b c d e rest'
    split at h
    · cases h
      exact ⟨[a, b, c, d], rfl⟩
    · cases h
  · cases h

theorem reads_readNumberEscape
    (mark : List Char) :
  Reads mark (readNumberEscape mark)
  := by
  rw [readNumberEscape]
  split
  · exact .malformed
  · rename_i high rest hhigh
    have hrest : rest <:+ mark := (fourHex?_suffix hhigh).trans (List.drop_suffix _ _)
    split
    · rename_i b u second _
      split
      · split
        · exact .malformed
        · rename_i low rest' hlow
          split
          · have hsecond : second <:+ b :: u :: second := ⟨[b, u], rfl⟩
            exact .ok (((fourHex?_suffix hlow).trans hsecond).trans hrest)
          · exact .ok hrest
      · exact .ok hrest
    · exact .ok hrest

theorem reads_readEscape
    (opening : Nat) (s : List Char) :
  Reads s (readEscape opening s)
  := by
  rw [readEscape.eq_def]
  split
  · exact .malformed
  · split
    · apply reads_readNumberEscape
    · split
      · exact .ok (List.suffix_cons _ _)
      · exact .malformed

theorem reads_readPoints
    (opening fuel : Nat) (s : List Char) :
  Reads s (readPoints opening fuel s)
  := by
  induction fuel generalizing s with
  | zero => exact .malformed
  | succ fuel ih =>
    cases s with
    | nil => exact .malformed
    | cons c rest =>
      have hrest := List.suffix_cons c rest
      rw [readPoints]
      split
      · exact .ok hrest
      · split
        · apply Reads.of_suffix hrest
          apply (reads_readEscape opening rest).bind
          intro n rest _
          apply (ih rest).bind
          intro ns rest _
          exact .ok (List.suffix_refl _)
        · split
          · exact .malformed
          · apply Reads.of_suffix hrest
            apply (ih rest).bind
            intro ns rest _
            exact .ok (List.suffix_refl _)

/-! ### Numbers -/

/-- The whole part of a number is what it is read from, all digits. -/
theorem wholeDigits_spec
    (s : List Char) :
  (wholeDigits s).1 ++ (wholeDigits s).2 = s ∧ ∀ c ∈ (wholeDigits s).1, isDigit c = true
  := by
  rw [wholeDigits.eq_def]
  split
  · simp
  · split
    · rename_i hzero
      rw [beq_iff_eq] at hzero
      subst hzero
      use rfl
      intro c hc
      obtain rfl := List.mem_singleton.mp hc
      rfl
    · use List.takeWhile_append_dropWhile
      intro c hc
      apply List.mem_takeWhile_imp hc

theorem fractionDigits_suffix
    (s : List Char) :
  (fractionDigits s).2 <:+ s
  := by
  rw [fractionDigits.eq_def]
  split
  · rename_i rest
    dsimp only
    split
    · exact List.suffix_refl _
    · exact (List.dropWhile_suffix _).trans (List.suffix_cons _ _)
  · exact List.suffix_refl _

theorem splitSign_suffix
    (s : List Char) :
  (Binary64.splitSign s).2 <:+ s
  := by
  rw [Binary64.splitSign.eq_def]
  split
  · exact List.suffix_cons _ _
  · exact List.suffix_cons _ _
  · exact List.suffix_refl _

theorem exponentDigits_suffix
    (s : List Char) :
  (exponentDigits s).2 <:+ s
  := by
  rw [exponentDigits.eq_def]
  split
  · exact List.suffix_refl _
  · rename_i c rest
    split
    · dsimp only
      split
      · exact List.suffix_refl _
      · apply (List.dropWhile_suffix _).trans
        exact (splitSign_suffix rest).trans (List.suffix_cons _ _)
    · exact List.suffix_refl _

theorem reads_readNumber
    (s : List Char) :
  Reads s (readNumber s)
  := by
  rw [readNumber.eq_def]
  split
  rename_i negative unsigned hsign
  have hunsigned : unsigned <:+ s := by
    split at hsign
    · cases hsign
      apply List.suffix_cons
    · cases hsign
      apply List.suffix_refl
  obtain ⟨happend, hdigits⟩ := wholeDigits_spec unsigned
  split
  rename_i whole afterWhole hwhole
  rw [hwhole] at happend hdigits
  split
  · exact .malformed
  · split
    rename_i fraction afterFraction hfraction
    split
    rename_i exponent rest hexponent
    have hrest : rest <:+ s := by
      have hexponent := congrArg Prod.snd hexponent ▸ exponentDigits_suffix afterFraction
      have hfraction := congrArg Prod.snd hfraction ▸ fractionDigits_suffix afterWhole
      have hafter : afterWhole <:+ unsigned := ⟨whole, happend⟩
      exact hexponent.trans (hfraction.trans (hafter.trans hunsigned))
    split
    · split
      -- The only place at which an integer stops the reading: its digits are the long run.
      · rename_i hlong
        apply Reads.longInteger
        have hinfix : whole <:+: unsigned := ⟨[], afterWhole, happend⟩
        exact ⟨whole, hinfix.trans hunsigned.isInfix, hdigits, hlong⟩
      · exact .ok hrest
    · exact .ok hrest

theorem literal?_suffix
    {s rest : List Char} {v : Json} (h : literal? s = some (v, rest)) :
  rest <:+ s
  := by
  obtain ⟨⟨word, v'⟩, -, hword⟩ := List.exists_of_findSome?_eq_some h
  dsimp only at hword
  split at hword
  · cases hword
    apply List.drop_suffix
  · cases hword

/-! ### Values -/

mutual

theorem reads_readValue :
    ∀ (fuel : Nat) (s : List Char), Reads s (readValue fuel s)
  | 0, s => by
      rw [readValue]
      exact .malformed
  | fuel + 1, [] => by
      rw [readValue]
      exact .malformed
  | fuel + 1, c :: rest => by
      have hrest := List.suffix_cons c rest
      have hinner := (skipSpace_suffix rest).trans hrest
      rw [readValue]
      split
      · apply Reads.of_suffix hrest
        apply (reads_readPoints _ _ rest).bind
        intro points rest _
        exact .ok (List.suffix_refl _)
      · split
        · split
          · rename_i hskip
            exact .ok ((suffix_of_skipSpace hskip).trans hrest)
          · apply Reads.of_suffix hinner
            apply (reads_readItems fuel _).bind
            intro items rest _
            exact .ok (List.suffix_refl _)
        · split
          · split
            · rename_i hskip
              exact .ok ((suffix_of_skipSpace hskip).trans hrest)
            · apply Reads.of_suffix hinner
              apply (reads_readMembers fuel _).bind
              intro members rest _
              exact .ok (List.suffix_refl _)
          · split
            · rename_i hliteral
              exact .ok (literal?_suffix hliteral)
            · apply reads_readNumber

theorem reads_readItems :
    ∀ (fuel : Nat) (s : List Char), Reads s (readItems fuel s)
  | 0, s => by
      rw [readItems]
      exact .malformed
  | fuel + 1, s => by
      rw [readItems]
      apply (reads_readValue fuel s).bind
      intro v rest _
      dsimp only
      split
      · rename_i hskip
        exact .ok (suffix_of_skipSpace hskip)
      · rename_i hskip
        apply Reads.of_suffix ((skipSpace_suffix _).trans (suffix_of_skipSpace hskip))
        apply (reads_readItems fuel _).bind
        intro vs rest _
        exact .ok (List.suffix_refl _)
      · exact .malformed

theorem reads_readMembers :
    ∀ (fuel : Nat) (s : List Char), Reads s (readMembers fuel s)
  | 0, s => by
      rw [readMembers]
      exact .malformed
  | fuel + 1, [] => by
      rw [readMembers]
      exact .malformed
  | fuel + 1, c :: rest => by
      rw [readMembers]
      split
      · apply Reads.of_suffix (List.suffix_cons c rest)
        apply (reads_readPoints _ _ rest).bind
        intro k rest _
        dsimp only
        split
        · rename_i hskip
          apply Reads.of_suffix ((skipSpace_suffix _).trans (suffix_of_skipSpace hskip))
          apply (reads_readValue fuel _).bind
          intro v rest _
          dsimp only
          split
          · rename_i hskip
            exact .ok (suffix_of_skipSpace hskip)
          · rename_i hskip
            apply Reads.of_suffix ((skipSpace_suffix _).trans (suffix_of_skipSpace hskip))
            apply (reads_readMembers fuel _).bind
            intro more rest _
            exact .ok (List.suffix_refl _)
          · exact .malformed
        · exact .malformed
      · exact .malformed

end

theorem ne_of_isDigit
    {c d : Char} (hc : isDigit c = true) (hd : isDigit d = false) :
  c ≠ d
  := by
  rintro rfl
  rw [hc] at hd
  cases hd

/-- No literal begins with a digit. -/
theorem literal?_of_isDigit
    {c : Char} (hc : isDigit c = true) (rest : List Char) :
  literal? (c :: rest) = none
  := by
  have hheads : ∀ e ∈ literals, e.1.head?.map isDigit = some false := by decide
  rw [literal?, List.findSome?_eq_none_iff]
  rintro ⟨word, v⟩ hmem
  obtain ⟨d, hd, hdigit⟩ := Option.map_eq_some_iff.mp (hheads _ hmem)
  obtain ⟨word', rfl⟩ := List.head?_eq_some_iff.mp hd
  simp [(ne_of_isDigit hc hdigit).symm]

end Rollout.Json
