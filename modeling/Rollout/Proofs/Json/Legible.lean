import Mathlib.Data.Nat.Digits.Defs
import Rollout.Proofs.Json.LongInteger
import Rollout.Proofs.Json.StringBody

/-!
# Reading what is written

A JSON value is legible if its strings are texts, its integers are short enough, no key of its
objects is repeated, and it holds no other numbers.  A legible value is read back from what is
written for it, wherever that stands: what follows may be anything that does not go on a number.
-/

namespace Rollout.Json

open Rollout.Text

/-- Whether a code point is that of a character. -/
def isCharacter (n : Nat) : Bool :=
  n < 0x110000 && !isSurrogate n

mutual

/-- Whether a value is read back as it is written. -/
def isLegible : Json → Bool
  | .null => true
  | .bool _ => true
  | .int n => !isLong n
  | .float _ => false
  | .text points => points.all isCharacter
  | .array items => isLegible.items items
  | .object members => decide (members.map Prod.fst).Nodup && isLegible.members members

/-- Whether the items of an array are read back as they are written. -/
def isLegible.items : List Json → Bool
  | [] => true
  | x :: rest => isLegible x && isLegible.items rest

/-- Whether the members of an object are read back as they are written. -/
def isLegible.members : List (List Nat × Json) → Bool
  | [] => true
  | (k, x) :: rest => k.all isCharacter && isLegible x && isLegible.members rest

end

/-- The code points of a text are those of its characters. -/
theorem all_isCharacter_points
    (s : String) :
  (points s).all isCharacter = true
  := by
  rw [points, List.all_eq_true]
  intro n hn
  obtain ⟨c, -, rfl⟩ := List.mem_map.mp hn
  obtain ⟨hlt, hsingle⟩ := toNat_bounds c
  simp [isCharacter, hlt, hsingle]

/-- A code point of a character is the number of the character. -/
theorem toNat_ofNat_of_isCharacter
    {n : Nat} (h : isCharacter n = true) :
  (Char.ofNat n).toNat = n
  := by
  have hvalid : n.isValidChar := by
    simp only [isCharacter, isSurrogate, Bool.and_eq_true, decide_eq_true_eq, Bool.not_eq_true',
      Bool.and_eq_false_iff, decide_eq_false_iff_not] at h
    rw [Nat.isValidChar]
    omega
  rw [Char.ofNat, dif_pos hvalid]
  rfl

mutual

/-- A legible value holds no integer that is too long. -/
theorem hasLongInteger_of_isLegible :
    ∀ x : Json, x.isLegible = true → x.hasLongInteger = false
  | .null => fun _ => by simp only [hasLongInteger]
  | .bool _ => fun _ => by simp only [hasLongInteger]
  | .int _ => by
      intro h
      rw [isLegible, Bool.not_eq_true'] at h
      rw [hasLongInteger, h]
  | .float _ => fun _ => by simp only [hasLongInteger]
  | .text _ => fun _ => by simp only [hasLongInteger]
  | .array items => by
      intro h
      rw [isLegible] at h
      rw [hasLongInteger]
      exact hasLongInteger_items items h
  | .object members => by
      intro h
      rw [isLegible, Bool.and_eq_true] at h
      rw [hasLongInteger]
      exact hasLongInteger_members members h.2

theorem hasLongInteger_items :
    ∀ items : List Json, isLegible.items items = true → hasLongInteger.items items = false
  | [] => fun _ => rfl
  | x :: items => by
      intro h
      rw [isLegible.items, Bool.and_eq_true] at h
      rw [hasLongInteger.items, hasLongInteger_of_isLegible x h.1, hasLongInteger_items items h.2]
      rfl

theorem hasLongInteger_members :
    ∀ members : List (List Nat × Json), isLegible.members members = true →
      hasLongInteger.members members = false
  | [] => fun _ => rfl
  | (_, x) :: members => by
      intro h
      rw [isLegible.members, Bool.and_eq_true, Bool.and_eq_true] at h
      rw [hasLongInteger.members, hasLongInteger_of_isLegible x h.1.2,
        hasLongInteger_members members h.2]
      rfl

end

/-! ### Strings -/

/-- What is written for the characters of a text is read as their code points. -/
theorem readString_stringBody
    {points : List Nat} (h : points.all isCharacter = true) (rest : List Char) :
  readString (stringBody .verbatim points ++ doubleQuote :: rest) = .ok (points, rest)
  := by
  have hpoints : (points.map Char.ofNat).map Char.toNat = points := by
    rw [List.map_map]
    conv_rhs => rw [← List.map_id points]
    apply List.map_congr_left
    intro n hn
    apply toNat_ofNat_of_isCharacter (List.all_eq_true.mp h n hn)
  have hspells := spells_stringBody .verbatim (points.map Char.ofNat)
  rw [hpoints] at hspells
  apply readPoints_of_spells hspells
  rw [List.length_append]
  omega

/-! ### Integers -/

/-- A text does not go on a number in front of it. -/
def EndsNumber (rest : List Char) : Prop :=
  ∀ c, rest.head? = some c → isDigit c = false ∧ c ≠ '.' ∧ c ≠ 'e' ∧ c ≠ 'E'

theorem endsNumber_cons
    {c : Char} (h : isDigit c = false ∧ c ≠ '.' ∧ c ≠ 'e' ∧ c ≠ 'E') (rest : List Char) :
  EndsNumber (c :: rest)
  := by
  rintro c' ⟨⟩
  apply h

theorem isDigit_of_mem_toDigits
    {n : Nat} {c : Char} (h : c ∈ Nat.toDigits 10 n) :
  isDigit c = true
  := by
  have hdigit := Nat.isDigit_of_mem_toDigits (by decide) (by decide) h
  rw [Char.isDigit, Bool.and_eq_true, decide_eq_true_eq, decide_eq_true_eq] at hdigit
  rw [isDigit, Bool.and_eq_true, decide_eq_true_eq, decide_eq_true_eq]
  exact hdigit

/-- A number is written with a digit in front. -/
theorem toDigits_eq_cons
    (n : Nat) :
  ∃ c digits, Nat.toDigits 10 n = c :: digits ∧ isDigit c = true
  := by
  obtain ⟨c, digits, hcons⟩ := List.exists_cons_of_ne_nil (Nat.toDigits_ne_nil (n := n) (b := 10))
  refine ⟨c, digits, hcons, ?_⟩
  apply isDigit_of_mem_toDigits (n := n)
  rw [hcons]
  apply List.mem_cons_self

theorem decimalValue_toDigits
    (n : Nat) :
  decimalValue (Nat.toDigits 10 n) = n
  := Nat.ofDigitChars_toDigits (by decide) (by decide)

/-- An integer is not too long if its digits are not too many. -/
theorem isLong_eq_false_iff
    {n : Int} :
  isLong n = false ↔ (Nat.toDigits 10 n.natAbs).length ≤ integerDigitLimit
  := by
  have hpositive : 0 < integerDigitLimit := by decide
  rw [isLong, decide_eq_false_iff_not, Nat.not_le]
  generalize integerDigitLimit = limit at hpositive
  exact (Nat.length_toDigits_le_iff (by decide) hpositive).symm

/-- Only zero is written with a zero in front. -/
theorem head?_toDigits
    {n : Nat} (hn : n ≠ 0) :
  (Nat.toDigits 10 n).head? ≠ some '0'
  := by
  induction n using Nat.strongRecOn with
  | ind n ih =>
    rw [Nat.toDigits_eq_if (by decide)]
    split
    · rename_i hlt
      have hall : ∀ d < 10, d ≠ 0 → Nat.digitChar d ≠ '0' := by decide
      simpa using hall n hlt hn
    · rename_i hge
      rw [List.head?_append_of_ne_nil _ Nat.toDigits_ne_nil]
      apply ih
      · omega
      · omega

/-- All digits of a number are read, and nothing else. -/
theorem wholeDigits_toDigits
    (n : Nat) {rest : List Char} (hrest : EndsNumber rest) :
  wholeDigits (Nat.toDigits 10 n ++ rest) = (Nat.toDigits 10 n, rest)
  := by
  rcases Nat.eq_zero_or_pos n with rfl | hpos
  · rfl
  · have hstop : rest.takeWhile isDigit = [] ∧ rest.dropWhile isDigit = rest := by
      cases rest with
      | nil => exact ⟨rfl, rfl⟩
      | cons c rest => simp [(hrest c rfl).1]
    have hdigits : ∀ c ∈ Nat.toDigits 10 n, isDigit c = true := fun _ => isDigit_of_mem_toDigits
    obtain ⟨c, digits, hcons, -⟩ := toDigits_eq_cons n
    have hzero := head?_toDigits (Nat.ne_of_gt hpos)
    rw [hcons] at hdigits hzero ⊢
    rw [List.cons_append, wholeDigits, if_neg (by simpa using hzero), ← List.cons_append,
      List.takeWhile_append_of_pos hdigits, List.dropWhile_append_of_pos hdigits, hstop.1,
      hstop.2, List.append_nil]

theorem fractionDigits_of_endsNumber
    {rest : List Char} (h : EndsNumber rest) :
  fractionDigits rest = ([], rest)
  := by
  rw [fractionDigits.eq_def]
  split
  · exact absurd rfl (h '.' rfl).2.1
  · rfl

theorem exponentDigits_of_endsNumber
    {rest : List Char} (h : EndsNumber rest) :
  exponentDigits rest = (none, rest)
  := by
  cases rest with
  | nil => rfl
  | cons c rest =>
    obtain ⟨-, -, he, hE⟩ := h c rfl
    simp [exponentDigits, he, hE]

/-- An integer that is not too long is read from its sign and its digits. -/
theorem readNumber_integerText
    {n : Int} (hn : isLong n = false) {rest : List Char} (hrest : EndsNumber rest) :
  readNumber (integerText n ++ rest) = .ok (.int n, rest)
  := by
  have hlength : ¬ integerDigitLimit < (Nat.toDigits 10 n.natAbs).length :=
    Nat.not_lt.mpr (isLong_eq_false_iff.mp hn)
  have hnil : (Nat.toDigits 10 n.natAbs).isEmpty = false := by
    simp
  have hwhole := wholeDigits_toDigits n.natAbs hrest
  rw [readNumber.eq_def]
  split
  rename_i negative unsigned hsign
  cases n with
  | ofNat n =>
    simp only [integerText] at hsign
    split at hsign
    · rename_i heq
      obtain ⟨c, digits, hcons, hc⟩ := toDigits_eq_cons n
      rw [hcons, List.cons_append] at heq
      rw [(List.cons.inj heq).1] at hc
      exact absurd hc (by decide)
    · cases hsign
      simp only [Int.ofNat_eq_natCast, Int.natAbs_natCast] at hwhole hnil hlength
      simp only [hwhole, hnil, fractionDigits_of_endsNumber hrest,
        exponentDigits_of_endsNumber hrest, decimalValue_toDigits, hlength]
      rfl
  | negSucc n =>
    simp only [integerText, List.cons_append] at hsign
    cases hsign
    simp only [Int.natAbs_negSucc, Nat.succ_eq_add_one] at hwhole hnil hlength
    simp only [hwhole, hnil, fractionDigits_of_endsNumber hrest,
      exponentDigits_of_endsNumber hrest, decimalValue_toDigits, hlength]
    rfl

/-! ### The front of a value -/

/-- Whether a legible value may begin with a character. -/
def opensValue (c : Char) : Bool :=
  isDigit c || c ∈ [doubleQuote, '[', '{', '-', 'n', 't', 'f']

/-- A text begins as a legible value does. -/
def Opens (s : List Char) : Prop :=
  ∃ c rest, s = c :: rest ∧ opensValue c = true

theorem Opens.append
    {s : List Char} (h : Opens s) (rest : List Char) :
  Opens (s ++ rest)
  := by
  obtain ⟨c, s, rfl, hc⟩ := h
  exact ⟨c, s ++ rest, rfl, hc⟩

theorem opens_render
    {x : Json} (h : x.isLegible = true) :
  Opens (render x)
  := by
  cases x with
  | null | text => exact ⟨_, _, rfl, rfl⟩
  | bool b => cases b <;> exact ⟨_, _, rfl, rfl⟩
  | float => cases h
  | array items => cases items <;> exact ⟨_, _, rfl, rfl⟩
  | object members => cases members <;> exact ⟨_, _, rfl, rfl⟩
  | int n =>
    cases n with
    | negSucc n => exact ⟨_, _, rfl, rfl⟩
    | ofNat n =>
      obtain ⟨c, digits, hcons, hc⟩ := toDigits_eq_cons n
      refine ⟨c, digits, hcons, ?_⟩
      rw [opensValue, hc, Bool.true_or]

/-- A character with which no legible value begins does not stand in front of one. -/
theorem Opens.head?_ne
    {s : List Char} (h : Opens s) {d : Char} (hd : opensValue d = false) :
  s.head? ≠ some d
  := by
  obtain ⟨c, s, rfl, hc⟩ := h
  rintro ⟨⟩
  rw [hc] at hd
  cases hd

/-- There is no white space in front of a value. -/
theorem Opens.skipSpace_eq
    {s : List Char} (h : Opens s) :
  skipSpace s = s
  := by
  have hspace : ∀ d, isSpace d = true → opensValue d = false := by
    intro d hd
    simp only [isSpace, Bool.or_eq_true, beq_iff_eq] at hd
    rcases hd with ((rfl | rfl) | rfl) | rfl <;> decide
  obtain ⟨c, s, rfl, hc⟩ := h
  rw [skipSpace, List.dropWhile_cons_of_neg]
  intro hd
  rw [hspace c hd] at hc
  cases hc

/-! ### One step of the reader -/

section

variable {fuel : Nat} {s t rest : List Char} {x : Json}

theorem readValue_string
    {points : List Nat} (h : readString s = .ok (points, rest)) :
  readValue (fuel + 1) (doubleQuote :: s) = .ok (.text points, rest)
  := by
  rw [readValue, if_pos (by decide), h]
  rfl

theorem readValue_emptyArray :
  readValue (fuel + 1) ('[' :: ']' :: rest) = .ok (.array [], rest)
  := by
  rw [readValue, if_neg (by decide), if_pos (by decide)]
  rfl

theorem readValue_array
    (hs : Opens s) {items : List Json} (h : readItems fuel s = .ok (items, rest)) :
  readValue (fuel + 1) ('[' :: s) = .ok (.array items, rest)
  := by
  rw [readValue, if_neg (by decide), if_pos (by decide), hs.skipSpace_eq]
  split
  · exact absurd rfl (hs.head?_ne (by decide))
  · rw [h]
    rfl

theorem readValue_emptyObject :
  readValue (fuel + 1) ('{' :: '}' :: rest) = .ok (.object [], rest)
  := by
  rw [readValue, if_neg (by decide), if_neg (by decide), if_pos (by decide)]
  rfl

theorem readValue_object
    (hs : Opens s) {members : List (List Nat × Json)}
    (h : readMembers fuel s = .ok (members, rest)) :
  readValue (fuel + 1) ('{' :: s) = .ok (ofMembers members, rest)
  := by
  rw [readValue, if_neg (by decide), if_neg (by decide), if_pos (by decide), hs.skipSpace_eq]
  split
  · exact absurd rfl (hs.head?_ne (by decide))
  · rw [h]
    rfl

theorem readItems_last
    (h : readValue fuel s = .ok (x, ']' :: rest)) :
  readItems (fuel + 1) s = .ok ([x], rest)
  := by
  rw [readItems, h]
  rfl

theorem readItems_more
    (h : readValue fuel s = .ok (x, ',' :: ' ' :: t)) (ht : Opens t) {items : List Json}
    (hitems : readItems fuel t = .ok (items, rest)) :
  readItems (fuel + 1) s = .ok (x :: items, rest)
  := by
  have hspace : skipSpace (' ' :: t) = t := ht.skipSpace_eq
  rw [readItems, h]
  change (readItems fuel (skipSpace (' ' :: t)) >>= _) = _
  rw [hspace, hitems]
  rfl

theorem readMembers_last
    {k : List Nat} (hk : readString s = .ok (k, ':' :: ' ' :: t)) (ht : Opens t)
    (h : readValue fuel t = .ok (x, '}' :: rest)) :
  readMembers (fuel + 1) (doubleQuote :: s) = .ok ([(k, x)], rest)
  := by
  have hspace : skipSpace (' ' :: t) = t := ht.skipSpace_eq
  rw [readMembers, if_pos (by decide), hk]
  change (readValue fuel (skipSpace (' ' :: t)) >>= _) = _
  rw [hspace, h]
  rfl

theorem readMembers_more
    {k : List Nat} (hk : readString s = .ok (k, ':' :: ' ' :: t)) (ht : Opens t)
    {u : List Char} (h : readValue fuel t = .ok (x, ',' :: ' ' :: u)) (hu : Opens u)
    {members : List (List Nat × Json)} (hmembers : readMembers fuel u = .ok (members, rest)) :
  readMembers (fuel + 1) (doubleQuote :: s) = .ok ((k, x) :: members, rest)
  := by
  have hspace : skipSpace (' ' :: t) = t := ht.skipSpace_eq
  have hspace' : skipSpace (' ' :: u) = u := hu.skipSpace_eq
  rw [readMembers, if_pos (by decide), hk]
  change (readValue fuel (skipSpace (' ' :: t)) >>= _) = _
  rw [hspace, h]
  change (readMembers fuel (skipSpace (' ' :: u)) >>= _) = _
  rw [hspace', hmembers]
  rfl

/-- No literal begins with a sign and a digit. -/
theorem literal?_of_sign
    {c : Char} (hc : isDigit c = true) (s : List Char) :
  literal? ('-' :: c :: s) = none
  := by
  have hheads : ∀ e ∈ literals, e.1 ≠ []
      ∧ (e.1.head? = some '-' → e.1.tail.head?.map isDigit = some false) := by decide
  rw [literal?, List.findSome?_eq_none_iff]
  rintro ⟨word, v⟩ hmem
  obtain ⟨hne, hsecond⟩ := hheads _ hmem
  obtain ⟨sign, word, rfl⟩ := List.exists_cons_of_ne_nil hne
  by_cases hsign : sign = '-'
  · subst hsign
    obtain ⟨d, hd, hdigit⟩ := Option.map_eq_some_iff.mp (hsecond rfl)
    obtain ⟨word, rfl⟩ := List.head?_eq_some_iff.mp hd
    simp [(ne_of_isDigit hc hdigit).symm]
  · simp [hsign]

/-- What begins with a digit or with a sign and a digit is read as a number. -/
theorem readValue_integerText
    {n : Int} (hn : isLong n = false) (hrest : EndsNumber rest) :
  readValue (fuel + 1) (integerText n ++ rest) = .ok (.int n, rest)
  := by
  have hread := readNumber_integerText hn hrest
  cases n with
  | ofNat n =>
    obtain ⟨c, digits, hcons, hc⟩ := toDigits_eq_cons n
    rw [integerText, hcons, List.cons_append] at hread ⊢
    rw [readValue, if_neg (by simpa using ne_of_isDigit hc (by decide)),
      if_neg (by simpa using ne_of_isDigit hc (by decide)),
      if_neg (by simpa using ne_of_isDigit hc (by decide)), literal?_of_isDigit hc]
    apply hread
  | negSucc n =>
    obtain ⟨c, digits, hcons, hc⟩ := toDigits_eq_cons (n + 1)
    rw [integerText, hcons, List.cons_append, List.cons_append] at hread ⊢
    rw [readValue, if_neg (by decide), if_neg (by decide), if_neg (by decide), literal?_of_sign hc]
    apply hread

end

/-! ### Objects -/

theorem storeMember_of_notMem
    {k : List Nat} {x : Json} {known : List (List Nat × Json)} (h : k ∉ known.map Prod.fst) :
  storeMember k x known = known ++ [(k, x)]
  := by
  induction known with
  | nil => rfl
  | cons entry known ih =>
    rw [List.map_cons, List.mem_cons, not_or] at h
    rw [storeMember, if_neg (by simpa using Ne.symm h.1), ih h.2]
    rfl

/-- Members with pairwise different keys are the object as it is. -/
theorem ofMembers_of_nodup
    {members : List (List Nat × Json)} (h : (members.map Prod.fst).Nodup) :
  ofMembers members = .object members
  := by
  have hfold : ∀ known : List (List Nat × Json), ((known ++ members).map Prod.fst).Nodup →
      members.foldl (fun known entry => storeMember entry.1 entry.2 known) known
        = known ++ members := by
    intro known
    induction members generalizing known with
    | nil => simp
    | cons entry members ih =>
      obtain ⟨k, x⟩ := entry
      intro hnodup
      have hk : k ∉ known.map Prod.fst := by
        rw [List.map_append, List.nodup_append] at hnodup
        intro hk
        exact hnodup.2.2 k hk k (by simp) rfl
      rw [List.foldl_cons, storeMember_of_notMem hk, ih h.of_cons]
      · simp
      · simpa using hnodup
  rw [ofMembers]
  exact congrArg object (hfold [] h)

/-! ### Legible values -/

/-- A value is read back from what is written for it. -/
def IsRead (x : Json) : Prop :=
  ∀ fuel rest, EndsNumber rest → (render x).length ≤ fuel →
    readValue fuel (render x ++ rest) = .ok (x, rest)

/-- An item is read back together with the items behind it. -/
def AreItemsRead (x : Json) (items : List Json) : Prop :=
  ∀ fuel rest, (render x ++ renderItems items).length ≤ fuel →
    readItems fuel (render x ++ (renderItems items ++ rest)) = .ok (x :: items, rest)

/-- A member is read back together with the members behind it. -/
def AreMembersRead (k : List Nat) (x : Json) (members : List (List Nat × Json)) : Prop :=
  ∀ fuel rest, (render x ++ renderMembers members).length ≤ fuel →
    readMembers (fuel + 1)
        (stringText .verbatim k ++ ':' :: ' ' :: (render x ++ (renderMembers members ++ rest)))
      = .ok ((k, x) :: members, rest)

/-- Something is written for a value, so there is a step to read it with. -/
theorem isRead_of_step
    {x : Json} (hx : Opens (render x))
    (h : ∀ fuel rest, EndsNumber rest → (render x).length ≤ fuel + 1 →
      readValue (fuel + 1) (render x ++ rest) = .ok (x, rest)) :
  x.IsRead
  := by
  intro fuel rest hrest hfuel
  cases fuel with
  | zero =>
    obtain ⟨c, s, hs, -⟩ := hx
    simp [hs] at hfuel
  | succ fuel => exact h fuel rest hrest hfuel

theorem isRead_int
    {n : Int} (h : isLegible (.int n) = true) :
  IsRead (.int n)
  := by
  have hn : isLong n = false := by simpa only [isLegible, Bool.not_eq_true'] using h
  apply isRead_of_step (opens_render h)
  intro fuel rest hrest _
  rw [render]
  apply readValue_integerText hn hrest

/-- The literals stand at the front of what is written for them. -/
theorem readValue_of_literal
    {fuel : Nat} {c : Char} {s rest : List Char} {x : Json} (hc : c ∈ ['n', 't', 'f'])
    (h : literal? (c :: s) = some (x, rest)) :
  readValue (fuel + 1) (c :: s) = .ok (x, rest)
  := by
  obtain ⟨hquote, hbracket, hbrace⟩ : (c == doubleQuote) = false ∧ (c == '[') = false
      ∧ (c == '{') = false := by
    simp only [List.mem_cons, List.not_mem_nil, or_false] at hc
    rcases hc with rfl | rfl | rfl
    all_goals exact ⟨rfl, rfl, rfl⟩
  rw [readValue]
  simp only [hquote, hbracket, hbrace, h, Bool.false_eq_true, if_false]

theorem isRead_null :
  IsRead .null
  := by
  apply isRead_of_step ⟨_, _, rfl, rfl⟩
  intro fuel rest _ _
  exact readValue_of_literal (by decide) rfl

theorem isRead_bool
    (b : Bool) :
  IsRead (.bool b)
  := by
  cases b
  all_goals
    apply isRead_of_step ⟨_, _, rfl, rfl⟩
    intro fuel rest _ _
    exact readValue_of_literal (by decide) rfl

theorem isRead_text
    {points : List Nat} (h : points.all isCharacter = true) :
  IsRead (.text points)
  := by
  apply isRead_of_step ⟨_, _, rfl, rfl⟩
  intro fuel rest _ _
  rw [render, stringText, List.cons_append, List.append_assoc]
  apply readValue_string
  apply readString_stringBody h

/-- What follows an item does not go on a number. -/
theorem endsNumber_renderItems
    (items : List Json) (rest : List Char) :
  EndsNumber (renderItems items ++ rest)
  := by
  cases items with
  | nil => exact endsNumber_cons (by decide) _
  | cons x items => exact endsNumber_cons (by decide) _

theorem areItemsRead_nil
    {x : Json} (hx : x.IsRead) :
  AreItemsRead x []
  := by
  intro fuel rest hfuel
  rw [List.length_append] at hfuel
  cases fuel with
  | zero => simp [renderItems] at hfuel
  | succ fuel =>
    apply readItems_last
    apply hx fuel _ (endsNumber_renderItems [] rest)
    simpa [renderItems] using hfuel

theorem areItemsRead_cons
    {x y : Json} (hx : x.IsRead) (hy : Opens (render y)) {items : List Json}
    (hitems : AreItemsRead y items) :
  AreItemsRead x (y :: items)
  := by
  intro fuel rest hfuel
  rw [renderItems, List.length_append, List.length_cons, List.length_cons] at hfuel
  cases fuel with
  | zero => omega
  | succ fuel =>
    have hhead := hx fuel _ (endsNumber_renderItems (y :: items) rest) (by omega)
    rw [renderItems, List.cons_append, List.cons_append, List.append_assoc] at hhead ⊢
    apply readItems_more hhead (hy.append _)
    apply hitems
    omega

theorem isRead_array
    {x : Json} (hopens : Opens (render x)) {items : List Json} (h : AreItemsRead x items) :
  IsRead (.array (x :: items))
  := by
  apply isRead_of_step ⟨_, _, rfl, rfl⟩
  intro fuel rest _ hfuel
  rw [render, List.length_cons, Nat.add_le_add_iff_right] at hfuel
  rw [render, List.cons_append, List.append_assoc]
  apply readValue_array (hopens.append _)
  apply h fuel rest hfuel

/-- What follows a member does not go on a number. -/
theorem endsNumber_renderMembers
    (members : List (List Nat × Json)) (rest : List Char) :
  EndsNumber (renderMembers members ++ rest)
  := by
  cases members with
  | nil => exact endsNumber_cons (by decide) _
  | cons entry members => exact endsNumber_cons (by decide) _

theorem areMembersRead_nil
    {k : List Nat} (hk : k.all isCharacter = true) {x : Json} (hopens : Opens (render x))
    (hx : x.IsRead) :
  AreMembersRead k x []
  := by
  intro fuel rest hfuel
  rw [List.length_append] at hfuel
  rw [stringText, List.cons_append, List.append_assoc, List.singleton_append]
  apply readMembers_last (readString_stringBody hk _) (hopens.append _)
  apply hx fuel _ (endsNumber_renderMembers [] rest)
  omega

theorem areMembersRead_cons
    {k l : List Nat} (hk : k.all isCharacter = true) {x y : Json} (hopens : Opens (render x))
    (hx : x.IsRead) {members : List (List Nat × Json)} (h : AreMembersRead l y members) :
  AreMembersRead k x ((l, y) :: members)
  := by
  intro fuel rest hfuel
  rw [renderMembers, List.length_append, List.length_cons, List.length_cons, List.length_append,
    List.length_cons, List.length_cons] at hfuel
  have hhead := hx fuel _ (endsNumber_renderMembers ((l, y) :: members) rest) (by omega)
  cases fuel with
  | zero => omega
  | succ fuel =>
    have hmembers := h fuel rest (by omega)
    rw [stringText, List.cons_append, List.append_assoc, List.singleton_append]
    rw [renderMembers, List.cons_append, List.cons_append, List.append_assoc, List.cons_append,
      List.cons_append, List.append_assoc] at hhead ⊢
    exact readMembers_more (readString_stringBody hk _) (hopens.append _) hhead
      ⟨doubleQuote, _, rfl, rfl⟩ hmembers

theorem isRead_object
    {k : List Nat} {x : Json} {members : List (List Nat × Json)}
    (hkeys : (((k, x) :: members).map Prod.fst).Nodup) (h : AreMembersRead k x members) :
  IsRead (.object ((k, x) :: members))
  := by
  apply isRead_of_step ⟨_, _, rfl, rfl⟩
  intro fuel rest _ hfuel
  rw [render, List.length_cons, List.length_append, List.length_cons, List.length_cons] at hfuel
  cases fuel with
  | zero => omega
  | succ fuel =>
    have hmembers := h fuel rest (by omega)
    rw [render, List.cons_append, ← ofMembers_of_nodup hkeys]
    apply readValue_object
    · exact ⟨doubleQuote, _, rfl, rfl⟩
    · rw [← hmembers]
      simp only [List.cons_append, List.append_assoc]

mutual

/-- A legible value is read back from what is written for it. -/
theorem isRead_of_isLegible :
    ∀ x : Json, x.isLegible = true → x.IsRead
  | .null => fun _ => isRead_null
  | .bool b => fun _ => isRead_bool b
  | .int _ => isRead_int
  | .float _ => by
      intro h
      simp only [isLegible, Bool.false_eq_true] at h
  | .text points => by
      intro h
      exact isRead_text (by simpa only [isLegible] using h)
  | .array [] => by
      intro _
      apply isRead_of_step ⟨_, _, rfl, rfl⟩
      intro fuel rest _ _
      exact readValue_emptyArray
  | .array (x :: items) => by
      intro h
      simp only [isLegible, isLegible.items, Bool.and_eq_true] at h
      apply isRead_array (opens_render h.1)
      exact areItemsRead_of_isLegible items h.2 (isRead_of_isLegible x h.1)
  | .object [] => by
      intro _
      apply isRead_of_step ⟨_, _, rfl, rfl⟩
      intro fuel rest _ _
      exact readValue_emptyObject
  | .object ((k, x) :: members) => by
      intro h
      simp only [isLegible, isLegible.members, Bool.and_eq_true, decide_eq_true_eq] at h
      obtain ⟨hkeys, ⟨hk, hx⟩, hmembers⟩ := h
      apply isRead_object hkeys
      exact areMembersRead_of_isLegible members hmembers hk (opens_render hx)
        (isRead_of_isLegible x hx)

theorem areItemsRead_of_isLegible :
    ∀ (items : List Json), isLegible.items items = true → ∀ {x : Json}, x.IsRead →
      AreItemsRead x items
  | [] => fun _ _ hx => areItemsRead_nil hx
  | y :: items => by
      intro h x hx
      simp only [isLegible.items, Bool.and_eq_true] at h
      apply areItemsRead_cons hx (opens_render h.1)
      exact areItemsRead_of_isLegible items h.2 (isRead_of_isLegible y h.1)

theorem areMembersRead_of_isLegible :
    ∀ (members : List (List Nat × Json)), isLegible.members members = true →
      ∀ {k : List Nat} {x : Json}, k.all isCharacter = true → Opens (render x) → x.IsRead →
        AreMembersRead k x members
  | [] => fun _ _ _ hk hopens hx => areMembersRead_nil hk hopens hx
  | (l, y) :: members => by
      intro h k x hk hopens hx
      simp only [isLegible.members, Bool.and_eq_true] at h
      obtain ⟨⟨hl, hy⟩, hmembers⟩ := h
      apply areMembersRead_cons hk hopens hx
      exact areMembersRead_of_isLegible members hmembers hl (opens_render hy)
        (isRead_of_isLegible y hy)

end

/-- No byte order mark stands in front of a value, and no white space. -/
theorem readAll_of_opens
    {s : List Char} (h : Opens s) {x : Json}
    (hread : readValue (2 * s.length + 2) s = .ok (x, [])) :
  readAll s = .ok x
  := by
  rw [readAll.eq_def]
  split
  · exact absurd rfl (h.head?_ne (by decide))
  · rw [h.skipSpace_eq, hread]
    rfl

/-- A legible value is the value of what is written for it. -/
theorem parse_render
    {x : Json} (h : x.isLegible = true) :
  parse (render x) = .ok x
  := by
  have hopens := opens_render h
  have hread := isRead_of_isLegible x h (2 * (render x).length + 2) [] (by intro c hc; cases hc)
    (by omega)
  rw [List.append_nil] at hread
  rw [parse_eq_ok_iff]
  exact readAll_of_opens hopens hread

end Rollout.Json
