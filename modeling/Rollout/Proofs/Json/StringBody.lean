import Mathlib.Data.List.TakeWhile
import Mathlib.Tactic.SplitIfs
import Mathlib.Tactic.Use
import Rollout.Json.Printer
import Rollout.Json.Reader

/-!
# What stands inside a JSON string

The inside of a JSON string is a sequence of characters that stand for themselves and of
escapes, and each of these spells a code point.  A string is read as the code points that its
inside spells, if none of them is a surrogate that stands alone.  Insides can be put one after
another, and what is written for a text spells that text.
-/

namespace Rollout.Json

open Rollout.Text

/-! ### Spelling -/

/-- Four hexadecimal digits and the number that they spell. -/
inductive SpellsHex : List Char → Nat → Prop where
  | intro {a b c d : Char} {i j k l : Nat} (first : hexDigit? a = some i)
      (second : hexDigit? b = some j) (third : hexDigit? c = some k)
      (fourth : hexDigit? d = some l) :
      SpellsHex [a, b, c, d] (((i * 16 + j) * 16 + k) * 16 + l)

/-- One item of the inside of a string and the code point that it spells, which is not a
surrogate. -/
inductive SpellsPoint : List Char → Nat → Prop where
  /-- A character that stands for itself. -/
  | plain {c : Char} (visible : 0x20 ≤ c.toNat) (not_quote : c ≠ doubleQuote)
      (not_backslash : c ≠ backslash) :
      SpellsPoint [c] c.toNat
  /-- An escape by a letter. -/
  | letter {c : Char} {n : Nat} (escape : letterEscape? c = some n) :
      SpellsPoint [backslash, c] n
  /-- An escape by number. -/
  | number {digits : List Char} {n : Nat} (hex : SpellsHex digits n)
      (single : isSurrogate n = false) :
      SpellsPoint (backslash :: 'u' :: digits) n
  /-- The two halves of a surrogate pair, each escaped by number. -/
  | pair {digits digits' : List Char} {high low : Nat} (hex_high : SpellsHex digits high)
      (hex_low : SpellsHex digits' low) (is_high : isHighSurrogate high = true)
      (is_low : isLowSurrogate low = true) :
      SpellsPoint (backslash :: 'u' :: (digits ++ backslash :: 'u' :: digits'))
        (joinSurrogates high low)

/-- The inside of a string and the code points that it spells. -/
inductive Spells : List Char → List Nat → Prop where
  | nil : Spells [] []
  | cons {item body : List Char} {n : Nat} {points : List Nat} (head : SpellsPoint item n)
      (tail : Spells body points) :
      Spells (item ++ body) (n :: points)

/-- Two insides of strings, one after the other, spell what the two spell. -/
theorem Spells.append
    {s t : List Char} {ms ns : List Nat} (hs : Spells s ms) (ht : Spells t ns) :
  Spells (s ++ t) (ms ++ ns)
  := by
  induction hs with
  | nil => apply ht
  | cons head _ ih =>
    rw [List.append_assoc, List.cons_append]
    apply Spells.cons head ih

/-- A character is a code point that is no surrogate. -/
theorem toNat_bounds
    (c : Char) :
  c.toNat < 0x110000 ∧ isSurrogate c.toNat = false
  := by
  have hvalid := c.valid
  simp only [UInt32.isValidChar, Nat.isValidChar, Char.toNat_val] at hvalid
  simp only [isSurrogate, Bool.and_eq_false_iff, decide_eq_false_iff_not]
  omega

/-- No code point of a text is a surrogate. -/
theorem isSurrogate_of_mem_points
    {s : String} :
  ∀ n ∈ points s, isSurrogate n = false
  := by
  intro n hn
  obtain ⟨c, -, rfl⟩ := List.mem_map.mp hn
  exact (toNat_bounds c).2

/-! ### Reading what is spelled -/

theorem fourHex?_of_spellsHex
    {digits rest : List Char} {n : Nat} (h : SpellsHex digits n) (hrest : rest ≠ []) :
  fourHex? (digits ++ rest) = some (n, rest)
  := by
  obtain ⟨ha, hb, hc, hd⟩ := h
  cases rest with
  | nil => exact absurd rfl hrest
  | cons e rest => simp only [List.cons_append, List.nil_append, fourHex?, ha, hb, hc, hd]

theorem length_of_spellsHex
    {digits : List Char} {n : Nat} (h : SpellsHex digits n) :
  digits.length = 4
  := by
  cases h
  rfl

/-- The letter of an escape by number is not the letter of an escape by itself. -/
theorem ne_of_letterEscape?
    {c : Char} {n : Nat} (h : letterEscape? c = some n) :
  c ≠ 'u'
  := by
  rintro rfl
  have hnone : letterEscape? 'u' = none := by decide
  rw [hnone] at h
  cases h

theorem isHighSurrogate_of_single
    {n : Nat} (h : isSurrogate n = false) :
  isHighSurrogate n = false
  := by
  simp only [isSurrogate, isHighSurrogate, Bool.and_eq_false_iff, decide_eq_false_iff_not] at h ⊢
  omega

theorem readNumberEscape_of_number
    {digits rest : List Char} {n : Nat} (h : SpellsHex digits n) (hsingle : isSurrogate n = false)
    (hrest : rest ≠ []) :
  readNumberEscape ('u' :: (digits ++ rest)) = .ok (n, rest)
  := by
  rw [readNumberEscape, List.drop_one, List.tail_cons, fourHex?_of_spellsHex h hrest]
  simp only [isHighSurrogate_of_single hsingle]

theorem readNumberEscape_of_pair
    {digits digits' rest : List Char} {high low : Nat} (hhigh : SpellsHex digits high)
    (hlow : SpellsHex digits' low) (his_high : isHighSurrogate high = true)
    (his_low : isLowSurrogate low = true) (hrest : rest ≠ []) :
  readNumberEscape ('u' :: (digits ++ backslash :: 'u' :: (digits' ++ rest)))
    = .ok (joinSurrogates high low, rest)
  := by
  have hlength : 5 ≤ (digits' ++ rest).length := by
    have := List.length_pos_iff.mpr hrest
    rw [List.length_append, length_of_spellsHex hlow]
    omega
  rw [readNumberEscape, List.drop_one, List.tail_cons,
    fourHex?_of_spellsHex hhigh (List.cons_ne_nil _ _)]
  simp only [his_high, beq_self_eq_true, hlength, decide_true, Bool.and_self, if_true,
    fourHex?_of_spellsHex hlow hrest, his_low]

/-- An escape is read as the code point that it spells. -/
theorem readEscape_of_spellsPoint
    {escape rest : List Char} {n : Nat} (h : SpellsPoint (backslash :: escape) n)
    (opening : Nat) (hrest : rest ≠ []) :
  readEscape opening (escape ++ rest) = .ok (n, rest)
  := by
  cases h with
  | plain _ _ not_backslash => exact absurd rfl not_backslash
  | letter escape =>
    rw [List.singleton_append, readEscape, if_neg (by simpa using ne_of_letterEscape? escape),
      escape]
  | number hex single =>
    rw [List.cons_append, readEscape, if_pos (beq_self_eq_true _),
      readNumberEscape_of_number hex single hrest]
  | pair hex_high hex_low is_high is_low =>
    rw [List.cons_append, List.append_assoc, List.cons_append, List.cons_append, readEscape,
      if_pos (beq_self_eq_true _),
      readNumberEscape_of_pair hex_high hex_low is_high is_low hrest]

/-- An item stands for itself, or it is an escape. -/
theorem SpellsPoint.plain_or_escape
    {item : List Char} {n : Nat} (h : SpellsPoint item n) :
  (∃ c : Char, item = [c] ∧ n = c.toNat ∧ 0x20 ≤ c.toNat ∧ c ≠ doubleQuote ∧ c ≠ backslash)
    ∨ ∃ escape, item = backslash :: escape
  := by
  cases h with
  | plain visible not_quote not_backslash =>
    exact .inl ⟨_, rfl, rfl, visible, not_quote, not_backslash⟩
  | letter | number | pair => exact .inr ⟨_, rfl⟩

/-- A string is read as the code points that its inside spells. -/
theorem readPoints_of_spells
    {body : List Char} {points : List Nat} (h : Spells body points) (opening : Nat)
    {fuel : Nat} (hfuel : body.length < fuel) (rest : List Char) :
  readPoints opening fuel (body ++ doubleQuote :: rest) = .ok (points, rest)
  := by
  induction h generalizing fuel with
  | nil =>
    obtain ⟨fuel, rfl⟩ := Nat.exists_eq_succ_of_ne_zero (Nat.ne_zero_of_lt hfuel)
    rw [List.nil_append, readPoints, if_pos (beq_self_eq_true _)]
  | @cons item body n points head tail ih =>
    obtain ⟨fuel, rfl⟩ := Nat.exists_eq_succ_of_ne_zero (Nat.ne_zero_of_lt hfuel)
    rw [List.length_append] at hfuel
    rw [List.append_assoc]
    rcases head.plain_or_escape with ⟨c, rfl, rfl, hvisible, hquote, hbackslash⟩ | ⟨escape, rfl⟩
    · have hmore : body.length < fuel := by
        simp only [List.length_singleton] at hfuel
        omega
      rw [List.singleton_append, readPoints, if_neg (by simpa using hquote),
        if_neg (by simpa using hbackslash), if_neg (Nat.not_lt_of_le hvisible), ih hmore]
      rfl
    · have hmore : body.length < fuel := by
        simp only [List.length_cons] at hfuel
        omega
      have hrest : body ++ doubleQuote :: rest ≠ [] :=
        List.append_ne_nil_of_right_ne_nil _ (List.cons_ne_nil _ _)
      rw [List.cons_append, readPoints, if_neg (by decide), if_pos (beq_self_eq_true _),
        readEscape_of_spellsPoint head opening hrest]
      simp only [bind, Except.bind, ih hmore]

/-! ### Spelling what is read -/

theorem spellsHex_of_fourHex?
    {s rest : List Char} {n : Nat} (h : fourHex? s = some (n, rest)) :
  ∃ digits, s = digits ++ rest ∧ SpellsHex digits n
  := by
  rw [fourHex?.eq_def] at h
  split at h
  · rename_i a b c d e rest'
    split at h
    · rename_i ha hb hc hd
      cases h
      exact ⟨[a, b, c, d], rfl, .intro ha hb hc hd⟩
    · cases h
  · cases h

/-- An escape by number that is read as anything but a surrogate spells it. -/
theorem spellsPoint_of_readNumberEscape
    {s rest : List Char} {n : Nat} (h : readNumberEscape ('u' :: s) = .ok (n, rest))
    (hn : isSurrogate n = false) :
  ∃ escape, s = escape ++ rest ∧ SpellsPoint (backslash :: 'u' :: escape) n
  := by
  rw [readNumberEscape, List.drop_one, List.tail_cons] at h
  split at h
  · cases h
  · rename_i high after hhigh
    obtain ⟨digits, rfl, hdigits⟩ := spellsHex_of_fourHex? hhigh
    -- Wherever the escape is read by itself, it is the whole of `digits`.
    have halone : (Except.ok (high, after) : Except Stop (Nat × List Char)) = .ok (n, rest) →
        ∃ escape, digits ++ after = escape ++ rest
          ∧ SpellsPoint (backslash :: 'u' :: escape) n := by
      intro heq
      cases heq
      exact ⟨digits, rfl, .number hdigits hn⟩
    split at h
    · rename_i b u second his_high
      split at h
      · rename_i hcond
        simp only [Bool.and_eq_true, beq_iff_eq] at hcond
        obtain ⟨⟨rfl, rfl⟩, -⟩ := hcond
        split at h
        · cases h
        · rename_i low after' hlow
          obtain ⟨digits', rfl, hdigits'⟩ := spellsHex_of_fourHex? hlow
          split at h
          · rename_i his_low
            obtain ⟨rfl, rfl⟩ := Prod.mk.inj (Except.ok.inj h)
            use digits ++ backslash :: 'u' :: digits'
            constructor
            · simp
            · apply SpellsPoint.pair hdigits hdigits' his_high his_low
          · apply halone h
      · apply halone h
    · apply halone h

/-- An escape that is read as anything but a surrogate spells it. -/
theorem spellsPoint_of_readEscape
    {opening : Nat} {s rest : List Char} {n : Nat} (h : readEscape opening s = .ok (n, rest))
    (hn : isSurrogate n = false) :
  ∃ escape, s = escape ++ rest ∧ SpellsPoint (backslash :: escape) n
  := by
  rw [readEscape.eq_def] at h
  split at h
  · cases h
  · rename_i c after
    split at h
    · rename_i hletter
      rw [beq_iff_eq] at hletter
      subst hletter
      obtain ⟨escape, rfl, hescape⟩ := spellsPoint_of_readNumberEscape h hn
      exact ⟨'u' :: escape, rfl, hescape⟩
    · split at h
      · rename_i hletter
        cases h
        exact ⟨[c], rfl, .letter hletter⟩
      · cases h

/-- What is read up to the closing quote spells the code points that it is read as. -/
theorem spells_of_readPoints
    {opening fuel : Nat} {s rest : List Char} {points : List Nat}
    (h : readPoints opening fuel s = .ok (points, rest))
    (hpoints : ∀ n ∈ points, isSurrogate n = false) :
  ∃ body, s = body ++ doubleQuote :: rest ∧ Spells body points
  := by
  induction fuel generalizing s points with
  | zero => cases h
  | succ fuel ih =>
    cases s with
    | nil => cases h
    | cons c after =>
      rw [readPoints] at h
      split at h
      · rename_i hquote
        cases h
        rw [beq_iff_eq] at hquote
        exact ⟨[], by rw [hquote, List.nil_append], .nil⟩
      · rename_i hquote
        split at h
        · rename_i hbackslash
          rw [beq_iff_eq] at hbackslash
          cases hescape : readEscape opening after with
          | error stop =>
            rw [hescape] at h
            cases h
          | ok pair =>
            obtain ⟨n, after'⟩ := pair
            cases hmore : readPoints opening fuel after' with
            | error stop =>
              simp only [hescape, bind, Except.bind, hmore] at h
              cases h
            | ok pair =>
              obtain ⟨points', rest'⟩ := pair
              simp only [hescape, bind, Except.bind, hmore] at h
              cases h
              obtain ⟨hn, hpoints'⟩ := List.forall_mem_cons.mp hpoints
              obtain ⟨escape, rfl, hitem⟩ := spellsPoint_of_readEscape hescape hn
              obtain ⟨body, rfl, hbody⟩ := ih hmore hpoints'
              use backslash :: escape ++ body
              constructor
              · simp [hbackslash]
              · apply Spells.cons hitem hbody
        · rename_i hbackslash
          split at h
          · cases h
          · rename_i hvisible
            cases hmore : readPoints opening fuel after with
            | error stop =>
              simp only [bind, Except.bind, hmore] at h
              cases h
            | ok pair =>
              obtain ⟨points', rest'⟩ := pair
              simp only [bind, Except.bind, hmore] at h
              cases h
              obtain ⟨-, hpoints'⟩ := List.forall_mem_cons.mp hpoints
              obtain ⟨body, rfl, hbody⟩ := ih hmore hpoints'
              use [c] ++ body
              constructor
              · rfl
              · apply Spells.cons _ hbody
                exact .plain (Nat.le_of_not_lt hvisible) (by simpa using hquote)
                  (by simpa using hbackslash)

/-! ### A string by itself -/

/-- A text has a value exactly if it is read to its end. -/
theorem parse_eq_ok_iff
    {s : List Char} {v : Json} :
  parse s = .ok v ↔ readAll s = .ok v
  := by
  rw [parse]
  split
  · rename_i hread
    rw [hread, Except.ok.injEq, Except.ok.injEq]
  · rename_i hread
    simp [hread]
  · rename_i hread
    simp [hread]

/-- A text that begins with a quote is read as a string with nothing but space behind it. -/
theorem parse_string_iff
    {s : List Char} {v : Json} :
  parse (doubleQuote :: s) = .ok v
    ↔ ∃ points rest, readString s = .ok (points, rest) ∧ skipSpace rest = [] ∧ v = .text points
  := by
  have hspace : skipSpace (doubleQuote :: s) = doubleQuote :: s := by
    rw [skipSpace, List.dropWhile_cons_of_neg (by decide)]
  have hvalue : readValue (2 * (doubleQuote :: s).length + 2) (doubleQuote :: s)
      = (readString s).map (fun p => (.text p.1, p.2)) := by
    rw [readValue, if_pos (beq_self_eq_true _)]
    cases readString s <;> rfl
  rw [parse_eq_ok_iff, readAll.eq_def]
  split
  · rename_i heq
    cases heq
  · rw [hspace, hvalue]
    cases readString s with
    | error stop => simp [Except.map, bind, Except.bind]
    | ok pair =>
      obtain ⟨points, rest⟩ := pair
      simp only [Except.map, bind, Except.bind, Except.ok.injEq, Prod.mk.injEq]
      split
      · rename_i hrest
        rw [Except.ok.injEq]
        constructor
        · rintro rfl
          exact ⟨points, rest, ⟨rfl, rfl⟩, hrest, rfl⟩
        · rintro ⟨_, _, ⟨rfl, rfl⟩, -, rfl⟩
          rfl
      · rename_i hrest
        simp only [stopAt, reduceCtorEq, false_iff]
        rintro ⟨_, _, ⟨rfl, rfl⟩, hnil, -⟩
        exact hrest hnil

/-- Text that ends in a quote does not end in space. -/
theorem eq_nil_of_skipSpace
    {s t rest : List Char} (heq : s ++ [doubleQuote] = t ++ doubleQuote :: rest)
    (h : skipSpace rest = []) :
  rest = []
  := by
  rcases List.eq_nil_or_concat rest with hnil | ⟨more, last, rfl⟩
  · apply hnil
  · rw [List.concat_eq_append, ← List.cons_append, ← List.append_assoc] at heq
    obtain ⟨-, hlast⟩ := List.append_inj' heq rfl
    have hspaces : ∀ c ∈ more.concat last, isSpace c = true := by
      rwa [skipSpace, List.dropWhile_eq_nil_iff] at h
    have hspace := hspaces last (by simp)
    rw [← List.singleton_inj.mp hlast] at hspace
    exact absurd hspace (by decide)

/-- The inside of a string is read as code points that are no surrogates exactly if it spells
them. -/
theorem parse_quoted_iff
    {body : List Char} {points : List Nat} (hpoints : ∀ n ∈ points, isSurrogate n = false) :
  parse (doubleQuote :: (body ++ [doubleQuote])) = .ok (.text points) ↔ Spells body points
  := by
  rw [parse_string_iff]
  constructor
  · rintro ⟨points', rest, hread, hspace, heq⟩
    obtain rfl := Json.text.inj heq
    obtain ⟨body', hbody, hspells⟩ := spells_of_readPoints hread hpoints
    rw [eq_nil_of_skipSpace hbody hspace] at hbody
    rw [List.append_cancel_right hbody]
    apply hspells
  · intro h
    use points, []
    constructor
    · apply readPoints_of_spells h
      rw [List.length_append, List.length_singleton]
      omega
    · exact ⟨rfl, rfl⟩

/-! ### Spelling a text -/

theorem hexDigit?_digit
    {n : Nat} (h : n < 16) :
  hexDigit? (digit n) = some n
  := by
  have hall : ∀ n < 16, hexDigit? (digit n) = some n := by decide
  apply hall n h

/-- Four hexadecimal digits are enough for a number of the first plane. -/
theorem spellsHex_hex
    {n : Nat} (h : n < 0x10000) :
  SpellsHex (hex 4 n) n
  := by
  have hvalue : ((n / 16 / 16 / 16 % 16 * 16 + n / 16 / 16 % 16) * 16 + n / 16 % 16) * 16 + n % 16
      = n := by
    omega
  have hdigits := SpellsHex.intro
    (hexDigit?_digit (Nat.mod_lt (n / 16 / 16 / 16) (by decide)))
    (hexDigit?_digit (Nat.mod_lt (n / 16 / 16) (by decide)))
    (hexDigit?_digit (Nat.mod_lt (n / 16) (by decide)))
    (hexDigit?_digit (Nat.mod_lt n (by decide)))
  rw [hvalue] at hdigits
  apply hdigits

/-- The escape by number of a code point spells it. -/
theorem spellsPoint_numberEscape
    {n : Nat} (hn : n < 0x110000) (hsingle : isSurrogate n = false) :
  SpellsPoint (numberEscape n) n
  := by
  rw [numberEscape]
  split
  · rename_i hplane
    apply SpellsPoint.number (spellsHex_hex hplane) hsingle
  · rename_i hplane
    dsimp only
    have hjoin : joinSurrogates (0xD800 + (n - 0x10000) / 0x400) (0xDC00 + (n - 0x10000) % 0x400)
        = n := by
      unfold joinSurrogates
      omega
    have hpair := SpellsPoint.pair
      (spellsHex_hex (n := 0xD800 + (n - 0x10000) / 0x400) (by omega))
      (spellsHex_hex (n := 0xDC00 + (n - 0x10000) % 0x400) (by omega))
      (by simp only [isHighSurrogate, Bool.and_eq_true, decide_eq_true_eq]; omega)
      (by simp only [isLowSurrogate, Bool.and_eq_true, decide_eq_true_eq]; omega)
    rw [hjoin] at hpair
    apply hpair

/-- What is written for a character spells it, in either style. -/
theorem spellsPoint_escapePoint
    (style : Style) (c : Char) :
  SpellsPoint (escapePoint style c.toNat) c.toNat
  := by
  unfold escapePoint
  split_ifs with hquote hbackslash hlineFeed hreturn htab hbackspace hformFeed hplain
  · rw [hquote]
    exact .letter rfl
  · rw [hbackslash]
    exact .letter rfl
  · rw [hlineFeed]
    exact .letter rfl
  · rw [hreturn]
    exact .letter rfl
  · rw [htab]
    exact .letter rfl
  · rw [hbackspace]
    exact .letter rfl
  · rw [hformFeed]
    exact .letter rfl
  · rw [Char.ofNat_toNat]
    apply SpellsPoint.plain
    · cases style <;> simp_all [isPlain]
    · exact fun h => hquote (congrArg Char.toNat h)
    · exact fun h => hbackslash (congrArg Char.toNat h)
  · obtain ⟨hlt, hsingle⟩ := toNat_bounds c
    apply spellsPoint_numberEscape hlt hsingle

/-- What is written for a text spells it, in either style. -/
theorem spells_stringBody
    (style : Style) (s : List Char) :
  Spells (stringBody style (s.map Char.toNat)) (s.map Char.toNat)
  := by
  induction s with
  | nil => exact .nil
  | cons c s ih =>
    rw [List.map_cons, stringBody, List.flatMap_cons]
    apply Spells.cons (spellsPoint_escapePoint style c) ih

end Rollout.Json
