import Mathlib.Tactic.Use
import Rollout.Identity

/-!
# Encodings of bytes

A text is told by its bytes in UTF-8, and a list of bytes is told by its text in base 64, in
hexadecimal digits, or as a UUID.  A text in base 64 is never made of lower-case hexadecimal
digits alone if a dollar sign is among the bytes.
-/

namespace Rollout

/-! ### UTF-8 -/

namespace Digest

theorem utf8_injective
    {s t : String} (h : utf8 s = utf8 t) :
  s = t
  := by
  apply String.toByteArray_inj.mp
  apply ByteArray.ext
  apply Array.toList_inj.mp h

theorem utf8_append
    (s t : String) :
  utf8 (s ++ t) = utf8 s ++ utf8 t
  := by
  simp [utf8]

/-! ### Base 64 -/

namespace Base64

/-- The number that a character of the alphabet stands for, or zero for any other one. -/
def value (c : Char) : Nat :=
  let n := c.toNat
  if 65 ≤ n && n ≤ 90 then n - 65
  else if 97 ≤ n && n ≤ 122 then n - 71
  else if 48 ≤ n && n ≤ 57 then n + 4
  else if c = '-' then 62
  else if c = '_' then 63
  else 0

/-- The bytes that a text in base 64 stands for. -/
def decode : List Char → List UInt8
  | a :: b :: c :: d :: rest =>
    let n := ((value a * 64 + value b) * 64 + value c) * 64 + value d
    if c = '=' then [.ofNat (n / 65536)]
    else if d = '=' then [.ofNat (n / 65536), .ofNat (n / 256)]
    else .ofNat (n / 65536) :: .ofNat (n / 256) :: .ofNat n :: decode rest
  | _ => []

theorem value_symbol
    {n : Nat} (h : n < 64) :
  value (symbol n) = n
  := by
  have hall : ∀ n < 64, value (symbol n) = n := by decide +kernel
  apply hall n h

theorem symbol_ne_equals
    {n : Nat} (h : n < 64) :
  symbol n ≠ '='
  := by
  have hall : ∀ n < 64, symbol n ≠ '=' := by decide +kernel
  apply hall n h

theorem ofNat_eq_of_mod
    {n : Nat} {a : UInt8} (h : n % 256 = a.toNat) :
  UInt8.ofNat n = a
  := by
  apply UInt8.toNat_inj.mp
  rw [UInt8.toNat_ofNat', h]

/-- A list of bytes is read back from its text. -/
theorem decode_encode
    (bytes : List UInt8) :
  decode (encode bytes) = bytes
  := by
  fun_induction encode bytes with
  | case1 => rfl
  | case2 a n =>
    have ha := a.toNat_lt
    have hequals : value '=' = 0 := by decide
    rw [decode, if_pos rfl, value_symbol (by omega), value_symbol (by omega), hequals]
    congr 1
    apply ofNat_eq_of_mod
    omega
  | case3 a b n =>
    have ha := a.toNat_lt
    have hb := b.toNat_lt
    have hequals : value '=' = 0 := by decide
    rw [decode, if_neg (symbol_ne_equals (by omega)), if_pos rfl, value_symbol (by omega),
      value_symbol (by omega), value_symbol (by omega), hequals]
    congr 1
    · apply ofNat_eq_of_mod
      omega
    · congr 1
      apply ofNat_eq_of_mod
      omega
  | case4 a b c rest n ih =>
    have ha := a.toNat_lt
    have hb := b.toNat_lt
    have hc := c.toNat_lt
    rw [decode, if_neg (symbol_ne_equals (by omega)), if_neg (symbol_ne_equals (by omega)),
      value_symbol (by omega), value_symbol (by omega), value_symbol (by omega),
      value_symbol (by omega), ih]
    congr 1
    · apply ofNat_eq_of_mod
      omega
    · congr 1
      · apply ofNat_eq_of_mod
        omega
      · congr 1
        apply ofNat_eq_of_mod
        omega

theorem encode_injective
    {bytes bytes' : List UInt8} (h : encode bytes = encode bytes') :
  bytes = bytes'
  := by
  rw [← decode_encode bytes, h, decode_encode]

end Base64

end Digest

/-! ### Hexadecimal digits -/

namespace Identity

open Rollout.Digest

/-- The lower-case hexadecimal digits. -/
def hexDigits : List Char :=
  (List.range 16).map Text.digit

theorem hex_two
    (b : UInt8) :
  Text.hex 2 b.toNat = [Text.digit (b.toNat / 16), Text.digit (b.toNat % 16)]
  := by
  have hb := b.toNat_lt
  have hhigh : b.toNat / 16 % 16 = b.toNat / 16 := by omega
  simp [Text.hex, Text.fixedDigits, hhigh]

theorem digit_injective
    {m n : Nat} (hm : m < 16) (hn : n < 16) (h : Text.digit m = Text.digit n) :
  m = n
  := by
  have hall : ∀ m < 16, ∀ n < 16, Text.digit m = Text.digit n → m = n := by decide +kernel
  apply hall m hm n hn h

theorem hexText_cons
    (b : UInt8) (bytes : List UInt8) :
  hexText (b :: bytes)
    = Text.digit (b.toNat / 16) :: Text.digit (b.toNat % 16) :: hexText bytes
  := by
  rw [hexText, List.flatMap_cons, hex_two]
  rfl

theorem hexText_injective
    {bytes bytes' : List UInt8} (h : hexText bytes = hexText bytes') :
  bytes = bytes'
  := by
  induction bytes generalizing bytes' with
  | nil =>
    cases bytes' with
    | nil => rfl
    | cons b' bytes' =>
      rw [hexText_cons] at h
      cases h
  | cons b bytes ih =>
    cases bytes' with
    | nil =>
      rw [hexText_cons] at h
      cases h
    | cons b' bytes' =>
      have hb := b.toNat_lt
      have hb' := b'.toNat_lt
      rw [hexText_cons, hexText_cons] at h
      injection h with hhigh h
      injection h with hlow h
      have hhigh := digit_injective (by omega) (by omega) hhigh
      have hlow := digit_injective (by omega) (by omega) hlow
      have hsame : b = b' := by
        apply UInt8.toNat_inj.mp
        omega
      rw [hsame, ih h]

theorem length_hexText
    (bytes : List UInt8) :
  (hexText bytes).length = 2 * bytes.length
  := by
  induction bytes with
  | nil => rfl
  | cons b bytes ih =>
    rw [hexText_cons, List.length_cons, List.length_cons, ih, List.length_cons]
    omega

theorem mem_hexDigits_of_hexText
    {bytes : List UInt8} {c : Char} (h : c ∈ hexText bytes) :
  c ∈ hexDigits
  := by
  induction bytes with
  | nil => cases h
  | cons b bytes ih =>
    have hb := b.toNat_lt
    rw [hexText_cons, List.mem_cons, List.mem_cons] at h
    rcases h with rfl | rfl | h
    · apply List.mem_map_of_mem (List.mem_range.mpr _)
      omega
    · apply List.mem_map_of_mem (List.mem_range.mpr _)
      omega
    · apply ih h

/-- In base 64 a dollar sign leaves a mark that is no hexadecimal digit. -/
theorem exists_notMem_hexDigits
    {bytes : List UInt8} (h : 36 ∈ bytes) :
  ∃ c ∈ Base64.encode bytes, c ∉ hexDigits
  := by
  have hequals : '=' ∉ hexDigits := by decide
  fun_induction Base64.encode bytes with
  | case1 => cases h
  | case2 a n => exact ⟨'=', by simp, hequals⟩
  | case3 a b n => exact ⟨'=', by simp, hequals⟩
  | case4 a b c rest n ih =>
    have ha := a.toNat_lt
    have hb := b.toNat_lt
    have hc := c.toNat_lt
    have hdollar : (36 : UInt8).toNat = 36 := rfl
    -- The sign fills a whole character as the first or the third byte, and the low bits of
    -- one as the second.
    have hmark : ∀ k < 64, k = 9 ∨ k = 36 ∨ k % 16 = 2 → Base64.symbol k ∉ hexDigits := by
      decide +kernel
    rw [List.mem_cons, List.mem_cons, List.mem_cons] at h
    rcases h with rfl | rfl | rfl | h
    · use Base64.symbol (n / 262144), by simp
      apply hmark _ (by omega)
      omega
    · use Base64.symbol (n / 4096 % 64), by simp
      apply hmark _ (by omega)
      omega
    · use Base64.symbol (n % 64), by simp
      apply hmark _ (by omega)
      omega
    · obtain ⟨c, hc, hmark⟩ := ih h
      exact ⟨c, by simp [hc], hmark⟩

end Identity

end Rollout
