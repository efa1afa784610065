import Rollout.Decimal.Binary64
import Rollout.Text.Digits

/-!
# Shortest decimals

The shortest decimal that reads back as a given double-precision number, and the
text forms of numbers that are built on it.  On the grid of decimals with a given
number of digits, the two neighbours of the number are tried; the first grid with a
hit has the shortest decimal, and of two hits the nearer one is taken.
-/

namespace Rollout.Binary64

/-- The number of decimal digits of a natural number; zero has none. -/
def digitCount (n : Nat) : Nat :=
  if n = 0 then 0 else (Nat.toDigits 10 n).length

/-- The decimal order of a positive number of units: the least `e` such that the
number is below `10 ^ e`. -/
def decimalOrder (units : Nat) : Int :=
  (digitCount (units * Nat.pow 10 400 / oneUnits) : Int) - 400

/-- Whether the decimal `c` on the grid of step `den / scale` reads back as `units`:
it is at most half a gap away, and the two half-way points belong to a number with an
even significand. -/
def readsBack (units scale den c : Nat) : Bool :=
  let upper := gap units
  let lower := if units = Nat.pow 2 units.log2 then gap (units - 1) else upper
  let even := units / upper % 2 = 0
  let value := units * scale
  let point := c * den
  if value ≤ point then
    2 * (point - value) < upper * scale || (even && 2 * (point - value) = upper * scale)
  else
    2 * (value - point) < lower * scale || (even && 2 * (value - point) = lower * scale)

/-- The decimal with `places` digits nearest to a positive number, if one with so many
digits reads back. -/
def decimalOf? (units : Nat) (order : Int) (places : Nat) : Option Nat :=
  let shift := (places : Int) - order
  let scale := Nat.pow 10 shift.toNat
  let den := oneUnits * Nat.pow 10 (-shift).toNat
  let low := units * scale / den
  let lowFits := 0 < low && readsBack units scale den low
  let highFits := readsBack units scale den (low + 1)
  let rest := units * scale % den
  match lowFits, highFits with
  | true, true => some (if 2 * rest < den || (2 * rest = den && low % 2 = 0) then low else low + 1)
  | true, false => some low
  | false, true => some (low + 1)
  | false, false => none

/-- The first of the grids `places`, `places + 1`, … with a decimal that reads back;
`more` of them are tried. -/
def firstDecimal (units : Nat) (order : Int) : (more places : Nat) → Nat × Int
  | 0, places => (0, order - places)
  | more + 1, places =>
    match decimalOf? units order places with
    | some c => (c, order - places)
    | none => firstDecimal units order more (places + 1)

/-- The digits of the shortest decimal of a positive number, without zeros at the end,
and the place of its point: the number is `0.DIGITS * 10 ^ point`. -/
def shortest (units : Nat) : List Char × Int :=
  let (c, exponent) := firstDecimal units (decimalOrder units) 17 1
  let digits := Nat.toDigits 10 c
  ((digits.reverse.dropWhile (· == '0')).reverse, exponent + digits.length)

/-- An exponent: its sign and at least two digits. -/
def exponentText (e : Int) : List Char :=
  let digits := Nat.toDigits 10 e.natAbs
  (if e < 0 then '-' else '+') :: (if digits.length < 2 then '0' :: digits else digits)

/-- The text of a positive number.  It is positional, with at least one place, while
its exponent lies between -4 and 15. -/
def positiveText (units : Nat) : List Char :=
  let (digits, point) := shortest units
  if point ≤ -4 || 16 < point then
    digits.take 1 ++ (if digits.length = 1 then [] else '.' :: digits.drop 1)
      ++ 'e' :: exponentText (point - 1)
  else if point ≤ 0 then
    '0' :: '.' :: (List.replicate (-point).toNat '0' ++ digits)
  else if digits.length ≤ point.toNat then
    digits ++ List.replicate (point.toNat - digits.length) '0' ++ ['.', '0']
  else
    digits.take point.toNat ++ '.' :: digits.drop point.toNat

/-- The spellings of the numbers that have no digits. -/
structure Spelling where
  /-- The text of not-a-number. -/
  nan : String
  /-- The text of positive infinity. -/
  infinity : String

/-- How numbers are spelled on their own. -/
def Spelling.plain : Spelling :=
  ⟨"nan", "inf"⟩

/-- How numbers are spelled inside JSON. -/
def Spelling.json : Spelling :=
  ⟨"NaN", "Infinity"⟩

/-- The text of a number. -/
def render (spelling : Spelling) : Binary64 → List Char
  | nan => spelling.nan.toList
  | infinite false => spelling.infinity.toList
  | infinite true => '-' :: spelling.infinity.toList
  | finite negative units =>
    (if negative then ['-'] else [])
      ++ if units = 0 then ['0', '.', '0'] else positiveText units

end Rollout.Binary64
