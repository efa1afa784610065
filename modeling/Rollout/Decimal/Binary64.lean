/-!
# Double-precision numbers

A double-precision number that is neither infinite nor not-a-number is a whole
multiple of the smallest positive one, `2 ^ -1074`.  It is held as that multiple, so
that equality of numbers is equality of the data, and a decimal is read by one
exact division and one rounding.
-/

namespace Rollout

/-- A double-precision number. -/
inductive Binary64 where
  /-- Not a number. -/
  | nan
  /-- One of the two infinities. -/
  | infinite (negative : Bool)
  /-- The number `units * 2 ^ -1074`, with its sign. -/
  | finite (negative : Bool) (units : Nat)
deriving DecidableEq, Repr, Inhabited

namespace Binary64

/-- The number one, in units of the smallest positive number. -/
def oneUnits : Nat :=
  Nat.pow 2 1074

/-- The number of units that no finite number reaches: `2 ^ 1024`. -/
def limitUnits : Nat :=
  Nat.pow 2 2098

/-- The distance from a number of units to the next larger one: a significand has
53 bits. -/
def gap (units : Nat) : Nat :=
  Nat.pow 2 (units.log2 + 1 - 53)

/-- A quotient rounded to the nearest whole number, half-way cases to the even one. -/
def roundDiv (num den : Nat) : Nat :=
  let q := num / den
  let r := num % den
  if 2 * r < den then q
  else if den < 2 * r then q + 1
  else q + q % 2

/-- The number nearest to `num / den` with the given sign. -/
def ofQuotient (negative : Bool) (num den : Nat) : Binary64 :=
  let step := gap (num * oneUnits / den)
  let units := roundDiv (num * oneUnits) (den * step) * step
  if units < limitUnits then finite negative units else infinite negative

/-- The number nearest to `digits * 10 ^ exponent`.  Decimals beyond the range are
settled without the power. -/
def ofDecimal (negative : Bool) (digits : Nat) (exponent : Int) : Binary64 :=
  let length : Int := (Nat.toDigits 10 digits).length
  if digits = 0 then finite negative 0
  else if 310 < length + exponent then infinite negative
  else if length + exponent < -330 then finite negative 0
  else ofQuotient negative (digits * Nat.pow 10 exponent.toNat)
    (Nat.pow 10 (-exponent).toNat)

/-- Whether a number is zero, of either sign. -/
def isZero : Binary64 → Bool
  | finite _ units => units == 0
  | _ => false

/-- Whether a number is one. -/
def isOne : Binary64 → Bool
  | finite negative units => !negative && units == oneUnits
  | _ => false

/-- Whether a number is whole. -/
def isWhole : Binary64 → Bool
  | finite _ units => units % oneUnits == 0
  | _ => false

/-- Whether a number, without its sign, is less than a natural number. -/
def isBelow (x : Binary64) (limit : Nat) : Bool :=
  match x with
  | finite _ units => units < limit * oneUnits
  | _ => false

end Binary64

end Rollout
