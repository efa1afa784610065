import Rollout.Decimal.Binary64

/-!
# Arithmetic of double precision

The sum and the product of double-precision numbers.  Either is found exactly and then
rounded once.
-/

namespace Rollout.Binary64

/-- The number zero. -/
def zero : Binary64 :=
  finite false 0

/-- The number nearest to a natural number. -/
def ofNat (n : Nat) : Binary64 :=
  ofQuotient false n 1

/-- A number with its sign turned if `negative` holds. -/
def withSign (negative : Bool) : Binary64 → Binary64
  | nan => nan
  | infinite s => infinite (s != negative)
  | finite s units => finite (s != negative) units

/-- A number of units with its sign. -/
def signedUnits (negative : Bool) (units : Nat) : Int :=
  if negative then -(units : Int) else units

/-- The sum of two numbers.  A sum of zero is negative if both numbers are. -/
def add : Binary64 → Binary64 → Binary64
  | nan, _ | _, nan => nan
  | infinite s, infinite t => if s = t then infinite s else nan
  | infinite s, finite _ _ | finite _ _, infinite s => infinite s
  | finite s m, finite t n =>
    let sum := signedUnits s m + signedUnits t n
    if sum = 0 then finite (s && t) 0
    else ofQuotient (sum < 0) sum.natAbs oneUnits

/-- The product of two numbers. -/
def mul : Binary64 → Binary64 → Binary64
  | nan, _ | _, nan => nan
  | infinite s, infinite t => infinite (s != t)
  | infinite s, finite t n | finite t n, infinite s => if n = 0 then nan else infinite (s != t)
  | finite s m, finite t n => ofQuotient (s != t) (m * n) (oneUnits * oneUnits)

end Rollout.Binary64
