/-!
# Digits

The digits of a natural number in a base up to sixteen, and the value of a digit.
-/

namespace Rollout.Text

/-- The lower-case digit for a number below sixteen. -/
def digit (n : Nat) : Char :=
  Nat.digitChar n

/-- The last `width` digits of `n` in base `base`, most significant first. -/
def fixedDigits (base : Nat) : (width n : Nat) → List Char
  | 0, _ => []
  | width + 1, n => fixedDigits base width (n / base) ++ [digit (n % base)]

/-- The last `width` hexadecimal digits of `n`. -/
def hex (width n : Nat) : List Char :=
  fixedDigits 16 width n

/-- Whether a character is one of `0` to `9`. -/
def isDigit (c : Char) : Bool :=
  '0'.toNat ≤ c.toNat && c.toNat ≤ '9'.toNat

/-- The value of a decimal digit. -/
def digitValue (c : Char) : Nat :=
  c.toNat - '0'.toNat

/-- The number that a list of decimal digits spells. -/
def decimalValue (digits : List Char) : Nat :=
  digits.foldl (fun n c => 10 * n + digitValue c) 0

/-- The value of a hexadecimal digit of either case. -/
def hexDigit? (c : Char) : Option Nat :=
  let n := c.toNat
  if isDigit c then some (n - 48)
  else if 97 ≤ n && n ≤ 102 then some (n - 87)
  else if 65 ≤ n && n ≤ 70 then some (n - 55)
  else none

end Rollout.Text
