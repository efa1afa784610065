import Rollout.Decimal.Binary64
import Rollout.Text.Blank
import Rollout.Text.Digits
import Rollout.Text.Numeral

/-!
# Reading decimals

The double-precision number that a decimal text names.
-/

namespace Rollout.Binary64

open Rollout.Text

/-- The number written with the given digits before and after the point and the given
exponent. -/
def ofParts (negative : Bool) (whole fraction : List Char) (exponent : Int) : Binary64 :=
  ofDecimal negative (decimalValue (whole ++ fraction)) (exponent - fraction.length)

/-- Digits in which single underscores may stand between two digits. -/
def groupedDigits? : List Char → Option (List Char)
  | [] => some []
  | [c] => if isDigit c then some [c] else none
  | c :: '_' :: d :: rest =>
    if isDigit c && isDigit d then (groupedDigits? (d :: rest)).map (c :: ·) else none
  | c :: rest => if isDigit c then (groupedDigits? rest).map (c :: ·) else none

/-- A sign, if there is one, and the rest. -/
def splitSign : List Char → Bool × List Char
  | '-' :: rest => (true, rest)
  | '+' :: rest => (false, rest)
  | s => (false, s)

/-- An exponent: a sign and at least one digit. -/
def exponent? (s : List Char) : Option Int :=
  let (negative, digits) := splitSign s
  match groupedDigits? digits with
  | none | some [] => none
  | some ds => some (if negative then -(decimalValue ds : Int) else decimalValue ds)

/-- The number that an unsigned decimal names. -/
def unsigned? (negative : Bool) (s : List Char) : Option Binary64 :=
  let isMark := fun c => c == 'e' || c == 'E'
  let mantissa := s.takeWhile (fun c => !isMark c)
  let whole := mantissa.takeWhile (· != '.')
  let fraction := (mantissa.dropWhile (· != '.')).drop 1
  let power := match s.dropWhile (fun c => !isMark c) with
    | [] => some 0
    | _ :: rest => exponent? rest
  match groupedDigits? whole, groupedDigits? fraction, power with
  | some [], some [], _ => none
  | some ws, some fs, some e => some (ofParts negative ws fs e)
  | _, _, _ => none

/-- The number that a text names: a decimal with an optional exponent, an infinity or
not-a-number, in any letter case, in the digits of any script and with blanks around it. -/
def ofText? (s : String) : Option Binary64 :=
  let (negative, body) := splitSign ((trimChars s.toList).map plainDigit)
  let word := String.ofList (body.map Char.toLower)
  if word == "inf" || word == "infinity" then some (infinite negative)
  else if word == "nan" then some nan
  else unsigned? negative body

end Rollout.Binary64
