import Rollout.Decimal.Arithmetic
import Rollout.Decimal.Reader
import Rollout.Document
import Rollout.Json.Basic
import Rollout.Yaml.Token

/-!
# Numbers as plain scalars

The integers and the double-precision numbers that plain scalars have the form of.
Underscores among the digits do not count, and parts between colons are the places of a
number in base sixty.
-/

namespace Rollout.Yaml

open Rollout.Text

/-- A sign, if there is one, and the rest. -/
abbrev splitSign := Binary64.splitSign

/-- Whether a text begins with a character of a kind and goes on with characters of
another. -/
def isRun (first rest : Char → Bool) : List Char → Bool
  | [] => false
  | c :: more => first c && more.all rest

/-- Whether a character is a digit or an underscore. -/
def isDigitOrMark (c : Char) : Bool :=
  isDigit c || c == '_'

/-- Whether a character is a digit other than zero. -/
def isLeadingDigit (c : Char) : Bool :=
  isDigit c && c != '0'

/-- The parts of a text between the colons in it. -/
def splitColons : List Char → List (List Char)
  | [] => [[]]
  | c :: rest =>
    match splitColons rest with
    | [] => [[c]]
    | part :: parts => if c == ':' then [] :: part :: parts else (c :: part) :: parts

/-- Whether a text is a number below sixty of one digit or two. -/
def isSixtieth (s : List Char) : Bool :=
  match s with
  | [d] => isDigit d
  | [t, d] => isDigit d && isDigit t && digitValue t ≤ 5
  | _ => false

/-- The number that digits spell in a base. -/
def numeral (base : Nat) (digits : List Char) : Nat :=
  digits.foldl (fun n c => base * n + (hexDigit? c).getD 0) 0

/-- The number that digits spell in base ten, unless they are too many. -/
def decimal (digits : List Char) : Except Failure Nat :=
  if Json.integerDigitLimit < digits.length then .error .longInteger
  else .ok (decimalValue digits)

/-- The number that parts between colons spell in base sixty. -/
def sixtieths (parts : List (List Char)) : Except Failure Nat :=
  (parts.mapM decimal).map (fun digits => digits.foldl (fun n d => 60 * n + d) 0)

/-- The sum of numbers at the places of base sixty, the place of ones first.  Each product
and each sum is rounded. -/
def sixtiethsSum (digits : List Binary64) : Binary64 :=
  digits.zipIdx.foldl
    (fun sum (d, place) => sum.add (d.mul (.ofNat (Nat.pow 60 place)))) .zero

/-- The number of places in base sixty that double precision reaches. -/
def placeLimit : Nat := 174

/-- A text without underscores. -/
def dropMarks (s : List Char) : List Char :=
  s.filter (· != '_')

/-- The number that an unsigned integer spells, if a text has the form of one: in base two
after `0b`, sixteen after `0x` and eight after a zero, in base sixty with colons, and in
base ten otherwise. -/
def unsigned? (s : List Char) : Option (Except Failure Nat) :=
  let digitsOf := fun (base : Nat) (digits : List Char) =>
    if (dropMarks digits).isEmpty then
      some (.error (.badValue s!"invalid literal for int() with base {base}: ''"))
    else some (.ok (numeral base (dropMarks digits)))
  let isBinary := fun c => c == '0' || c == '1' || c == '_'
  let isOctal := fun c => ('0'.toNat ≤ c.toNat && c.toNat ≤ '7'.toNat) || c == '_'
  let isHex := fun c => (hexDigit? c).isSome || c == '_'
  match s with
  | '0' :: 'b' :: digits =>
    if digits != [] && digits.all isBinary then digitsOf 2 digits else none
  | '0' :: 'x' :: digits =>
    if digits != [] && digits.all isHex then digitsOf 16 digits else none
  | '0' :: digits =>
    if digits.all isOctal then some (.ok (numeral 8 (dropMarks digits))) else none
  | _ =>
    if isRun isLeadingDigit isDigitOrMark s then some (decimal (dropMarks s))
    else match splitColons s with
      | whole :: part :: parts =>
        if isRun isLeadingDigit isDigitOrMark whole && (part :: parts).all isSixtieth then
          some (sixtieths (dropMarks whole :: part :: parts))
        else none
      | _ => none

/-- The integer that a text has the form of. -/
def integer? (s : List Char) : Option (Except Failure Document) :=
  let (negative, body) := splitSign s
  (unsigned? body).map fun r => r.map fun n =>
    .int (if negative then -(n : Int) else n)

/-- The digits after a point and the exponent, of which a sign is a part. -/
def fraction? (s : List Char) : Option (List Char × Int) :=
  let digits := dropMarks (s.takeWhile isDigitOrMark)
  match s.dropWhile isDigitOrMark with
  | [] => some (digits, 0)
  | e :: sign :: power =>
    let isPower := power != [] && power.all isDigit
    if (e == 'e' || e == 'E') && (sign == '+' || sign == '-') && isPower then
      let n : Int := decimalValue power
      some (digits, if sign == '-' then -n else n)
    else none
  | _ => none

/-- The number in base sixty that a text has the form of: parts between colons, and a
fraction of the last one. -/
def sexagesimal? (negative : Bool) (whole fraction : List Char) :
    Option (Except Failure Binary64) :=
  match splitColons whole with
  | first :: part :: parts =>
    if isRun isDigit isDigitOrMark first && (part :: parts).all isSixtieth
        && fraction.all isDigitOrMark then
      if placeLimit < (first :: part :: parts).length then some (.error (.overflow .place))
      else
        let last := Binary64.ofParts false ((part :: parts).getLastD []) (dropMarks fraction) 0
        let others := (dropMarks first :: (part :: parts).dropLast).reverse.map
          (fun digits => Binary64.ofParts false digits [] 0)
        some (.ok ((sixtiethsSum (last :: others)).withSign negative))
    else none
  | _ => none

/-- The number that a text has the form of: one with a point, an infinity or
not-a-number. -/
def float? (s : List Char) : Option (Except Failure Binary64) :=
  let (negative, body) := splitSign s
  let signed := body.length < s.length
  let whole := body.takeWhile (· != '.')
  match body.dropWhile (· != '.') with
  | [] => none
  | _ :: after =>
    let word := String.ofList after
    if whole.isEmpty then
      if ["inf", "Inf", "INF"].contains word then some (.ok (.infinite negative))
      else if signed then none
      else if ["nan", "NaN", "NAN"].contains word then some (.ok .nan)
      else if isRun isDigit (fun _ => true) after then
        (fraction? after).map fun (digits, e) => .ok (.ofParts negative [] digits e)
      else none
    else if isRun isDigit isDigitOrMark whole then
      (fraction? after).map fun (digits, e) => .ok (.ofParts negative (dropMarks whole) digits e)
    else sexagesimal? negative whole after

end Rollout.Yaml
