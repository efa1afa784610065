import Rollout.Decimal.Binary64

/-!
# JSON values

A JSON string is held as a list of code points, because an escape may name a surrogate
that stands alone, which no text has.  An object keeps its members in order.
-/

namespace Rollout

/-- A JSON value. -/
inductive Json where
  /-- The literal `null`. -/
  | null
  /-- A truth value. -/
  | bool (b : Bool)
  /-- A number without fraction and exponent. -/
  | int (n : Int)
  /-- Any other number, and the three literals for the numbers without digits. -/
  | float (x : Binary64)
  /-- A string, as its code points. -/
  | text (points : List Nat)
  | array (items : List Json)
  /-- An object, as its members in order. -/
  | object (members : List (List Nat × Json))
deriving Inhabited

namespace Json

/-- The code points of a text. -/
def points (s : String) : List Nat :=
  s.toList.map Char.toNat

/-- The JSON string of a text. -/
def ofText (s : String) : Json :=
  .text (points s)

/-- The string of a text, or null. -/
def ofText? : Option String → Json
  | none => .null
  | some s => ofText s

/-- The array of the strings of texts. -/
def ofTexts (texts : List String) : Json :=
  .array (texts.map ofText)

/-- The integer for a natural number. -/
def ofNat (n : Nat) : Json :=
  .int n

/-- The object with the members of a list, whose names are texts. -/
def ofFields (members : List (String × Json)) : Json :=
  .object (members.map (fun (name, value) => (points name, value)))

/-- Whether a code point is a surrogate. -/
def isSurrogate (n : Nat) : Bool :=
  0xD800 ≤ n && n ≤ 0xDFFF

/-- Whether a code point is the first of a surrogate pair. -/
def isHighSurrogate (n : Nat) : Bool :=
  0xD800 ≤ n && n ≤ 0xDBFF

/-- Whether a code point is the second of a surrogate pair. -/
def isLowSurrogate (n : Nat) : Bool :=
  0xDC00 ≤ n && n ≤ 0xDFFF

/-- The code point that a surrogate pair names. -/
def joinSurrogates (high low : Nat) : Nat :=
  0x10000 + (high - 0xD800) * 0x400 + (low - 0xDC00)

/-- The most digits that an integer may have where it is read or written. -/
def integerDigitLimit : Nat :=
  4300

/-- Whether an integer has more digits than are read or written. -/
def isLong (n : Int) : Bool :=
  Nat.pow 10 integerDigitLimit ≤ n.natAbs

mutual

/-- Whether a value holds an integer with too many digits. -/
def hasLongInteger : Json → Bool
  | .int n => isLong n
  | .array items => hasLongInteger.items items
  | .object members => hasLongInteger.members members
  | _ => false

/-- Whether one of the items holds an integer with too many digits. -/
def hasLongInteger.items : List Json → Bool
  | [] => false
  | x :: rest => hasLongInteger x || hasLongInteger.items rest

/-- Whether one of the members holds an integer with too many digits. -/
def hasLongInteger.members : List (List Nat × Json) → Bool
  | [] => false
  | (_, x) :: rest => hasLongInteger x || hasLongInteger.members rest

end

end Json

end Rollout
