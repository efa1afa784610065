import Rollout.Decimal.Reader
import Rollout.Json.Basic
import Rollout.Text.Quoted

/-!
# Reading JSON

The value that a JSON text spells, or the first place at which it stops being JSON.
The numbers without digits are accepted as literals, a repeated key keeps its place
and takes the later value, and a surrogate escape may stand alone.  An integer with
too many digits is told apart from text that is not JSON.
-/

namespace Rollout.Json

open Rollout.Text

/-- Why a text is not JSON. -/
inductive Reason where
  | value
  | propertyName
  | colon
  | comma
  | extraData
  | unterminatedString
  | controlCharacter
  | escape
  | unicodeEscape
  | byteOrderMark
deriving DecidableEq, Repr

/-- The wording of a reason. -/
def Reason.message : Reason → String
  | .value => "Expecting value"
  | .propertyName => "Expecting property name enclosed in double quotes"
  | .colon => "Expecting ':' delimiter"
  | .comma => "Expecting ',' delimiter"
  | .extraData => "Extra data"
  | .unterminatedString => "Unterminated string starting at"
  | .controlCharacter => "Invalid control character at"
  | .escape => "Invalid \\escape"
  | .unicodeEscape => "Invalid \\uXXXX escape"
  | .byteOrderMark => "Unexpected UTF-8 BOM (decode using utf-8-sig)"

/-- What ends the reading of a text early. -/
inductive Stop where
  /-- The text is not JSON; so many characters were left where that shows. -/
  | malformed (reason : Reason) (left : Nat)
  /-- An integer has too many digits. -/
  | longInteger
deriving DecidableEq, Repr

/-- The reading stops because of `reason` in front of `rest`. -/
def stopAt {α : Type} (reason : Reason) (rest : List Char) : Except Stop α :=
  .error (.malformed reason rest.length)

/-- Whether a character is JSON white space. -/
def isSpace (c : Char) : Bool :=
  c == ' ' || c == '\t' || c == '\n' || c == '\r'

/-- The text without the white space in front of it. -/
def skipSpace (s : List Char) : List Char :=
  s.dropWhile isSpace

/-- The number that the first four characters spell in hexadecimal, if at least one
more character follows them. -/
def fourHex? : List Char → Option (Nat × List Char)
  | a :: b :: c :: d :: e :: rest =>
    match hexDigit? a, hexDigit? b, hexDigit? c, hexDigit? d with
    | some a, some b, some c, some d => some (((a * 16 + b) * 16 + c) * 16 + d, e :: rest)
    | _, _, _, _ => none
  | _ => none

/-- The code point of a one-letter escape. -/
def letterEscape? (c : Char) : Option Nat :=
  if c == doubleQuote || c == backslash || c == '/' then some c.toNat
  else if c == 'b' then some 0x08
  else if c == 'f' then some 0x0C
  else if c == 'n' then some 0x0A
  else if c == 'r' then some 0x0D
  else if c == 't' then some 0x09
  else none

/-- The escape by number after the letter `u`, which `mark` is the rest from.  After the
first half of a surrogate pair, a second escape by number is read with it if it is the
other half. -/
def readNumberEscape (mark : List Char) : Except Stop (Nat × List Char) :=
  match fourHex? (mark.drop 1) with
  | none => stopAt .unicodeEscape mark
  | some (high, rest) =>
    match isHighSurrogate high, rest with
    | true, b :: u :: second =>
      if b == backslash && u == 'u' && 5 ≤ second.length then
        match fourHex? second with
        | none => stopAt .unicodeEscape (u :: second)
        | some (low, rest') =>
          if isLowSurrogate low then .ok (joinSurrogates high low, rest') else .ok (high, rest)
      else .ok (high, rest)
    | _, _ => .ok (high, rest)

/-- The escape after a backslash; `opening` is the length of the text from the opening
quote of the string. -/
def readEscape (opening : Nat) (s : List Char) : Except Stop (Nat × List Char) :=
  match s with
  | [] => .error (.malformed .unterminatedString opening)
  | c :: rest =>
    if c == 'u' then readNumberEscape s
    else match letterEscape? c with
      | some n => .ok (n, rest)
      | none => stopAt .escape (backslash :: s)

/-- The code points of a string up to its closing quote; `fuel` bounds the characters
read. -/
def readPoints (opening : Nat) : (fuel : Nat) → List Char → Except Stop (List Nat × List Char)
  | 0, _ => .error (.malformed .unterminatedString opening)
  | _ + 1, [] => .error (.malformed .unterminatedString opening)
  | fuel + 1, c :: rest =>
    if c == doubleQuote then .ok ([], rest)
    else if c == backslash then do
      let (n, rest) ← readEscape opening rest
      let (ns, rest) ← readPoints opening fuel rest
      .ok (n :: ns, rest)
    else if c.toNat < 0x20 then stopAt .controlCharacter (c :: rest)
    else do
      let (ns, rest) ← readPoints opening fuel rest
      .ok (c.toNat :: ns, rest)

/-- A string after its opening quote. -/
def readString (s : List Char) : Except Stop (List Nat × List Char) :=
  readPoints (s.length + 1) (s.length + 1) s

/-- The digits before the point of a number: a zero alone or a number without a
leading zero. -/
def wholeDigits : List Char → List Char × List Char
  | [] => ([], [])
  | c :: rest =>
    if c == '0' then ([c], rest)
    else ((c :: rest).takeWhile isDigit, (c :: rest).dropWhile isDigit)

/-- The digits after the point of a number, if a point and a digit follow. -/
def fractionDigits (s : List Char) : List Char × List Char :=
  match s with
  | '.' :: rest =>
    let digits := rest.takeWhile isDigit
    if digits.isEmpty then ([], s) else (digits, rest.dropWhile isDigit)
  | _ => ([], s)

/-- The exponent of a number, if a mark and a digit follow. -/
def exponentDigits (s : List Char) : Option Int × List Char :=
  match s with
  | [] => (none, s)
  | c :: rest =>
    if c == 'e' || c == 'E' then
      let (negative, rest) := Binary64.splitSign rest
      let digits := rest.takeWhile isDigit
      if digits.isEmpty then (none, s)
      else
        let n : Int := decimalValue digits
        (some (if negative then -n else n), rest.dropWhile isDigit)
    else (none, s)

/-- A number. -/
def readNumber (s : List Char) : Except Stop (Json × List Char) :=
  let (negative, unsigned) := match s with
    | '-' :: rest => (true, rest)
    | _ => (false, s)
  let (whole, afterWhole) := wholeDigits unsigned
  if whole.isEmpty then stopAt .value s
  else
    let (fraction, afterFraction) := fractionDigits afterWhole
    let (exponent, rest) := exponentDigits afterFraction
    if fraction.isEmpty && exponent.isNone then
      if integerDigitLimit < whole.length then .error .longInteger
      else
        let n : Int := decimalValue whole
        .ok (.int (if negative then -n else n), rest)
    else .ok (.float (Binary64.ofParts negative whole fraction (exponent.getD 0)), rest)

/-- The literals and their values. -/
def literals : List (List Char × Json) :=
  [("null".toList, .null), ("true".toList, .bool true), ("false".toList, .bool false),
    ("NaN".toList, .float .nan), ("Infinity".toList, .float (.infinite false)),
    ("-Infinity".toList, .float (.infinite true))]

/-- A literal in front of a text, and the rest of it. -/
def literal? (s : List Char) : Option (Json × List Char) :=
  literals.findSome? fun (word, v) =>
    if word.isPrefixOf s then some (v, s.drop word.length) else none

/-- A member stored in an object: in the place of one with the same key, or at the
end. -/
def storeMember (k : List Nat) (v : Json) : List (List Nat × Json) → List (List Nat × Json)
  | [] => [(k, v)]
  | (k', v') :: rest => if k' == k then (k, v) :: rest else (k', v') :: storeMember k v rest

/-- The value of a list of members: each key keeps the place of its first member and
takes the value of its last one. -/
def ofMembers (members : List (List Nat × Json)) : Json :=
  .object (members.foldl (fun known (k, v) => storeMember k v known) [])

mutual

/-- A value; `fuel` bounds the nesting and the number of items. -/
def readValue : (fuel : Nat) → List Char → Except Stop (Json × List Char)
  | 0, s => stopAt .value s
  | fuel + 1, s =>
    match s with
    | [] => stopAt .value s
    | c :: rest =>
      if c == doubleQuote then do
        let (points, rest) ← readString rest
        .ok (.text points, rest)
      else if c == '[' then
        match skipSpace rest with
        | ']' :: rest => .ok (.array [], rest)
        | rest => do
          let (items, rest) ← readItems fuel rest
          .ok (.array items, rest)
      else if c == '{' then
        match skipSpace rest with
        | '}' :: rest => .ok (.object [], rest)
        | rest => do
          let (members, rest) ← readMembers fuel rest
          .ok (ofMembers members, rest)
      else match literal? s with
        | some (v, rest) => .ok (v, rest)
        | none => readNumber s

/-- The items of an array up to its end, at least one. -/
def readItems : (fuel : Nat) → List Char → Except Stop (List Json × List Char)
  | 0, s => stopAt .value s
  | fuel + 1, s => do
    let (v, rest) ← readValue fuel s
    match skipSpace rest with
    | ']' :: rest => .ok ([v], rest)
    | ',' :: rest =>
      let (vs, rest) ← readItems fuel (skipSpace rest)
      .ok (v :: vs, rest)
    | rest => stopAt .comma rest

/-- The members of an object up to its end, at least one. -/
def readMembers : (fuel : Nat) → List Char → Except Stop (List (List Nat × Json) × List Char)
  | 0, s => stopAt .value s
  | fuel + 1, s =>
    match s with
    | [] => stopAt .propertyName s
    | c :: afterQuote =>
      if c == doubleQuote then do
        let (k, rest) ← readString afterQuote
        match skipSpace rest with
        | ':' :: rest =>
          let (v, rest) ← readValue fuel (skipSpace rest)
          match skipSpace rest with
          | '}' :: rest => .ok ([(k, v)], rest)
          | ',' :: rest =>
            let (more, rest) ← readMembers fuel (skipSpace rest)
            .ok ((k, v) :: more, rest)
          | rest => stopAt .comma rest
        | rest => stopAt .colon rest
      else stopAt .propertyName s

end

/-- The value of a whole text. -/
def readAll (s : List Char) : Except Stop Json :=
  match s with
  | '\uFEFF' :: _ => stopAt .byteOrderMark s
  | _ => do
    let (v, rest) ← readValue (2 * s.length + 2) (skipSpace s)
    match skipSpace rest with
    | [] => .ok v
    | rest => stopAt .extraData rest

/-- The value of the member in front of a text, with the text after it. -/
def memberValue? (s : List Char) : Option (List Char) :=
  match s with
  | [] => none
  | c :: afterQuote =>
    if c == doubleQuote then
      match readString afterQuote with
      | .error _ => none
      | .ok (_, rest) =>
        match skipSpace rest with
        | ':' :: rest => some (skipSpace rest)
        | _ => none
    else none

/-- What follows the value in front of a text and a comma after it. -/
def afterComma? (fuel : Nat) (s : List Char) : Option (List Char) :=
  match readValue fuel s with
  | .error _ => none
  | .ok (_, rest) =>
    match skipSpace rest with
    | ',' :: rest => some (skipSpace rest)
    | _ => none

mutual

/-- Whether more than so many arrays and objects inside one another are entered to read a value,
before anything is met that is not read. -/
def valueExceeds : (fuel levels : Nat) → List Char → Bool
  | 0, _, _ => false
  | fuel + 1, levels, s =>
    match s, levels with
    | '[' :: _, 0 => true
    | '{' :: _, 0 => true
    | '[' :: rest, levels + 1 => itemsExceed fuel levels (skipSpace rest)
    | '{' :: rest, levels + 1 => membersExceed fuel levels (skipSpace rest)
    | _, _ => false

/-- Whether more than so many levels are entered to read the items of an array. -/
def itemsExceed : (fuel levels : Nat) → List Char → Bool
  | 0, _, _ => false
  | fuel + 1, levels, s =>
    valueExceeds fuel levels s || (afterComma? fuel s).any (itemsExceed fuel levels)

/-- Whether more than so many levels are entered to read the members of an object. -/
def membersExceed : (fuel levels : Nat) → List Char → Bool
  | 0, _, _ => false
  | fuel + 1, levels, s =>
    (memberValue? s).any fun value =>
      valueExceeds fuel levels value || (afterComma? fuel value).any (membersExceed fuel levels)

end

/-- Whether more than so many arrays and objects inside one another are entered to read a text. -/
def exceeds (levels : Nat) (s : List Char) : Bool :=
  valueExceeds (2 * s.length + 2) levels (skipSpace s)

/-- A place in a text that is not JSON. -/
structure Malformed where
  /-- What is wrong there. -/
  reason : Reason
  /-- The number of characters before the place. -/
  position : Nat
  /-- The line of the place, counted from one. -/
  line : Nat
  /-- The column of the place, counted from one. -/
  column : Nat
deriving DecidableEq, Repr

/-- The place at which a text has `left` characters left. -/
def Malformed.at (reason : Reason) (s : List Char) (left : Nat) : Malformed :=
  let before := s.take (s.length - left)
  { reason
    position := before.length
    line := before.count '\n' + 1
    column := (before.reverse.takeWhile (· != '\n')).length + 1 }

/-- The wording of what is wrong with a text, with the place. -/
def Malformed.message (m : Malformed) : String :=
  s!"{m.reason.message}: line {m.line} column {m.column} (char {m.position})"

/-- Why a text has no value. -/
inductive Failure where
  /-- The text is not JSON. -/
  | malformed (place : Malformed)
  /-- An integer of the text has too many digits. -/
  | longInteger
deriving DecidableEq, Repr

/-- The value that a text spells. -/
def parse (s : List Char) : Except Failure Json :=
  match readAll s with
  | .ok v => .ok v
  | .error (.malformed reason left) => .error (.malformed (.at reason s left))
  | .error .longInteger => .error .longInteger

end Rollout.Json
