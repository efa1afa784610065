import Rollout.Decimal.Shortest
import Rollout.Json.Basic
import Rollout.Text.Quoted

/-!
# Writing JSON

The text of a JSON value on one line, and the text of a value over several lines.
Inside a string the double quote, the backslash and the control characters are
escaped; a style says whether characters beyond ASCII are escaped too.
-/

namespace Rollout.Json

open Rollout.Text

/-- Which characters of a string are written as they are. -/
inductive Style where
  /-- Every character that need not be escaped. -/
  | verbatim
  /-- The printable ASCII characters alone. -/
  | ascii
deriving DecidableEq, Repr

/-- The escape of a code point by number, as a surrogate pair beyond the first plane. -/
def numberEscape (n : Nat) : List Char :=
  if n < 0x10000 then backslash :: 'u' :: hex 4 n
  else
    let m := n - 0x10000
    (backslash :: 'u' :: hex 4 (0xD800 + m / 0x400))
      ++ (backslash :: 'u' :: hex 4 (0xDC00 + m % 0x400))

/-- Whether a code point is written as it is. -/
def isPlain (style : Style) (n : Nat) : Bool :=
  match style with
  | .verbatim => 0x20 ≤ n && !isSurrogate n
  | .ascii => 0x20 ≤ n && n < 0x7F

/-- One code point of a string. -/
def escapePoint (style : Style) (n : Nat) : List Char :=
  if n = doubleQuote.toNat then [backslash, doubleQuote]
  else if n = backslash.toNat then [backslash, backslash]
  else if n = 0x0A then [backslash, 'n']
  else if n = 0x0D then [backslash, 'r']
  else if n = 0x09 then [backslash, 't']
  else if n = 0x08 then [backslash, 'b']
  else if n = 0x0C then [backslash, 'f']
  else if isPlain style n then [Char.ofNat n]
  else numberEscape n

/-- The text between the quotes of a string. -/
def stringBody (style : Style) (points : List Nat) : List Char :=
  points.flatMap (escapePoint style)

/-- A string with its quotes. -/
def stringText (style : Style) (points : List Nat) : List Char :=
  doubleQuote :: (stringBody style points ++ [doubleQuote])

/-- An integer. -/
def integerText : Int → List Char
  | .ofNat n => Nat.toDigits 10 n
  | .negSucc n => '-' :: Nat.toDigits 10 (n + 1)

mutual

/-- A value on one line, with a space after each comma and each colon. -/
def render : Json → List Char
  | .null => ['n', 'u', 'l', 'l']
  | .bool true => ['t', 'r', 'u', 'e']
  | .bool false => ['f', 'a', 'l', 's', 'e']
  | .int n => integerText n
  | .float x => x.render .json
  | .text points => stringText .verbatim points
  | .array [] => ['[', ']']
  | .array (x :: rest) => '[' :: (render x ++ renderItems rest)
  | .object [] => ['{', '}']
  | .object ((k, x) :: rest) =>
    '{' :: (stringText .verbatim k ++ ':' :: ' ' :: (render x ++ renderMembers rest))

/-- The items of an array after the first one, and its end. -/
def renderItems : List Json → List Char
  | [] => [']']
  | x :: rest => ',' :: ' ' :: (render x ++ renderItems rest)

/-- The members of an object after the first one, and its end. -/
def renderMembers : List (List Nat × Json) → List Char
  | [] => ['}']
  | (k, x) :: rest =>
    ',' :: ' ' :: (stringText .verbatim k ++ ':' :: ' ' :: (render x ++ renderMembers rest))

end

/-- A line break and the margin of a nesting depth. -/
def lineBreak (depth : Nat) : List Char :=
  '\n' :: List.replicate (2 * depth) ' '

mutual

/-- A value over several lines, two spaces deeper inside each array and object, in
ASCII characters. -/
def layout (depth : Nat) : Json → List Char
  | .text points => stringText .ascii points
  | .array (x :: rest) =>
    '[' :: (lineBreak (depth + 1) ++ layout (depth + 1) x ++ layoutItems depth rest)
  | .object ((k, x) :: rest) =>
    '{' :: (lineBreak (depth + 1) ++ stringText .ascii k ++ ':' :: ' ' :: layout (depth + 1) x
      ++ layoutMembers depth rest)
  | v => render v

/-- The items of an array after the first one, and its end. -/
def layoutItems (depth : Nat) : List Json → List Char
  | [] => lineBreak depth ++ [']']
  | x :: rest =>
    ',' :: (lineBreak (depth + 1) ++ layout (depth + 1) x ++ layoutItems depth rest)

/-- The members of an object after the first one, and its end. -/
def layoutMembers (depth : Nat) : List (List Nat × Json) → List Char
  | [] => lineBreak depth ++ ['}']
  | (k, x) :: rest =>
    ',' :: (lineBreak (depth + 1) ++ stringText .ascii k ++ ':' :: ' ' :: layout (depth + 1) x
      ++ layoutMembers depth rest)

end

end Rollout.Json
