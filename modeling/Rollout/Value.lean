import Rollout.Json.Printer
import Rollout.Table

/-!
# Property values

The values that parameters resolve to, with the texts they take: inside a payload, as
JSON, and on their own.  A fragment is text that is already JSON and is never escaped.
-/

namespace Rollout

/-- A property value, of a kind that JSON has a form for. -/
inductive Value where
  /-- No value. -/
  | null
  /-- A truth value. -/
  | bool (b : Bool)
  /-- An integer of any size. -/
  | int (n : Int)
  /-- A double-precision number. -/
  | float (x : Binary64)
  /-- A plain text. -/
  | text (s : String)
  /-- A text that is already JSON. -/
  | fragment (s : String)
  /-- A list of values. -/
  | list (items : List Value)
  /-- A map from texts to values, as its entries in order. -/
  | map (entries : List (String × Value))
deriving Inhabited

/-- Named values in the order in which they were set. -/
abbrev Properties := Table String Value

/-- Why a value has no text. -/
inductive Unwritable where
  /-- An integer has more digits than are written. -/
  | longInteger
deriving DecidableEq, Repr

/-- The wording of the reason. -/
def Unwritable.message : Unwritable → String
  | .longInteger =>
    "Exceeds the limit (4300 digits) for integer string conversion; "
      ++ "use sys.set_int_max_str_digits() to increase the limit"

namespace Value

/-- The name of a value's type. -/
def typeName : Value → String
  | .null => "NoneType"
  | .bool _ => "bool"
  | .int _ => "int"
  | .float _ => "float"
  | .text _ => "str"
  | .fragment _ => "JsonFragment"
  | .list _ => "list"
  | .map _ => "dict"

mutual

/-- The JSON value that a value is written as. -/
def toJson : Value → Json
  | .null => .null
  | .bool b => .bool b
  | .int n => .int n
  | .float x => .float x
  | .text s => .ofText s
  | .fragment s => .ofText s
  | .list items => .array (toJson.items items)
  | .map entries => .object (toJson.entries entries)

/-- The JSON values of a list of values. -/
def toJson.items : List Value → List Json
  | [] => []
  | v :: rest => toJson v :: toJson.items rest

/-- The members of the JSON object of a map. -/
def toJson.entries : List (String × Value) → List (List Nat × Json)
  | [] => []
  | (k, v) :: rest => (Json.points k, toJson v) :: toJson.entries rest

end

/-- Whether a value holds an integer with more digits than are written. -/
def hasLongInteger (v : Value) : Bool :=
  v.toJson.hasLongInteger

/-- The text of a value inside a payload: a text as it is, anything else as JSON, save
that a number on its own keeps its plain spelling. -/
def format : Value → Except Unwritable String
  | .text s => .ok s
  | .fragment s => .ok s
  | .float x => .ok (String.ofList (x.render .plain))
  | v => if v.hasLongInteger then .error .longInteger else .ok (String.ofList v.toJson.render)

mutual

/-- Whether more than so many lists and maps inside one another are entered to write a value, before
anything is met that is not written. -/
def exceeds (levels : Nat) : Value → Bool
  | .list items =>
    match levels with
    | 0 => true
    | levels + 1 => exceeds.items levels items
  | .map entries =>
    match levels with
    | 0 => true
    | levels + 1 => exceeds.entries levels entries
  | _ => false

/-- Whether more than so many levels are entered to write a list of values. -/
def exceeds.items (levels : Nat) : List Value → Bool
  | [] => false
  | v :: rest => exceeds levels v || (!v.hasLongInteger && exceeds.items levels rest)

/-- Whether more than so many levels are entered to write the entries of a map. -/
def exceeds.entries (levels : Nat) : List (String × Value) → Bool
  | [] => false
  | (_, v) :: rest => exceeds levels v || (!v.hasLongInteger && exceeds.entries levels rest)

end

/-- A text escaped for the inside of a JSON string. -/
def escapeText (s : String) : String :=
  String.ofList (Json.stringBody .verbatim (Json.points s))

/-- A value made safe for the inside of a JSON string: a plain text is escaped and all
else stays as it is. -/
def escape : Value → Value
  | .text s => .text (escapeText s)
  | v => v

/-- The text inside a plain text or a fragment. -/
def text? : Value → Option String
  | .text s => some s
  | .fragment s => some s
  | _ => none

/-- Whether a value that is no text counts as true: nothing, zero and whatever is empty
do not. -/
def isTruthy : Value → Bool
  | .null => false
  | .bool b => b
  | .int n => n != 0
  | .float x => !x.isZero
  | .text s => !s.isEmpty
  | .fragment s => !s.isEmpty
  | .list items => !items.isEmpty
  | .map entries => !entries.isEmpty

mutual

/-- A value as it is shown inside another one, with its texts quoted. -/
def literal : Value → List Char
  | .null => ['N', 'o', 'n', 'e']
  | .bool true => ['T', 'r', 'u', 'e']
  | .bool false => ['F', 'a', 'l', 's', 'e']
  | .int n => Json.integerText n
  | .float x => x.render .plain
  | .text s => Text.quoteChars s.toList
  | .fragment s => Text.quoteChars s.toList
  | .list [] => ['[', ']']
  | .list (v :: rest) => '[' :: (Value.literal v ++ literalItems rest)
  | .map [] => ['{', '}']
  | .map ((k, v) :: rest) =>
    '{' :: (Text.quoteChars k.toList ++ ':' :: ' ' :: (Value.literal v ++ literalEntries rest))

/-- The items of a list after the first one, and its end. -/
def literalItems : List Value → List Char
  | [] => [']']
  | v :: rest => ',' :: ' ' :: (Value.literal v ++ literalItems rest)

/-- The entries of a map after the first one, and its end. -/
def literalEntries : List (String × Value) → List Char
  | [] => ['}']
  | (k, v) :: rest =>
    ',' :: ' ' :: (Text.quoteChars k.toList
      ++ ':' :: ' ' :: (Value.literal v ++ literalEntries rest))

end

/-- The text of a value on its own. -/
def display : Value → Except Unwritable String
  | .text s => .ok s
  | .fragment s => .ok s
  | v => if v.hasLongInteger then .error .longInteger else .ok (String.ofList (Value.literal v))

end Value

/-- Properties made safe for the inside of JSON strings. -/
def Properties.escape (properties : Properties) : Properties :=
  Table.map Value.escape properties

@[simp]
theorem Properties.find?_escape
    (properties : Properties) (name : String) :
  properties.escape.find? name = (properties.find? name).map Value.escape
  := Table.find?_map _ _ _

end Rollout
