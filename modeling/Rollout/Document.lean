import Rollout.Decimal.Binary64
import Rollout.Timestamp

/-!
# Documents

The data of a settings file or of a config as it is written down, before anything is
known of what it should be.
-/

namespace Rollout

/-- A piece of data. -/
inductive Document where
  /-- Nothing. -/
  | null
  /-- A truth value. -/
  | bool (b : Bool)
  /-- An integer. -/
  | int (n : Int)
  /-- A double-precision number. -/
  | float (x : Binary64)
  | text (s : String)
  | date (year month day : Nat)
  /-- A date with a time of the day. -/
  | moment (t : Timestamp)
  | list (items : List Document)
  /-- A map, as its entries in order. -/
  | map (entries : List (Document × Document))
deriving Inhabited

namespace Document

/-- The word for the type of a piece of data. -/
def typeName : Document → String
  | .null => "NoneType"
  | .bool _ => "bool"
  | .int _ => "int"
  | .float _ => "float"
  | .text _ => "str"
  | .date _ _ _ => "date"
  | .moment _ => "datetime"
  | .list _ => "list"
  | .map _ => "dict"

/-- The text that a piece of data is. -/
def text? : Document → Option String
  | .text s => some s
  | _ => none

/-- What a map holds under a text. -/
def entry? (name : String) : List (Document × Document) → Option Document
  | [] => none
  | (.text key, v) :: rest => if key = name then some v else entry? name rest
  | _ :: rest => entry? name rest

end Document

end Rollout
