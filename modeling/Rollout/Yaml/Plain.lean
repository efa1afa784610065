import Rollout.Yaml.Date
import Rollout.Yaml.Number

/-!
# Plain scalars

What a plain scalar stands for: a truth value, a number, a date or nothing if it has the
form of one, and a text otherwise.
-/

namespace Rollout.Yaml

/-- The words that stand for truth values. -/
def truthWords : List (String × Bool) :=
  [("yes", true), ("Yes", true), ("YES", true), ("no", false), ("No", false), ("NO", false),
    ("true", true), ("True", true), ("TRUE", true), ("false", false), ("False", false),
    ("FALSE", false), ("on", true), ("On", true), ("ON", true), ("off", false), ("Off", false),
    ("OFF", false)]

/-- The words that stand for nothing. -/
def nullWords : List String :=
  ["", "~", "null", "Null", "NULL"]

/-- The plain scalar that is no data except as the key of a map, where it is a text. -/
def valueMark : String := "="

/-- The plain scalar that is no data but the key under which a map takes in other maps. -/
def mergeMark : String := "<<"

/-- What a plain scalar stands for. -/
def ofPlain (s : String) : Except Failure Document :=
  let cs := s.toList
  match truthWords.lookup s with
  | some b => .ok (.bool b)
  | none =>
    if nullWords.contains s then .ok .null
    else match float? cs, integer? cs, date? cs with
      | some r, _, _ => r.map .float
      | none, some r, _ => r
      | none, none, some r => r
      | none, none, none =>
        if s = valueMark || s = mergeMark then .error .malformed else .ok (.text s)

/-- What a plain scalar stands for as the key of a map. -/
def ofPlainKey (s : String) : Except Failure Document :=
  if s = valueMark then .ok (.text s) else ofPlain s

end Rollout.Yaml
