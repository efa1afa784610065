/-!
# Log levels

A level is a number, and the higher it is the graver is a record of it.  Some levels have
names, in any letter case.
-/

namespace Rollout.Log

/-- The level of the gravest records. -/
def critical : Nat := 50
/-- The level of failures. -/
def error : Nat := 40
/-- The level of warnings. -/
def warning : Nat := 30
/-- The level of progress. -/
def info : Nat := 20
/-- The level of details. -/
def debug : Nat := 10

/-- The names of levels. -/
def levelNames : List (String × Nat) :=
  [("CRITICAL", critical), ("FATAL", critical), ("ERROR", error), ("WARNING", warning),
    ("WARN", warning), ("INFO", info), ("DEBUG", debug), ("NOTSET", 0)]

/-- The upper case of a character, as far as it may be part of the name of a level: beside
the small letters of ASCII, the characters whose upper case is written in ASCII are the
dotless i, the long s, the sharp s and the ligatures of f and of s and t. -/
def upperChar (c : Char) : List Char :=
  if c == '\u0131' then ['I']
  else if c == '\u017f' then ['S']
  else if c == '\u00df' then ['S', 'S']
  else if c == '\ufb00' then ['F', 'F']
  else if c == '\ufb01' then ['F', 'I']
  else if c == '\ufb02' then ['F', 'L']
  else if c == '\ufb03' then ['F', 'F', 'I']
  else if c == '\ufb04' then ['F', 'F', 'L']
  else if c == '\ufb05' || c == '\ufb06' then ['S', 'T']
  else [c.toUpper]

/-- The upper case of a name, as far as it may be the name of a level. -/
def upper (name : String) : String :=
  String.ofList (name.toList.flatMap upperChar)

/-- The level of a name. -/
def level? (name : String) : Option Nat :=
  levelNames.lookup (upper name)

/-- The level of a name, or that of warnings if it names none. -/
def levelOf (name : String) : Nat :=
  (level? name).getD warning

/-- The name of a level, or its number. -/
def levelName (level : Int) : String :=
  match level with
  | 50 => "CRITICAL"
  | 40 => "ERROR"
  | 30 => "WARNING"
  | 20 => "INFO"
  | 10 => "DEBUG"
  | 0 => "NOTSET"
  | n => s!"Level {n}"

end Rollout.Log
