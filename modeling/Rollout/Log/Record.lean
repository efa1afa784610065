import Rollout.Calendar
import Rollout.Log.Level

/-!
# Log records

A record is a message with its level, the logger that it comes from and the moment at
which it was made.  A layout says what of it a line shows.
-/

namespace Rollout.Log

/-- A message for the log. -/
structure Record where
  /-- The logger that it comes from. -/
  logger : String
  /-- How grave it is, which may be any number. -/
  level : Int
  /-- The line of the program that it comes from. -/
  line : Int
  /-- What it tells. -/
  message : String
  /-- The moment at which it was made, in seconds. -/
  moment : Int
deriving DecidableEq, Repr

/-- What a line of the log shows of a record. -/
inductive Layout where
  /-- The message alone. -/
  | bare
  /-- The message, and the level of a problem before it. -/
  | plain
  /-- The time of the day and the message, and the level of a problem before them. -/
  | timed
  /-- The time of the day, the level, where the record comes from, and the message. -/
  | located
  /-- All of that, and the date before it. -/
  | dated
deriving DecidableEq, Repr

/-- A name with blanks behind it, so that it is at least five characters wide. -/
def column (name : String) : String :=
  name ++ String.ofList (List.replicate (5 - name.length) ' ')

/-- The level of a record, where it comes from, and its message. -/
def Record.place (r : Record) : String :=
  s!"{column (levelName r.level)} {r.logger}:{r.line} — {r.message}"

/-- The level of a problem in small letters, and nothing for other records. -/
def Record.mark (r : Record) : String :=
  if warning ≤ r.level then (levelName r.level).toLower ++ ": " else ""

namespace Layout

/-- What a line in a layout shows of a record. -/
def text : Layout → Record → String
  | bare, r => r.message
  | plain, r => r.mark ++ r.message
  | timed, r => s!"{r.mark}{Calendar.clockText r.moment} {r.message}"
  | located, r => s!"{Calendar.clockText r.moment} {r.place}"
  | dated, r => s!"{Calendar.dateText r.moment} {Calendar.clockText r.moment} {r.place}"

/-- The layout of the console at a level: the more records it shows, the more it tells of
each. -/
def ofLevel (level : Nat) : Layout :=
  if level ≤ debug then located else if level ≤ info then timed else plain

end Layout

end Rollout.Log
