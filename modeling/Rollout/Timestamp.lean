import Rollout.Calendar

/-!
# Timestamps

A date with a time of the day, as a clock shows it.  How far the clock is ahead of UTC may
be known or not.
-/

namespace Rollout

/-- What a clock shows. -/
structure Timestamp where
  year : Nat
  /-- The month, from 1. -/
  month : Nat
  /-- The day of the month, from 1. -/
  day : Nat
  hour : Nat
  /-- The minute of the hour. -/
  minute : Nat
  /-- The second of the minute. -/
  second : Nat
  /-- The microsecond of the second. -/
  microsecond : Nat
  /-- The minutes by which the clock is ahead of UTC, if they are known. -/
  ahead : Option Int
deriving DecidableEq, Repr

namespace Timestamp

/-- The seconds from the beginning of the year 1 in UTC, for a clock that is ahead of it by
some minutes. -/
def seconds (t : Timestamp) (ahead : Int) : Int :=
  Calendar.daySeconds * Calendar.dayNumber t.year t.month t.day
    + (3600 * t.hour + 60 * t.minute + t.second : Nat) - 60 * ahead

/-- Whether two clocks show the same moment.  One of which it is not known how far it is
ahead agrees with no clock of which it is known. -/
def same (s t : Timestamp) : Bool :=
  match s.ahead, t.ahead with
  | none, none => s == t
  | some m, some n => s.seconds m == t.seconds n && s.microsecond == t.microsecond
  | _, _ => false

/-- The fields that are shown: from the year to the minute, and after that up to the last one
that is not zero. -/
def fields (t : Timestamp) : List Nat :=
  [t.year, t.month, t.day, t.hour, t.minute]
    ++ (if t.microsecond != 0 then [t.second, t.microsecond]
        else if t.second != 0 then [t.second]
        else [])

/-- A number of minutes as an expression: the days, rounded down, and the seconds beyond
them. -/
def durationText (minutes : Int) : String :=
  let days := minutes.fdiv 1440
  let seconds := 60 * minutes.fmod 1440
  let parts := (if days = 0 then [] else [s!"days={days}"])
    ++ (if seconds = 0 then [] else [s!"seconds={seconds}"])
  let inner := if parts.isEmpty then "0" else String.intercalate ", " parts
  s!"datetime.timedelta({inner})"

/-- The zone of a clock that is some minutes ahead of UTC, as an expression. -/
def zoneText (ahead : Int) : String :=
  if ahead = 0 then "datetime.timezone.utc"
  else "datetime.timezone(" ++ durationText ahead ++ ")"

/-- A timestamp as an expression. -/
def text (t : Timestamp) : String :=
  let fields := String.intercalate ", " (t.fields.map toString)
  let zone := match t.ahead with
    | none => ""
    | some ahead => ", tzinfo=" ++ zoneText ahead
  s!"datetime.datetime({fields}{zone})"

end Timestamp

end Rollout
