import Rollout.Document
import Rollout.Text.Digits
import Rollout.Yaml.Token

/-!
# Dates as plain scalars

The dates that plain scalars have the form of: on their own, or with a time of the day.
-/

namespace Rollout.Yaml

open Rollout.Text

/-- Whether a character is a blank on a line. -/
def isBlankOnLine (c : Char) : Bool :=
  c == ' ' || c == '\t'

/-- Some digits at the front of a text, and the rest. -/
def takeDigits? (least most : Nat) (s : List Char) : Option (List Char × List Char) :=
  let digits := (s.take most).takeWhile isDigit
  if least ≤ digits.length then some (digits, s.drop digits.length) else none

/-- The text after a character. -/
def after? (c : Char) : List Char → Option (List Char)
  | d :: rest => if d == c then some rest else none
  | [] => none

/-- The minutes by which a clock is ahead of UTC, as they are written at the end of a time of
the day: all the text, after blanks. -/
def zone? (s : List Char) : Option (Option Int) :=
  match s.dropWhile isBlankOnLine with
  | [] => if s.isEmpty then some none else none
  | ['Z'] => some (some 0)
  | sign :: rest =>
    let minutes : Option Int := match takeDigits? 1 2 rest with
      | some (hours, []) => some (60 * decimalValue hours)
      | some (hours, ':' :: more) =>
        match takeDigits? 2 2 more with
        | some (minutes, []) => some (60 * decimalValue hours + decimalValue minutes)
        | _ => none
      | _ => none
    if sign == '+' then minutes.map some
    else if sign == '-' then minutes.map (fun m => some (-m))
    else none

/-- The microseconds that the digits of a fraction amount to; digits beyond the sixth do not
count. -/
def microseconds (fraction : List Char) : Nat :=
  decimalValue ((fraction ++ List.replicate 6 '0').take 6)

/-- What a clock shows on a day, if the whole text is a time of the day with a fraction and a
zone, if it has them. -/
def clock? (year month day : Nat) (s : List Char) : Option Timestamp := do
  let (hour, rest) ← takeDigits? 1 2 s
  let (minute, rest) ← takeDigits? 2 2 (← after? ':' rest)
  let (second, rest) ← takeDigits? 2 2 (← after? ':' rest)
  let fraction := (after? '.' rest).map (fun more => more.takeWhile isDigit)
  let ahead ← zone? (rest.drop (fraction.elim 0 (fun digits => digits.length + 1)))
  return {
    year, month, day
    hour := decimalValue hour
    minute := decimalValue minute
    second := decimalValue second
    microsecond := microseconds (fraction.getD [])
    ahead }

/-- What is wrong with a date. -/
def dateFault? (year month day : Nat) : Option String :=
  if year = 0 then some "year 0 is out of range"
  else if month = 0 || 12 < month then some "month must be in 1..12"
  else if day = 0 || Calendar.daysIn year month < day then some "day is out of range for month"
  else none

/-- What is wrong with the zone of a clock: it is a day or more from UTC. -/
def zoneFault? (ahead : Option Int) : Option String :=
  match ahead with
  | some minutes =>
    if minutes.natAbs < 1440 then none
    else some ("offset must be a timedelta strictly between -timedelta(hours=24) and "
      ++ "timedelta(hours=24), not " ++ Timestamp.durationText minutes ++ ".")
  | none => none

/-- What is wrong with what a clock shows: its zone, its date, or its time. -/
def clockFault? (t : Timestamp) : Option String :=
  (zoneFault? t.ahead).or ((dateFault? t.year t.month t.day).or
    (if 23 < t.hour then some "hour must be in 0..23"
     else if 59 < t.minute then some "minute must be in 0..59"
     else if 59 < t.second then some "second must be in 0..59"
     else none))

/-- What was found, unless something is wrong with it. -/
def unlessFault (found : Document) : Option String → Except Failure Document
  | some message => .error (.badValue message)
  | none => .ok found

/-- The date, with or without a time of the day, that a text has the form of. -/
def date? (s : List Char) : Option (Except Failure Document) := do
  let (year, rest) ← takeDigits? 4 4 s
  let (month, rest) ← takeDigits? 1 2 (← after? '-' rest)
  let (day, rest) ← takeDigits? 1 2 (← after? '-' rest)
  let (y, m, d) := (decimalValue year, decimalValue month, decimalValue day)
  match rest with
  | [] =>
    if month.length = 2 && day.length = 2 then
      return unlessFault (.date y m d) (dateFault? y m d)
    else none
  | c :: time =>
    let time ← if c == 'T' || c == 't' then some time
      else if isBlankOnLine c then some (time.dropWhile isBlankOnLine)
      else none
    let t ← clock? y m d time
    return unlessFault (.moment t) (clockFault? t)

end Rollout.Yaml
