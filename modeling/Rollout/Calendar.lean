/-!
# Calendar

The date and the time of the day of a moment, which is a number of seconds since the
beginning of 1970.  Dates are those of the Gregorian calendar, whose pattern repeats every
400 years.
-/

namespace Rollout

/-- A date. -/
structure Date where
  year : Int
  /-- The month, from 1. -/
  month : Nat
  /-- The day of the month, from 1. -/
  day : Nat
deriving DecidableEq, Repr

namespace Calendar

/-- The seconds of a day. -/
def daySeconds : Int := 86400

/-- The days of 400 years. -/
def eraDays : Int := 146097

/-- The days from the first of March of the year 0 to the beginning of 1970. -/
def shift : Int := 719468

/-- The year of a day of an era, both counted from 0; a year begins with March. -/
def yearOfEra (day : Nat) : Nat :=
  (day - day / 1460 + day / 36524 - day / 146096) / 365

/-- The days of an era before a year of it. -/
def daysBefore (year : Nat) : Nat :=
  365 * year + year / 4 - year / 100

/-- The date of a day of an era, both counted from 0. -/
def dateOfEra (era : Int) (day : Nat) : Date :=
  let year := yearOfEra day
  let dayOfYear := day - daysBefore year
  let month := (5 * dayOfYear + 2) / 153
  let day := dayOfYear - (153 * month + 2) / 5 + 1
  if month < 10 then ⟨400 * era + year, month + 3, day⟩
  else ⟨400 * era + year + 1, month - 9, day⟩

/-- The date of a moment. -/
def dateOf (moment : Int) : Date :=
  let days := moment.fdiv daySeconds + shift
  dateOfEra (days.fdiv eraDays) (days.fmod eraDays).toNat

/-- Whether a year has a leap day. -/
def isLeap (year : Nat) : Bool :=
  year % 4 = 0 && (year % 100 != 0 || year % 400 = 0)

/-- The number of days in a month. -/
def daysIn (year month : Nat) : Nat :=
  if month = 2 then if isLeap year then 29 else 28
  else if month = 4 || month = 6 || month = 9 || month = 11 then 30
  else 31

/-- The number of a date, counted from the first day of the year 1. -/
def dayNumber (year month day : Nat) : Nat :=
  let past := year - 1
  365 * past + past / 4 - past / 100 + past / 400
    + (List.range (month - 1)).foldl (fun days m => days + daysIn year (m + 1)) 0 + day

/-- The second of the day of a moment. -/
def secondOfDay (moment : Int) : Nat :=
  (moment.fmod daySeconds).toNat

/-- A number below 100 in two digits. -/
def twoDigits (n : Nat) : String :=
  if n < 10 then s!"0{n}" else toString n

/-- The time of the day of a moment. -/
def clockText (moment : Int) : String :=
  let second := secondOfDay moment
  s!"{twoDigits (second / 3600)}:{twoDigits (second / 60 % 60)}:{twoDigits (second % 60)}"

/-- The date of a moment, year first. -/
def dateText (moment : Int) : String :=
  let date := dateOf moment
  s!"{date.year}-{twoDigits date.month}-{twoDigits date.day}"

end Calendar

end Rollout
