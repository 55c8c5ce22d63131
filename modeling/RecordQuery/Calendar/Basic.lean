/-! The proleptic Gregorian calendar. Days are counted from the first of January 1970, and there is
a year zero. A moment is a day and a second of that day, in universal time.
-/

namespace RecordQuery.Calendar

/-- A year with a twenty-ninth of February. -/
def isLeap (year : Int) : Bool :=
  year % 4 == 0 && (year % 100 != 0 || year % 400 == 0)

/-- The lengths of the months of a year, January first. -/
def monthLengths (year : Int) : List Nat :=
  [31, if isLeap year then 29 else 28, 31, 30, 31, 30, 31, 31, 30, 31, 30, 31]

/-- The length of a month, none if there is no such month; January is month 1. -/
def monthLength? (year : Int) (month : Nat) : Option Nat :=
  if month = 0 then none else (monthLengths year)[month - 1]?

/-- The day number of the first day of a year: 365 days a year and a day for each leap year. -/
def yearStart (year : Int) : Int :=
  365 * year + (year + 3) / 4 - (year + 99) / 100 + (year + 399) / 400 - 719528

/-- The days of a year before one of its months. -/
def daysBefore (year : Int) (month : Nat) : Nat :=
  ((monthLengths year).take (month - 1)).foldl (· + ·) 0

/-- The earliest year of a moment. -/
def firstYear : Int := -262143

/-- The latest year of a moment. -/
def lastYear : Int := 262142

/-- A day of a month of a year. -/
structure Date where
  year : Int
  month : Nat
  day : Nat
  deriving DecidableEq

/-- There is such a day, and moments reach it. -/
def Date.isValid (date : Date) : Bool :=
  firstYear ≤ date.year && date.year ≤ lastYear && 1 ≤ date.day
    && (match monthLength? date.year date.month with
        | some length => date.day ≤ length
        | none => false)

/-- The day number of a date. -/
def Date.number (date : Date) : Int :=
  yearStart date.year + daysBefore date.year date.month + (date.day - 1 : Nat)

/-- The year of a day number. The mean year has 146097 days in 400 years, and a year that is found
with it is at most one off.
-/
def yearOf (day : Int) : Int :=
  let guess := (day + 719528) * 400 / 146097
  if day < yearStart guess then guess - 1
  else if yearStart (guess + 1) ≤ day then guess + 1
  else guess

/-- The month in which a day of the year lies and its place there, counting months from `month`. -/
def monthOf (dayOfYear : Nat) (month : Nat) : List Nat → Nat × Nat
  | [] => (month, dayOfYear + 1)
  | length :: rest =>
    if dayOfYear < length then (month, dayOfYear + 1)
    else monthOf (dayOfYear - length) (month + 1) rest

/-- The date of a day number. -/
def Date.ofNumber (day : Int) : Date :=
  let year := yearOf day
  let (month, dayOfMonth) := monthOf (day - yearStart year).toNat 1 (monthLengths year)
  ⟨year, month, dayOfMonth⟩

/-- The day of the week of a day number, Sunday first; the first of January 1970 was a Thursday. -/
def weekday (day : Int) : Nat :=
  ((day + 4) % 7).toNat

/-- The seconds of a day. -/
def daySeconds : Nat := 86400

/-- A second of a day. -/
structure Moment where
  day : Int
  second : Nat
  deriving DecidableEq

namespace Moment

/-- The moment a number of seconds after the start of 1970. -/
def ofSeconds (seconds : Int) : Moment :=
  ⟨seconds / daySeconds, (seconds % daySeconds).toNat⟩

/-- The date of a moment. -/
def date (moment : Moment) : Date := Date.ofNumber moment.day

def hour (moment : Moment) : Nat := moment.second / 3600

def minute (moment : Moment) : Nat := moment.second / 60 % 60

def secondOfMinute (moment : Moment) : Nat := moment.second % 60

/-- The moment a number of milliseconds after the start of 1970, where moments reach. -/
def ofMilliseconds? (milliseconds : Int) : Option Moment :=
  let moment := ofSeconds (milliseconds / 1000)
  if yearStart firstYear ≤ moment.day ∧ moment.day < yearStart (lastYear + 1) then some moment
  else none

end Moment

/-- A time of day with the offset of its clock, in minutes, from universal time. -/
structure ClockTime where
  hour : Nat
  minute : Nat
  second : Nat
  offset : Int
  deriving DecidableEq

/-- A time that a clock shows; a leap second is shown as second 60. -/
def ClockTime.isValid (time : ClockTime) : Bool :=
  time.hour < 24 && time.minute < 60 && time.second ≤ 60 && -1440 < time.offset
    && time.offset < 1440

/-- The moment of a date and a time, if there are such; a leap second is part of the second before.
-/
def Moment.ofClock? (date : Date) (time : ClockTime) : Option Moment :=
  if date.isValid && time.isValid then
    some (.ofSeconds
      (date.number * daySeconds + (time.hour * 3600 + time.minute * 60 + min time.second 59 : Nat)
        - time.offset * 60))
  else none

end RecordQuery.Calendar
