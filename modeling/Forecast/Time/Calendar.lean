import Forecast.Time.Basic

/-!
# The Gregorian calendar

Dates of the proleptic Gregorian calendar and their day numbers counted from 1970-01-01.  A year
is taken to start in March, so that the leap day is its last day; four hundred such years always
have 146097 days.
-/

namespace Forecast

/-- A calendar date. -/
structure Date where
  /-- Astronomical year; the year before 1 is 0. -/
  year : Int
  /-- Month, from 1. -/
  month : Nat
  /-- Day of the month, from 1. -/
  day : Nat
deriving DecidableEq

namespace Date

/-- Whether February of a year has 29 days. -/
def isLeapYear (year : Int) : Bool :=
  decide (year % 4 = 0 ∧ (year % 100 ≠ 0 ∨ year % 400 = 0))

/-- Number of days in a month of a year, zero when there is no such month. -/
def daysInMonth (year : Int) (month : Nat) : Nat :=
  match month with
  | 1 | 3 | 5 | 7 | 8 | 10 | 12 => 31
  | 4 | 6 | 9 | 11 => 30
  | 2 => if isLeapYear year then 29 else 28
  | _ => 0

/-- Whether the calendar has the date. -/
def isValid (date : Date) : Bool :=
  decide (1 ≤ date.day ∧ date.day ≤ daysInMonth date.year date.month)

/-- Days from 1970-01-01 to a date. -/
def dayNumber (date : Date) : Int :=
  let year := if date.month ≤ 2 then date.year - 1 else date.year
  let month := if date.month ≤ 2 then date.month + 9 else date.month - 3
  let era := year.fdiv 400
  let yearOfEra := year - era * 400
  let dayOfYear := ((153 * month + 2) / 5 + date.day - 1 : Int)
  era * 146097 + yearOfEra * 365 + yearOfEra / 4 - yearOfEra / 100 + dayOfYear - 719468

/-- The date a number of days after 1970-01-01. -/
def ofDayNumber (days : Int) : Date :=
  let shifted := days + 719468
  let era := shifted.fdiv 146097
  let dayOfEra := (shifted - era * 146097).toNat
  let yearOfEra := (dayOfEra - dayOfEra / 1460 + dayOfEra / 36524 - dayOfEra / 146096) / 365
  let dayOfYear := dayOfEra - (365 * yearOfEra + yearOfEra / 4 - yearOfEra / 100)
  let month := (5 * dayOfYear + 2) / 153
  let year := era * 400 + yearOfEra
  { year := if month < 10 then year else year + 1
    month := if month < 10 then month + 3 else month - 9
    day := dayOfYear - (153 * month + 2) / 5 + 1 }

end Date

/-- A date with a time of day. -/
structure Clock where
  date : Date
  /-- Hour of the day. -/
  hour : Nat
  /-- Minute of the hour. -/
  minute : Nat
  /-- Second of the minute; 60 in a leap second. -/
  second : Nat
  /-- Nanosecond of the second. -/
  nanosecond : Nat
deriving DecidableEq

namespace Instant

/-- What a clock in universal time shows. -/
def clock (instant : Instant) : Clock :=
  let ofDay := instant.secondOfDay.toNat
  { date := Date.ofDayNumber (instant.second.fdiv secondsPerDay)
    hour := ofDay / 3600
    minute := ofDay / 60 % 60
    second := ofDay % 60 + instant.nanosecond / 1000000000
    nanosecond := instant.nanosecond % 1000000000 }

/-- The instant at which a clock that is some seconds ahead of universal time shows a reading.  A
second numbered 60 is the leap second behind the one before.  The instant must be representable
both where it is read and in universal time. -/
def ofClock? (clock : Clock) (ahead : Int) : Option Instant := do
  let seconds :=
    clock.date.dayNumber * secondsPerDay
      + (clock.hour * 3600 + clock.minute * 60 + Nat.min clock.second 59 : Nat)
  let nanoseconds := clock.nanosecond + if clock.second = 60 then 1000000000 else 0
  let read ← ofSeconds? seconds nanoseconds
  ofSeconds? (read.second - ahead) read.nanosecond

end Instant

/-- The first representable day starts the range of instants. -/
example : Instant.ofClock? ⟨⟨-262143, 1, 1⟩, 0, 0, 0, 0⟩ 0 = some Instant.earliest := by decide

/-- The last nanosecond of the last representable day ends it. -/
example :
    Instant.ofClock? ⟨⟨262142, 12, 31⟩, 23, 59, 59, 999999999⟩ 0 = some Instant.latest := by
  decide

/-- The leap day of a year divisible by four hundred. -/
example : Date.ofDayNumber (Date.dayNumber ⟨2000, 2, 29⟩) = ⟨2000, 2, 29⟩ := by decide

end Forecast
