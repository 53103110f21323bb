import EarthStation.Binary64
import EarthStation.Decimal.Fixed

/-!
# Instant — points in time

* `Instant`: microseconds since the beginning of 1970, without leap seconds.
* `Timeline`: instants that can be moved by a number of minutes.
* `CalendarDate`, `Instant.calendar`: the date and the time of day.
* `Instant.sidereal`: the angle that the Earth has turned.
-/

namespace EarthStation

/-- A point in time: whole microseconds since 1970-01-01T00:00:00Z. -/
structure Instant where
  micros : Int
deriving DecidableEq, Repr

/-- The least number in 64 bits with a sign. -/
def leastSigned : Int := -9223372036854775808

/-- The greatest number in 64 bits with a sign. -/
def greatestSigned : Int := 9223372036854775807

def nanosPerMilli : Nat := 1000000

def nanosPerSecond : Nat := 1000000000

/-- Instants that can be moved by a number of minutes. -/
class Timeline (τ : Type) (α : outParam Type) where
  later : τ → α → τ

/-- Moves by a number of minutes, rounded to whole microseconds (halves away from zero). -/
instance : Timeline Instant Float where
  later t minutes := ⟨t.micros + Binary64.nearest leastSigned greatestSigned (minutes * 60e6)⟩

/-- A day of the calendar. -/
structure CalendarDate where
  year : Int
  month : Nat
  day : Nat
deriving DecidableEq, Repr

namespace CalendarDate

/-- The date that lies `days` days after 1970-01-01.  Years are counted from March, so that the leap
day is the last of its year, in eras of 400 years. -/
def ofDays (days : Int) : CalendarDate :=
  let shifted := days + 719468
  let era := shifted / 146097
  let dayOfEra := (shifted % 146097).toNat
  let yearOfEra := (dayOfEra - dayOfEra / 1460 + dayOfEra / 36524 - dayOfEra / 146096) / 365
  let dayOfYear := dayOfEra - (365 * yearOfEra + yearOfEra / 4 - yearOfEra / 100)
  let shiftedMonth := (5 * dayOfYear + 2) / 153
  let month := if shiftedMonth < 10 then shiftedMonth + 3 else shiftedMonth - 9
  { year := (yearOfEra : Int) + era * 400 + (if month ≤ 2 then 1 else 0)
    month
    day := dayOfYear - (153 * shiftedMonth + 2) / 5 + 1 }

/-- The number of days from 1970-01-01 to the first day of a year. -/
def daysToYear (year : Int) : Int :=
  let before := year - 1
  365 * (year - 1970) + (before / 4 - 492) - (before / 100 - 19) + (before / 400 - 4)

/-- Holds of years with 366 days. -/
def isLeap (year : Int) : Bool := (year % 4 == 0 && year % 100 != 0) || year % 400 == 0

end CalendarDate

namespace Instant

def microsPerDay : Int := 86400000000

/-- The date of an instant and the microseconds since its midnight. -/
def calendar (t : Instant) : CalendarDate × Nat :=
  (CalendarDate.ofDays (t.micros / microsPerDay), (t.micros % microsPerDay).toNat)

/-- Years of 365.25 days from noon of 2000-01-01 to a number of nanoseconds after the beginning of
1970.  The whole days are counted by a formula that is valid from 1901 to 2099. -/
def julianYearsOfNanos (nanos : Int) : Float :=
  let nanosPerDay : Int := 86400000000000
  let date := CalendarDate.ofDays (nanos / nanosPerDay)
  let time := (nanos % nanosPerDay).toNat
  let days : Int := 367 * date.year
    - Int.tdiv (7 * (date.year + Int.tdiv (date.month + 9) 12)) 4
    + (275 * date.month / 9 : Nat) + date.day - 730531
  let seconds : Int := time / 1000000000
  Float.ofInt days / 365.25
    + Float.ofInt (seconds - 43200) / (24.0 * 60.0 * 60.0 * 365.25)
    + Float.ofNat (time % 1000000000) / (24.0 * 60.0 * 60.0 * 1e9 * 365.25)

/-- Years of 365.25 days since noon of 2000-01-01. -/
def julianYears (t : Instant) : Float := julianYearsOfNanos (t.micros * 1000)

def pi : Float := 3.14159265358979323846

/-- The sidereal angle for a number of years since the beginning of 2000, in radians. -/
def siderealOfYears (years : Float) : Float :=
  let c := years / 100.0
  let seconds := -6.2e-6 * (c * c * c) + 0.093104 * (c * c)
    + (876600.0 * 3600.0 + 8640184.812866) * c + 67310.54841
  Binary64.wrap (seconds * (pi / 180.0) / 240.0) (2.0 * pi)

/-- The sidereal angle at an instant, in radians. -/
def sidereal (t : Instant) : Float := siderealOfYears t.julianYears

/-- Two digits, or more where two do not suffice. -/
def twoDigits (n : Nat) : String :=
  if n < 10 then "0" ++ toString n else toString n

/-- Date and time of day to the second, as in `2025-06-01 12:30:00`. -/
def stamp (t : Instant) : String :=
  let (date, micros) := t.calendar
  let seconds := micros / 1000000
  let year := toString date.year.toNat
  let year := String.ofList (List.replicate (4 - year.length) '0') ++ year
  year ++ "-" ++ twoDigits date.month ++ "-" ++ twoDigits date.day ++ " "
    ++ twoDigits (seconds / 3600) ++ ":" ++ twoDigits (seconds / 60 % 60) ++ ":"
    ++ twoDigits (seconds % 60)

end Instant

end EarthStation
