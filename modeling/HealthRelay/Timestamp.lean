/-!
Points in time and the calendar.

The calendar counts in years that begin in March, so that the leap day is the last day of its year,
and in eras of 400 years, which all have the same number of days.
-/

namespace HealthRelay

/-- A day of the Gregorian calendar, extended to all years. -/
structure Date where
  year : Int
  month : Nat
  day : Nat
  deriving DecidableEq

namespace Date

def isLeap (year : Int) : Bool := year % 4 = 0 && (year % 100 != 0 || year % 400 = 0)

def daysInMonth (year : Int) (month : Nat) : Nat :=
  if month = 2 then (if isLeap year then 29 else 28)
  else if month = 4 ∨ month = 6 ∨ month = 9 ∨ month = 11 then 30
  else 31

/-- The calendar has this day. -/
def isValid (d : Date) : Bool :=
  1 ≤ d.month && d.month ≤ 12 && 1 ≤ d.day && d.day ≤ daysInMonth d.year d.month

/-- Days since the first of January 1970. -/
def toDays (d : Date) : Int :=
  let year := if d.month ≤ 2 then d.year - 1 else d.year
  let era := year / 400
  let yearOfEra := year % 400
  let month := (d.month + 9) % 12
  let dayOfYear := (153 * month + 2) / 5 + d.day - 1
  era * 146097 + (yearOfEra * 365 + yearOfEra / 4 - yearOfEra / 100 + dayOfYear) - 719468

/-- The day so many days after the first of January 1970. -/
def ofDays (days : Int) : Date :=
  let shifted := days + 719468
  let era := shifted / 146097
  let dayOfEra := (shifted % 146097).toNat
  let yearOfEra := (dayOfEra - dayOfEra / 1460 + dayOfEra / 36524 - dayOfEra / 146096) / 365
  let dayOfYear := dayOfEra - (365 * yearOfEra + yearOfEra / 4 - yearOfEra / 100)
  let march := (5 * dayOfYear + 2) / 153
  let day := dayOfYear - (153 * march + 2) / 5 + 1
  let month := if march < 10 then march + 3 else march - 9
  ⟨yearOfEra + era * 400 + (if month ≤ 2 then 1 else 0), month, day⟩

end Date

/-- A point in time in UTC, in seconds since the first of January 1970 and nanoseconds. Within the
last second of a minute the nanoseconds may run to two seconds, for a leap second. -/
structure Timestamp where
  seconds : Int
  nanos : Nat
  seconds_ge : -8334601228800 ≤ seconds
  seconds_le : seconds ≤ 8210266876799
  nanos_lt : nanos < 2000000000
  leap : 1000000000 ≤ nanos → seconds % 60 = 59
  deriving DecidableEq

namespace Timestamp

/-- The point in time with the given seconds and nanoseconds, if there is one. -/
def ofUnix? (seconds nanos : Int) : Option Timestamp :=
  if h : -8334601228800 ≤ seconds ∧ seconds ≤ 8210266876799 ∧ nanos.toNat < 2000000000 ∧
      (1000000000 ≤ nanos.toNat → seconds % 60 = 59) ∧ 0 ≤ nanos then
    some ⟨seconds, nanos.toNat, h.1, h.2.1, h.2.2.1, h.2.2.2.1⟩
  else none

/-- The first of January 1970. -/
def epoch : Timestamp := ⟨0, 0, by decide, by decide, by decide, by decide⟩

instance : Inhabited Timestamp := ⟨epoch⟩

/-- The day. -/
def date (t : Timestamp) : Date := .ofDays (t.seconds / 86400)

/-- The second of the day. -/
def secondOfDay (t : Timestamp) : Nat := (t.seconds % 86400).toNat

end Timestamp

end HealthRelay
