import SiteRuntime.Power

/-!
# Moments and the civil calendar

A `Moment` is a count of seconds since the start of 1970 in universal time, a fraction, and the
distance of local time from universal time. `Moment.date` and `Moment.clock` are its local date in
the Gregorian calendar and its local time of day.
-/

namespace SiteRuntime

/-! ### Dates -/

/-- A date of the Gregorian calendar, continued to all years. -/
structure Date where
  /-- The year; the year before 1 is 0. -/
  year : Int
  /-- The month from 1. -/
  month : Nat
  /-- The day of the month from 1. -/
  day : Nat
  /-- The day of the year from 1. -/
  ordinal : Nat
  /-- The day of the week, counted from Monday as 0. -/
  weekday : Nat
  deriving DecidableEq, Repr

namespace Date

/-- Whether a year has a 29th of February. -/
def isLeap (year : Int) : Bool := year % 4 = 0 && (year % 100 ≠ 0 || year % 400 = 0)

/-- The number of days before a year, counted from the start of year 0. -/
def daysBefore (year : Int) : Int :=
  let y := year - 1
  365 * year + y / 4 - y / 100 + y / 400 + 1

/-- The days between the start of year 0 and the start of 1970. -/
def epoch : Int := 719528

/-- The lengths of the months of a year. -/
def monthLengths (year : Int) : List Nat :=
  [31, if isLeap year then 29 else 28, 31, 30, 31, 30, 31, 31, 30, 31, 30, 31]

/-- The month and the day that a number of days leads to from the start of given months. -/
def monthAndDay (month : Nat) : List Nat → Nat → Nat × Nat
  | [], days => (month, days + 1)
  | length :: rest, days =>
    if days < length then (month, days + 1) else monthAndDay (month + 1) rest (days - length)

/-- The year that a day counted from the start of year 0 lies in: the guess from the mean length of
a year is off by one at most. -/
def yearOf (days : Int) : Int :=
  let guess := (days * 400) / 146097
  if days < daysBefore guess then guess - 1
  else if daysBefore (guess + 1) ≤ days then guess + 1
  else guess

/-- The date of a day, counted from the start of 1970. -/
def ofDays (n : Int) : Date :=
  let days := n + epoch
  let year := yearOf days
  let inYear := (days - daysBefore year).toNat
  let (month, day) := monthAndDay 1 (monthLengths year) inYear
  { year, month, day
    ordinal := inYear + 1
    weekday := ((n + 3) % 7).toNat }

/-- The number of weeks begun in the year, told the day on which weeks begin. -/
def weeksFrom (d : Date) (first : Nat) : Nat := (d.ordinal + 6 - (d.weekday + 7 - first) % 7) / 7

/-- The number of weeks in a year of whole weeks: 53 if it begins or ends with a Thursday. -/
def isoWeeks (year : Int) : Nat :=
  let first := (ofDays (daysBefore year - epoch)).weekday
  if first = 3 || (first = 2 && isLeap year) then 53 else 52

/-- The year and number of the week that a date lies in. Weeks begin on Monday and belong to the
year of their Thursday. -/
def isoWeek (d : Date) : Int × Nat :=
  let week := (d.ordinal + 9 - d.weekday) / 7
  if week = 0 then (d.year - 1, isoWeeks (d.year - 1))
  else if isoWeeks d.year < week then (d.year + 1, 1)
  else (d.year, week)

/-- The quarter of the year from 1. -/
def quarter (d : Date) : Nat := (d.month - 1) / 3 + 1

end Date

/-! ### Moments -/

/-- A point in time as it is seen at a place. -/
structure Moment where
  /-- Seconds since the start of 1970 in universal time. -/
  seconds : Int
  /-- Nanoseconds since then; from 10^9 on they lie in a leap second. -/
  nanos : Nat
  /-- How far local time is ahead of universal time, in seconds. -/
  offset : Int
  deriving DecidableEq, Repr

/-- A time of day. -/
structure Clock where
  /-- The hour from 0 to 23. -/
  hour : Nat
  /-- The minute. -/
  minute : Nat
  /-- The second, up to 60 in a leap second. -/
  second : Nat
  deriving DecidableEq, Repr

namespace Moment

/-- The number of nanoseconds in a second. -/
def nanosPerSecond : Nat := 1000000000

/-- The seconds since the start of 1970 as the local clock counts them. -/
def localSeconds (m : Moment) : Int := m.seconds + m.offset

/-- The local date. -/
def date (m : Moment) : Date := .ofDays (m.localSeconds / 86400)

/-- The local time of day. -/
def clock (m : Moment) : Clock :=
  let s := (m.localSeconds % 86400).toNat
  ⟨s / 3600, s / 60 % 60, s % 60 + m.nanos / nanosPerSecond⟩

/-- The nanoseconds within the second. -/
def fraction (m : Moment) : Nat := m.nanos % nanosPerSecond

end Moment

/-- The hour on a clock of twelve hours. -/
def Clock.hour12 (c : Clock) : Nat := if c.hour % 12 = 0 then 12 else c.hour % 12

/-- Whether the time is after noon. -/
def Clock.isAfternoon (c : Clock) : Bool := 12 ≤ c.hour

end SiteRuntime
