/-!
# Points in time

A timestamp counts nanoseconds since the start of 1970 in universal time, and may be negative.
`Date` is a day of the proleptic Gregorian calendar, which continues today's rules for leap years
into the past.

`Date.toDays` counts the days from the first of January 1970, and `Date.ofDays` goes back.  Both
count years from March, so that the leap day is the last day of a year and the lengths of the other
months follow one linear rule, and both reduce to a cycle of 400 years first, after which the
calendar repeats.  That the two are inverse to each other is shown in
`MetricsAgent.Proofs.Timestamp.Calendar`.

Divisions round down, also below zero: a moment before 1970 belongs to the day, the second and the
millisecond that began last before it.
-/

set_option autoImplicit false

namespace MetricsAgent

/-- Nanoseconds since the start of 1970, in universal time. -/
structure Timestamp where
  nanos : Int
  deriving DecidableEq, Inhabited

namespace Timestamp

/-- The start of 1970. -/
def epoch : Timestamp := ⟨0⟩

/-- A number of milliseconds since the start of 1970. -/
def ofMillis (n : Int) : Timestamp := ⟨n * 1000000⟩

/-- The whole milliseconds since the start of 1970, rounded down. -/
def millis (t : Timestamp) : Int := t.nanos.fdiv 1000000

end Timestamp

/-- A day of the proleptic Gregorian calendar. -/
structure Date where
  year : Int
  month : Nat
  day : Nat
  deriving DecidableEq, Repr

namespace Date

/-- Leap years are the multiples of four, less those of a hundred, plus those of four hundred. -/
def isLeap (year : Int) : Bool := year % 4 = 0 && (year % 100 ≠ 0 || year % 400 = 0)

/-- The number of days of a month. -/
def monthLength (year : Int) (month : Nat) : Nat :=
  if month = 2 then if isLeap year then 29 else 28
  else if month = 4 ∨ month = 6 ∨ month = 9 ∨ month = 11 then 30
  else 31

/-- Whether the calendar has this day. -/
def isValid (d : Date) : Bool :=
  1 ≤ d.month && d.month ≤ 12 && 1 ≤ d.day && d.day ≤ monthLength d.year d.month

/-- Days from the first of January 1970. Years are counted from March, so that a leap day comes
last, in cycles of 400 years. -/
def toDays (d : Date) : Int :=
  let y := if d.month ≤ 2 then d.year - 1 else d.year
  let cycle := y.fdiv 400
  let yearOfCycle := y - cycle * 400
  let monthFromMarch : Int := ((d.month + 9) % 12 : Nat)
  let dayOfYear := (153 * monthFromMarch + 2) / 5 + d.day - 1
  let dayOfCycle := yearOfCycle * 365 + yearOfCycle / 4 - yearOfCycle / 100 + dayOfYear
  cycle * 146097 + dayOfCycle - 719468

/-- The day a number of days after the first of January 1970. -/
def ofDays (days : Int) : Date :=
  let z := days + 719468
  let cycle := z.fdiv 146097
  let dayOfCycle := z - cycle * 146097
  let yearOfCycle :=
    (dayOfCycle - dayOfCycle / 1460 + dayOfCycle / 36524 - dayOfCycle / 146096) / 365
  let dayOfYear := dayOfCycle - (365 * yearOfCycle + yearOfCycle / 4 - yearOfCycle / 100)
  let monthFromMarch := (5 * dayOfYear + 2) / 153
  let day := (dayOfYear - (153 * monthFromMarch + 2) / 5 + 1).toNat
  let month := ((monthFromMarch + 2) % 12 + 1).toNat
  ⟨yearOfCycle + cycle * 400 + (if month ≤ 2 then 1 else 0), month, day⟩

end Date

end MetricsAgent
