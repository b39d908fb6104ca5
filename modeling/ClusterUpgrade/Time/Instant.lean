import ClusterUpgrade.Text.Decimal

/-!
Instants of universal time on the proleptic Gregorian calendar, with leap seconds as second 60 of
their minute. Shifts move by whole minutes and by less than a day.
-/

namespace ClusterUpgrade

structure Date where
  year : Int
  month : Nat
  day : Nat
  deriving Repr, DecidableEq, Inhabited

namespace Date

def isLeapYear (year : Int) : Bool := year % 4 == 0 && (year % 100 != 0 || year % 400 == 0)

def daysInMonth (year : Int) (month : Nat) : Nat :=
  if month == 2 then (if isLeapYear year then 29 else 28)
  else if month == 4 || month == 6 || month == 9 || month == 11 then 30
  else 31

/-- The years that the calendar covers. -/
def minYear : Int := -262143
def maxYear : Int := 262142

/-- A day that exists, in a year that the calendar covers. -/
def IsValid (date : Date) : Prop :=
  minYear ≤ date.year ∧ date.year ≤ maxYear ∧ 1 ≤ date.month ∧ date.month ≤ 12 ∧ 1 ≤ date.day ∧
    date.day ≤ daysInMonth date.year date.month

instance (date : Date) : Decidable date.IsValid := by unfold IsValid; infer_instance

/-- The day after, unless the calendar ends. -/
def next? (date : Date) : Option Date :=
  if date.day < daysInMonth date.year date.month then some { date with day := date.day + 1 }
  else if date.month < 12 then some { date with month := date.month + 1, day := 1 }
  else if date.year < maxYear then some { year := date.year + 1, month := 1, day := 1 }
  else none

/-- The day before, unless the calendar begins. -/
def previous? (date : Date) : Option Date :=
  if 1 < date.day then some { date with day := date.day - 1 }
  else if 1 < date.month then
    some { date with month := date.month - 1, day := daysInMonth date.year (date.month - 1) }
  else if minYear < date.year then some { year := date.year - 1, month := 12, day := 31 }
  else none

end Date

/-- A point in time; `second` is 60 inside a leap second. -/
structure Instant where
  date : Date
  minuteOfDay : Nat
  second : Nat
  nanosecond : Nat
  deriving Repr, DecidableEq, Inhabited

namespace Instant

def minutesPerDay : Nat := 24 * 60

/-- All fields are in range. -/
def IsValid (instant : Instant) : Prop :=
  instant.date.IsValid ∧ instant.minuteOfDay < minutesPerDay ∧ instant.second ≤ 60 ∧
    instant.nanosecond < 1000000000

instance (instant : Instant) : Decidable instant.IsValid := by unfold IsValid; infer_instance

/-- The fields from the most to the least significant. -/
def fields (instant : Instant) : List Int :=
  [instant.date.year, instant.date.month, instant.date.day, instant.minuteOfDay, instant.second,
    instant.nanosecond]

/-- Strictly earlier: the first field that differs is smaller. -/
def isBefore (first second : Instant) : Bool := decide (first.fields < second.fields)

/-- The same second of the day in another minute, less than a day away. -/
def shiftMinutes? (instant : Instant) (minutes : Int) : Option Instant :=
  let shifted := instant.minuteOfDay + minutes
  if shifted < 0 then do
    return { instant with
      date := ← instant.date.previous?, minuteOfDay := (shifted + minutesPerDay).toNat }
  else if shifted < minutesPerDay then some { instant with minuteOfDay := shifted.toNat }
  else do
    return { instant with
      date := ← instant.date.next?, minuteOfDay := (shifted - minutesPerDay).toNat }

/-- The instant some minutes later; leaving a leap second leads to the second before it. At the end
of the calendar the instant stays where it is. -/
def addMinutes (instant : Instant) (minutes : Nat) : Instant :=
  ((instant.shiftMinutes? minutes).map fun later =>
    { later with second := min later.second 59 }).getD instant

/-- The start of 1970. -/
def epoch : Instant :=
  { date := { year := 1970, month := 1, day := 1 }, minuteOfDay := 0, second := 0, nanosecond := 0 }

end Instant

end ClusterUpgrade
