/-!
# Calendar dates

Dates of the proleptic Gregorian calendar and the days counted from 1970-01-01.
-/

namespace AuditTrail.Time

/-- A calendar date; months and days count from one. -/
structure Date where
  year : Int
  month : Nat
  day : Nat
  deriving DecidableEq, Repr

namespace Date

/-- The year has a 29th of February. -/
def isLeap (year : Int) : Bool :=
  year % 4 == 0 && (year % 100 != 0 || year % 400 == 0)

/-- Days of a month. -/
def daysInMonth (year : Int) (month : Nat) : Nat :=
  match month with
  | 2 => if isLeap year then 29 else 28
  | 4 | 6 | 9 | 11 => 30
  | _ => 31

/-- The date is one of the calendar. -/
def IsValid (d : Date) : Prop :=
  1 ≤ d.month ∧ d.month ≤ 12 ∧ 1 ≤ d.day ∧ d.day ≤ daysInMonth d.year d.month

instance (d : Date) : Decidable d.IsValid :=
  inferInstanceAs (Decidable (_ ∧ _))

/-- Days of the months before this one in a year that begins in March. -/
def daysBeforeMonth (monthFromMarch : Int) : Int :=
  (153 * monthFromMarch + 2) / 5

/-- Days from 1970-01-01. -/
def toDays (d : Date) : Int :=
  let year := if d.month ≤ 2 then d.year - 1 else d.year
  let month : Int := (d.month + 9) % 12
  365 * year + year / 4 - year / 100 + year / 400 + daysBeforeMonth month + d.day - 1 - 719468

/-- The date that many days from 1970-01-01. Years are counted from March, so that a leap day is
the last of its year, in cycles of 400 years. -/
def ofDays (days : Int) : Date :=
  let shifted := days + 719468
  let cycle := shifted / 146097
  let dayOfCycle := shifted % 146097
  let yearOfCycle :=
    (dayOfCycle - dayOfCycle / 1460 + dayOfCycle / 36524 - dayOfCycle / 146096) / 365
  let dayOfYear := dayOfCycle - (365 * yearOfCycle + yearOfCycle / 4 - yearOfCycle / 100)
  let monthFromMarch := (5 * dayOfYear + 2) / 153
  let month := if monthFromMarch < 10 then monthFromMarch + 3 else monthFromMarch - 9
  { year := 400 * cycle + yearOfCycle + if month ≤ 2 then 1 else 0
    month := month.toNat
    day := (dayOfYear - daysBeforeMonth monthFromMarch + 1).toNat }

/-- The day of the year, from one. -/
def ordinal (d : Date) : Nat :=
  (d.toDays - (Date.mk d.year 1 1).toDays).toNat + 1

/-- Days since Monday. -/
def weekday (d : Date) : Nat :=
  ((d.toDays + 3) % 7).toNat

/-- The quarter of the year, from one. -/
def quarter (d : Date) : Nat :=
  (d.month - 1) / 3 + 1

/-- The week of the year, in which the weeks before the first day `firstDay` of the year, counted
from Monday, make the week zero. -/
def weekFrom (d : Date) (firstDay : Nat) : Nat :=
  (d.ordinal + 6 - (d.weekday + 7 - firstDay) % 7) / 7

/-- Weeks of a year in which a week belongs to the year that has its Thursday. -/
def isoWeeksInYear (year : Int) : Nat :=
  let first := (Date.mk year 1 1).weekday
  if first = 3 ∨ first = 2 ∧ isLeap year then 53 else 52

/-- Year and number of the week, which belongs to the year that has its Thursday. -/
def isoWeek (d : Date) : Int × Nat :=
  let week := (d.ordinal + 9 - d.weekday) / 7
  if week = 0 then (d.year - 1, isoWeeksInYear (d.year - 1))
  else if isoWeeksInYear d.year < week then (d.year + 1, 1)
  else (d.year, week)

end Date

end AuditTrail.Time
