/-!
# The calendar

Dates of the proleptic Gregorian calendar and their day numbers, counted from 1970-01-01.

A year is taken to begin in March, which puts the leap day at its end: the months before it then
have lengths that repeat every five months, and the years fall into groups of 4, 100 and 400. The
day number is a sum over these groups (`Date.dayNumber`), and the date is read back from the largest
group down (`Date.ofDayNumber`).
-/

namespace StatusRollup

/-- A date of the proleptic Gregorian calendar; year 0 is the year before year 1. -/
structure Date where
  /-- The year. -/
  year : Int
  /-- The month, from 1 to 12. -/
  month : Nat
  /-- The day of the month, from 1. -/
  day : Nat
  deriving DecidableEq

namespace Date

/-- Every fourth year is a leap year, except centuries that 400 does not divide. -/
def IsLeap (year : Int) : Prop :=
  year % 4 = 0 ∧ (year % 100 ≠ 0 ∨ year % 400 = 0)

instance (year : Int) : Decidable (IsLeap year) :=
  inferInstanceAs (Decidable (_ ∧ _))

/-- The length of a month. -/
def daysInMonth (year : Int) : (month : Nat) → Nat
  | 2 => if IsLeap year then 29 else 28
  | 4 | 6 | 9 | 11 => 30
  | _ => 31

/-- The date exists. -/
def Exists (d : Date) : Prop :=
  1 ≤ d.month ∧ d.month ≤ 12 ∧ 1 ≤ d.day ∧ d.day ≤ daysInMonth d.year d.month

instance (d : Date) : Decidable d.Exists :=
  inferInstanceAs (Decidable (_ ∧ _ ∧ _ ∧ _))

/-- Days from 0000-03-01 to 1970-01-01. -/
def epochOffset : Int := 719468

/-- Days from 1970-01-01 to the date, negative before it. -/
def dayNumber (d : Date) : Int :=
  let year := if d.month ≤ 2 then d.year - 1 else d.year
  let month := if d.month ≤ 2 then d.month + 9 else d.month - 3
  365 * year + year / 4 - year / 100 + year / 400 + ((153 * month + 2) / 5 + d.day - 1 : Nat)
    - epochOffset

/-- The date so many days after 1970-01-01. -/
def ofDayNumber (n : Int) : Date :=
  let days := n + epochOffset
  let dayOfEra := (days % 146097).toNat
  let century := min 3 (dayOfEra / 36524)
  let dayOfCentury := dayOfEra - 36524 * century
  let dayOfGroup := dayOfCentury % 1461
  let yearOfGroup := min 3 (dayOfGroup / 365)
  let dayOfYear := dayOfGroup - 365 * yearOfGroup
  let year := 400 * (days / 146097) + (100 * century + 4 * (dayOfCentury / 1461) + yearOfGroup : Nat)
  let month := (5 * dayOfYear + 2) / 153
  let day := dayOfYear - (153 * month + 2) / 5 + 1
  if month < 10 then ⟨year, month + 3, day⟩ else ⟨year + 1, month - 9, day⟩

/-- The first representable day, -262143-01-01. -/
def firstDay : Int := dayNumber ⟨-262143, 1, 1⟩

/-- The last representable day, +262142-12-31. -/
def lastDay : Int := dayNumber ⟨262142, 12, 31⟩

end Date

end StatusRollup
