import StatusRollup.Calendar

/-!
# Day numbers and dates

Every day number is the day number of one date that exists, the one that `Date.ofDayNumber` finds.

Both halves (`dayNumber_ofDayNumber`, `exists_ofDayNumber`) rest on the same account of a day number
(`exists_groups`): how many whole eras, centuries, groups of four years and years lie before it, and
which day of its year it is. Years begin in March here. The 366th day of a year is where the
calendar is irregular; it comes only at the end of a group of four years, and at the end of a
century's last group only if the century is the last one of its era. Those years end in a leap year.
-/

namespace StatusRollup.Date

/-! ### Dates of a year that begins in March -/

/-- The date of a day, counted from 0, in a year that begins in March of a calendar year. -/
def ofMarchYear (year : Int) (dayOfYear : Nat) : Date :=
  let month := (5 * dayOfYear + 2) / 153
  let day := dayOfYear - (153 * month + 2) / 5 + 1
  if month < 10 then ⟨year, month + 3, day⟩ else ⟨year + 1, month - 9, day⟩

/-- The month of a day, counted from 0 in March, and the days before that month and the next one. -/
theorem month_of_dayOfYear {dayOfYear : Nat} (h : dayOfYear ≤ 365) :
    let month := (5 * dayOfYear + 2) / 153
    month ≤ 11 ∧ (153 * month + 2) / 5 ≤ dayOfYear ∧ dayOfYear < (153 * (month + 1) + 2) / 5 := by
  intro month
  omega

/-- A month but for February has all the days up to the next one. -/
theorem daysInMonth_of_lt (year : Int) {month : Nat} (h : month < 11) :
    daysInMonth year (if month < 10 then month + 3 else month - 9) =
      (153 * (month + 1) + 2) / 5 - (153 * month + 2) / 5 := by
  match month, h with
  | 0, _ | 1, _ | 2, _ | 3, _ | 4, _ | 5, _ | 6, _ | 7, _ | 8, _ | 9, _ | 10, _ => rfl

theorem dayNumber_ofMarchYear {year : Int} {dayOfYear : Nat} (h : dayOfYear ≤ 365) :
    (ofMarchYear year dayOfYear).dayNumber =
      365 * year + year / 4 - year / 100 + year / 400 + dayOfYear - epochOffset := by
  obtain ⟨hmonth, hbefore, -⟩ := month_of_dayOfYear h
  rw [ofMarchYear]
  generalize (5 * dayOfYear + 2) / 153 = month at hmonth hbefore
  by_cases hten : month < 10
  · have hspring : ¬month + 3 ≤ 2 := by omega
    simp only [if_pos hten, dayNumber, if_neg hspring, Nat.add_sub_cancel]
    omega
  · have hwinter : month - 9 ≤ 2 := by omega
    have hback : month - 9 + 9 = month := by omega
    simp only [if_neg hten, dayNumber, if_pos hwinter, hback, Int.add_sub_cancel]
    omega

/-- The date exists; the 366th day of the year does if the year ends in a leap year. -/
theorem exists_ofMarchYear {year : Int} {dayOfYear : Nat} (h : dayOfYear ≤ 365)
    (hleap : dayOfYear = 365 → IsLeap (year + 1)) : (ofMarchYear year dayOfYear).Exists := by
  obtain ⟨hmonth, hbefore, hafter⟩ := month_of_dayOfYear h
  rw [ofMarchYear]
  generalize hm : (5 * dayOfYear + 2) / 153 = month at hmonth hbefore hafter
  rcases Nat.lt_or_ge month 11 with hlt | hge
  · have hlength (year : Int) := daysInMonth_of_lt year hlt
    by_cases hten : month < 10
    · simp only [if_pos hten, Exists] at hlength ⊢
      rw [hlength]
      omega
    · simp only [if_neg hten, Exists] at hlength ⊢
      rw [hlength]
      omega
  · -- February is the last month, and the only one whose length depends on the year
    obtain rfl : month = 11 := by omega
    by_cases hlast : dayOfYear = 365
    · have hlength : daysInMonth (year + 1) 2 = 29 := if_pos (hleap hlast)
      simp only [Exists, if_neg (show ¬11 < 10 by decide), hlength]
      omega
    · have hlength : 28 ≤ daysInMonth (year + 1) (11 - 9) := by
        show 28 ≤ if IsLeap (year + 1) then 29 else 28
        split <;> omega
      simp only [Exists, if_neg (show ¬11 < 10 by decide)]
      omega

/-! ### Dates of day numbers -/

/-- **The groups of years.** A day number in whole eras, centuries, groups of four years, years and
days, and what a 366th day says about its year. -/
theorem exists_groups (n : Int) :
    ∃ (era : Int) (century group year dayOfYear : Nat),
      ofDayNumber n = ofMarchYear (400 * era + (100 * century + 4 * group + year : Nat)) dayOfYear ∧
      n + epochOffset =
        146097 * era + (36524 * century + 1461 * group + 365 * year + dayOfYear : Nat) ∧
      century ≤ 3 ∧ group ≤ 24 ∧ year ≤ 3 ∧ dayOfYear ≤ 365 ∧
      (dayOfYear = 365 → year = 3 ∧ (group = 24 → century = 3)) := by
  refine ⟨_, _, _, _, _, rfl, ?_⟩
  omega

/-- **A day number is that of the date found for it.** -/
theorem dayNumber_ofDayNumber (n : Int) : (ofDayNumber n).dayNumber = n := by
  obtain ⟨era, century, group, year, dayOfYear, hdate, hn, hcentury, hgroup, hyear, hday, -⟩ :=
    exists_groups n
  rw [hdate, dayNumber_ofMarchYear hday]
  omega

/-- **The date found for a day number exists.** The last of a group of four years is a leap year,
unless it ends a century that is not the last one of its era. -/
theorem exists_ofDayNumber (n : Int) : (ofDayNumber n).Exists := by
  obtain ⟨era, century, group, year, dayOfYear, hdate, -, hcentury, hgroup, -, hday, hlast⟩ :=
    exists_groups n
  rw [hdate]
  refine exists_ofMarchYear hday fun h ↦ ?_
  obtain ⟨rfl, hcenturies⟩ := hlast h
  unfold IsLeap
  omega

end StatusRollup.Date
