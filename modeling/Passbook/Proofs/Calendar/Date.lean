/-
**A day belongs to one month of one year.**

Months are counted through from the year zero: `Date.monthIndex` of a date, `firstDay` of a month.

* `daysBeforeYear_succ`: a year is as long as its twelve months;
* `yearOf_spec`, `monthOf_spec`: the year and the month that are computed of a day hold it;
* `ofDayNumber_spec`: so the date of a day exists, and its day is that day;
* `firstDay_succ`: a month ends where the next one starts;
* `firstDay_le_iff`: the days from the first of a month on are those of this month and later ones.
-/

import Mathlib.Order.Monotone.Basic
import Passbook.Calendar.Date

namespace Passbook.Calendar

/-! ### Years -/

/-- The twelve months of a year. -/
theorem daysBeforeMonth_year (leap : Bool) :
    daysBeforeMonth leap 13 = 365 + if leap then 1 else 0 := by
  cases leap <;> rfl

theorem isLeapYear_iff {year : Int} :
    isLeapYear year = true ↔ (year % 4 = 0 ∧ year % 100 ≠ 0) ∨ year % 400 = 0 := by
  simp [isLeapYear]

/-- A year is as long as its twelve months. -/
theorem daysBeforeYear_succ (year : Int) :
    daysBeforeYear (year + 1) = daysBeforeYear year + daysBeforeMonth (isLeapYear year) 13 := by
  rw [daysBeforeMonth_year]
  unfold daysBeforeYear
  by_cases leap : isLeapYear year = true
  · have rule := isLeapYear_iff.mp leap
    rw [if_pos leap]
    omega
  · have rule := mt isLeapYear_iff.mpr leap
    rw [if_neg leap]
    omega

namespace Date

/-- The year that is computed of a day holds it. -/
theorem yearOf_spec (day : Int) :
    daysBeforeYear (yearOf day).1 + (yearOf day).2 = day ∧
      (yearOf day).2 < daysBeforeMonth (isLeapYear (yearOf day).1) 13 := by
  simp only [yearOf]
  generalize fourHundreds_is : day / 146097 = fourHundreds
  generalize inFourHundred_is : day % 146097 = inFourHundred
  generalize hundreds_is : min 3 (inFourHundred / 36524) = hundreds
  generalize inHundred_is : inFourHundred - hundreds * 36524 = inHundred
  generalize fours_is : inHundred / 1461 = fours
  generalize inFour_is : inHundred % 1461 = inFour
  generalize ones_is : min 3 (inFour / 365) = ones
  have hundredsRange : 0 ≤ hundreds ∧ hundreds ≤ 3 := by omega
  have inHundredRange : 0 ≤ inHundred ∧ inHundred ≤ 36524 ∧
      (inHundred = 36524 → hundreds = 3) := by omega
  have foursRange : 0 ≤ fours ∧ fours ≤ 24 := by omega
  have onesRange : 0 ≤ ones ∧ ones ≤ 3 := by omega
  have rest : 0 ≤ inFour - ones * 365 ∧ inFour - ones * 365 ≤ 365 ∧
      (inFour - ones * 365 = 365 → ones = 3 ∧ inFour = 1460) := by omega
  constructor
  · have byFour : (400 * fourHundreds + 100 * hundreds + 4 * fours + ones + 1 - 1) / 4 =
        100 * fourHundreds + 25 * hundreds + fours := by omega
    have byHundred : (400 * fourHundreds + 100 * hundreds + 4 * fours + ones + 1 - 1) / 100 =
        4 * fourHundreds + hundreds := by omega
    have byFourHundred : (400 * fourHundreds + 100 * hundreds + 4 * fours + ones + 1 - 1) / 400 =
        fourHundreds := by omega
    rw [daysBeforeYear, byFour, byHundred, byFourHundred]
    omega
  · rw [daysBeforeMonth_year]
    by_cases leap :
        isLeapYear (400 * fourHundreds + 100 * hundreds + 4 * fours + ones + 1) = true
    · rw [if_pos leap]
      omega
    · have rule := mt isLeapYear_iff.mpr leap
      rw [if_neg leap]
      omega

end Date

/-! ### Months -/

namespace Date

/-- The month that is computed of a day holds it, if there are months enough. -/
theorem monthOf_spec {leap : Bool} {more month day : Nat} (first : 1 ≤ month)
    (enough : month + more = 12) (within : daysBeforeMonth leap month + day <
      daysBeforeMonth leap 13) :
    (1 ≤ (monthOf leap more month day).1 ∧ (monthOf leap more month day).1 ≤ 12) ∧
      (1 ≤ (monthOf leap more month day).2 ∧
        (monthOf leap more month day).2 ≤ monthLength leap (monthOf leap more month day).1) ∧
      daysBeforeMonth leap (monthOf leap more month day).1 + (monthOf leap more month day).2 =
        daysBeforeMonth leap month + day + 1 := by
  induction more generalizing month day with
  | zero =>
    obtain rfl : month = 12 := by omega
    have last : daysBeforeMonth leap 13 = daysBeforeMonth leap 12 + monthLength leap 12 := rfl
    simp only [monthOf]
    omega
  | succ more ih =>
    obtain ⟨before, rfl⟩ : ∃ before, month = before + 1 := ⟨month - 1, by omega⟩
    have next : daysBeforeMonth leap (before + 2) =
        daysBeforeMonth leap (before + 1) + monthLength leap (before + 1) := rfl
    rw [monthOf]
    split
    · simp only
      omega
    · have later : daysBeforeMonth leap (before + 2) + (day - monthLength leap (before + 1)) =
          daysBeforeMonth leap (before + 1) + day := by omega
      have spec := @ih (before + 2) (day - monthLength leap (before + 1))
        (by omega) (by omega) (by omega)
      rw [later] at spec
      exact spec

/-- The date exists. -/
structure Exists (date : Date) : Prop where
  firstMonth : 1 ≤ date.month
  lastMonth : date.month ≤ 12
  firstDay : 1 ≤ date.day
  lastDay : date.day ≤ monthLength (isLeapYear date.year) date.month

/-- **The date of a day exists, and its day is that day.** -/
theorem ofDayNumber_spec (number : Int) :
    (ofDayNumber number).Exists ∧ (ofDayNumber number).dayNumber = number := by
  obtain ⟨inYear, yearEnds⟩ := yearOf_spec (number + daysBeforeEpoch)
  have inMonth := @monthOf_spec (isLeapYear (yearOf (number + daysBeforeEpoch)).1) 11 1
    (yearOf (number + daysBeforeEpoch)).2 Nat.le.refl rfl
    (by simpa [daysBeforeMonth] using yearEnds)
  obtain ⟨months, days, sum⟩ := inMonth
  refine ⟨⟨months.1, months.2, days.1, days.2⟩, ?_⟩
  simp only [ofDayNumber, dayNumber]
  simp only [daysBeforeMonth] at sum
  omega

/-- The months from the start of the year zero. -/
def monthIndex (date : Date) : Int := 12 * date.year + date.month - 1

end Date

/-- The first day of a month counted from the start of the year zero. -/
def firstDay (index : Int) : Int :=
  Date.dayNumber ⟨index / 12, (index % 12).toNat + 1, 1⟩

/-- The length of a month counted from the start of the year zero. -/
def lengthAt (index : Int) : Nat := monthLength (isLeapYear (index / 12)) ((index % 12).toNat + 1)

/-- A month ends where the next one starts. -/
theorem firstDay_succ (index : Int) : firstDay (index + 1) = firstDay index + lengthAt index := by
  have next : daysBeforeMonth (isLeapYear (index / 12)) ((index % 12).toNat + 1 + 1) =
      daysBeforeMonth (isLeapYear (index / 12)) ((index % 12).toNat + 1) + lengthAt index := rfl
  by_cases last : index % 12 = 11
  · have year := daysBeforeYear_succ (index / 12)
    have quotient : (index + 1) / 12 = index / 12 + 1 := by omega
    have january : (index + 1) % 12 = 0 := by omega
    rw [last] at next
    have twelve : daysBeforeMonth (isLeapYear (index / 12)) 13 =
        daysBeforeMonth (isLeapYear (index / 12)) 12 + lengthAt index := next
    simp only [firstDay, Date.dayNumber, quotient, january, last]
    simp only [Int.toNat_zero, show Int.toNat 11 = 11 from rfl, daysBeforeMonth] at *
    omega
  · have quotient : (index + 1) / 12 = index / 12 := by omega
    have month : ((index + 1) % 12).toNat = (index % 12).toNat + 1 := by omega
    simp only [firstDay, Date.dayNumber, quotient, month]
    omega

theorem lengthAt_pos (index : Int) : 0 < lengthAt index := by
  have longer : ∀ month < 12, ∀ leap, 0 < monthLength leap (month + 1) := by decide
  exact longer _ (by omega) _

/-- Months start one after another. -/
theorem firstDay_le_firstDay_iff {index later : Int} :
    firstDay index ≤ firstDay later ↔ index ≤ later := by
  have ordered : StrictMono firstDay := strictMono_int_of_lt_succ fun index => by
    have longer := lengthAt_pos index
    have next := firstDay_succ index
    omega
  exact ordered.le_iff_le

namespace Date

variable {date : Date}

/-- A date is counted from the first day of its month. -/
theorem dayNumber_eq (valid : date.Exists) :
    date.dayNumber = firstDay date.monthIndex + date.day - 1 ∧
      lengthAt date.monthIndex = monthLength (isLeapYear date.year) date.month := by
  have := valid.firstMonth
  have := valid.lastMonth
  have year : date.monthIndex / 12 = date.year := by
    unfold monthIndex
    omega
  have month : (date.monthIndex % 12).toNat + 1 = date.month := by
    unfold monthIndex
    omega
  constructor
  · unfold firstDay dayNumber
    rw [year, month]
    simp only
    omega
  · unfold lengthAt
    rw [year, month]

/-- Of the days of a month the first one opens it. -/
theorem dayNumber_eq_firstDay_iff (valid : date.Exists) :
    date.dayNumber = firstDay date.monthIndex ↔ date.day = 1 := by
  have counted := (dayNumber_eq valid).1
  omega

/-- The following month is counted next. -/
theorem dayNumber_nextMonth (valid : date.Exists) :
    date.nextMonth.dayNumber = firstDay (date.monthIndex + 1) := by
  have := valid.firstMonth
  have := valid.lastMonth
  unfold nextMonth
  split
  · have year : (date.monthIndex + 1) / 12 = date.year + 1 := by
      unfold monthIndex
      omega
    have month : ((date.monthIndex + 1) % 12).toNat = 0 := by
      unfold monthIndex
      omega
    rw [firstDay, year, month]
  · have year : (date.monthIndex + 1) / 12 = date.year := by
      unfold monthIndex
      omega
    have month : ((date.monthIndex + 1) % 12).toNat = date.month := by
      unfold monthIndex
      omega
    rw [firstDay, year, month]

/-- **The days from the first of a month on** are those of this month and later ones. -/
theorem firstDay_le_iff {index number : Int} :
    firstDay index ≤ number ↔ index ≤ (ofDayNumber number).monthIndex := by
  obtain ⟨valid, same⟩ := ofDayNumber_spec number
  obtain ⟨counted, length⟩ := dayNumber_eq valid
  have next := firstDay_succ (ofDayNumber number).monthIndex
  have first := valid.firstDay
  have last := valid.lastDay
  rw [← length] at last
  have ended : number < firstDay ((ofDayNumber number).monthIndex + 1) := by omega
  constructor
  · intro started
    have earlier := (lt_iff_lt_of_le_iff_le firstDay_le_firstDay_iff).mp (started.trans_lt ended)
    omega
  · intro earlier
    have started := firstDay_le_firstDay_iff.mpr earlier
    omega

end Date

end Passbook.Calendar
