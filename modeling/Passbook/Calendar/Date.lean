/-
**Dates of the proleptic Gregorian calendar.**

Days are counted from the first of January 1970. Years may be zero or negative.

* `daysBeforeYear`: the days between the first of January of the year 1 and that of a year;
* `Date.dayNumber`, `Date.ofDayNumber`: a date and its day, each computed from the other;
* `monthLength`: the days of a month, 29 for February in a leap year.
-/

namespace Passbook.Calendar

/-- Every fourth year, but of the hundreds only every fourth. -/
def isLeapYear (year : Int) : Bool :=
  (year % 4 == 0 && year % 100 != 0) || year % 400 == 0

/-- The days of a month counted from one. -/
def monthLength (leap : Bool) : Nat → Nat
  | 1 => 31
  | 2 => if leap then 29 else 28
  | 3 => 31
  | 4 => 30
  | 5 => 31
  | 6 => 30
  | 7 => 31
  | 8 => 31
  | 9 => 30
  | 10 => 31
  | 11 => 30
  | 12 => 31
  | _ => 0

/-- The days of a year before a month counted from one. -/
def daysBeforeMonth (leap : Bool) : (month : Nat) → Nat
  | 0 => 0
  | 1 => 0
  | month + 2 => daysBeforeMonth leap (month + 1) + monthLength leap (month + 1)

/-- The days from the start of the year 1 to the start of a year. -/
def daysBeforeYear (year : Int) : Int :=
  365 * (year - 1) + (year - 1) / 4 - (year - 1) / 100 + (year - 1) / 400

/-- The days from the start of the year 1 to the start of 1970. -/
def daysBeforeEpoch : Int := 719162

/-- A day of the calendar. -/
@[ext]
structure Date where
  year : Int
  month : Nat
  day : Nat
deriving DecidableEq

namespace Date

/-- The month exists and has the day. -/
def isValid (date : Date) : Bool :=
  1 ≤ date.month && date.month ≤ 12 && 1 ≤ date.day &&
    date.day ≤ monthLength (isLeapYear date.year) date.month

/-- The days from the first of January 1970. -/
def dayNumber (date : Date) : Int :=
  daysBeforeYear date.year + daysBeforeMonth (isLeapYear date.year) date.month + date.day - 1 -
    daysBeforeEpoch

/-- The year that holds a day counted from the start of the year 1, and the day of that year
counted from zero. -/
def yearOf (day : Int) : Int × Nat :=
  let fourHundreds := day / 146097
  let inFourHundred := day % 146097
  let hundreds := min 3 (inFourHundred / 36524)
  let inHundred := inFourHundred - hundreds * 36524
  let fours := inHundred / 1461
  let inFour := inHundred % 1461
  let ones := min 3 (inFour / 365)
  (400 * fourHundreds + 100 * hundreds + 4 * fours + ones + 1, (inFour - ones * 365).toNat)

/-- The month, not before a given one, that holds a day counted from zero at its start, and the
day of that month counted from one. At most so many more months are tried. -/
def monthOf (leap : Bool) : (more : Nat) → (month : Nat) → (day : Nat) → Nat × Nat
  | 0, month, day => (month, day + 1)
  | more + 1, month, day =>
    if day < monthLength leap month then (month, day + 1)
    else monthOf leap more (month + 1) (day - monthLength leap month)

/-- The date of a day counted from the first of January 1970. -/
def ofDayNumber (number : Int) : Date :=
  let (year, dayOfYear) := yearOf (number + daysBeforeEpoch)
  let (month, day) := monthOf (isLeapYear year) 11 1 dayOfYear
  ⟨year, month, day⟩

/-- The first day of the following month. -/
def nextMonth (date : Date) : Date :=
  if date.month = 12 then ⟨date.year + 1, 1, 1⟩ else ⟨date.year, date.month + 1, 1⟩

end Date

end Passbook.Calendar
