/-
**A counter starts again when its day or its month is over.**

Days and months are counted through: `Window.period` of an instant.

* `Window.shares`: two instants lie in one day, or in one month of one year, of UTC;
  `Window.shares_iff`: so they lie in one period;
* `Window.nextStart_eq`: the day that is computed as the start of the next window is that;
* `Window.nextReset_cases`: a reset is the midnight of that day, or the last instant;
  `Window.nextReset_le_iff_or`: it has come exactly when a later period or the last instant has, and
  from the year 1 to the year 9998 when a later period has (`Window.nextReset_le_iff`);
* `roll_roll`: a counter that is looked at more often starts again all the same.
-/

import Passbook.Limits.Window
import Passbook.Proofs.Calendar.Date
import Passbook.Proofs.Calendar.Instant

namespace Passbook.Calendar

/-- The instant lies in the years from 1 to 9998. -/
def Instant.Civil (instant : Instant) : Prop := 1 ≤ instant.date.year ∧ instant.date.year ≤ 9998

instance (instant : Instant) : Decidable instant.Civil :=
  inferInstanceAs (Decidable (_ ∧ _))

end Passbook.Calendar

namespace Passbook.Limits

open Passbook.Calendar (Date Instant firstDay firstDay_le_firstDay_iff)

namespace Window

/-- The day or the month of an instant, counted through. -/
def period : Window → Instant → Int
  | daily, now => now.day
  | monthly, now => now.date.monthIndex

/-- The first day of a period. -/
def opening : Window → Int → Int
  | daily, period => period
  | monthly, period => firstDay period

/-- Two instants lie in one day, or in one month of one year, of UTC. -/
def shares : Window → Instant → Instant → Bool
  | daily, first, second => first.date == second.date
  | monthly, first, second =>
    first.date.year == second.date.year && first.date.month == second.date.month

variable {window : Window} {now later : Instant}

theorem shares_iff : window.shares now later = true ↔ window.period now = window.period later := by
  obtain ⟨valid, same⟩ := Date.ofDayNumber_spec now.day
  obtain ⟨laterValid, laterSame⟩ := Date.ofDayNumber_spec later.day
  cases window with
  | daily =>
    show (now.date == later.date) = true ↔ now.day = later.day
    rw [beq_iff_eq]
    refine ⟨fun dates => ?_, fun days => congrArg Date.ofDayNumber days⟩
    rw [← same, ← laterSame]
    exact congrArg Date.dayNumber dates
  | monthly =>
    show (now.date.year == later.date.year && now.date.month == later.date.month) = true ↔
      now.date.monthIndex = later.date.monthIndex
    rw [Bool.and_eq_true, beq_iff_eq, beq_iff_eq]
    have : 1 ≤ now.date.month ∧ now.date.month ≤ 12 := ⟨valid.firstMonth, valid.lastMonth⟩
    have : 1 ≤ later.date.month ∧ later.date.month ≤ 12 :=
      ⟨laterValid.firstMonth, laterValid.lastMonth⟩
    unfold Date.monthIndex
    omega

/-- The days from the start of a period on are those of this period and later ones. -/
theorem opening_le_iff {period : Int} :
    window.opening period ≤ now.day ↔ period ≤ window.period now := by
  cases window with
  | daily => exact Iff.rfl
  | monthly => exact Date.firstDay_le_iff

theorem period_mono (onward : now ≤ later) : window.period now ≤ window.period later :=
  opening_le_iff.mp ((opening_le_iff.mpr le_rfl).trans (Instant.day_mono onward))

/-- The day that is computed as the start of the next window is that. -/
theorem nextStart_eq : window.nextStart now = window.opening (window.period now + 1) := by
  cases window with
  | daily => rfl
  | monthly => exact Date.dayNumber_nextMonth (Date.ofDayNumber_spec now.day).1

/-- Instants of one period have one reset. -/
theorem nextReset_congr (same : window.period now = window.period later) :
    window.nextReset now = window.nextReset later := by
  rw [nextReset, nextReset, nextStart_eq, nextStart_eq, same]

/-- A window is over on a later day than that of any instant in it. -/
theorem day_lt_nextStart : now.day < window.nextStart now := by
  rw [nextStart_eq]
  by_contra started
  have := opening_le_iff.mp (not_lt.mp started)
  omega

/-- A reset is the midnight that starts the next window, or the last instant if there is none. -/
theorem nextReset_cases (window : Window) (now : Instant) :
    (window.nextReset now).Opens (window.nextStart now) ∨
      (window.nextReset now = .last ∧ Instant.last.day < window.nextStart now) := by
  rcases Instant.atDay?_cases (@day_lt_nextStart window now) with
    ⟨midnight, found, opens⟩ | ⟨none, beyond⟩
  · rw [nextReset, found]
    exact .inl opens
  · rw [nextReset, none]
    exact .inr ⟨rfl, beyond⟩

/-- **A reset has come exactly when a later period has, or the last instant.** -/
theorem nextReset_le_iff_or :
    window.nextReset now ≤ later ↔ window.period now < window.period later ∨ .last ≤ later := by
  have passed : window.nextStart now ≤ later.day ↔ window.period now < window.period later := by
    rw [nextStart_eq, opening_le_iff]
    exact Int.add_one_le_iff
  rw [← passed]
  rcases nextReset_cases window now with opens | ⟨same, beyond⟩
  · rw [opens.le_iff]
    refine (or_iff_left_of_imp fun ended => ?_).symm
    -- A midnight that exists lies no later than the day of the last instant.
    have within := (window.nextReset now).day_le_last
    rw [opens.day_eq] at within
    exact within.trans (Instant.day_mono ended)
  · rw [same]
    have within := later.day_le_last
    exact ⟨.inr, fun either => either.resolve_left (by omega)⟩

/-- Up to the year 9998 a window ends by the start of the year 9999. -/
theorem opening_le (civil : now.Civil) :
    window.opening (window.period now + 1) ≤ firstDay (9999 * 12) := by
  have valid := (Date.ofDayNumber_spec now.day).1
  have := valid.lastMonth
  have month : now.date.monthIndex + 1 ≤ 9999 * 12 := by
    have := civil.2
    unfold Date.monthIndex Instant.date at *
    omega
  cases window with
  | daily =>
    have ended : ¬ firstDay (now.date.monthIndex + 1) ≤ now.day := by
      rw [Date.firstDay_le_iff]
      exact fun later => by
        have : now.date.monthIndex + 1 ≤ now.date.monthIndex := later
        omega
    have := firstDay_le_firstDay_iff.mpr month
    show now.day + 1 ≤ _
    omega
  | monthly => exact firstDay_le_firstDay_iff.mpr month

/-- **A reset has come exactly when a later period has.** -/
theorem nextReset_le_iff (civil : now.Civil) :
    window.nextReset now ≤ later ↔ window.period now < window.period later := by
  refine nextReset_le_iff_or.trans (or_iff_left_of_imp fun ended => ?_)
  have ends := @opening_le window now civil
  have limit : firstDay (9999 * 12) = 2932532 := by decide
  have days := Instant.day_mono ended
  rw [Instant.day_last] at days
  have reached : window.opening (window.period now + 1) ≤ later.day := by omega
  exact Int.add_one_le_iff.mp (opening_le_iff.mp reached)

/-- Before the last instant every window is still open. -/
theorem not_nextReset_le (early : now < .last) : ¬window.nextReset now ≤ now := by
  rw [nextReset_le_iff_or, not_or]
  exact ⟨lt_irrefl _, Instant.not_le.mpr early⟩

/-- As long as a reset has not come it stays the next one. -/
theorem nextReset_eq (onward : now ≤ later) (ahead : ¬window.nextReset now ≤ later) :
    window.nextReset later = window.nextReset now := by
  have same : window.period now = window.period later :=
    le_antisymm (period_mono onward)
      (not_lt.mp fun passed => ahead (nextReset_le_iff_or.mpr (.inl passed)))
  exact (nextReset_congr same).symm

/-- The reset of the day comes no later than any reset that is ahead. -/
theorem daily_nextReset_le {seen : Instant} (ahead : ¬window.nextReset seen ≤ now) :
    daily.nextReset now ≤ window.nextReset seen := by
  rw [nextReset_le_iff_or]
  rcases nextReset_cases window seen with opens | ⟨same, _⟩
  · refine .inl ?_
    rw [opens.le_iff, not_le] at ahead
    exact ahead.trans_eq opens.day_eq.symm
  · exact .inr (same ▸ Instant.le_refl _)

/-- The reset of the day comes no later than that of the month. -/
theorem daily_nextReset_le_self : daily.nextReset now ≤ window.nextReset now := by
  rw [nextReset_le_iff_or]
  rcases nextReset_cases window now with opens | ⟨same, _⟩
  · exact .inl (day_lt_nextStart.trans_eq opens.day_eq.symm)
  · exact .inr (same ▸ Instant.le_refl _)

end Window

/-! ### Counters -/

section Roll

variable {window : Window} {spent : Amount} {resetAt now first second : Instant}

theorem roll_of_le (ended : resetAt ≤ now) :
    roll window spent resetAt now = (.zero, window.nextReset now) := if_pos ended

theorem roll_of_not_le (ahead : ¬resetAt ≤ now) :
    roll window spent resetAt now = (spent, resetAt) := if_neg ahead

/-- Before the last instant a counter that is looked at has its reset ahead. -/
theorem roll_ahead (early : now < .last) : ¬(roll window spent resetAt now).2 ≤ now := by
  by_cases ended : resetAt ≤ now
  · rw [roll_of_le ended]
    exact Window.not_nextReset_le early
  · rw [roll_of_not_le ended]
    exact ended

/-- **A counter that is looked at more often starts again all the same.** -/
theorem roll_roll (onward : first ≤ second) :
    roll window (roll window spent resetAt first).1 (roll window spent resetAt first).2 second =
      roll window spent resetAt second := by
  by_cases ended : resetAt ≤ first
  · rw [roll_of_le ended, roll_of_le (Instant.le_trans ended onward)]
    by_cases again : window.nextReset first ≤ second
    · exact roll_of_le again
    · rw [roll_of_not_le again, Window.nextReset_eq onward again]
  · rw [roll_of_not_le ended]

end Roll

end Passbook.Limits
