/-
**A reset is the first boundary that is still ahead.**

* `Window.Starts`: a window may start at an instant, a midnight, for the month one of a first day;
  `Window.starts_iff`: so the instant opens its own period;
* `Window.Starts.ahead_iff`: such an instant is ahead of those of earlier periods;
* `Window.Starts.of_opens`: the midnight that opens a period is such an instant, and so is the reset
  that does (`Window.nextReset_starts`); beyond the last day there is none
  (`Window.not_ahead_of_beyond`);
* `Window.nextReset_first`: where such an instant is ahead the reset is the first one, and else it is
  the end of time.
-/

import Mathlib.Order.Bounds.Defs
import Passbook.Calendar.Stamp
import Passbook.Proofs.Limits.Window

namespace Passbook.Limits

open Passbook.Calendar (Date Instant firstDay firstDay_le_firstDay_iff)

namespace Window

/-- The window may start at the instant. -/
def Starts : Window → Instant → Prop
  | daily, instant => instant.Midnight
  | monthly, instant => instant.Midnight ∧ instant.date.day = 1

instance : (window : Window) → (instant : Instant) → Decidable (window.Starts instant)
  | daily, instant => inferInstanceAs (Decidable instant.Midnight)
  | monthly, _ => inferInstanceAs (Decidable (_ ∧ _))

variable {window : Window} {now start : Instant} {period later : Int}

/-- A window starts at the instants that open their own period. -/
theorem starts_iff : window.Starts start ↔ start.Opens (window.opening (window.period start)) := by
  cases window with
  | daily => exact Instant.midnight_iff
  | monthly =>
    obtain ⟨valid, same⟩ := Date.ofDayNumber_spec start.day
    have first : start.day = firstDay start.date.monthIndex ↔ start.date.day = 1 := by
      have first := Date.dayNumber_eq_firstDay_iff valid
      rwa [same] at first
    show start.Midnight ∧ start.date.day = 1 ↔ start.Opens (firstDay start.date.monthIndex)
    rw [← first, Instant.midnight_iff]
    constructor
    · rintro ⟨opens, is⟩
      rwa [is] at opens
    · intro opens
      have is := opens.day_eq
      exact ⟨by rwa [is], is⟩

/-- A window that starts is ahead of the instants of earlier periods. -/
theorem Starts.ahead_iff (starts : window.Starts start) :
    now < start ↔ window.period now < window.period start := by
  rw [← Instant.not_le, (starts_iff.mp starts).le_iff, opening_le_iff, not_le]

/-- Periods open one after another. -/
theorem opening_le_opening_iff : window.opening period ≤ window.opening later ↔ period ≤ later := by
  cases window with
  | daily => exact Iff.rfl
  | monthly => exact firstDay_le_firstDay_iff

/-- The midnight that opens a period lies in it. -/
theorem period_of_opens (opens : start.Opens (window.opening period)) :
    window.period start = period := by
  have day := opens.day_eq
  refine le_antisymm ?_ (opening_le_iff.mp day.ge)
  have opened : window.opening (window.period start) ≤ start.day := opening_le_iff.mpr le_rfl
  rw [day] at opened
  exact opening_le_opening_iff.mp opened

/-- At the midnight that opens a period a window starts. -/
theorem Starts.of_opens (opens : start.Opens (window.opening period)) : window.Starts start := by
  rw [starts_iff, period_of_opens opens]
  exact opens

/-- Only leap seconds lie beyond the last instant. -/
theorem le_last {instant : Instant} (ordinary : instant.nano < 1000000000) : instant ≤ .last := by
  have untilLast := instant.untilLast
  rw [Instant.le_iff]
  show instant.second < 8210266876799 ∨ instant.second = 8210266876799 ∧ instant.nano ≤ 999999999
  omega

/-- A reset that opens a period is a boundary, and it is ahead. -/
theorem nextReset_starts (opens : (window.nextReset now).Opens (window.nextStart now)) :
    window.Starts (window.nextReset now) ∧ now < window.nextReset now := by
  constructor
  · rw [nextStart_eq] at opens
    exact .of_opens opens
  · rw [← Instant.not_le, opens.le_iff, not_le]
    exact day_lt_nextStart

/-- Beyond the last day no window starts. -/
theorem not_ahead_of_beyond (beyond : Instant.last.day < window.nextStart now)
    (starts : window.Starts start) : ¬now < start := by
  intro ahead
  have opened : window.nextStart now ≤ start.day := by
    rw [nextStart_eq, opening_le_iff]
    exact starts.ahead_iff.mp ahead
  have within := start.day_le_last
  omega

/-- **The reset is the next boundary.** For the day boundaries are the midnights of UTC, for the
month those of a first day. Where one lies after an instant, the reset is the first one after it;
where none does, the reset is the last instant of the year 262142, which nothing but leap seconds
lies beyond. -/
theorem nextReset_first (window : Window) (now : Instant) :
    ((∃ start, window.Starts start ∧ now < start) →
        IsLeast {start | window.Starts start ∧ now < start} (window.nextReset now)) ∧
      ((¬∃ start, window.Starts start ∧ now < start) → window.nextReset now = .last) ∧
      Instant.last.text = "+262142-12-31T23:59:59.999999999Z" ∧
      ∀ instant : Instant, instant.nano < 1000000000 → instant ≤ .last := by
  refine ⟨?_, ?_, by decide, fun instant => le_last⟩
  · rintro ⟨start, starts, ahead⟩
    rcases nextReset_cases window now with opens | ⟨_, beyond⟩
    · refine ⟨nextReset_starts opens, fun other ⟨starts, ahead⟩ => ?_⟩
      exact nextReset_le_iff_or.mpr (.inl (starts.ahead_iff.mp ahead))
    · exact absurd ahead (not_ahead_of_beyond beyond starts)
  · intro none
    rcases nextReset_cases window now with opens | ⟨same, _⟩
    · exact absurd ⟨_, nextReset_starts opens⟩ none
    · exact same

/-- A leap second at the end of the 29th of February of the year -4. -/
def sampleLeap : Instant :=
  ⟨Date.dayNumber ⟨-4, 2, 29⟩ * 86400 + 86399, 1500000000, by decide, by decide, by decide⟩

/-- From the leap second the month is over at the midnight that follows. On the last day no midnight
follows, nor after a leap second at its end. -/
theorem nextReset_first_samples :
    (IsLeast {start | monthly.Starts start ∧ sampleLeap < start} (monthly.nextReset sampleLeap) ∧
        (monthly.nextReset sampleLeap).text = "-0004-03-01T00:00:00Z") ∧
      daily.nextReset ⟨8210266876799, 1000000000, by decide, by decide, by decide⟩ = .last := by
  refine ⟨⟨(nextReset_first monthly sampleLeap).1
    ⟨monthly.nextReset sampleLeap, by decide, by decide⟩, by decide⟩,
    (nextReset_first daily _).2.1 ?_⟩
  rintro ⟨start, starts, ahead⟩
  have untilLast := start.untilLast
  have whole : start.nano = 0 := starts.2
  rw [Instant.lt_iff, whole] at ahead
  simp only at ahead
  omega

end Window

end Passbook.Limits
