/-
**A counter that starts again only when it is looked at counts its day or its month.**

What was spent is told by the period in which it was.

* `Counts`: a counter with its reset, as it stood at an instant, is what was spent in the period of
  that instant, and nothing was spent later;
* `Counts.roll`: it counts the period of a later instant once it is rolled, however long nothing
  happened;
* `Tallies`: both counters of a wallet do; `Tallies.start`, `Tallies.refreshed`,
  `Tallies.withLimits`, `Tallies.reserve`: whatever is done with them;
* `LimitState.reserve_eq_ok`: an amount is counted when it is positive and within both limits;
* `SpendLimits.Sensible`: something may be spent in a day and no less in a month;
  `SpendLimits.make_eq_ok`: limits are made of such figures only.
-/

import Passbook.Limits.State
import Passbook.Proofs.Limits.Window

namespace Passbook.Limits

open Passbook.Calendar (Instant)

/-! ### One counter -/

/-- A counter with its reset, as it stood at an instant, is what was spent in the period of that
instant, and nothing was spent later. -/
structure Counts (window : Window) (spent : Int → Int) (seen : Instant)
    (counter : Amount × Instant) : Prop where
  reset : counter.2 = window.nextReset seen
  sum : counter.1.units = spent (window.period seen)
  later : ∀ period, window.period seen < period → spent period = 0

/-- What was spent, and a spend more. -/
def spentAlso (window : Window) (spent : Int → Int) (amount : Amount) (now : Instant)
    (period : Int) : Int :=
  spent period + if window.period now = period then amount.units else 0

section

variable {window : Window} {spent : Int → Int} {seen now : Instant} {counter : Amount × Instant}

theorem Counts.start (none : ∀ period, spent period = 0) :
    Counts window spent now (.zero, window.nextReset now) :=
  ⟨rfl, (none _).symm, fun period _ => none period⟩

/-- **A counter that is rolled counts the period of now.** -/
theorem Counts.roll (counts : Counts window spent seen counter) (civil : seen.Civil)
    (onward : seen ≤ now) :
    Counts window spent now (Limits.roll window counter.1 counter.2 now) := by
  have reached : counter.2 ≤ now ↔ window.period seen < window.period now := by
    rw [counts.reset]
    exact Window.nextReset_le_iff civil
  by_cases ended : window.period seen < window.period now
  · rw [Limits.roll, if_pos (reached.mpr ended)]
    exact ⟨rfl, (counts.later _ ended).symm,
      fun period later => counts.later period (ended.trans later)⟩
  · have same : window.period seen = window.period now :=
      le_antisymm (Window.period_mono onward) (not_lt.mp ended)
    rw [Limits.roll, if_neg (mt reached.mp ended)]
    exact ⟨counts.reset.trans (Window.nextReset_congr same), same ▸ counts.sum,
      same ▸ counts.later⟩

/-- A counter to which an amount is added counts it in the period of now. -/
theorem Counts.add {sum amount : Amount} (counts : Counts window spent now counter)
    (added : sum.units = counter.1.units + amount.units) :
    Counts window (spentAlso window spent amount now) now (sum, counter.2) := by
  refine ⟨counts.reset, ?_, fun period later => ?_⟩
  · show sum.units = spent (window.period now) + _
    rw [if_pos rfl, added, counts.sum]
  · show spent period + _ = 0
    rw [if_neg later.ne, counts.later period later, Int.add_zero]

end

/-! ### Both counters -/

namespace LimitState

/-- The counter of a window. -/
def spent (state : LimitState) : Window → Amount
  | .daily => state.dailySpent
  | .monthly => state.monthlySpent

/-- The limit of a window. -/
def limit (state : LimitState) : Window → Amount
  | .daily => state.dailyLimit
  | .monthly => state.monthlyLimit

/-- The reset of a window. -/
def resetAt (state : LimitState) : Window → Instant
  | .daily => state.dailyResetAt
  | .monthly => state.monthlyResetAt

/-- The limits of a wallet. -/
def limits (state : LimitState) : SpendLimits := ⟨state.dailyLimit, state.monthlyLimit⟩

/-- Limits, counters and resets are all there is. -/
theorem eq_of_windows {first second : LimitState} (limits : first.limits = second.limits)
    (spent : ∀ window, first.spent window = second.spent window)
    (resets : ∀ window, first.resetAt window = second.resetAt window) : first = second :=
  LimitState.ext (congrArg SpendLimits.daily limits) (spent .daily) (resets .daily)
    (congrArg SpendLimits.monthly limits) (spent .monthly) (resets .monthly)

theorem limit_congr {first second : LimitState} (limits : first.limits = second.limits)
    (window : Window) : first.limit window = second.limit window := by
  cases window with
  | daily => exact congrArg SpendLimits.daily limits
  | monthly => exact congrArg SpendLimits.monthly limits

theorem refreshed_rolls (state : LimitState) (now : Instant) (window : Window) :
    ((state.refreshed now).spent window, (state.refreshed now).resetAt window) =
      roll window (state.spent window) (state.resetAt window) now := by
  cases window <;> rfl

theorem spent_refreshed (state : LimitState) (now : Instant) (window : Window) :
    (state.refreshed now).spent window =
      (roll window (state.spent window) (state.resetAt window) now).1 :=
  congrArg Prod.fst (state.refreshed_rolls now window)

theorem resetAt_refreshed (state : LimitState) (now : Instant) (window : Window) :
    (state.refreshed now).resetAt window =
      (roll window (state.spent window) (state.resetAt window) now).2 :=
  congrArg Prod.snd (state.refreshed_rolls now window)

end LimitState

/-- An amount was counted in both windows of an instant. -/
structure Reserved (state : LimitState) (amount : Amount) (now : Instant) (after : LimitState) :
    Prop where
  positive : amount.Positive
  counted : ∀ window,
    (after.spent window).units = ((state.refreshed now).spent window).units + amount.units
  within : ∀ window, after.spent window ≤ after.limit window
  resets : ∀ window, after.resetAt window = (state.refreshed now).resetAt window

/-- **An amount is counted** when it is positive and within both limits, which stay as they are. -/
theorem LimitState.reserve_eq_ok {state after : LimitState} {amount : Amount} {now : Instant} :
    state.reserve amount now = .ok after ↔
      Reserved state amount now after ∧ after.limits = state.limits := by
  constructor
  · intro reserved
    unfold LimitState.reserve at reserved
    split at reserved
    · cases reserved
    rename_i positive
    dsimp only at reserved
    split at reserved
    · cases reserved
    rename_i daily countedDaily
    split at reserved
    · cases reserved
    rename_i withinDay
    split at reserved
    · cases reserved
    rename_i monthly countedMonthly
    split at reserved
    · cases reserved
    rename_i withinMonth
    cases reserved
    refine ⟨⟨Int.not_le.mp positive, fun window => ?_, fun window => ?_, fun window => ?_⟩, rfl⟩
    · cases window with
      | daily => exact Amount.add?_eq_some_iff.mp countedDaily
      | monthly => exact Amount.add?_eq_some_iff.mp countedMonthly
    · cases window with
      | daily => exact Int.not_lt.mp withinDay
      | monthly => exact Int.not_lt.mp withinMonth
    · cases window <;> rfl
  · rintro ⟨did, limits⟩
    have counted : ∀ window, ((state.refreshed now).spent window).add? amount =
        some (after.spent window) := fun window => Amount.add?_eq_some_iff.mpr (did.counted window)
    have countedDay : (state.refreshed now).dailySpent.add? amount = some after.dailySpent :=
      counted .daily
    have countedMonth : (state.refreshed now).monthlySpent.add? amount = some after.monthlySpent :=
      counted .monthly
    have within : ∀ window, ¬(state.refreshed now).limit window < after.spent window := by
      intro window
      have same : after.limit window = (state.refreshed now).limit window :=
        LimitState.limit_congr limits window
      exact same ▸ Int.not_lt.mpr (did.within window)
    have withinDay : ¬(state.refreshed now).dailyLimit < after.dailySpent := within .daily
    have withinMonth : ¬(state.refreshed now).monthlyLimit < after.monthlySpent := within .monthly
    rw [LimitState.reserve, if_neg (Int.not_le.mpr did.positive)]
    simp only [countedDay, countedMonth]
    rw [if_neg withinDay, if_neg withinMonth]
    refine congrArg Except.ok (LimitState.eq_of_windows limits.symm (fun window => ?_)
      fun window => ?_)
    · cases window <;> rfl
    · rw [did.resets window]
      cases window <;> rfl

/-- What is reserved is positive and within both limits. -/
theorem LimitState.of_reserve {state after : LimitState} {amount : Amount} {now : Instant}
    (reserved : state.reserve amount now = .ok after) : Reserved state amount now after :=
  (LimitState.reserve_eq_ok.mp reserved).1

/-- Counting an amount leaves the limits. -/
theorem LimitState.limits_of_reserve {state after : LimitState} {amount : Amount} {now : Instant}
    (reserved : state.reserve amount now = .ok after) : after.limits = state.limits :=
  (LimitState.reserve_eq_ok.mp reserved).2

/-- A positive amount is within a figure when it is within the nearest amount. -/
theorem le_clamp_iff {amount : Amount} {figure : Int} (positive : amount.Positive) :
    amount ≤ .clamp figure ↔ amount.units ≤ figure := by
  have more : 0 < amount.units := positive
  have atMost := amount.atMost
  rw [Amount.clamp, Amount.le_iff]
  by_cases below : figure < -9223372036854775808
  · rw [dif_pos below]
    show amount.units ≤ -9223372036854775808 ↔ _
    omega
  · by_cases above : 9223372036854775807 < figure
    · rw [dif_neg below, dif_pos above]
      show amount.units ≤ 9223372036854775807 ↔ _
      omega
    · rw [dif_neg below, dif_neg above]

/-- **A positive amount is within what a counter leaves of its limit** when both together are within
the limit. -/
theorem LimitState.le_remaining_iff {limit spent amount : Amount} (positive : amount.Positive) :
    amount ≤ remaining limit spent ↔ spent.units + amount.units ≤ limit.units := by
  have more : ¬amount ≤ .zero := Int.not_le.mpr positive
  have within : amount ≤ remaining limit spent ↔ amount ≤ limit.subSaturating spent := by
    rw [remaining, Amount.max]
    split
    · rfl
    · rename_i less
      refine ⟨fun within => absurd within more, fun within => absurd ?_ less⟩
      rw [Amount.le_iff] at within ⊢
      exact (Int.le_of_lt positive).trans within
  rw [within, Amount.subSaturating, le_clamp_iff positive]
  omega

/-- Both counters of a wallet, as they stood at an instant, are what was spent. -/
def Tallies (spent : Window → Int → Int) (seen : Instant) (state : LimitState) : Prop :=
  ∀ window, Counts window (spent window) seen (state.spent window, state.resetAt window)

section

variable {spent : Window → Int → Int} {seen now : Instant} {state after : LimitState}

theorem Tallies.start {limits : SpendLimits} (none : ∀ window period, spent window period = 0) :
    Tallies spent now (.start limits now) := by
  intro window
  cases window with
  | daily => exact .start (none .daily)
  | monthly => exact .start (none .monthly)

theorem Tallies.refreshed (tallies : Tallies spent seen state) (civil : seen.Civil)
    (onward : seen ≤ now) : Tallies spent now (state.refreshed now) := by
  intro window
  rw [LimitState.refreshed_rolls]
  exact (tallies window).roll civil onward

/-- The counters do not ask for the limits. -/
theorem Tallies.withLimits {limits : SpendLimits} (tallies : Tallies spent seen state) :
    Tallies spent seen (state.withLimits limits) := by
  intro window
  have counts := tallies window
  cases window <;> exact counts

/-- **What is reserved is counted in both windows of now.** -/
theorem Tallies.reserve {amount : Amount} (tallies : Tallies spent seen state) (civil : seen.Civil)
    (onward : seen ≤ now) (reserved : state.reserve amount now = .ok after) :
    Tallies (fun window => spentAlso window (spent window) amount now) now after := by
  intro window
  have did := LimitState.of_reserve reserved
  rw [did.resets window]
  exact (tallies.refreshed civil onward window).add (did.counted window)

end

/-! ### The limits themselves -/

/-- Something may be spent in a day, and no less in a month. -/
def SpendLimits.Sensible (limits : SpendLimits) : Prop :=
  0 < limits.daily.units ∧ limits.daily ≤ limits.monthly

/-- **Limits are made of figures that make sense**, and of no others. -/
theorem SpendLimits.make_eq_ok {daily monthly : Amount} {limits : SpendLimits} :
    make daily monthly = .ok limits ↔ limits = ⟨daily, monthly⟩ ∧ limits.Sensible := by
  have refused : (daily.units ≤ 0 ∨ monthly.units ≤ 0 ∨ monthly < daily) ↔
      ¬(⟨daily, monthly⟩ : SpendLimits).Sensible := by
    simp only [SpendLimits.Sensible, Amount.lt_iff, Amount.le_iff]
    omega
  by_cases sensible : (⟨daily, monthly⟩ : SpendLimits).Sensible
  · rw [make, if_neg fun senseless => refused.mp senseless sensible]
    constructor
    · intro made
      cases made
      exact ⟨rfl, sensible⟩
    · rintro ⟨rfl, _⟩
      rfl
  · rw [make, if_pos (refused.mpr sensible)]
    constructor
    · intro made
      cases made
    · rintro ⟨rfl, is⟩
      exact absurd is sensible

end Passbook.Limits
