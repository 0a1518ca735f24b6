/-
**What is accepted is what is shown as remaining, however it is split.**

* `LimitState.exists_reserve`: an amount that both windows have left is counted;
  `LimitState.reserve_of_not_positive`, `reserve_beyond_day`, `reserve_beyond_month`: any other is
  refused; `excess`: for its limit, unless the counter would leave the range;
* `LimitState.reserve_remaining`: so what is accepted is exactly what is shown as remaining;
* `LimitState.reserve_twice`: before the last instant two amounts one after another are counted as
  their sum; `LimitState.reserveAll_sum`: and so are any positive amounts, in any order and split.
-/

import Passbook.Proofs.Limits.State
import Passbook.Proofs.Store.Rows
import Passbook.Proofs.Verdict

namespace Passbook.Limits

open Passbook.Calendar (Instant)
open Passbook.Store (total total_cons total_nonneg)

/-- What an amount beyond a limit is refused for: the limit, unless the counter would leave the
range. -/
def excess (spent amount : Amount) (exceeded : LimitError) : LimitError :=
  if (spent.add? amount).isSome then exceeded else .overflow

/-- A counter can only leave the range upwards. -/
theorem excess_eq {spent amount : Amount} (positive : amount.Positive) (exceeded : LimitError) :
    excess spent amount exceeded =
      if Amount.greatest.units < spent.units + amount.units then .overflow else exceeded := by
  have atLeast := spent.atLeast
  have more : 0 < amount.units := positive
  have greatest : Amount.greatest.units = 9223372036854775807 := rfl
  unfold excess
  cases added : spent.add? amount with
  | none =>
    have bounds := Amount.ofInt?_eq_none_iff.mp added
    exact (if_pos (by omega)).symm
  | some sum =>
    have is := Amount.add?_eq_some_iff.mp added
    have atMost := sum.atMost
    exact (if_neg (by omega)).symm

/-- A limit that is kept has room for the sum of its counter and the amount. -/
theorem exists_sum {limit spent amount : Amount} (positive : amount.Positive)
    (within : amount ≤ LimitState.remaining limit spent) :
    ∃ sum, spent.add? amount = some sum ∧ ¬limit < sum := by
  have less := (LimitState.le_remaining_iff positive).mp within
  have atMost := limit.atMost
  have atLeast := spent.atLeast
  have more : 0 < amount.units := positive
  refine ⟨⟨spent.units + amount.units, by omega, by omega⟩, Amount.add?_eq_some_iff.mpr rfl, ?_⟩
  exact Int.not_lt.mpr less

/-- A limit that is not kept is passed by the sum, or the sum leaves the range. -/
theorem lt_of_sum {limit spent amount sum : Amount} (positive : amount.Positive)
    (beyond : ¬amount ≤ LimitState.remaining limit spent) (added : spent.add? amount = some sum) :
    limit < sum := by
  have more := mt (LimitState.le_remaining_iff positive).mpr beyond
  have is := Amount.add?_eq_some_iff.mp added
  rw [Amount.lt_iff, is]
  exact Int.not_le.mp more

namespace LimitState

section One

variable {state after : LimitState} {amount : Amount} {now : Instant}

theorem reserve_of_not_positive (other : ¬amount.Positive) :
    state.reserve amount now = .error (.invalidAmount amount) :=
  if_pos (Int.not_lt.mp other)

/-- What the day has not left is refused, whatever the month has. -/
theorem reserve_beyond_day (positive : amount.Positive)
    (beyond : ¬amount ≤ (state.refreshed now).remainingDaily) :
    state.reserve amount now = .error (excess (state.refreshed now).dailySpent amount
      (.dailyExceeded (state.refreshed now).remainingDaily amount)) := by
  rw [reserve, if_neg (Int.not_le.mpr positive), excess]
  dsimp only
  cases added : (state.refreshed now).dailySpent.add? amount with
  | none => rfl
  | some sum => exact if_pos (lt_of_sum positive beyond added)

/-- What the day has left and the month has not is refused. -/
theorem reserve_beyond_month (positive : amount.Positive)
    (within : amount ≤ (state.refreshed now).remainingDaily)
    (beyond : ¬amount ≤ (state.refreshed now).remainingMonthly) :
    state.reserve amount now = .error (excess (state.refreshed now).monthlySpent amount
      (.monthlyExceeded (state.refreshed now).remainingMonthly amount)) := by
  obtain ⟨daily, countedDay, withinDay⟩ := exists_sum positive within
  rw [reserve, if_neg (Int.not_le.mpr positive), excess]
  simp only [countedDay, if_neg withinDay]
  cases added : (state.refreshed now).monthlySpent.add? amount with
  | none => rfl
  | some sum => exact if_pos (lt_of_sum positive beyond added)

/-- What both windows have left is counted. -/
theorem exists_reserve (positive : amount.Positive)
    (withinDay : amount ≤ (state.refreshed now).remainingDaily)
    (withinMonth : amount ≤ (state.refreshed now).remainingMonthly) :
    ∃ after, state.reserve amount now = .ok after := by
  obtain ⟨daily, countedDay, lessDay⟩ := exists_sum positive withinDay
  obtain ⟨monthly, countedMonth, lessMonth⟩ := exists_sum positive withinMonth
  refine ⟨{ state.refreshed now with dailySpent := daily, monthlySpent := monthly }, ?_⟩
  rw [reserve, if_neg (Int.not_le.mpr positive)]
  simp only [countedDay, countedMonth, if_neg lessDay, if_neg lessMonth]

/-- **What is accepted is exactly what is shown as remaining.** With the limits as they apply now,
an amount is counted if and only if it is positive and both windows have it left. Both counters then
grow by it, and nothing else is changed. Any other amount is refused: one that is not positive for
that; one that the day has not left for what the day has left, or as an overflow exactly when the
counter would leave the range; and else likewise for what the month has left. -/
theorem reserve_remaining (state : LimitState) (amount : Amount) (now : Instant) :
    ((∃ after, state.reserve amount now = .ok after) ↔
        amount.Positive ∧ amount ≤ (state.refreshed now).remainingDaily ∧
          amount ≤ (state.refreshed now).remainingMonthly) ∧
      (∀ after, state.reserve amount now = .ok after →
        after.dailySpent.units = (state.refreshed now).dailySpent.units + amount.units ∧
          after.monthlySpent.units = (state.refreshed now).monthlySpent.units + amount.units ∧
          after = { state.refreshed now with
            dailySpent := after.dailySpent
            monthlySpent := after.monthlySpent }) ∧
      (¬amount.Positive → state.reserve amount now = .error (.invalidAmount amount)) ∧
      (amount.Positive → ¬amount ≤ (state.refreshed now).remainingDaily →
        state.reserve amount now = .error
          (if Amount.greatest.units < (state.refreshed now).dailySpent.units + amount.units then
            .overflow
          else .dailyExceeded (state.refreshed now).remainingDaily amount)) ∧
      (amount.Positive → amount ≤ (state.refreshed now).remainingDaily →
        ¬amount ≤ (state.refreshed now).remainingMonthly →
          state.reserve amount now = .error
            (if Amount.greatest.units < (state.refreshed now).monthlySpent.units + amount.units then
              .overflow
            else .monthlyExceeded (state.refreshed now).remainingMonthly amount)) := by
  refine ⟨⟨fun ⟨after, reserved⟩ => ?_, fun ⟨positive, withinDay, withinMonth⟩ =>
      exists_reserve positive withinDay withinMonth⟩,
    fun after reserved => ?_, reserve_of_not_positive, fun positive beyond => ?_,
    fun positive withinDay beyond => ?_⟩
  · have positive := (of_reserve reserved).positive
    by_cases withinDay : amount ≤ (state.refreshed now).remainingDaily
    case neg => cases (reserve_beyond_day positive withinDay).symm.trans reserved
    by_cases withinMonth : amount ≤ (state.refreshed now).remainingMonthly
    case neg => cases (reserve_beyond_month positive withinDay withinMonth).symm.trans reserved
    exact ⟨positive, withinDay, withinMonth⟩
  · obtain ⟨did, limits⟩ := reserve_eq_ok.mp reserved
    exact ⟨did.counted .daily, did.counted .monthly, eq_of_windows limits
      (fun window => by cases window <;> rfl) fun window => by
        rw [did.resets window]
        cases window <;> rfl⟩
  · rw [reserve_beyond_day positive beyond, excess_eq positive]
  · rw [reserve_beyond_month positive withinDay beyond, excess_eq positive]

end One

/-! ### Amounts one after another -/

/-- Counts amounts one after another at an instant, as long as none is refused. -/
def reserveAll (state : LimitState) (amounts : List Amount) (now : Instant) :
    Except LimitError LimitState :=
  amounts.foldlM (fun state amount => state.reserve amount now) state

section Several

variable {state after : LimitState} {amount first second sum : Amount} {now : Instant}

/-- Counters whose resets are ahead stay as they are. -/
theorem refreshed_of_ahead (ahead : ∀ window, ¬state.resetAt window ≤ now) :
    state.refreshed now = state := by
  refine eq_of_windows rfl (fun window => ?_) fun window => ?_
  · rw [spent_refreshed, roll_of_not_le (ahead window)]
  · rw [resetAt_refreshed, roll_of_not_le (ahead window)]

/-- Before the last instant resets are ahead once the counters were looked at. -/
theorem resetAt_ahead (early : now < .last) (window : Window) :
    ¬(state.refreshed now).resetAt window ≤ now := by
  rw [resetAt_refreshed]
  exact roll_ahead early

/-- What was counted is not looked at twice. -/
theorem refreshed_of_reserved (early : now < .last) (did : Reserved state amount now after) :
    after.refreshed now = after :=
  refreshed_of_ahead fun window => did.resets window ▸ resetAt_ahead early window

/-- The counters between two amounts. -/
theorem exists_between (counted : ∀ window, (after.spent window).units =
      ((state.refreshed now).spent window).units + (first.units + second.units))
    (positive : first.Positive) (positive' : second.Positive) : ∃ middle : LimitState,
      (∀ window, (middle.spent window).units =
          ((state.refreshed now).spent window).units + first.units) ∧
        middle.limits = state.limits ∧
        ∀ window, middle.resetAt window = (state.refreshed now).resetAt window := by
  have more : 0 < first.units := positive
  have more' : 0 < second.units := positive'
  have room : ∀ window, ∃ counter : Amount,
      counter.units = ((state.refreshed now).spent window).units + first.units := by
    intro window
    have is := counted window
    have atMost := (after.spent window).atMost
    have atLeast := ((state.refreshed now).spent window).atLeast
    exact ⟨⟨_, by omega, by omega⟩, rfl⟩
  obtain ⟨daily, countedDay⟩ := room .daily
  obtain ⟨monthly, countedMonth⟩ := room .monthly
  refine ⟨{ state.refreshed now with dailySpent := daily, monthlySpent := monthly },
    fun window => ?_, rfl, fun window => ?_⟩
  · cases window with
    | daily => exact countedDay
    | monthly => exact countedMonth
  · cases window <;> rfl

/-- **Before the last instant two amounts one after another are counted as their sum.** -/
theorem reserve_twice (early : now < .last) (positive : first.Positive)
    (positive' : second.Positive) (added : sum.units = first.units + second.units) :
    (∃ middle, state.reserve first now = .ok middle ∧ middle.reserve second now = .ok after) ↔
      state.reserve sum now = .ok after := by
  have more : 0 < first.units := positive
  have more' : 0 < second.units := positive'
  constructor
  · rintro ⟨middle, once, again⟩
    obtain ⟨did, limits⟩ := reserve_eq_ok.mp once
    obtain ⟨did', limits'⟩ := reserve_eq_ok.mp again
    have settled := refreshed_of_reserved early did
    refine reserve_eq_ok.mpr ⟨⟨?_, fun window => ?_, did'.within, fun window => ?_⟩,
      limits'.trans limits⟩
    · show 0 < sum.units
      omega
    · have is := did.counted window
      have is' := did'.counted window
      rw [settled] at is'
      omega
    · rw [did'.resets window, settled, did.resets window]
  · intro reserved
    obtain ⟨did, limits⟩ := reserve_eq_ok.mp reserved
    obtain ⟨middle, counted, limits', resets⟩ :=
      exists_between (fun window => added ▸ did.counted window) positive positive'
    -- The counters in the middle are below those at the end, which are within the limits.
    have within : ∀ window, middle.spent window ≤ middle.limit window := by
      intro window
      have same : middle.limit window = after.limit window :=
        limit_congr (limits'.trans limits.symm) window
      have is := did.counted window
      have is' := counted window
      have less := did.within window
      rw [same]
      rw [Amount.le_iff] at less ⊢
      omega
    have once : Reserved state first now middle := ⟨positive, counted, within, resets⟩
    have settled := refreshed_of_reserved early once
    refine ⟨middle, reserve_eq_ok.mpr ⟨once, limits'⟩, reserve_eq_ok.mpr
      ⟨⟨positive', fun window => ?_, did.within, fun window => ?_⟩, limits.trans limits'.symm⟩⟩
    · have is := did.counted window
      have is' := counted window
      rw [settled]
      omega
    · rw [settled, did.resets window, resets window]

theorem reserveAll_cons {amounts : List Amount} :
    state.reserveAll (amount :: amounts) now = .ok after ↔
      ∃ middle, state.reserve amount now = .ok middle ∧
        middle.reserveAll amounts now = .ok after := by
  rw [reserveAll, List.foldlM_cons]
  exact Verdict.bind_eq_ok

/-- Amounts are counted as their sum, the first two being taken together time after time. -/
theorem reserveAll_eq_ok (early : now < .last) {amounts : List Amount}
    (positive : amount.Positive) (others : ∀ amount ∈ amounts, amount.Positive)
    (added : sum.units = total Amount.units (amount :: amounts)) :
    state.reserveAll (amount :: amounts) now = .ok after ↔ state.reserve sum now = .ok after := by
  induction amounts generalizing amount with
  | nil =>
    obtain rfl : sum = amount := Amount.ext (added.trans (Int.add_zero _))
    rw [reserveAll_cons]
    constructor
    · rintro ⟨middle, reserved, ended⟩
      cases ended
      exact reserved
    · intro reserved
      exact ⟨after, reserved, rfl⟩
  | cons next rest ih =>
    have positive' := others next List.mem_cons_self
    have others' : ∀ amount ∈ rest, amount.Positive :=
      fun amount member => others amount (List.mem_cons_of_mem _ member)
    have nonneg : 0 ≤ total Amount.units rest :=
      total_nonneg fun amount member => Int.le_of_lt (others' amount member)
    rw [total_cons, total_cons] at added
    have more : 0 < amount.units := positive
    have more' : 0 < next.units := positive'
    have atMost := sum.atMost
    obtain ⟨both, is⟩ : ∃ both : Amount, both.units = amount.units + next.units :=
      ⟨⟨_, by omega, by omega⟩, rfl⟩
    have together : both.Positive := by
      show 0 < both.units
      omega
    have added' : sum.units = total Amount.units (both :: rest) := by
      rw [total_cons]
      omega
    rw [← ih together others' added', reserveAll_cons, reserveAll_cons]
    constructor
    · rintro ⟨middle, once, later⟩
      obtain ⟨middle', again, ended⟩ := reserveAll_cons.mp later
      exact ⟨middle', (reserve_twice early positive positive' is).mp ⟨middle, once, again⟩, ended⟩
    · rintro ⟨middle', reserved, ended⟩
      obtain ⟨middle, once, again⟩ := (reserve_twice early positive positive' is).mpr reserved
      exact ⟨middle, once, reserveAll_cons.mpr ⟨middle', again, ended⟩⟩

end Several

/-- **Splitting a spend changes nothing.** Before the last instant positive amounts are counted one
after another exactly when their sum is counted at once, and both leave the same; so other amounts
with this sum, be they the same in another order or another split, do as these do. -/
theorem reserveAll_sum (state : LimitState) {now : Instant} (early : now < .last)
    {amounts : List Amount} {sum : Amount} (some : amounts ≠ [])
    (positive : ∀ amount ∈ amounts, amount.Positive)
    (added : sum.units = total Amount.units amounts) :
    (∀ after, state.reserveAll amounts now = .ok after ↔ state.reserve sum now = .ok after) ∧
      ∀ others : List Amount, others ≠ [] → (∀ amount ∈ others, amount.Positive) →
        total Amount.units others = total Amount.units amounts →
          ∀ after, state.reserveAll others now = .ok after ↔
            state.reserveAll amounts now = .ok after := by
  have counted : ∀ list : List Amount, list ≠ [] → (∀ amount ∈ list, amount.Positive) →
      sum.units = total Amount.units list → ∀ after,
        state.reserveAll list now = .ok after ↔ state.reserve sum now = .ok after := by
    intro list filled each is after
    obtain ⟨amount, rest, rfl⟩ := List.exists_cons_of_ne_nil filled
    exact reserveAll_eq_ok early (each amount List.mem_cons_self)
      (fun amount member => each amount (List.mem_cons_of_mem _ member)) is
  refine ⟨counted amounts some positive added, fun others filled each same after => ?_⟩
  rw [counted others filled each (added.trans same.symm), counted amounts some positive added]

/-- A wallet that may spend two in a day. -/
def sampleLimits : LimitState := .start ⟨.two, .greatest⟩ .epoch

/-- A day with two left takes them one by one, and it takes no three in whatever split. -/
theorem reserveAll_sum_samples :
    (∃ after, sampleLimits.reserveAll [.one, .one] .epoch = .ok after ∧
        after.dailySpent = .two) ∧
      ∀ after, sampleLimits.reserveAll [.one, .two] .epoch ≠ .ok after := by
  have early : Instant.epoch < .last := by decide
  have two := (reserveAll_sum sampleLimits early (List.cons_ne_nil Amount.one [.one]) (by decide)
    (show Amount.two.units = _ by decide)).1
  have three := (reserveAll_sum sampleLimits early (List.cons_ne_nil Amount.one [.two]) (by decide)
    (show (⟨3, by decide, by decide⟩ : Amount).units = _ by decide)).1
  have refused : sampleLimits.reserve ⟨3, by decide, by decide⟩ .epoch =
      .error (.dailyExceeded .two ⟨3, by decide, by decide⟩) := by rfl
  refine ⟨⟨{ sampleLimits with dailySpent := .two, monthlySpent := .two }, ?_, rfl⟩,
    fun after => ?_⟩
  · exact (two _).mpr (by rfl)
  · rw [ne_eq, three, refused]
    intro counted
    cases counted

/-- From the last instant on counters start again with each amount. -/
example : (sampleLimits.reserveAll [.two, .two] .last).toOption.isSome ∧
    (sampleLimits.reserve ⟨4, by decide, by decide⟩ .last).toOption = none := by decide

end LimitState

end Passbook.Limits
