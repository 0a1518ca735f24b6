/-
**What may be done with the limits of a wallet, step after step.**

* `Step`: an amount is counted, counters are refreshed or only looked at, other limits are set;
  `LimitState.after`, `LimitState.outcomes`: what steps leave, and how their reservations come out;
* `LimitState.refreshed_refreshed`: refreshing at one instant and at a later one is refreshing at
  the later one;
* `Step.leave_idle`, `Step.leave_request`: so a step that asks for nothing cannot be told later, nor
  can it be told whether what a refusal refreshed was kept; `LimitState.refreshes_compose`: steps
  that ask for the same come out the same, under a clock that does not go back;
* `LimitState.Ordered`: nothing negative is spent, no more in the day than in the month, and the
  reset of the day comes no later than that of the month; `LimitState.after_ordered`: so it stays
  whatever steps come, under any clock.
-/

import Passbook.Proofs.Limits.Reserve

namespace Passbook.Limits

open Passbook.Calendar (Instant)

/-- What is done with the limits of a wallet. -/
inductive Step where
  /-- An amount is counted. If it is refused, the counters are kept as they stand at the instant, or
  else as they were. -/
  | reserve (amount : Amount) (now : Instant) (renews : Bool)
  /-- Counters whose window has passed start again. -/
  | refresh (now : Instant)
  /-- The limits are looked at as they apply at an instant. -/
  | read (now : Instant)
  /-- Other limits are set for the same counters. -/
  | withLimits (limits : SpendLimits)

namespace Step

/-- What a step leaves. -/
def leave (state : LimitState) : Step → LimitState
  | reserve amount now renews =>
    match state.reserve amount now with
    | .ok counted => counted
    | .error _ => if renews then state.refreshed now else state
  | refresh now => state.refreshed now
  | read _ => state
  | withLimits limits => state.withLimits limits

/-- How the amount of a step comes out, if it counts one. -/
def outcome? (state : LimitState) : Step → Option (Except LimitError LimitState)
  | reserve amount now _ => some (state.reserve amount now)
  | _ => none

/-- The instant at which a step may refresh. -/
def clock? : Step → Option Instant
  | reserve _ now _ => some now
  | refresh now => some now
  | _ => none

/-- What a step asks for: an amount to be counted, or other limits. Nothing is asked of how the
counters are kept when the amount is refused. -/
def request? : Step → Option Step
  | reserve amount now _ => some (reserve amount now false)
  | withLimits limits => some (withLimits limits)
  | _ => none

end Step

namespace LimitState

/-- What steps leave one after another. -/
def after (state : LimitState) (steps : List Step) : LimitState := steps.foldl Step.leave state

/-- How the amounts of steps come out one after another. -/
def outcomes (state : LimitState) : List Step → List (Except LimitError LimitState)
  | [] => []
  | step :: rest => (step.outcome? state).toList ++ outcomes (step.leave state) rest

/-! ### Refreshing -/

variable {state other : LimitState} {amount : Amount} {now later first second : Instant}

/-- **Refreshing twice is refreshing at the later instant.** -/
theorem refreshed_refreshed (onward : first ≤ second) :
    (state.refreshed first).refreshed second = state.refreshed second := by
  refine eq_of_windows rfl (fun window => ?_) fun window => ?_
  · rw [spent_refreshed, spent_refreshed, resetAt_refreshed, roll_roll onward, spent_refreshed]
  · rw [resetAt_refreshed, spent_refreshed, resetAt_refreshed, roll_roll onward,
      resetAt_refreshed]

/-- Counting asks for the counters as they stand at the instant only. -/
theorem reserve_congr (alike : state.refreshed now = other.refreshed now) :
    state.reserve amount now = other.reserve amount now := by
  rw [reserve, reserve, alike]

end LimitState

/-! ### Steps that cannot be told -/

namespace Step

variable {state other : LimitState} {step asked : Step} {later : Instant}

/-- Whether what a refusal refreshed is kept makes no difference later. -/
theorem leave_reserve {amount : Amount} {now : Instant} {renews : Bool}
    (alike : state.refreshed now = other.refreshed now)
    (alikeLater : state.refreshed later = other.refreshed later) (onward : now ≤ later) :
    ((reserve amount now renews).leave state).refreshed later =
      ((reserve amount now false).leave other).refreshed later := by
  simp only [leave]
  rw [LimitState.reserve_congr alike]
  cases other.reserve amount now with
  | ok counted => rfl
  | error cause =>
    cases renews with
    | false => exact alikeLater
    | true => exact (LimitState.refreshed_refreshed onward).trans alikeLater

/-- **A step that asks for nothing makes no difference later**, and it counts nothing. -/
theorem leave_idle (idle : step.request? = none) (onward : ∀ now ∈ step.clock?, now ≤ later) :
    (step.leave state).refreshed later = state.refreshed later := by
  cases step with
  | reserve amount now renews => cases idle
  | refresh now => exact LimitState.refreshed_refreshed (onward now rfl)
  | read now => rfl
  | withLimits limits => cases idle

theorem outcome_idle (idle : step.request? = none) : step.outcome? state = none := by
  cases step with
  | reserve amount now renews => cases idle
  | _ => rfl

/-- **A step does as what it asks for** where the counters stand alike. -/
theorem leave_request (is : step.request? = some asked)
    (alike : ∀ now ∈ step.clock?, state.refreshed now = other.refreshed now)
    (alikeLater : state.refreshed later = other.refreshed later)
    (onward : ∀ now ∈ step.clock?, now ≤ later) :
    (step.leave state).refreshed later = (asked.leave other).refreshed later := by
  cases step with
  | reserve amount now renews =>
    cases is
    exact leave_reserve (alike now rfl) alikeLater (onward now rfl)
  | withLimits limits =>
    cases is
    exact congrArg (LimitState.withLimits · limits) alikeLater
  | refresh now => cases is
  | read now => cases is

theorem outcome_request (is : step.request? = some asked)
    (alike : ∀ now ∈ step.clock?, state.refreshed now = other.refreshed now) :
    step.outcome? state = asked.outcome? other := by
  cases step with
  | reserve amount now renews =>
    cases is
    exact congrArg some (LimitState.reserve_congr (alike now rfl))
  | withLimits limits =>
    cases is
    rfl
  | refresh now => cases is
  | read now => cases is

end Step

/-- The instants of steps, in their order. -/
def clocks (steps : List Step) : List Instant := steps.filterMap Step.clock?

/-- What steps ask for, in their order. -/
def requests (steps : List Step) : List Step := steps.filterMap Step.request?

theorem clocks_cons (step : Step) (rest : List Step) :
    clocks (step :: rest) = step.clock?.toList ++ clocks rest := by
  rw [clocks, List.filterMap_cons]
  cases step.clock? <;> rfl

namespace LimitState

variable {state other : LimitState}

/-- Steps come out as what they ask for, and leave the counters alike for all that is still to
come. -/
theorem after_requests (steps : List Step) {upcoming : List Instant}
    (onward : (clocks steps ++ upcoming).Pairwise (· ≤ ·))
    (alike : ∀ moment ∈ clocks steps ++ upcoming,
      state.refreshed moment = other.refreshed moment) :
    state.outcomes steps = other.outcomes (requests steps) ∧ ∀ moment ∈ upcoming,
      (state.after steps).refreshed moment = (other.after (requests steps)).refreshed moment := by
  induction steps generalizing state other with
  | nil => exact ⟨rfl, alike⟩
  | cons step rest ih =>
    rw [clocks_cons, List.append_assoc] at onward alike
    obtain ⟨_, onwardRest, before⟩ := List.pairwise_append.mp onward
    have alikeNow : ∀ now ∈ step.clock?, state.refreshed now = other.refreshed now :=
      fun now is => alike now (List.mem_append_left _ (Option.mem_toList.mpr is))
    have alikeRest : ∀ moment ∈ clocks rest ++ upcoming,
        state.refreshed moment = other.refreshed moment :=
      fun moment member => alike moment (List.mem_append_right _ member)
    have earlier : ∀ moment ∈ clocks rest ++ upcoming, ∀ now ∈ step.clock?, now ≤ moment :=
      fun moment member now is => before now (Option.mem_toList.mpr is) moment member
    cases asks : step.request? with
    | none =>
      have same : requests (step :: rest) = requests rest := List.filterMap_cons_none asks
      obtain ⟨outcomes, left⟩ := ih onwardRest fun moment member =>
        (step.leave_idle asks (earlier moment member)).trans (alikeRest moment member)
      rw [same, LimitState.outcomes, Step.outcome_idle asks]
      exact ⟨outcomes, left⟩
    | some asked =>
      have same : requests (step :: rest) = asked :: requests rest :=
        List.filterMap_cons_some asks
      obtain ⟨outcomes, left⟩ := ih onwardRest fun moment member =>
        step.leave_request asks alikeNow (alikeRest moment member) (earlier moment member)
      rw [same, LimitState.outcomes, LimitState.outcomes, Step.outcome_request asks alikeNow,
        outcomes]
      exact ⟨rfl, left⟩

/-- **Lazy resets compose.** Refreshing at one instant and at a later one is refreshing at the later
one, and what is counted then comes out the same. So under a clock that does not go back steps that
ask for the same, whatever refreshes and looks are among them and whether or not refusals keep what
they refreshed, come out the same and stand the same at every later instant. -/
theorem refreshes_compose (state : LimitState) :
    (∀ first second : Instant, first ≤ second →
      (state.refreshed first).refreshed second = state.refreshed second ∧
        ∀ amount, (state.refreshed first).reserve amount second = state.reserve amount second) ∧
      ∀ steps others : List Step, (clocks steps).Pairwise (· ≤ ·) →
        (clocks others).Pairwise (· ≤ ·) → requests steps = requests others →
          state.outcomes steps = state.outcomes others ∧
            ∀ later, (∀ moment ∈ clocks steps ++ clocks others, moment ≤ later) →
              (state.after steps).refreshed later = (state.after others).refreshed later := by
  refine ⟨fun first second onward => ?_, fun steps others onward onward' same => ?_⟩
  · have once : (state.refreshed first).refreshed second = state.refreshed second :=
      refreshed_refreshed onward
    exact ⟨once, fun amount => reserve_congr once⟩
  · have plain : ∀ (list : List Step) (upcoming : List Instant),
        (clocks list ++ upcoming).Pairwise (· ≤ ·) →
          state.outcomes list = state.outcomes (requests list) ∧ ∀ moment ∈ upcoming,
            (state.after list).refreshed moment = (state.after (requests list)).refreshed moment :=
      fun list upcoming onward => after_requests list onward fun _ _ => rfl
    have closed : ∀ {list : List Step} {later : Instant}, (clocks list).Pairwise (· ≤ ·) →
        (∀ moment ∈ clocks list, moment ≤ later) → (clocks list ++ [later]).Pairwise (· ≤ ·) :=
      fun onward before => List.pairwise_append.mpr ⟨onward, List.pairwise_singleton _ _,
        fun moment member last single => List.mem_singleton.mp single ▸ before moment member⟩
    refine ⟨?_, fun later before => ?_⟩
    · rw [(plain steps [] (by rwa [List.append_nil])).1,
        (plain others [] (by rwa [List.append_nil])).1, same]
    · have left := (plain steps [later] (closed onward fun moment member =>
        before moment (List.mem_append_left _ member))).2 later List.mem_cons_self
      have left' := (plain others [later] (closed onward' fun moment member =>
        before moment (List.mem_append_right _ member))).2 later List.mem_cons_self
      rw [left, left', same]

/-- The midnight after the epoch. -/
def sampleMidnight : Instant := (Instant.atDay? 1).getD .epoch

/-- Of two in a day one is spent, three are refused at midnight, and two are spent then. -/
def sampleSteps : List Step :=
  [.reserve .one .epoch false, .reserve ⟨3, by decide, by decide⟩ sampleMidnight false,
    .reserve .two sampleMidnight false]

/-- The same, with looks and refreshes in between, and the refusal keeps what it refreshed. -/
def sampleOften : List Step :=
  [.refresh .epoch, .reserve .one .epoch true, .read sampleMidnight, .refresh .epoch,
    .reserve ⟨3, by decide, by decide⟩ sampleMidnight true, .read .epoch,
    .reserve .two sampleMidnight false, .refresh sampleMidnight]

/-- Both come out the same, and both stand the same at the end of time. -/
theorem refreshes_compose_samples :
    (sampleLimits.outcomes sampleOften = sampleLimits.outcomes sampleSteps ∧
        (sampleLimits.after sampleOften).refreshed .last =
          (sampleLimits.after sampleSteps).refreshed .last) ∧
      (sampleLimits.outcomes sampleSteps).map (fun outcome => outcome.toOption.isSome) =
        [true, false, true] := by
  obtain ⟨outcomes, left⟩ := (refreshes_compose sampleLimits).2 sampleOften sampleSteps
    (by decide) (by decide) rfl
  exact ⟨⟨outcomes, left .last (by decide)⟩, by decide⟩

/-! ### What stays under any clock -/

/-- Nothing negative is spent, no more in the day than in the month, and the reset of the day comes
no later than that of the month. That one is scheduled, so it is a midnight or the last instant,
which no refreshed reset of a day is beyond. -/
structure Ordered (state : LimitState) : Prop where
  notNegative : 0 ≤ state.dailySpent.units
  within : state.dailySpent ≤ state.monthlySpent
  resets : state.dailyResetAt ≤ state.monthlyResetAt
  scheduled : ∃ seen, state.monthlyResetAt = Window.monthly.nextReset seen

theorem Ordered.start (limits : SpendLimits) (now : Instant) : (start limits now).Ordered :=
  ⟨Int.le_refl 0, Int.le_refl 0, Window.daily_nextReset_le_self, now, rfl⟩

variable {state after : LimitState} {amount : Amount} {now : Instant}

/-- **Refreshing keeps the order.** When the month is over the day is too. -/
theorem Ordered.refreshed (ordered : state.Ordered) (now : Instant) :
    (state.refreshed now).Ordered := by
  obtain ⟨seen, scheduled⟩ := ordered.scheduled
  by_cases monthOver : state.monthlyResetAt ≤ now
  · have dayOver : state.dailyResetAt ≤ now := Instant.le_trans ordered.resets monthOver
    simp only [LimitState.refreshed, roll_of_le monthOver, roll_of_le dayOver]
    exact ⟨Int.le_refl 0, Int.le_refl 0, Window.daily_nextReset_le_self, now, rfl⟩
  · by_cases dayOver : state.dailyResetAt ≤ now
    · simp only [LimitState.refreshed, roll_of_not_le monthOver, roll_of_le dayOver]
      refine ⟨Int.le_refl 0, Int.le_trans ordered.notNegative ordered.within, ?_, seen, scheduled⟩
      rw [scheduled] at monthOver ⊢
      exact Window.daily_nextReset_le monthOver
    · simp only [LimitState.refreshed, roll_of_not_le monthOver, roll_of_not_le dayOver]
      exact ordered

/-- Counting an amount adds it on both sides. -/
theorem Ordered.reserved (ordered : state.Ordered) (did : Reserved state amount now after) :
    after.Ordered := by
  obtain ⟨notNegative, within, resets, seen, scheduled⟩ := ordered.refreshed now
  have positive : 0 < amount.units := did.positive
  have daily : after.dailySpent.units = (state.refreshed now).dailySpent.units + amount.units :=
    did.counted .daily
  have monthly : after.monthlySpent.units =
      (state.refreshed now).monthlySpent.units + amount.units := did.counted .monthly
  have dailyReset : after.dailyResetAt = (state.refreshed now).dailyResetAt := did.resets .daily
  have monthlyReset : after.monthlyResetAt = (state.refreshed now).monthlyResetAt :=
    did.resets .monthly
  rw [Amount.le_iff] at within
  refine ⟨?_, ?_, ?_, seen, monthlyReset.trans scheduled⟩
  · omega
  · rw [Amount.le_iff]
    omega
  · rw [dailyReset, monthlyReset]
    exact resets

/-- **A step keeps the order.** -/
theorem Ordered.leave (ordered : state.Ordered) (step : Step) : (step.leave state).Ordered := by
  cases step with
  | reserve amount now renews =>
    simp only [Step.leave]
    cases reserved : state.reserve amount now with
    | ok counted => exact ordered.reserved (of_reserve reserved)
    | error cause =>
      cases renews with
      | false => exact ordered
      | true => exact ordered.refreshed now
  | refresh now => exact ordered.refreshed now
  | read now => exact ordered
  | withLimits limits => exact ⟨ordered.notNegative, ordered.within, ordered.resets,
      ordered.scheduled⟩

/-- So do steps one after another. -/
theorem Ordered.along (ordered : state.Ordered) (steps : List Step) :
    (state.after steps).Ordered := by
  induction steps generalizing state with
  | nil => exact ordered
  | cons step rest ih => exact ih (ordered.leave step)

/-- **Limits stay in order under any clock.** From any limits and instant on, whatever steps come at
whatever instants, nothing negative is spent in the day, no more than in the month, and the reset of
the day comes no later than that of the month. Where a further amount is counted, what is spent then
is within the limits of the day and of the month. -/
theorem after_ordered (limits : SpendLimits) (now : Instant) (steps : List Step) :
    (0 ≤ ((start limits now).after steps).dailySpent.units ∧
        ((start limits now).after steps).dailySpent ≤
          ((start limits now).after steps).monthlySpent ∧
        ((start limits now).after steps).dailyResetAt ≤
          ((start limits now).after steps).monthlyResetAt) ∧
      ∀ amount moment counted,
        ((start limits now).after steps).reserve amount moment = .ok counted →
          counted.dailySpent ≤ counted.dailyLimit ∧
            counted.monthlySpent ≤ counted.monthlyLimit := by
  have ordered := (Ordered.start limits now).along steps
  refine ⟨⟨ordered.notNegative, ordered.within, ordered.resets⟩, fun amount moment counted is => ?_⟩
  have did := of_reserve is
  exact ⟨did.within .daily, did.within .monthly⟩

end LimitState

end Passbook.Limits
