/-
**Spend limits of a wallet.**

* `SpendLimits.make`: both limits positive and the monthly one not below the daily one;
* `LimitState.refreshed`: the counters whose window has passed start again;
* `LimitState.reserve`: counts an amount in both windows if neither limit is passed, the daily one
  being looked at first;
* `LimitState.remainingDaily`, `remainingMonthly`: what may still be spent.
-/

import Passbook.Halt
import Passbook.Limits.Window
import Passbook.Problem
import Passbook.Text.Digits

namespace Passbook.Limits

open Passbook.Calendar (Instant)

/-- The causes of a refusal. -/
inductive LimitError where
  /-- More than the day has left. -/
  | dailyExceeded (remaining requested : Amount)
  /-- More than the month has left. -/
  | monthlyExceeded (remaining requested : Amount)
  /-- The limits make no sense. -/
  | invalidLimits (daily monthly : Amount)
  /-- Only a positive amount can be spent. -/
  | invalidAmount (amount : Amount)
  /-- A counter leaves the range. -/
  | overflow
deriving DecidableEq

namespace LimitError

/-- The code of a cause. -/
def code : LimitError → String
  | dailyExceeded _ _ => "DAILY_LIMIT_EXCEEDED"
  | monthlyExceeded _ _ => "MONTHLY_LIMIT_EXCEEDED"
  | invalidLimits _ _ => "INVALID_LIMITS"
  | invalidAmount _ => "INVALID_AMOUNT"
  | overflow => "AMOUNT_OVERFLOW"

/-- The category of a cause. -/
def category : LimitError → Category
  | dailyExceeded _ _ => .badRequest
  | monthlyExceeded _ _ => .badRequest
  | _ => .validation

/-- The message of a cause. -/
def message : LimitError → String
  | dailyExceeded remaining requested =>
    "Amount " ++ Text.decimal requested.units ++ " exceeds daily limit, remaining " ++
      Text.decimal remaining.units
  | monthlyExceeded remaining requested =>
    "Amount " ++ Text.decimal requested.units ++ " exceeds monthly limit, remaining " ++
      Text.decimal remaining.units
  | invalidLimits daily monthly =>
    "Invalid limits: daily " ++ Text.decimal daily.units ++ ", monthly " ++
      Text.decimal monthly.units
  | invalidAmount amount => "Amount must be positive, got " ++ Text.decimal amount.units
  | overflow => "Spend counter overflow"

/-- The report of a cause. -/
def report (error : LimitError) : Report := .plain error.category error.code error.message

end LimitError

instance : Reportable LimitError := ⟨fun cause => .ok cause.report⟩

/-- The most that may be spent in a day and in a month. -/
structure SpendLimits where
  daily : Amount
  monthly : Amount
deriving DecidableEq

/-- Limits that make sense. -/
def SpendLimits.make (daily monthly : Amount) : Except LimitError SpendLimits :=
  if daily.units ≤ 0 ∨ monthly.units ≤ 0 ∨ monthly < daily then
    .error (.invalidLimits daily monthly)
  else .ok ⟨daily, monthly⟩

/-- Limits, counters and resets of both windows. -/
@[ext]
structure LimitState where
  dailyLimit : Amount
  dailySpent : Amount
  dailyResetAt : Instant
  monthlyLimit : Amount
  monthlySpent : Amount
  monthlyResetAt : Instant
deriving DecidableEq

namespace LimitState

/-- Nothing spent yet. -/
def start (limits : SpendLimits) (now : Instant) : LimitState where
  dailyLimit := limits.daily
  dailySpent := .zero
  dailyResetAt := Window.daily.nextReset now
  monthlyLimit := limits.monthly
  monthlySpent := .zero
  monthlyResetAt := Window.monthly.nextReset now

/-- The state at an instant: counters whose window has passed start again. -/
def refreshed (state : LimitState) (now : Instant) : LimitState :=
  let daily := roll .daily state.dailySpent state.dailyResetAt now
  let monthly := roll .monthly state.monthlySpent state.monthlyResetAt now
  { state with
    dailySpent := daily.1
    dailyResetAt := daily.2
    monthlySpent := monthly.1
    monthlyResetAt := monthly.2 }

/-- What a counter leaves of its limit, never less than nothing. -/
def remaining (limit spent : Amount) : Amount := Amount.max .zero (limit.subSaturating spent)

/-- What the day has left. -/
def remainingDaily (state : LimitState) : Amount := remaining state.dailyLimit state.dailySpent

/-- What the month has left. -/
def remainingMonthly (state : LimitState) : Amount :=
  remaining state.monthlyLimit state.monthlySpent

/-- Counts an amount at an instant. -/
def reserve (state : LimitState) (amount : Amount) (now : Instant) :
    Except LimitError LimitState :=
  if amount.units ≤ 0 then .error (.invalidAmount amount)
  else
    let current := state.refreshed now
    match current.dailySpent.add? amount with
    | none => .error .overflow
    | some daily =>
      if current.dailyLimit < daily then .error (.dailyExceeded current.remainingDaily amount)
      else
        match current.monthlySpent.add? amount with
        | none => .error .overflow
        | some monthly =>
          if current.monthlyLimit < monthly then
            .error (.monthlyExceeded current.remainingMonthly amount)
          else .ok { current with dailySpent := daily, monthlySpent := monthly }

/-- Other limits for the same counters. -/
def withLimits (state : LimitState) (limits : SpendLimits) : LimitState :=
  { state with dailyLimit := limits.daily, monthlyLimit := limits.monthly }

end LimitState

end Passbook.Limits
