/-
**Limits of the wallets in the books.**

* `getLimits`: the limits as they apply now; counters whose window has passed read as nothing, and
  nothing is written;
* `updateLimits`: other limits for the same counters;
* `reserve`: counts an amount within the unit of work of a caller, who keeps or drops all of it.
-/

import Passbook.Holdings.Error

namespace Passbook.Holdings

open Passbook.Limits (LimitState SpendLimits)
open Passbook.Store

/-- The row of limits of a wallet that is opened. -/
def newLimitsRow (session : Session) (wallet : WalletId) : LimitsRow where
  wallet := wallet
  state := LimitState.start session.newLimits session.now
  updatedAt := session.now

/-- The limits of a wallet have to be there. -/
def lockLimits (wallet : WalletId) : Work HoldingError LimitsRow := do
  Work.found (.limitsNotFound wallet)
    (← Work.lookUp limitsSheet fun books => books.limits? wallet)

/-- Writes limits and counters. -/
def saveLimits (session : Session) (wallet : WalletId) (state : LimitState) :
    Work HoldingError Unit :=
  Work.stored (changeOne session.faults limitsSheet (fun row => row.wallet == wallet)
    fun row => { row with state := state, updatedAt := session.now })

/-- The limits of a wallet as they apply now. -/
def getLimits (session : Session) (wallet : WalletId) : Action HoldingError LimitState := do
  let row ← Action.found (.limitsNotFound wallet)
    (← Action.lookUp session limitsSheet fun books => books.limits? wallet)
  pure (row.state.refreshed session.now)

/-- Sets limits within a unit of work. -/
def bookLimits (session : Session) (wallet : WalletId) (limits : SpendLimits) :
    Work HoldingError LimitState := do
  let row ← lockLimits wallet
  let state := (row.state.refreshed session.now).withLimits limits
  saveLimits session row.wallet state
  pure state

/-- Sets limits that make sense. The counters are kept. -/
def updateLimits (session : Session) (wallet : WalletId) (daily monthly : Amount) :
    Action HoldingError LimitState := do
  let limits ← .verdict ((SpendLimits.make daily monthly).mapError .limit)
  .atomically session (bookLimits session wallet limits)

/-- Counts an amount against the limits of a wallet. -/
def reserve (session : Session) (wallet : WalletId) (amount : Amount) :
    Work HoldingError LimitState := do
  let row ← lockLimits wallet
  let state ← Work.verdict ((row.state.reserve amount session.now).mapError .limit)
  saveLimits session row.wallet state
  pure state

/-- Counts amounts one after another, each of them or not at all. -/
def reserveEach (session : Session) (wallet : WalletId) :
    List Amount → Work HoldingError (List (Except HoldingError LimitState))
  | [] => pure []
  | amount :: rest => do
    let outcome ← Work.attempt (reserve session wallet amount)
    let outcomes ← reserveEach session wallet rest
    pure (outcome :: outcomes)

end Passbook.Holdings
