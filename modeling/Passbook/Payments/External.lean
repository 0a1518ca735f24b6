/-
**Deposits that a payment rail has confirmed.**

Such a deposit is completed in two units of work. The first leaves a `confirmed` marker; the second
credits the wallet and turns the marker into a `completed` one. If the second fails, a third takes
the marker away again, as long as it is `confirmed`.

* `confirmDeposit`, `creditConfirmed`, `rollbackConfirmation`: the three units;
* `setDeadline`: the deadline of the whole, which has to be one that the clock can show;
* `completeInStages`: the whole, each unit under a session of its own. A key whose credit is still
  owed is taken up where it was left;
* `completeExternalDeposit`: the whole under one session.
-/

import Passbook.Payments.Processing

namespace Passbook.Payments

open Passbook.Calendar (Duration)
open Passbook.Store
open Passbook.Transfer (Receipt TransactionKey)

/-- Where a deposit stands after its confirmation. -/
inductive Confirmation where
  /-- The credit is owed. -/
  | pending
  /-- The credit was made before. -/
  | completed (amount : Amount)
deriving DecidableEq

/-- Leaves the marker of a confirmed deposit, or finds it. A key that belongs to another wallet or
amount is a duplicate. -/
def confirmDeposit (session : Session) (request : MovementRequest) (key : TransactionKey) :
    PaymentWork Confirmation := do
  match (← get).deposit? key.text with
  | some marker =>
    if marker.wallet ≠ request.wallet ∨ marker.amount ≠ request.amount then
      refuse (.duplicateTransaction key.text)
    else
      match marker.status with
      | .completed => pure (.completed marker.amount)
      | .confirmed => pure .pending
  | none =>
    insertMarker session depositSheet key (depositRow session request key .confirmed)
    pure .pending

/-- The marker of a confirmed deposit has to be there. -/
def lockMarker (key : TransactionKey) : PaymentWork DepositRow := do
  Work.found (.refused (.duplicateTransaction key.text)) ((← get).deposit? key.text)

/-- Credits a confirmed deposit and completes its marker. Tells whether someone else had done so
before. -/
def creditConfirmed (session : Session) (request : MovementRequest) (key : TransactionKey) :
    PaymentWork Bool := do
  let marker ← lockMarker key
  match marker.status with
  | .completed => pure true
  | .confirmed =>
    creditWallet session request
    Work.stored (changeOne session.faults depositSheet (fun row => row.key == marker.key)
      fun row => { row with status := .completed, processedAt := session.now })
    pure false

/-- Takes the marker of a confirmed deposit away. -/
def rollbackConfirmation (session : Session) (key : TransactionKey) : Work StorageFault Nat :=
  remove session.faults depositSheet unreferred fun row =>
    row.key == key.text && row.status == .confirmed

/-- Credits a confirmed deposit. When that fails the marker is taken away; when that fails too, the
marker stays. -/
def creditOrRollback (crediting undoing : Session) (request : MovementRequest)
    (key : TransactionKey) : Action (Halt PaymentError) Bool := do
  match ← Action.attempt (withinDeadline crediting .deposit request.deadline
      (creditConfirmed crediting request key)) with
  | .ok before => pure before
  | .error failure =>
    let _ ← Action.attempt (Action.atomically undoing (rollbackConfirmation undoing key))
    throw failure

/-- The deadline of a movement on the clock of its session. -/
def setDeadline (session : Session) (own : Option Duration) : Action (Halt PaymentError) Duration :=
  .verdict (unguarded (session.timer.deadline (allowance session own)))

/-- Completes a deposit that a payment rail has confirmed. Each unit of work has its own session:
time passes between them, and the deadline may pass with it. -/
def completeInStages (confirming crediting undoing : Session) (request : MovementRequest) :
    Action (Halt PaymentError) Receipt := do
  let key ← readKey request.key
  .verdict ((Transfer.ensurePositive request.amount).mapError fun cause =>
    Halt.refused (PaymentError.transfer cause))
  let _ ← setDeadline confirming request.deadline
  match ← withinDeadline confirming .deposit request.deadline
      (confirmDeposit confirming request key) with
  | .completed amount => settle (replay .deposit key amount)
  | .pending =>
    if ← creditOrRollback crediting undoing request key then
      settle (replay .deposit key request.amount)
    else
      settle (done .deposit key request.amount (depositEvent crediting request key))

/-- Completes a deposit that a payment rail has confirmed. -/
def completeExternalDeposit (session : Session) (request : MovementRequest) :
    Action (Halt PaymentError) Receipt :=
  completeInStages session session session request

end Passbook.Payments
