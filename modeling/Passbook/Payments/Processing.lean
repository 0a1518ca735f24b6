/-
**Moving money, once for each key.**

A movement leaves a marker under its key in the same unit of work that writes the balances. A key
with a marker is answered from the marker: nothing moves again.

* `processTransfer`: from one wallet to another, both taken in one order whichever way round;
* `processDeposit`, `processWithdrawal`: into and out of one wallet;
* `withinDeadline`: a movement that cannot reach the storage in time is given up, and may be
  tried again.
-/

import Passbook.Holdings.Wallets
import Passbook.Payments.Error

namespace Passbook.Payments

open Passbook.Calendar (Duration)
open Passbook.Holdings (HoldingError)
open Passbook.Store
open Passbook.Transfer (OperationKind Receipt TransactionKey TransferError)
open Passbook.Wallet (Snapshot)

/-- A transfer that is asked for. -/
structure TransferRequest where
  source : WalletId
  destination : WalletId
  amount : Amount
  key : String
  /-- The time that it may take, where that is not the usual one. -/
  deadline : Option Duration
  /-- Who has to own the source. -/
  initiator : Option UserId

/-- A movement into or out of one wallet that is asked for. -/
structure MovementRequest where
  wallet : WalletId
  amount : Amount
  key : String
  /-- The time that it may take, where that is not the usual one. -/
  deadline : Option Duration
  /-- Who has to own the wallet when money leaves it. -/
  initiator : Option UserId

/-- A unit of work on payments. -/
abbrev PaymentWork (α : Type) := Work (Halt PaymentError) α

/-- What a unit of work has booked: the receipt and, unless it was a replay, what to make known. -/
structure Booked where
  receipt : Receipt
  event : Option Event

/-! ### The parts of a movement -/

/-- Ends a movement for a cause. -/
def refuse {α : Type} (cause : PaymentError) : PaymentWork α := throw (.refused cause)

/-- The verdict of the rules of movements. -/
def judged {α : Type} (verdict : Except TransferError α) : PaymentWork α :=
  Work.verdict (verdict.mapError fun cause => .refused (.transfer cause))

/-- The verdict of the rules of movements, or an overflow. -/
def planned {α : Type} (verdict : Except (Halt TransferError) α) : PaymentWork α :=
  Work.verdict (verdict.mapError (Halt.map .transfer))

/-- Work on wallets as part of a movement. -/
def held {α : Type} (work : Work HoldingError α) : PaymentWork α :=
  Work.mapError (fun cause => .refused (.holding cause)) work

/-- The initiator has to own the wallet, if one is named. -/
def ensureInitiator (wallet : Snapshot) : Option UserId → PaymentWork Unit
  | none => pure ()
  | some caller =>
    held (Work.verdict ((Wallet.ensureOwner wallet caller).mapError .wallet))

/-- Adds a marker. A key that is taken by now is a duplicate. -/
def insertMarker {ρ : Type} (session : Session) (sheet : Sheet ρ) (key : TransactionKey)
    (row : ρ) : PaymentWork Unit :=
  Work.mapError (fun fault =>
      match fault with
      | .notUnique => .refused (.duplicateTransaction key.text)
      | fault => .refused (.storage fault))
    (insert session.faults sheet row)

/-- The answer to a key whose movement was made before. -/
def replay (kind : OperationKind) (key : TransactionKey) (amount : Amount) : Booked :=
  ⟨⟨kind, key, amount, true⟩, none⟩

/-- The answer to a movement that was made just now. -/
def done (kind : OperationKind) (key : TransactionKey) (amount : Amount) (event : Event) : Booked :=
  ⟨⟨kind, key, amount, false⟩, some event⟩

/-- The time that a movement may take. -/
def allowance (session : Session) (own : Option Duration) : Duration :=
  own.getD session.timer.usual

/-- A movement that could not reach the storage ran out of time. -/
def expired (kind : OperationKind) (limit : Duration) : Halt PaymentError → Halt PaymentError
  | .refused (.storage .unreachable) => .refused (.timeout kind limit.milliseconds)
  | other => other

/-- Commits a unit of work within the deadline. -/
def withinDeadline {α : Type} (session : Session) (kind : OperationKind) (own : Option Duration)
    (work : PaymentWork α) : Action (Halt PaymentError) α :=
  .mapError (expired kind (allowance session own)) (.atomically session work)

/-- Makes known what was booked and gives the receipt. -/
def settle (booked : Booked) : Action (Halt PaymentError) Receipt := do
  if let some event := booked.event then .publish event
  pure booked.receipt

/-- Reads the key of a movement. -/
def readKey (text : String) : Action (Halt PaymentError) TransactionKey :=
  .verdict ((TransactionKey.read text).mapError fun cause => .refused (.transfer cause))

/-! ### Transfers -/

/-- Takes both wallets, the lower identifier first, and gives source and destination. -/
def lockPair (source destination : WalletId) : PaymentWork (WalletRow × WalletRow) := do
  let (first, second) := lockOrder source destination
  let firstRow ← held (Holdings.lockWallet first)
  let secondRow ← held (Holdings.lockWallet second)
  pure (if first = source then (firstRow, secondRow) else (secondRow, firstRow))

/-- Moves money between two wallets and leaves the marker. -/
def moveBetween (session : Session) (request : TransferRequest) (key : TransactionKey) :
    PaymentWork Booked := do
  judged (Transfer.ensurePositive request.amount)
  if request.source = request.destination then refuse (.transfer .sameWallet)
  let (source, destination) ← lockPair request.source request.destination
  ensureInitiator source.snapshot request.initiator
  let plan ← planned (Transfer.planTransfer source.snapshot destination.snapshot request.amount)
  let _ ← held (Holdings.reserve session request.source request.amount)
  Work.stored (Holdings.saveBalance session source.id plan.source)
  Work.stored (Holdings.saveBalance session destination.id plan.destination)
  insertMarker session transferSheet key
    ⟨key.text, request.source, request.destination, request.amount, session.now⟩
  pure (done .transfer key request.amount
    (.transferCompleted key.text request.source request.destination request.amount
      source.currency session.now))

/-- Books a transfer, or finds it booked. -/
def bookTransfer (session : Session) (request : TransferRequest) (key : TransactionKey) :
    PaymentWork Booked := do
  match (← get).transfer? key.text with
  | some marker => pure (replay .transfer key marker.amount)
  | none => moveBetween session request key

/-- Moves money from one wallet to another. -/
def processTransfer (session : Session) (request : TransferRequest) :
    Action (Halt PaymentError) Receipt := do
  let key ← readKey request.key
  let booked ← withinDeadline session .transfer request.deadline (bookTransfer session request key)
  settle booked

/-! ### Deposits -/

/-- What is made known of a deposit. -/
def depositEvent (session : Session) (request : MovementRequest) (key : TransactionKey) : Event :=
  .depositCompleted key.text request.wallet request.amount session.now

/-- The marker of a deposit. -/
def depositRow (session : Session) (request : MovementRequest) (key : TransactionKey)
    (status : DepositStatus) : DepositRow :=
  ⟨key.text, request.wallet, request.amount, status, session.now⟩

/-- Credits the wallet of a deposit. -/
def creditWallet (session : Session) (request : MovementRequest) : PaymentWork Unit := do
  let wallet ← held (Holdings.lockWallet request.wallet)
  let balance ← judged (Transfer.planDeposit wallet.snapshot request.amount)
  Work.stored (Holdings.saveBalance session wallet.id balance)

/-- Moves money into a wallet and leaves the marker. -/
def moveIn (session : Session) (request : MovementRequest) (key : TransactionKey) :
    PaymentWork Booked := do
  judged (Transfer.ensurePositive request.amount)
  creditWallet session request
  insertMarker session depositSheet key (depositRow session request key .completed)
  pure (done .deposit key request.amount (depositEvent session request key))

/-- Books a deposit, or finds it booked. One that is announced and not yet credited is in
progress elsewhere. -/
def bookDeposit (session : Session) (request : MovementRequest) (key : TransactionKey) :
    PaymentWork Booked := do
  match (← get).deposit? key.text with
  | some marker =>
    match marker.status with
    | .completed => pure (replay .deposit key marker.amount)
    | .confirmed => refuse (.duplicateTransaction key.text)
  | none => moveIn session request key

/-- Moves money into a wallet. -/
def processDeposit (session : Session) (request : MovementRequest) :
    Action (Halt PaymentError) Receipt := do
  let key ← readKey request.key
  let booked ← withinDeadline session .deposit request.deadline (bookDeposit session request key)
  settle booked

/-! ### Withdrawals -/

/-- Moves money out of a wallet and leaves the marker. -/
def moveOut (session : Session) (request : MovementRequest) (key : TransactionKey) :
    PaymentWork Booked := do
  judged (Transfer.ensurePositive request.amount)
  let wallet ← held (Holdings.lockWallet request.wallet)
  ensureInitiator wallet.snapshot request.initiator
  let balance ← planned (Transfer.planWithdrawal wallet.snapshot request.amount)
  Work.stored (Holdings.saveBalance session wallet.id balance)
  insertMarker session withdrawalSheet key
    ⟨key.text, request.wallet, request.amount, session.now⟩
  pure (done .withdrawal key request.amount
    (.withdrawalCompleted key.text request.wallet request.amount session.now))

/-- Books a withdrawal, or finds it booked. -/
def bookWithdrawal (session : Session) (request : MovementRequest) (key : TransactionKey) :
    PaymentWork Booked := do
  match (← get).withdrawal? key.text with
  | some marker => pure (replay .withdrawal key marker.amount)
  | none => moveOut session request key

/-- Moves money out of a wallet. -/
def processWithdrawal (session : Session) (request : MovementRequest) :
    Action (Halt PaymentError) Receipt := do
  let key ← readKey request.key
  let booked ← withinDeadline session .withdrawal request.deadline
    (bookWithdrawal session request key)
  settle booked

end Passbook.Payments
