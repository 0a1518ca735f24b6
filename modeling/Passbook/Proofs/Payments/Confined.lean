/-
**What movements of money look at and change.**

* `reserve_confined`, `bookBalance_confined`: limits and holds keep to their wallet;
* `bookTransfer_confined`, `bookDeposit_confined`, `bookWithdrawal_confined`: movements keep to their
  wallets and to the marker of their key;
* `confirmDeposit_confined`, `creditConfirmed_confined`, `rollbackConfirmation_confined`: so do the
  units of work of a confirmed deposit;
* `processTransfer_contained` and its like: the same of whole operations, refused or not.
-/

import Passbook.Proofs.Payments.External
import Passbook.Proofs.Store.Contained

namespace Passbook.Holdings

open Passbook.Store

variable {scope : Scope} {wallet : WalletId} (session : Session)

theorem lockWallet_confined (its : scope (.wallet wallet) = true) :
    Confined scope (lockWallet wallet) := by
  unfold lockWallet
  exact (Confined.lookUp walletSheet (wallet?_within its)).bind fun _ _ => .found _ _

theorem saveBalance_confined (balance : Wallet.WalletBalance)
    (its : scope (.wallet wallet) = true) : Confined scope (saveBalance session wallet balance) :=
  confined_changeWallet _ its (fun _ => rfl) fun _ => rfl

theorem lockLimits_confined (its : scope (.wallet wallet) = true) :
    Confined scope (lockLimits wallet) := by
  unfold lockLimits
  exact (Confined.lookUp limitsSheet (limits?_within its)).bind fun _ _ => .found _ _

theorem saveLimits_confined (state : Limits.LimitState) (its : scope (.wallet wallet) = true) :
    Confined scope (saveLimits session wallet state) := by
  unfold saveLimits
  refine Confined.stored ?_
  exact confined_changeLimits _ its fun _ => rfl

/-- Counting an amount against the limits of a wallet. -/
theorem reserve_confined (amount : Amount) (its : scope (.wallet wallet) = true) :
    Confined scope (reserve session wallet amount) := by
  unfold reserve
  refine (lockLimits_confined its).bind fun {row _ _} _ locked => ?_
  obtain ⟨_, named, _⟩ := of_lockLimits locked
  refine (Confined.verdict _).bind fun _ _ => ?_
  exact (saveLimits_confined session _ (named ▸ its)).bind fun _ _ => .pure _

/-- Changing the balance of a wallet. -/
theorem bookBalance_confined (check : Wallet.Snapshot → Except Wallet.WalletError Unit)
    (move : Wallet.WalletBalance → Except (Halt Wallet.WalletError) Wallet.WalletBalance)
    (its : scope (.wallet wallet) = true) :
    Confined scope (bookBalance session wallet check move) := by
  unfold bookBalance
  refine ((lockWallet_confined its).mapError _).bind fun {row _ _} _ locked => ?_
  obtain ⟨_, named, _⟩ := of_lockWallet (Work.mapError_eq_ok.mp locked)
  refine (Confined.verdict _).bind fun _ _ => (Confined.verdict _).bind fun _ _ => ?_
  exact (saveBalance_confined session _ (named ▸ its)).stored.bind fun _ _ => .pure _

end Passbook.Holdings

namespace Passbook.Payments

open Passbook.Holdings
open Passbook.Store
open Passbook.Transfer (OperationKind TransactionKey)

variable {scope : Scope} (session : Session)

/-! ### The parts of a movement -/

theorem held_confined {α : Type} {work : Work HoldingError α} (confined : Confined scope work) :
    Confined scope (held work) :=
  confined.mapError _

theorem judged_confined {α : Type} (verdict : Except Transfer.TransferError α) :
    Confined scope (judged verdict) :=
  .verdict _

theorem planned_confined {α : Type} (verdict : Except (Halt Transfer.TransferError) α) :
    Confined scope (planned verdict) :=
  .verdict _

theorem ensureInitiator_confined (wallet : Wallet.Snapshot) (initiator : Option UserId) :
    Confined scope (ensureInitiator wallet initiator) := by
  cases initiator with
  | none => exact .pure ()
  | some caller => exact held_confined (.verdict _)

theorem insertMarker_confined {ρ : Type} {sheet : Sheet ρ} {row : ρ} (key : TransactionKey)
    (confined : Confined scope (insert session.faults sheet row)) :
    Confined scope (insertMarker session sheet key row) :=
  confined.mapError _

/-- Both wallets of a transfer, taken in one order whichever way round. -/
theorem lockPair_confined {source destination : WalletId} (its : scope (.wallet source) = true)
    (its' : scope (.wallet destination) = true) : Confined scope (lockPair source destination) := by
  unfold lockPair lockOrder
  by_cases first : source ≤ destination
  · simp only [if_pos first]
    exact (held_confined (lockWallet_confined its)).bind fun _ _ =>
      (held_confined (lockWallet_confined its')).bind fun _ _ => .pure _
  · simp only [if_neg first]
    exact (held_confined (lockWallet_confined its')).bind fun _ _ =>
      (held_confined (lockWallet_confined its)).bind fun _ _ => .pure _

/-- Crediting a wallet. -/
theorem creditWallet_confined (request : MovementRequest)
    (its : scope (.wallet request.wallet) = true) :
    Confined scope (creditWallet session request) := by
  unfold creditWallet
  refine (held_confined (lockWallet_confined its)).bind fun {row _ _} _ locked => ?_
  obtain ⟨_, named, _⟩ := of_lockWallet (held_eq_ok.mp locked)
  exact (judged_confined _).bind fun _ _ => (saveBalance_confined session _ (named ▸ its)).stored

/-! ### Movements -/

/-- Moving money between two wallets. -/
theorem moveBetween_confined {request : TransferRequest} {key : TransactionKey}
    (its : scope (.wallet request.source) = true)
    (its' : scope (.wallet request.destination) = true)
    (marker : scope (.transfer key.text) = true) :
    Confined scope (moveBetween session request key) := by
  unfold moveBetween
  refine (judged_confined _).bind fun _ _ => ?_
  by_cases same : request.source = request.destination
  · simp only [if_pos same]
    exact (Confined.throw _).bind fun _ refused => absurd (Work.throw_eq_ok.mp refused) id
  · simp only [if_neg same]
    refine (lockPair_confined its its').bind fun {rows _ _} _ locked => ?_
    obtain ⟨⟨_, named⟩, ⟨_, named'⟩, _⟩ := of_lockPair same locked
    refine (ensureInitiator_confined _ _).bind fun _ _ => (planned_confined _).bind fun _ _ => ?_
    refine (held_confined (reserve_confined session _ its)).bind fun _ _ => ?_
    refine (saveBalance_confined session _ (named ▸ its)).stored.bind fun _ _ => ?_
    refine (saveBalance_confined session _ (named' ▸ its')).stored.bind fun _ _ => ?_
    exact (insertMarker_confined session key (confined_addTransfer _ marker)).bind
      fun _ _ => .pure _

/-- Moving money into a wallet. -/
theorem moveIn_confined {request : MovementRequest} {key : TransactionKey}
    (its : scope (.wallet request.wallet) = true) (marker : scope (.deposit key.text) = true) :
    Confined scope (moveIn session request key) := by
  unfold moveIn
  refine (judged_confined _).bind fun _ _ => ?_
  refine (creditWallet_confined session request its).bind fun _ _ => ?_
  exact (insertMarker_confined session key (confined_addDeposit _ marker)).bind fun _ _ => .pure _

/-- Moving money out of a wallet. -/
theorem moveOut_confined {request : MovementRequest} {key : TransactionKey}
    (its : scope (.wallet request.wallet) = true) (marker : scope (.withdrawal key.text) = true) :
    Confined scope (moveOut session request key) := by
  unfold moveOut
  refine (judged_confined _).bind fun _ _ => ?_
  refine (held_confined (lockWallet_confined its)).bind fun {row _ _} _ locked => ?_
  obtain ⟨_, named, _⟩ := of_lockWallet (held_eq_ok.mp locked)
  refine (ensureInitiator_confined _ _).bind fun _ _ => (planned_confined _).bind fun _ _ => ?_
  refine (saveBalance_confined session _ (named ▸ its)).stored.bind fun _ _ => ?_
  exact (insertMarker_confined session key (confined_addWithdrawal _ marker)).bind
    fun _ _ => .pure _

/-- **Booking a transfer** keeps to its wallets and its marker. -/
theorem bookTransfer_confined {request : TransferRequest} {key : TransactionKey}
    (its : scope (.wallet request.source) = true)
    (its' : scope (.wallet request.destination) = true)
    (marker : scope (.transfer key.text) = true) :
    Confined scope (bookTransfer session request key) := by
  refine Confined.look (fun books => books.transfer? key.text) (transfer?_within marker)
    (fun same => by simp only [same]) fun books => ?_
  cases books.transfer? key.text with
  | some row => exact .pure _
  | none => exact moveBetween_confined session its its' marker

/-- **Booking a deposit** keeps to its wallet and its marker. -/
theorem bookDeposit_confined {request : MovementRequest} {key : TransactionKey}
    (its : scope (.wallet request.wallet) = true) (marker : scope (.deposit key.text) = true) :
    Confined scope (bookDeposit session request key) := by
  refine Confined.look (fun books => books.deposit? key.text) (deposit?_within marker)
    (fun same => by simp only [same]) fun books => ?_
  cases books.deposit? key.text with
  | some row =>
    cases status : row.status with
    | completed =>
      simp only [status]
      exact .pure _
    | confirmed =>
      simp only [status]
      exact .throw _
  | none => exact moveIn_confined session its marker

/-- **Booking a withdrawal** keeps to its wallet and its marker. -/
theorem bookWithdrawal_confined {request : MovementRequest} {key : TransactionKey}
    (its : scope (.wallet request.wallet) = true) (marker : scope (.withdrawal key.text) = true) :
    Confined scope (bookWithdrawal session request key) := by
  refine Confined.look (fun books => books.withdrawal? key.text) (withdrawal?_within marker)
    (fun same => by simp only [same]) fun books => ?_
  cases books.withdrawal? key.text with
  | some row => exact .pure _
  | none => exact moveOut_confined session its marker

/-! ### Confirmed deposits -/

theorem confirmDeposit_confined {request : MovementRequest} {key : TransactionKey}
    (marker : scope (.deposit key.text) = true) :
    Confined scope (confirmDeposit session request key) := by
  refine Confined.look (fun books => books.deposit? key.text) (deposit?_within marker)
    (fun same => by simp only [same]) fun books => ?_
  cases books.deposit? key.text with
  | some row =>
    by_cases other : row.wallet ≠ request.wallet ∨ row.amount ≠ request.amount
    · simp only [if_pos other]
      exact .throw _
    · simp only [if_neg other]
      cases row.status with
      | completed => exact .pure _
      | confirmed => exact .pure _
  | none =>
    exact (insertMarker_confined session key (confined_addDeposit _ marker)).bind
      fun _ _ => .pure _

theorem lockMarker_confined {key : TransactionKey} (marker : scope (.deposit key.text) = true) :
    Confined scope (lockMarker key) :=
  Confined.look (fun books => books.deposit? key.text) (deposit?_within marker)
    (fun same => by simp only [same]) fun _ => .found _ _

theorem creditConfirmed_confined {request : MovementRequest} {key : TransactionKey}
    (its : scope (.wallet request.wallet) = true) (marker : scope (.deposit key.text) = true) :
    Confined scope (creditConfirmed session request key) := by
  unfold creditConfirmed
  refine (lockMarker_confined marker).bind fun {row _ _} _ locked => ?_
  obtain ⟨found, _⟩ := of_lockMarker locked
  obtain ⟨_, named⟩ := mem_of_deposit? found
  cases row.status with
  | completed => exact .pure _
  | confirmed =>
    refine (creditWallet_confined session request its).bind fun _ _ => ?_
    refine Confined.bind (Confined.stored ?_) fun _ _ => .pure _
    exact confined_changeDeposit _ (named ▸ marker) fun _ => rfl

theorem rollbackConfirmation_confined {key : TransactionKey}
    (marker : scope (.deposit key.text) = true) :
    Confined scope (rollbackConfirmation session key) :=
  confined_removeDeposit _ marker fun _ chosen => eq_of_beq (Bool.and_eq_true_iff.mp chosen).1

/-! ### Whole operations -/

theorem withinDeadline_contained {α : Type} (kind : OperationKind) (own : Option Calendar.Duration)
    {work : PaymentWork α} (confined : Confined scope work) :
    Contained scope (withinDeadline session kind own work) :=
  (Contained.atomically session confined).mapError _

theorem settle_contained (booked : Booked) : Contained scope (settle booked) := by
  refine .steady (.ok booked.receipt) fun world => ?_
  unfold settle
  cases booked.event <;> exact ⟨rfl, rfl⟩

/-- A key is read without the books, and is the text without blanks around it. -/
theorem readKey_contained {α : Type} {text : String}
    {next : TransactionKey → Action (Halt PaymentError) α}
    (rest : ∀ key : TransactionKey, key.text = Text.trim text → Contained scope (next key)) :
    Contained scope (readKey text >>= next) :=
  .verdict_bind fun key read => rest key (TransactionKey.of_read (Verdict.mapError_eq_ok.mp read)).1

/-- **A transfer keeps to its wallets and its key.** -/
theorem processTransfer_contained (request : TransferRequest)
    (its : scope (.wallet request.source) = true)
    (its' : scope (.wallet request.destination) = true)
    (marker : scope (.transfer (Text.trim request.key)) = true) :
    Contained scope (processTransfer session request) := by
  unfold processTransfer
  refine readKey_contained fun key named => ?_
  have books := bookTransfer_confined session its its' (named ▸ marker)
  exact (withinDeadline_contained session _ _ books).bind fun _ => settle_contained _

/-- **A deposit keeps to its wallet and its key.** -/
theorem processDeposit_contained (request : MovementRequest)
    (its : scope (.wallet request.wallet) = true)
    (marker : scope (.deposit (Text.trim request.key)) = true) :
    Contained scope (processDeposit session request) := by
  unfold processDeposit
  refine readKey_contained fun key named => ?_
  have books := bookDeposit_confined session its (named ▸ marker)
  exact (withinDeadline_contained session _ _ books).bind fun _ => settle_contained _

/-- **A withdrawal keeps to its wallet and its key.** -/
theorem processWithdrawal_contained (request : MovementRequest)
    (its : scope (.wallet request.wallet) = true)
    (marker : scope (.withdrawal (Text.trim request.key)) = true) :
    Contained scope (processWithdrawal session request) := by
  unfold processWithdrawal
  refine readKey_contained fun key named => ?_
  have books := bookWithdrawal_confined session its (named ▸ marker)
  exact (withinDeadline_contained session _ _ books).bind fun _ => settle_contained _

/-- **A confirmed deposit keeps to its wallet and its key**, whichever of its units of work fails. -/
theorem completeInStages_contained (confirming crediting undoing : Session)
    (request : MovementRequest) (its : scope (.wallet request.wallet) = true)
    (marker : scope (.deposit (Text.trim request.key)) = true) :
    Contained scope (completeInStages confirming crediting undoing request) := by
  unfold completeInStages
  refine readKey_contained fun key named => (Contained.verdict _).bind fun _ => ?_
  have confirms : Confined scope (confirmDeposit confirming request key) :=
    confirmDeposit_confined confirming (named ▸ marker)
  have credits := creditConfirmed_confined crediting its (named ▸ marker)
  have undoes := rollbackConfirmation_confined undoing (named ▸ marker)
  refine (Contained.verdict _).bind fun _ => ?_
  refine (withinDeadline_contained confirming _ _ confirms).bind fun {confirmation _ _} _ => ?_
  cases confirmation with
  | completed amount => exact settle_contained _
  | pending =>
    have credited : Contained scope (creditOrRollback crediting undoing request key) := by
      unfold creditOrRollback
      refine (withinDeadline_contained crediting _ _ credits).attempt.bind
        fun {outcome _ _} _ => ?_
      cases outcome with
      | ok before => exact .pure _
      | error failure =>
        exact (Contained.atomically undoing undoes).attempt.bind fun _ => .throw _
    refine credited.bind fun _ => ?_
    split <;> exact settle_contained _

end Passbook.Payments
