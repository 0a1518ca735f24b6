/-
**What completing a confirmed deposit leaves.**

* `Confirmed`, `Credited`, `Undone`: what each of the three units of work leaves;
* `rollback_eq_ok_of_allowed`: taking the marker away is refused by the storage only;
* `Staged`: how the whole may go. After a credit that failed, the marker of the confirmation is
  gone, or stays because it could not be taken away;
* `completeInStages_cases`: it goes so.
-/

import Passbook.Payments.External
import Passbook.Proofs.Payments.Movements

namespace Passbook.Payments

open Passbook.Holdings (rebalanced rebalanced_sound)
open Passbook.Store
open Passbook.Store.Action (Ends Leaves)
open Passbook.Transfer (Receipt TransactionKey)
open Passbook.Wallet (WalletBalance)

/-! ### What is left -/

/-- The marker of a confirmed deposit was left. -/
structure Confirmed (session : Session) (request : MovementRequest) (key : TransactionKey)
    (before after : Books) : Prop where
  unused : ∀ other ∈ before.deposits, other.key ≠ key.text
  left : after = { before with
    deposits := before.deposits ++ [depositRow session request key .confirmed] }

/-- The confirmation of a deposit was left, or found. -/
inductive ConfirmBooked (session : Session) (request : MovementRequest) (key : TransactionKey)
    (before : Books) : Confirmation → Books → Prop
  | completed {marker : DepositRow} (found : before.deposit? key.text = some marker)
      (sameWallet : marker.wallet = request.wallet) (sameAmount : marker.amount = request.amount)
      (status : marker.status = .completed) :
      ConfirmBooked session request key before (.completed marker.amount) before
  | pending {marker : DepositRow} (found : before.deposit? key.text = some marker)
      (sameWallet : marker.wallet = request.wallet) (sameAmount : marker.amount = request.amount)
      (status : marker.status = .confirmed) :
      ConfirmBooked session request key before .pending before
  | confirmed {after : Books} (did : Confirmed session request key before after) :
      ConfirmBooked session request key before .pending after

/-- A marker that is completed. -/
def completed (now : Calendar.Instant) (row : DepositRow) : DepositRow :=
  { row with status := .completed, processedAt := now }

/-- A confirmed deposit was credited and its marker completed. -/
structure Credited (session : Session) (request : MovementRequest) (key : TransactionKey)
    (marker : DepositRow) (wallet : WalletRow) (balance : WalletBalance)
    (before after : Books) : Prop where
  found : before.deposit? key.text = some marker
  status : marker.status = .confirmed
  member : wallet ∈ before.wallets
  named : wallet.id = request.wallet
  planned : Transfer.planDeposit wallet.snapshot request.amount = .ok balance
  left : after = { before with
    wallets := altered WalletRow.id request.wallet (rebalanced session.now balance) before.wallets
    deposits := altered DepositRow.key key.text (completed session.now) before.deposits }

/-- A confirmed deposit was credited, or found credited. -/
inductive CreditBooked (session : Session) (request : MovementRequest) (key : TransactionKey)
    (before : Books) : Bool → Books → Prop
  | found {marker : DepositRow} (found : before.deposit? key.text = some marker)
      (status : marker.status = .completed) :
      CreditBooked session request key before true before
  | made {marker : DepositRow} {wallet : WalletRow} {balance : WalletBalance} {after : Books}
      (did : Credited session request key marker wallet balance before after) :
      CreditBooked session request key before false after

/-- A marker that is confirmed and no more. -/
def isPending (key : TransactionKey) (row : DepositRow) : Bool :=
  row.key == key.text && row.status == .confirmed

/-- The marker of a confirmed deposit was taken away, if there was one. -/
structure Undone (key : TransactionKey) (before after : Books) : Prop where
  left : after = { before with deposits := before.deposits.filter fun row => !isPending key row }

variable {session : Session} {before after : Books} {request : MovementRequest}
  {key : TransactionKey}

/-! ### Soundness -/

theorem Confirmed.sound (did : Confirmed session request key before after) (sound : Sound before) :
    Sound after := by
  rw [did.left]
  exact sound.addDeposit did.unused

theorem Credited.sound {marker : DepositRow} {wallet : WalletRow} {balance : WalletBalance}
    (did : Credited session request key marker wallet balance before after) (sound : Sound before) :
    Sound after := by
  obtain ⟨_, credited⟩ := Transfer.planDeposit_eq_ok.mp did.planned
  have fits := WalletBalance.credit_fits (sound.fits wallet did.member) credited
  rw [did.left]
  exact (rebalanced_sound request.wallet session.now sound fits).alterDeposits fun _ => rfl

theorem Undone.sound (did : Undone key before after) (sound : Sound before) : Sound after := by
  rw [did.left]
  exact sound.filterDeposits _

/-- The marker of a deposit whose credit is owed names the wallet and the amount of the request. -/
theorem ConfirmBooked.of_deposit? {marker : DepositRow}
    (did : ConfirmBooked session request key before .pending after) (sound : Sound after)
    (found : after.deposit? key.text = some marker) :
    marker.wallet = request.wallet ∧ marker.amount = request.amount := by
  cases did with
  | pending found' sameWallet sameAmount _ =>
    rw [Option.some.inj (found.symm.trans found')]
    exact ⟨sameWallet, sameAmount⟩
  | confirmed did =>
    obtain ⟨member, named⟩ := mem_of_deposit? found
    have left : depositRow session request key .confirmed ∈ after.deposits := by
      rw [did.left]
      exact List.mem_append_right _ List.mem_cons_self
    rw [eq_of_key sound.depositKeys member left named]
    exact ⟨rfl, rfl⟩

/-! ### Units of work -/

theorem of_confirmDeposit {confirmation : Confirmation}
    (ran : confirmDeposit session request key before = .ok (confirmation, after)) :
    ConfirmBooked session request key before confirmation after := by
  unfold confirmDeposit at ran
  obtain ⟨_, _, is, ran⟩ := Work.bind_eq_ok.mp ran
  obtain ⟨rfl, rfl⟩ := Work.get_eq_ok.mp is
  cases found : before.deposit? key.text with
  | some marker =>
    simp only [found] at ran
    by_cases other : marker.wallet ≠ request.wallet ∨ marker.amount ≠ request.amount
    · rw [if_pos other] at ran
      exact absurd (Work.throw_eq_ok.mp ran) id
    · rw [if_neg other] at ran
      rw [not_or, not_not, not_not] at other
      cases status : marker.status with
      | completed =>
        rw [status] at ran
        obtain ⟨rfl, rfl⟩ := Work.pure_eq_ok.mp ran
        exact .completed found other.1 other.2 status
      | confirmed =>
        rw [status] at ran
        obtain ⟨rfl, rfl⟩ := Work.pure_eq_ok.mp ran
        exact .pending found other.1 other.2 status
  | none =>
    simp only [found, Work.bind_eq_ok, Work.pure_eq_ok] at ran
    obtain ⟨_, _, marked, rfl, rfl⟩ := ran
    obtain ⟨unused, left⟩ := of_insertMarker marked
    exact .confirmed
      ⟨fun other present => (beq_eq_false_iff_ne.mp (unused other present)).symm, left⟩

theorem of_lockMarker {marker : DepositRow} (ran : lockMarker key before = .ok (marker, after)) :
    before.deposit? key.text = some marker ∧ before = after := by
  obtain ⟨_, _, is, ran⟩ := Work.bind_eq_ok.mp ran
  obtain ⟨rfl, rfl⟩ := Work.get_eq_ok.mp is
  exact Work.found_eq_ok.mp ran

theorem of_creditConfirmed {earlier : Bool} (sound : Sound before)
    (ran : creditConfirmed session request key before = .ok (earlier, after)) :
    CreditBooked session request key before earlier after := by
  unfold creditConfirmed at ran
  obtain ⟨marker, _, locked, ran⟩ := Work.bind_eq_ok.mp ran
  obtain ⟨found, rfl⟩ := of_lockMarker locked
  cases status : marker.status with
  | completed =>
    rw [status] at ran
    obtain ⟨rfl, rfl⟩ := Work.pure_eq_ok.mp ran
    exact .found found status
  | confirmed =>
    simp only [status, Work.bind_eq_ok, Work.stored_eq_ok, Work.pure_eq_ok] at ran
    obtain ⟨_, _, credited, _, _, marked, rfl, rfl⟩ := ran
    obtain ⟨wallet, balance, credit⟩ := of_creditWallet sound credited
    have marked := (of_changeOne marked).2
    have left := credit.left
    subst left marked
    refine .made ⟨found, status, credit.member, credit.named, credit.planned, ?_⟩
    rw [← (mem_of_deposit? found).2]
    rfl

theorem of_rollbackConfirmation {count : Nat} (sound : Sound before)
    (ran : rollbackConfirmation session key before = .ok (count, after)) :
    Undone key before after := by
  obtain ⟨_, ⟨none, rfl⟩ | ⟨_, _, _, rfl⟩⟩ := (remove_eq_ok sound.plain).mp ran
  · have kept : before.deposits.filter (fun row => !isPending key row) = before.deposits :=
      filter_not_of_none none
    exact ⟨by rw [kept]⟩
  · refine ⟨?_⟩
    rw [← sound.plain]
    rfl

/-- A marker is taken away, unless the storage refuses it. -/
theorem rollback_eq_ok_of_allowed (sound : Sound before)
    (allowed : session.faults.refuses .processedDeposits .delete = false) :
    ∃ count after, rollbackConfirmation session key before = .ok (count, after) := by
  by_cases none : (depositSheet.rows before).filter (isPending key) = []
  · exact ⟨_, _, (remove_eq_ok sound.plain).mpr ⟨rfl, .inl ⟨none, rfl⟩⟩⟩
  · exact ⟨_, _, (remove_eq_ok sound.plain).mpr
      ⟨rfl, .inr ⟨none, allowed, fun _ _ _ => rfl, rfl⟩⟩⟩

/-! ### The whole -/

/-- How crediting or taking the marker away may go. -/
inductive CreditedOrUndone (crediting undoing : Session) (request : MovementRequest)
    (key : TransactionKey) (world : World) : Except (Halt PaymentError) Bool × World → Prop
  | credited {earlier : Bool} {after : World}
      (did : Leaves (CreditBooked crediting request key) (fun _ => []) world earlier after) :
      CreditedOrUndone crediting undoing request key world (.ok earlier, after)
  | undone {cause : Halt PaymentError} {after : World}
      (did : Leaves (fun before _ after => Undone key before after) (fun _ => []) world () after) :
      CreditedOrUndone crediting undoing request key world (.error cause, after)
  /-- The marker stays because the storage refuses to take it away. -/
  | stuck {cause : Halt PaymentError}
      (refused : undoing.faults.blocked = true ∨
        ∃ fault, rollbackConfirmation undoing key world.books = .error fault) :
      CreditedOrUndone crediting undoing request key world (.error cause, world)

theorem creditOrRollback_cases (crediting undoing : Session) (request : MovementRequest)
    (key : TransactionKey) (world : World) :
    CreditedOrUndone crediting undoing request key world
      (creditOrRollback crediting undoing request key world) := by
  have credits : Ends
      (withinDeadline crediting .deposit request.deadline (creditConfirmed crediting request key))
      (Leaves (CreditBooked crediting request key) fun _ => []) :=
    withinDeadline_ends crediting .deposit request.deadline of_creditConfirmed
  have undoes : Ends (Action.atomically undoing (rollbackConfirmation undoing key))
      (Leaves (fun before (_ : Nat) after => Undone key before after) fun _ => []) :=
    Ends.leaves undoing of_rollbackConfirmation
  unfold creditOrRollback
  rcases credits world with ⟨cause, failed⟩ | ⟨earlier, after, done, did⟩
  · rw [Action.bind_of_ok (Action.attempt_of_error failed)]
    simp only [Action.attempt_throw]
    rcases undoes world with ⟨fault, failed'⟩ | ⟨count, after, undone, did⟩
    · rw [failed']
      refine .stuck ?_
      cases blocked : undoing.faults.blocked with
      | true => exact .inl rfl
      | false => exact .inr ⟨fault, Action.error_of_atomically blocked failed'⟩
    · rw [undone]
      exact .undone ⟨did.changed, did.published⟩
  · rw [Action.bind_of_ok (Action.attempt_of_ok done)]
    exact .credited did

/-- How completing a confirmed deposit may go. -/
inductive Staged (confirming crediting undoing : Session) (request : MovementRequest)
    (world : World) : Except (Halt PaymentError) Receipt × World → Prop
  /-- Nothing is left. -/
  | refused {cause : Halt PaymentError} :
      Staged confirming crediting undoing request world (.error cause, world)
  /-- The deposit was credited before. -/
  | found {key : TransactionKey} {amount : Amount} {after : World}
      (read : TransactionKey.read request.key = .ok key)
      (did : Leaves (ConfirmBooked confirming request key) (fun _ => []) world
        (.completed amount) after) :
      Staged confirming crediting undoing request world
        (.ok ⟨.deposit, key, amount, true⟩, after)
  /-- The deposit is credited now, or was by someone else since its confirmation. -/
  | credited {key : TransactionKey} {earlier : Bool} {middle after : World}
      (read : TransactionKey.read request.key = .ok key) (positive : request.amount.Positive)
      (first : Leaves (ConfirmBooked confirming request key) (fun _ => []) world .pending middle)
      (second : Leaves (CreditBooked crediting request key)
        (fun earlier => if earlier then [] else [depositEvent crediting request key])
        middle earlier after) :
      Staged confirming crediting undoing request world
        (.ok ⟨.deposit, key, request.amount, earlier⟩, after)
  /-- The credit failed and the marker is gone. -/
  | undone {key : TransactionKey} {cause : Halt PaymentError} {middle after : World}
      (read : TransactionKey.read request.key = .ok key)
      (first : Leaves (ConfirmBooked confirming request key) (fun _ => []) world .pending middle)
      (second : Leaves (fun before _ after => Undone key before after) (fun _ => [])
        middle () after) :
      Staged confirming crediting undoing request world (.error cause, after)
  /-- The credit failed and the marker stays. -/
  | stuck {key : TransactionKey} {cause : Halt PaymentError} {after : World}
      (read : TransactionKey.read request.key = .ok key)
      (first : Leaves (ConfirmBooked confirming request key) (fun _ => []) world .pending after)
      (refused : undoing.faults.blocked = true ∨
        ∃ fault, rollbackConfirmation undoing key after.books = .error fault) :
      Staged confirming crediting undoing request world (.error cause, after)

/-- A movement that starts now would be out of time when the clock has come to its end. -/
def Untimed (session : Session) (own : Option Calendar.Duration) : Prop :=
  session.timer.deadline (allowance session own) = .error .clock

/-- A deadline is set, unless the clock will not show it. -/
theorem setDeadline_cases (session : Session) (own : Option Calendar.Duration) (world : World) :
    (∃ deadline, setDeadline session own world = (.ok deadline, world)) ∨
      Untimed session own ∧ setDeadline session own world =
        (.error (.overflowed .clock), world) := by
  unfold setDeadline Untimed Calendar.Timer.deadline Action.verdict
  split
  · exact .inl ⟨_, rfl⟩
  · exact .inr ⟨rfl, rfl⟩

/-- Setting a deadline changes nothing. -/
theorem setDeadline_looks (session : Session) (own : Option Calendar.Duration) :
    Ends (setDeadline session own) fun world deadline after =>
      session.timer.deadline (allowance session own) = .ok deadline ∧ after = world :=
  (Ends.verdict _).mono fun _ _ _ did => ⟨Verdict.unguarded_eq_ok.mp did.1, did.2⟩

/-- How a deposit goes on whose credit is owed. -/
theorem staged_of_pending {confirming crediting undoing : Session} {request : MovementRequest}
    {key : TransactionKey} {world middle : World} (read : TransactionKey.read request.key = .ok key)
    (positive : request.amount.Positive)
    (first : Leaves (ConfirmBooked confirming request key) (fun _ => []) world .pending middle) :
    Staged confirming crediting undoing request world
      ((creditOrRollback crediting undoing request key >>= fun earlier =>
        if earlier then settle (replay .deposit key request.amount)
        else settle (done .deposit key request.amount (depositEvent crediting request key)))
        middle) := by
  have second := creditOrRollback_cases crediting undoing request key middle
  generalize ran : creditOrRollback crediting undoing request key middle = outcome at second
  cases second with
  | @credited earlier after did =>
    rw [Action.bind_of_ok ran]
    have news : after.published = middle.published := did.published.trans (List.append_nil _)
    cases earlier with
    | true =>
      rw [if_pos rfl, settle_run]
      refine .credited read positive first ⟨did.changed, ?_⟩
      rw [news]
      rfl
    | false =>
      rw [if_neg Bool.false_ne_true, settle_run]
      refine .credited read positive first ⟨did.changed, ?_⟩
      rw [news]
      rfl
  | undone did =>
    rw [Action.bind_of_error ran]
    exact .undone read first did
  | stuck refused =>
    rw [Action.bind_of_error ran]
    exact .stuck read first refused

/-- **Completing a confirmed deposit** goes one of these ways. -/
theorem completeInStages_cases (confirming crediting undoing : Session)
    (request : MovementRequest) (world : World) :
    Staged confirming crediting undoing request world
      (completeInStages confirming crediting undoing request world) := by
  have confirms : ∀ key, Ends
      (withinDeadline confirming .deposit request.deadline (confirmDeposit confirming request key))
      (Leaves (ConfirmBooked confirming request key) fun _ => []) :=
    fun key => withinDeadline_ends confirming .deposit request.deadline fun _ => of_confirmDeposit
  unfold completeInStages
  rcases readKey_looks request.key world with ⟨cause, same⟩ | ⟨key, middle, same, read, still⟩
  · rw [Action.bind_of_error same]
    exact .refused
  subst still
  rw [Action.bind_of_ok same]
  rcases Ends.verdict ((Transfer.ensurePositive request.amount).mapError fun cause =>
      Halt.refused (PaymentError.transfer cause)) middle with
    ⟨cause, same⟩ | ⟨_, world, same, positive, still⟩
  · rw [Action.bind_of_error same]
    exact .refused
  subst still
  rw [Action.bind_of_ok same]
  have positive := Transfer.ensurePositive_eq_ok.mp (Verdict.mapError_eq_ok.mp positive)
  rcases setDeadline_looks confirming request.deadline world with
    ⟨cause, same⟩ | ⟨_, world, same, _, still⟩
  · rw [Action.bind_of_error same]
    exact .refused
  subst still
  rw [Action.bind_of_ok same]
  rcases confirms key world with ⟨cause, same⟩ | ⟨_ | amount, middle, same, first⟩
  · rw [Action.bind_of_error same]
    exact .refused
  · rw [Action.bind_of_ok same]
    exact staged_of_pending read positive first
  · rw [Action.bind_of_ok same]
    show Staged _ _ _ _ _ (settle _ middle)
    rw [settle_run]
    simp only [replay, Option.toList_none, List.append_nil]
    exact .found read first

end Passbook.Payments
