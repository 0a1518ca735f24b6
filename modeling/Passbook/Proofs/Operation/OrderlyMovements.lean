/-
**Movements of money fail in order.**

* `moveBetween_paying`, `bookDeposit_paying`, `bookWithdrawal_paying` and their like: what the units
  of work of a movement fail for is in order. What is written to a wallet on the way fits, so no
  rule of a table refuses it;
* `receipted_paying`, `completeInStages_paying`: so it is for a whole movement.
-/

import Passbook.Proofs.Operation.Orderly

namespace Passbook.Operation

open Passbook.Holdings (HoldingError)
open Passbook.Payments (MovementRequest PaymentError PaymentWork TransferRequest)
open Passbook.Store
open Passbook.Store.Action (Ends)
open Passbook.Transfer (TransactionKey)
open Passbook.Verdict (FailsOnly)
open Passbook.Wallet (WalletBalance)

/-! ### The parts of a movement -/

section

variable {reason : Prop} {session : Session} {books : Books}

section

variable {α : Type}

theorem held_paying {work : Work HoldingError α}
    (fails : FailsOnly (Keeping reason) (work books)) :
    FailsOnly (Paying reason) (Payments.held work books) :=
  Work.failsOnly_mapError (fails.mono fun _ => Paying.holding)

theorem judged_paying {verdict : Except Transfer.TransferError α}
    (fails : FailsOnly Tellable verdict) :
    FailsOnly (Paying reason) (Payments.judged verdict books) :=
  Work.failsOnly_verdict (FailsOnly.mapError (fails.mono fun _ told =>
    ⟨told, fun refused => by cases refused⟩))

theorem planned_paying {verdict : Except (Halt Transfer.TransferError) α}
    (fails : FailsOnly Tellable verdict) :
    FailsOnly (Paying reason) (Payments.planned verdict books) :=
  Work.failsOnly_verdict (FailsOnly.mapError (fails.mono fun _ => Paying.transfer))

end

theorem refuse_paying {α : Type} {cause : PaymentError} (orderly : Paying reason (.refused cause)) :
    FailsOnly (Paying reason) ((Payments.refuse cause : PaymentWork α) books) :=
  .error orderly

theorem duplicate_paying (key : String) :
    Paying reason (.refused (.duplicateTransaction key)) :=
  ⟨⟨_, rfl⟩, fun refused => by cases refused⟩

theorem ensureInitiator_paying {wallet : Wallet.Snapshot} {initiator : Option UserId} :
    FailsOnly (Paying reason) (Payments.ensureInitiator wallet initiator books) := by
  cases initiator with
  | none => exact Work.failsOnly_pure ()
  | some caller =>
    exact held_paying (Work.failsOnly_verdict (FailsOnly.mapError
      (Wallet.ensureOwner_tellable.mono fun _ => Keeping.wallet)))

theorem insertMarker_paying {ρ : Type} {sheet : Sheet ρ} {key : TransactionKey} {row : ρ}
    (fit : sheet.isFit books row = true)
    (linked : sheet.isLinked (sheet.replace books (sheet.rows books ++ [row])) row = true)
    (markers : session.faults.refuses sheet.table .insert → reason) :
    FailsOnly (Paying reason) (Payments.insertMarker session sheet key row books) := by
  refine Work.failsOnly_mapError ((insert_failsOnly fit linked).mono ?_)
  rintro _ (rfl | ⟨rfl, refused⟩)
  · exact duplicate_paying key.text
  · exact ⟨⟨_, rfl⟩, fun _ => markers refused⟩

/-- The balance that is written fits. -/
theorem saveBalance_paying (sound : Sound books) {row : WalletRow} {balance : WalletBalance}
    (member : row ∈ books.wallets) (fits : balance.Fits)
    (wallets : session.faults.refuses .wallets .update → reason) :
    FailsOnly (Paying reason)
      ((Work.stored (Holdings.saveBalance session row.id balance) : PaymentWork Unit) books) :=
  Work.failsOnly_stored ((Holdings.changeWallet_failsOnly session.faults
    (Holdings.rebalanced session.now balance) sound member fits (fun _ => rfl) fun _ => rfl).mono
      fun _ => Paying.storage wallets)

theorem lockPair_paying (plain : books.strays = []) (source destination : WalletId) :
    FailsOnly (Paying reason) (Payments.lockPair source destination books) := by
  refine Work.failsOnly_bind (held_paying (lockWallet_keeping plain _)) fun _ _ locked => ?_
  obtain ⟨_, _, rfl⟩ := Holdings.of_lockWallet (Payments.held_eq_ok.mp locked)
  exact Work.failsOnly_bind (held_paying (lockWallet_keeping plain _)) fun _ _ _ =>
    Work.failsOnly_pure _

theorem creditWallet_paying (sound : Sound books) {request : MovementRequest}
    (wallets : session.faults.refuses .wallets .update → reason) :
    FailsOnly (Paying reason) (Payments.creditWallet session request books) := by
  refine Work.failsOnly_bind (held_paying (lockWallet_keeping sound.plain _))
    fun row _ locked => ?_
  obtain ⟨member, named, rfl⟩ := Holdings.of_lockWallet (Payments.held_eq_ok.mp locked)
  refine Work.failsOnly_bind (judged_paying Transfer.planDeposit_tellable) fun balance _ did => ?_
  obtain ⟨planned, rfl⟩ := Payments.judged_eq_ok.mp did
  obtain ⟨_, credited⟩ := Transfer.planDeposit_eq_ok.mp planned
  exact saveBalance_paying sound member
    (WalletBalance.credit_fits (sound.fits row member) credited) wallets

theorem moveBetween_paying (sound : Sound books) (paired : Paired books)
    {request : TransferRequest} {key : TransactionKey}
    (wallets : session.faults.refuses .wallets .update → reason)
    (limits : session.faults.refuses .walletLimits .update → reason)
    (markers : session.faults.refuses .processedTransfers .insert → reason) :
    FailsOnly (Paying reason) (Payments.moveBetween session request key books) := by
  refine Work.failsOnly_bind (judged_paying Transfer.ensurePositive_tellable) fun _ _ checked => ?_
  obtain ⟨_, rfl⟩ := Payments.judged_eq_ok.mp checked
  by_cases same : request.source = request.destination
  · rw [if_pos same]
    exact .error ⟨⟨_, rfl⟩, fun refused => by cases refused⟩
  rw [if_neg same]
  refine Work.failsOnly_bind (lockPair_paying sound.plain _ _)
    fun (source, destination) _ locked => ?_
  obtain ⟨⟨member, named⟩, ⟨member', named'⟩, rfl⟩ := Payments.of_lockPair same locked
  refine Work.failsOnly_bind ensureInitiator_paying fun _ _ initiated => ?_
  obtain ⟨_, rfl⟩ := Payments.of_ensureInitiator initiated
  refine Work.failsOnly_bind (planned_paying
    (Transfer.planTransfer_tellable (sound.fits source member))) fun plan _ did => ?_
  obtain ⟨planned, rfl⟩ := Payments.planned_eq_ok.mp did
  obtain ⟨apart, _, _, _, debited, credited⟩ := Transfer.planTransfer_eq_ok.mp planned
  refine Work.failsOnly_bind (held_paying (reserve_keeping sound paired limits))
    fun state counted reserved => ?_
  -- the counters change beside the wallets, then one wallet after the other
  have spent := Holdings.of_reserve (Payments.held_eq_ok.mp reserved)
  have sound' := spent.sound sound
  obtain ⟨_, _, restated⟩ := spent.written
  have wallets' : counted.wallets = books.wallets := by rw [restated.left]
  have present : source ∈ counted.wallets := wallets' ▸ member
  have present' : destination ∈ counted.wallets := wallets' ▸ member'
  refine Work.failsOnly_bind (saveBalance_paying sound' present
    (WalletBalance.debit_fits (sound.fits source member) debited) wallets) fun _ taken saved => ?_
  have revised := Holdings.of_saveBalance sound' present (Work.stored_eq_ok.mp saved)
  have sound'' := revised.sound sound' (fun _ => rfl) fun _ => rfl
  have still : destination ∈ taken.wallets := by
    rw [revised.left]
    exact mem_altered_of_ne present' fun equal => apart equal.symm
  refine Work.failsOnly_bind (saveBalance_paying sound'' still
    (WalletBalance.credit_fits (sound.fits destination member') credited) wallets) fun _ _ _ => ?_
  exact Work.failsOnly_bind (insertMarker_paying rfl rfl markers) fun _ _ _ =>
    Work.failsOnly_pure _

theorem bookTransfer_paying (sound : Sound books) (paired : Paired books)
    {request : TransferRequest} {key : TransactionKey}
    (wallets : session.faults.refuses .wallets .update → reason)
    (limits : session.faults.refuses .walletLimits .update → reason)
    (markers : session.faults.refuses .processedTransfers .insert → reason) :
    FailsOnly (Paying reason) (Payments.bookTransfer session request key books) := by
  refine Work.failsOnly_bind Work.failsOnly_get fun _ _ is => ?_
  obtain ⟨rfl, rfl⟩ := Work.get_eq_ok.mp is
  cases books.transfer? key.text with
  | some marker => exact Work.failsOnly_pure _
  | none => exact moveBetween_paying sound paired wallets limits markers

theorem bookDeposit_paying (sound : Sound books) {request : MovementRequest} {key : TransactionKey}
    (wallets : session.faults.refuses .wallets .update → reason)
    (markers : session.faults.refuses .processedDeposits .insert → reason) :
    FailsOnly (Paying reason) (Payments.bookDeposit session request key books) := by
  refine Work.failsOnly_bind Work.failsOnly_get fun _ _ is => ?_
  obtain ⟨rfl, rfl⟩ := Work.get_eq_ok.mp is
  cases books.deposit? key.text with
  | some marker =>
    simp only
    cases marker.status with
    | completed => exact Work.failsOnly_pure _
    | confirmed => exact refuse_paying (duplicate_paying key.text)
  | none =>
    refine Work.failsOnly_bind (judged_paying Transfer.ensurePositive_tellable)
      fun _ _ checked => ?_
    obtain ⟨_, rfl⟩ := Payments.judged_eq_ok.mp checked
    exact Work.failsOnly_bind (creditWallet_paying sound wallets) fun _ _ _ =>
      Work.failsOnly_bind (insertMarker_paying rfl rfl markers) fun _ _ _ => Work.failsOnly_pure _

theorem bookWithdrawal_paying (sound : Sound books) {request : MovementRequest}
    {key : TransactionKey} (wallets : session.faults.refuses .wallets .update → reason)
    (markers : session.faults.refuses .processedWithdrawals .insert → reason) :
    FailsOnly (Paying reason) (Payments.bookWithdrawal session request key books) := by
  refine Work.failsOnly_bind Work.failsOnly_get fun _ _ is => ?_
  obtain ⟨rfl, rfl⟩ := Work.get_eq_ok.mp is
  cases books.withdrawal? key.text with
  | some marker => exact Work.failsOnly_pure _
  | none =>
    refine Work.failsOnly_bind (judged_paying Transfer.ensurePositive_tellable)
      fun _ _ checked => ?_
    obtain ⟨_, rfl⟩ := Payments.judged_eq_ok.mp checked
    refine Work.failsOnly_bind (held_paying (lockWallet_keeping sound.plain _))
      fun row _ locked => ?_
    obtain ⟨member, named, rfl⟩ := Holdings.of_lockWallet (Payments.held_eq_ok.mp locked)
    refine Work.failsOnly_bind ensureInitiator_paying fun _ _ initiated => ?_
    obtain ⟨_, rfl⟩ := Payments.of_ensureInitiator initiated
    refine Work.failsOnly_bind (planned_paying
      (Transfer.planWithdrawal_tellable (sound.fits row member))) fun balance _ did => ?_
    obtain ⟨planned, rfl⟩ := Payments.planned_eq_ok.mp did
    obtain ⟨_, debited⟩ := Transfer.planWithdrawal_eq_ok.mp planned
    exact Work.failsOnly_bind (saveBalance_paying sound member
      (WalletBalance.debit_fits (sound.fits row member) debited) wallets) fun _ _ _ =>
        Work.failsOnly_bind (insertMarker_paying rfl rfl markers) fun _ _ _ =>
          Work.failsOnly_pure _

theorem confirmDeposit_paying {request : MovementRequest} {key : TransactionKey}
    (markers : session.faults.refuses .processedDeposits .insert → reason) :
    FailsOnly (Paying reason) (Payments.confirmDeposit session request key books) := by
  refine Work.failsOnly_bind Work.failsOnly_get fun _ _ is => ?_
  obtain ⟨rfl, rfl⟩ := Work.get_eq_ok.mp is
  cases books.deposit? key.text with
  | some marker =>
    simp only
    by_cases other : marker.wallet ≠ request.wallet ∨ marker.amount ≠ request.amount
    · rw [if_pos other]
      exact refuse_paying (duplicate_paying key.text)
    · rw [if_neg other]
      cases marker.status with
      | completed => exact Work.failsOnly_pure _
      | confirmed => exact Work.failsOnly_pure _
  | none =>
    exact Work.failsOnly_bind (insertMarker_paying rfl rfl markers) fun _ _ _ =>
      Work.failsOnly_pure _

/-- A change of a marker that is there, which stays under its key, is refused by the storage only. -/
theorem changeDeposit_failsOnly (faults : Faults) (alter : DepositRow → DepositRow)
    {row : DepositRow} (unique : (books.deposits.map DepositRow.key).Nodup)
    (member : row ∈ books.deposits) (sameKey : ∀ row, (alter row).key = row.key) :
    FailsOnly (fun fault => fault = .refused ∧ faults.refuses .processedDeposits .update = true)
      (changeOne faults depositSheet (fun other => other.key == row.key) alter books) := by
  have same : (books.deposits.map fun other =>
      if (other.key == row.key) = true then alter other else other) =
        altered DepositRow.key row.key alter books.deposits := by
    simp only [altered, beq_iff_eq]
  have keys : (altered DepositRow.key row.key alter books.deposits).map DepositRow.key =
      books.deposits.map DepositRow.key := map_altered DepositRow.key sameKey
  refine changeOne_failsOnly ⟨row, member, beq_self_eq_true row.key⟩ (fun _ _ _ => rfl) ?_
    fun _ _ _ => rfl
  show allDistinct _ (books.deposits.map fun other =>
    if (other.key == row.key) = true then alter other else other) = true
  rw [same, allDistinct_iff]
  have apart : (altered DepositRow.key row.key alter books.deposits).Pairwise
      fun first second => first.key ≠ second.key := by
    rw [← List.pairwise_map, keys]
    exact unique
  exact apart.imp fun different => beq_eq_false_iff_ne.mpr different

/-- The marker that is completed is the one that was found. -/
theorem creditConfirmed_paying (sound : Sound books) {request : MovementRequest}
    {key : TransactionKey} (wallets : session.faults.refuses .wallets .update → reason)
    (markers : session.faults.refuses .processedDeposits .update → reason) :
    FailsOnly (Paying reason) (Payments.creditConfirmed session request key books) := by
  have locks : FailsOnly (Paying reason) (Payments.lockMarker key books) :=
    Work.failsOnly_bind Work.failsOnly_get fun _ _ _ =>
      Work.failsOnly_found fun _ => duplicate_paying key.text
  refine Work.failsOnly_bind locks fun marker _ locked => ?_
  obtain ⟨found, rfl⟩ := Payments.of_lockMarker locked
  cases marker.status with
  | completed => exact Work.failsOnly_pure _
  | confirmed =>
    refine Work.failsOnly_bind (creditWallet_paying sound wallets) fun _ after credited => ?_
    obtain ⟨_, _, credit⟩ := Payments.of_creditWallet sound credited
    have deposits : after.deposits = books.deposits := by rw [credit.left]
    have present : marker ∈ after.deposits := deposits ▸ (mem_of_deposit? found).1
    have keys : (after.deposits.map DepositRow.key).Nodup := deposits ▸ sound.depositKeys
    exact Work.failsOnly_bind (Work.failsOnly_stored ((changeDeposit_failsOnly session.faults
      (Payments.completed session.now) keys present fun _ => rfl).mono
        fun _ => Paying.storage markers)) fun _ _ _ => Work.failsOnly_pure _

end

/-! ### Movements -/

section

variable {reason : Prop} {session : Session} {world : World}

theorem unreachable_paying : Paying reason (StorageCause.ofFault .unreachable) :=
  ⟨⟨_, rfl⟩, fun refused => by cases refused⟩

theorem readKey_paying {text : String} :
    FailsOnly (Paying reason) (Payments.readKey text world).1 := by
  refine Action.failsOnly_verdict (FailsOnly.mapError ?_)
  exact TransactionKey.read_tellable.mono fun _ told => ⟨told, fun refused => by cases refused⟩

theorem withinDeadline_paying {α : Type} {kind : Transfer.OperationKind}
    {own : Option Calendar.Duration}
    {work : PaymentWork α} (fails : FailsOnly (Paying reason) (work world.books)) :
    FailsOnly (Paying reason) (Payments.withinDeadline session kind own work world).1 :=
  Action.failsOnly_mapError
    ((Action.failsOnly_atomically unreachable_paying fails).mono fun _ => Paying.expired)

theorem settle_paying {booked : Payments.Booked} :
    FailsOnly (Paying reason) (Payments.settle booked world).1 := by
  rw [Payments.settle_run]
  exact .ok _

/-- A movement fails in order when its unit of work does. -/
theorem receipted_paying {text : String} {kind : Transfer.OperationKind}
    {own : Option Calendar.Duration} {book : TransactionKey → PaymentWork Payments.Booked}
    (fails : ∀ key, FailsOnly (Paying reason) (book key world.books)) :
    FailsOnly (Paying reason) ((Payments.readKey text >>= fun key =>
      Payments.withinDeadline session kind own (book key) >>= Payments.settle) world).1 := by
  refine Action.failsOnly_after (Payments.readKey_looks text) readKey_paying fun key _ read => ?_
  obtain ⟨_, rfl⟩ := read
  exact Action.failsOnly_bind (withinDeadline_paying (fails key)) fun _ _ _ => settle_paying

end

theorem setDeadline_untimed {reason : Prop} (session : Session)
    (own : Option Calendar.Duration) (world : World) :
    FailsOnly (fun halt => Paying reason halt ∨
        Payments.Untimed session own ∧ halt = .overflowed .clock)
      (Payments.setDeadline session own world).1 := by
  rcases Payments.setDeadline_cases session own world with ⟨_, timed⟩ | ⟨untimed, stopped⟩
  · rw [timed]
    exact .ok _
  · rw [stopped]
    exact .error (.inr ⟨untimed, rfl⟩)

/-- What a caller is told of a deposit that is not credited is what the credit failed for, whatever
becomes of its marker. -/
theorem creditOrRollback_paying {reason : Prop} {crediting undoing : Session}
    {request : MovementRequest} {key : TransactionKey} {world : World} (sound : Sound world.books)
    (wallets : crediting.faults.refuses .wallets .update → reason)
    (markers : crediting.faults.refuses .processedDeposits .update → reason) :
    FailsOnly (Paying reason)
      (Payments.creditOrRollback crediting undoing request key world).1 := by
  have credits : FailsOnly (Paying reason) (Payments.withinDeadline crediting .deposit
      request.deadline (Payments.creditConfirmed crediting request key) world).1 :=
    withinDeadline_paying (creditConfirmed_paying sound wallets markers)
  unfold Payments.creditOrRollback
  generalize Payments.withinDeadline crediting .deposit request.deadline
    (Payments.creditConfirmed crediting request key) = credit at credits
  cases ended : credit world with
  | mk result after =>
    rw [ended] at credits
    cases result with
    | ok before =>
      rw [Action.bind_of_ok (Action.attempt_of_ok ended)]
      exact .ok before
    | error failure =>
      rw [Action.bind_of_ok (Action.attempt_of_error ended)]
      simp only [Action.attempt_throw]
      exact .error (credits failure rfl)

/-- A confirmed deposit fails in order, or stops because the clock will not show its deadline. -/
theorem completeInStages_paying {reason : Prop} {confirming crediting undoing : Session}
    {request : MovementRequest} {world : World} (sound : Sound world.books)
    (confirms : confirming.faults.refuses .processedDeposits .insert → reason)
    (wallets : crediting.faults.refuses .wallets .update → reason)
    (markers : crediting.faults.refuses .processedDeposits .update → reason) :
    FailsOnly (fun halt => Paying reason halt ∨
        Payments.Untimed confirming request.deadline ∧ halt = .overflowed .clock)
      (Payments.completeInStages confirming crediting undoing request world).1 := by
  refine Action.failsOnly_after (Payments.readKey_looks request.key)
    (readKey_paying.mono fun _ => .inl) fun key _ read => ?_
  obtain ⟨_, rfl⟩ := read
  refine Action.failsOnly_after (Ends.verdict _) (Action.failsOnly_verdict (FailsOnly.mapError
    (Transfer.ensurePositive_tellable.mono
      fun _ told => .inl ⟨told, fun refused => by cases refused⟩)))
    fun _ _ checked => ?_
  obtain ⟨_, rfl⟩ := checked
  refine Action.failsOnly_after (Payments.setDeadline_looks confirming request.deadline)
    (setDeadline_untimed confirming request.deadline _) fun _ _ timed => ?_
  obtain ⟨_, rfl⟩ := timed
  refine FailsOnly.mono ?_ fun _ => .inl
  have confirm : Ends (Payments.withinDeadline confirming .deposit request.deadline
      (Payments.confirmDeposit confirming request key))
      (Action.Leaves (Payments.ConfirmBooked confirming request key) fun _ => []) :=
    Payments.withinDeadline_ends confirming .deposit request.deadline
      fun _ => Payments.of_confirmDeposit
  refine Action.failsOnly_after confirm (withinDeadline_paying (confirmDeposit_paying confirms))
    fun confirmation middle did => ?_
  cases confirmation with
  | completed amount => exact settle_paying
  | pending =>
    have sound' := (confirmBooked_happened (did.changed sound)).sound sound
    refine Action.failsOnly_bind (creditOrRollback_paying sound' wallets markers)
      fun earlier _ _ => ?_
    cases earlier with
    | true =>
      rw [if_pos rfl]
      exact settle_paying
    | false =>
      rw [if_neg Bool.false_ne_true]
      exact settle_paying

end Passbook.Operation
