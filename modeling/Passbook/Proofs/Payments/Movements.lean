/-
**What movements of money leave.**

* `Transferred`, `Deposited`, `Withdrawn`: the balances of the wallets and the marker, written
  together under a key that had no marker;
* `TransferBooked`, `DepositBooked`, `WithdrawalBooked`: the movement was made, or its marker was
  found and nothing is left;
* `processTransfer_ends` and its like: the operations do one of these or nothing, and make known
  what was made;
* `processTransfer_replayed` and its like: a key with a marker is answered from it, whatever else is
  asked for, and nothing is left.
-/

import Passbook.Payments.Processing
import Passbook.Proofs.Holdings.Wallets
import Passbook.Proofs.Transfer.Plan

namespace Passbook.Payments

open Passbook.Holdings (of_lockWallet of_reserve of_saveBalance rebalanced rebalanced_sound
  restated restated_sound Revised)
open Passbook.Limits (LimitState)
open Passbook.Store
open Passbook.Store.Action (Ends Leaves)
open Passbook.Transfer (OperationKind Receipt TransactionKey TransferPlan)
open Passbook.Wallet (WalletBalance)

/-! ### What is left -/

/-- Money was moved between two wallets. -/
structure Transferred (session : Session) (request : TransferRequest) (key : TransactionKey)
    (source destination : WalletRow) (plan : TransferPlan) (limits : LimitsRow)
    (state : LimitState) (before after : Books) : Prop where
  unused : ∀ other ∈ before.transfers, other.key ≠ key.text
  sourceMember : source ∈ before.wallets
  sourceNamed : source.id = request.source
  destinationMember : destination ∈ before.wallets
  destinationNamed : destination.id = request.destination
  owned : ∀ caller ∈ request.initiator, source.owner = caller
  planned :
    Transfer.planTransfer source.snapshot destination.snapshot request.amount = .ok plan
  limitsMember : limits ∈ before.limits
  limitsNamed : limits.wallet = request.source
  reserved : limits.state.reserve request.amount session.now = .ok state
  left : after = { before with
    wallets := altered WalletRow.id request.destination (rebalanced session.now plan.destination)
      (altered WalletRow.id request.source (rebalanced session.now plan.source) before.wallets)
    limits := altered LimitsRow.wallet request.source (restated session.now state) before.limits
    transfers := before.transfers ++
      [⟨key.text, request.source, request.destination, request.amount, session.now⟩] }

/-- A wallet was credited. -/
structure Credit (session : Session) (request : MovementRequest) (wallet : WalletRow)
    (balance : WalletBalance) (before after : Books) : Prop where
  member : wallet ∈ before.wallets
  named : wallet.id = request.wallet
  planned : Transfer.planDeposit wallet.snapshot request.amount = .ok balance
  left : after = { before with
    wallets := altered WalletRow.id request.wallet (rebalanced session.now balance) before.wallets }

/-- Money was moved into a wallet. -/
structure Deposited (session : Session) (request : MovementRequest) (key : TransactionKey)
    (wallet : WalletRow) (balance : WalletBalance) (before after : Books) : Prop where
  unused : ∀ other ∈ before.deposits, other.key ≠ key.text
  member : wallet ∈ before.wallets
  named : wallet.id = request.wallet
  planned : Transfer.planDeposit wallet.snapshot request.amount = .ok balance
  left : after = { before with
    wallets := altered WalletRow.id request.wallet (rebalanced session.now balance) before.wallets
    deposits := before.deposits ++ [depositRow session request key .completed] }

/-- Money was moved out of a wallet. -/
structure Withdrawn (session : Session) (request : MovementRequest) (key : TransactionKey)
    (wallet : WalletRow) (balance : WalletBalance) (before after : Books) : Prop where
  unused : ∀ other ∈ before.withdrawals, other.key ≠ key.text
  member : wallet ∈ before.wallets
  named : wallet.id = request.wallet
  owned : ∀ caller ∈ request.initiator, wallet.owner = caller
  planned : Transfer.planWithdrawal wallet.snapshot request.amount = .ok balance
  left : after = { before with
    wallets := altered WalletRow.id request.wallet (rebalanced session.now balance) before.wallets
    withdrawals := before.withdrawals ++
      [⟨key.text, request.wallet, request.amount, session.now⟩] }

/-- A transfer was made, or found made. -/
inductive TransferBooked (session : Session) (request : TransferRequest) (key : TransactionKey)
    (before : Books) : Booked → Books → Prop
  | found {marker : TransferRow} (found : before.transfer? key.text = some marker) :
      TransferBooked session request key before (replay .transfer key marker.amount) before
  | made {source destination : WalletRow} {plan : TransferPlan} {limits : LimitsRow}
      {state : LimitState} {after : Books}
      (did : Transferred session request key source destination plan limits state before after) :
      TransferBooked session request key before
        (done .transfer key request.amount (.transferCompleted key.text request.source
          request.destination request.amount source.currency session.now)) after

/-- A deposit was made, or found made. -/
inductive DepositBooked (session : Session) (request : MovementRequest) (key : TransactionKey)
    (before : Books) : Booked → Books → Prop
  | found {marker : DepositRow} (found : before.deposit? key.text = some marker)
      (completed : marker.status = .completed) :
      DepositBooked session request key before (replay .deposit key marker.amount) before
  | made {wallet : WalletRow} {balance : WalletBalance} {after : Books}
      (did : Deposited session request key wallet balance before after) :
      DepositBooked session request key before
        (done .deposit key request.amount (depositEvent session request key)) after

/-- A withdrawal was made, or found made. -/
inductive WithdrawalBooked (session : Session) (request : MovementRequest) (key : TransactionKey)
    (before : Books) : Booked → Books → Prop
  | found {marker : WithdrawalRow} (found : before.withdrawal? key.text = some marker) :
      WithdrawalBooked session request key before (replay .withdrawal key marker.amount) before
  | made {wallet : WalletRow} {balance : WalletBalance} {after : Books}
      (did : Withdrawn session request key wallet balance before after) :
      WithdrawalBooked session request key before
        (done .withdrawal key request.amount
          (.withdrawalCompleted key.text request.wallet request.amount session.now)) after

variable {session : Session} {before after : Books}

/-! ### Soundness -/

theorem Transferred.sound {request : TransferRequest} {key : TransactionKey}
    {source destination : WalletRow} {plan : TransferPlan} {limits : LimitsRow} {state : LimitState}
    (did : Transferred session request key source destination plan limits state before after)
    (sound : Sound before) : Sound after := by
  obtain ⟨_, _, _, _, debited, credited⟩ := Transfer.planTransfer_eq_ok.mp did.planned
  have debitedFits := WalletBalance.debit_fits (sound.fits source did.sourceMember) debited
  have creditedFits := WalletBalance.credit_fits (sound.fits _ did.destinationMember) credited
  have taken := rebalanced_sound request.source session.now sound debitedFits
  have given := rebalanced_sound request.destination session.now taken creditedFits
  rw [did.left]
  exact (restated_sound request.source session.now state given).addTransfer did.unused

theorem Deposited.sound {request : MovementRequest} {key : TransactionKey} {wallet : WalletRow}
    {balance : WalletBalance} (did : Deposited session request key wallet balance before after)
    (sound : Sound before) : Sound after := by
  obtain ⟨_, credited⟩ := Transfer.planDeposit_eq_ok.mp did.planned
  have fits := WalletBalance.credit_fits (sound.fits wallet did.member) credited
  rw [did.left]
  exact (rebalanced_sound request.wallet session.now sound fits).addDeposit did.unused

theorem Withdrawn.sound {request : MovementRequest} {key : TransactionKey} {wallet : WalletRow}
    {balance : WalletBalance} (did : Withdrawn session request key wallet balance before after)
    (sound : Sound before) : Sound after := by
  obtain ⟨_, debited⟩ := Transfer.planWithdrawal_eq_ok.mp did.planned
  have fits := WalletBalance.debit_fits (sound.fits wallet did.member) debited
  rw [did.left]
  exact (rebalanced_sound request.wallet session.now sound fits).addWithdrawal did.unused

/-! ### The parts of a movement -/

section Parts

variable {α : Type}

@[simp]
theorem held_eq_ok {work : Work Holdings.HoldingError α} {value : α} :
    held work before = .ok (value, after) ↔ work before = .ok (value, after) :=
  Work.mapError_eq_ok

@[simp]
theorem judged_eq_ok {verdict : Except Transfer.TransferError α} {value : α} :
    judged verdict before = .ok (value, after) ↔ verdict = .ok value ∧ before = after := by
  rw [judged, Work.verdict_eq_ok, Verdict.mapError_eq_ok]

@[simp]
theorem planned_eq_ok {verdict : Except (Halt Transfer.TransferError) α} {value : α} :
    planned verdict before = .ok (value, after) ↔ verdict = .ok value ∧ before = after := by
  rw [planned, Work.verdict_eq_ok, Verdict.mapError_eq_ok]

end Parts

theorem of_ensureInitiator {wallet : Wallet.Snapshot} {initiator : Option UserId} {done : Unit}
    (ran : ensureInitiator wallet initiator before = .ok (done, after)) :
    (∀ caller ∈ initiator, wallet.owner = caller) ∧ before = after := by
  cases initiator with
  | none =>
    obtain ⟨_, same⟩ := Work.pure_eq_ok.mp ran
    exact ⟨fun _ none => by simp at none, same⟩
  | some caller =>
    simp only [ensureInitiator, held_eq_ok, Work.verdict_eq_ok, Verdict.mapError_eq_ok] at ran
    obtain ⟨owns, same⟩ := ran
    refine ⟨fun other is => ?_, same⟩
    obtain rfl := Option.mem_some_iff.mp is
    unfold Wallet.ensureOwner at owns
    split at owns
    · assumption
    · cases owns

theorem of_insertMarker {ρ : Type} {sheet : Sheet ρ} {key : TransactionKey} {row : ρ} {done : Unit}
    (ran : insertMarker session sheet key row before = .ok (done, after)) :
    (∀ other ∈ sheet.rows before, sheet.clashes before row other = false) ∧
      after = sheet.replace before (sheet.rows before ++ [row]) := by
  obtain ⟨_, _, _, alone, _, same⟩ := insert_eq_ok.mp (Work.mapError_eq_ok.mp ran)
  exact ⟨alone, same.symm⟩

/-- Both wallets of a transfer are taken, whichever comes first. -/
theorem of_lockPair {source destination : WalletId} {rows : WalletRow × WalletRow}
    (apart : source ≠ destination)
    (ran : lockPair source destination before = .ok (rows, after)) :
    (rows.1 ∈ before.wallets ∧ rows.1.id = source) ∧
      (rows.2 ∈ before.wallets ∧ rows.2.id = destination) ∧ before = after := by
  by_cases first : source ≤ destination
  · simp only [lockPair, lockOrder, if_pos first, Work.bind_eq_ok, held_eq_ok,
      Work.pure_eq_ok] at ran
    obtain ⟨row, _, locked, row', _, locked', rfl, rfl⟩ := ran
    obtain ⟨member, named, rfl⟩ := of_lockWallet locked
    obtain ⟨member', named', rfl⟩ := of_lockWallet locked'
    exact ⟨⟨member, named⟩, ⟨member', named'⟩, rfl⟩
  · simp only [lockPair, lockOrder, if_neg first, Work.bind_eq_ok, held_eq_ok,
      Work.pure_eq_ok, if_neg apart.symm] at ran
    obtain ⟨row, _, locked, row', _, locked', rfl, rfl⟩ := ran
    obtain ⟨member, named, rfl⟩ := of_lockWallet locked
    obtain ⟨member', named', rfl⟩ := of_lockWallet locked'
    exact ⟨⟨member', named'⟩, ⟨member, named⟩, rfl⟩

theorem of_creditWallet {request : MovementRequest} {done : Unit} (sound : Sound before)
    (ran : creditWallet session request before = .ok (done, after)) :
    ∃ wallet balance, Credit session request wallet balance before after := by
  simp only [creditWallet, Work.bind_eq_ok, held_eq_ok, judged_eq_ok, Work.stored_eq_ok] at ran
  obtain ⟨wallet, _, locked, balance, _, ⟨planned, rfl⟩, saved⟩ := ran
  obtain ⟨member, named, rfl⟩ := of_lockWallet locked
  refine ⟨wallet, balance, member, named, planned, ?_⟩
  rw [← named]
  exact (of_saveBalance sound member saved).left

/-! ### Movements -/

theorem of_moveBetween {request : TransferRequest} {key : TransactionKey} {booked : Booked}
    (ran : moveBetween session request key before = .ok (booked, after)) :
    TransferBooked session request key before booked after := by
  unfold moveBetween at ran
  by_cases same : request.source = request.destination
  · simp [same, refuse] at ran
  · simp only [if_neg same, Work.bind_eq_ok, held_eq_ok, judged_eq_ok, planned_eq_ok,
      Work.stored_eq_ok, Work.pure_eq_ok] at ran
    obtain ⟨_, _, ⟨_, rfl⟩, rows, _, locked, _, _, initiated, plan, _, ⟨planned, rfl⟩, state, _,
      reserved, _, _, saved, _, _, saved', _, _, marked, rfl, rfl⟩ := ran
    obtain ⟨⟨member, named⟩, ⟨member', named'⟩, rfl⟩ := of_lockPair same locked
    obtain ⟨owned, rfl⟩ := of_ensureInitiator initiated
    obtain ⟨limits, counted, restated⟩ := (of_reserve reserved).written
    have left := restated.left
    have saved := (of_changeOne saved).2
    have saved' := (of_changeOne saved').2
    obtain ⟨unused, marked⟩ := of_insertMarker marked
    subst left saved saved' marked
    exact .made {
      unused := fun other present => (beq_eq_false_iff_ne.mp (unused other present)).symm
      sourceMember := member
      sourceNamed := named
      destinationMember := member'
      destinationNamed := named'
      owned := owned
      planned := planned
      limitsMember := restated.member
      limitsNamed := restated.named
      reserved := counted
      left := by rw [← named, ← named']; rfl }

theorem of_bookTransfer {request : TransferRequest} {key : TransactionKey} {booked : Booked}
    (ran : bookTransfer session request key before = .ok (booked, after)) :
    TransferBooked session request key before booked after := by
  unfold bookTransfer at ran
  obtain ⟨_, _, is, ran⟩ := Work.bind_eq_ok.mp ran
  obtain ⟨rfl, rfl⟩ := Work.get_eq_ok.mp is
  cases found : before.transfer? key.text with
  | some marker =>
    rw [found] at ran
    obtain ⟨rfl, rfl⟩ := Work.pure_eq_ok.mp ran
    exact .found found
  | none =>
    rw [found] at ran
    exact of_moveBetween ran

theorem of_moveIn {request : MovementRequest} {key : TransactionKey} {booked : Booked}
    (sound : Sound before) (ran : moveIn session request key before = .ok (booked, after)) :
    DepositBooked session request key before booked after := by
  simp only [moveIn, Work.bind_eq_ok, judged_eq_ok, Work.pure_eq_ok] at ran
  obtain ⟨_, _, ⟨_, rfl⟩, _, _, credited, _, _, marked, rfl, rfl⟩ := ran
  obtain ⟨wallet, balance, credit⟩ := of_creditWallet sound credited
  obtain ⟨unused, marked⟩ := of_insertMarker marked
  have left := credit.left
  subst left marked
  exact .made {
    unused := fun other present => (beq_eq_false_iff_ne.mp (unused other present)).symm
    member := credit.member
    named := credit.named
    planned := credit.planned
    left := rfl }

theorem of_bookDeposit {request : MovementRequest} {key : TransactionKey} {booked : Booked}
    (sound : Sound before) (ran : bookDeposit session request key before = .ok (booked, after)) :
    DepositBooked session request key before booked after := by
  unfold bookDeposit at ran
  obtain ⟨_, _, is, ran⟩ := Work.bind_eq_ok.mp ran
  obtain ⟨rfl, rfl⟩ := Work.get_eq_ok.mp is
  cases found : before.deposit? key.text with
  | some marker =>
    rw [found] at ran
    cases status : marker.status with
    | completed =>
      simp only [status] at ran
      obtain ⟨rfl, rfl⟩ := Work.pure_eq_ok.mp ran
      exact .found found status
    | confirmed =>
      simp only [status] at ran
      exact absurd (Work.throw_eq_ok.mp ran) id
  | none =>
    rw [found] at ran
    exact of_moveIn sound ran

theorem of_moveOut {request : MovementRequest} {key : TransactionKey} {booked : Booked}
    (ran : moveOut session request key before = .ok (booked, after)) :
    WithdrawalBooked session request key before booked after := by
  simp only [moveOut, Work.bind_eq_ok, judged_eq_ok, planned_eq_ok, held_eq_ok, Work.stored_eq_ok,
    Work.pure_eq_ok] at ran
  obtain ⟨_, _, ⟨_, rfl⟩, wallet, _, locked, _, _, initiated, balance, _, ⟨planned, rfl⟩, _, _,
    saved, _, _, marked, rfl, rfl⟩ := ran
  obtain ⟨member, named, rfl⟩ := of_lockWallet locked
  obtain ⟨owned, rfl⟩ := of_ensureInitiator initiated
  have saved := (of_changeOne saved).2
  obtain ⟨unused, marked⟩ := of_insertMarker marked
  subst saved marked
  exact .made {
    unused := fun other present => (beq_eq_false_iff_ne.mp (unused other present)).symm
    member := member
    named := named
    owned := owned
    planned := planned
    left := by rw [← named]; rfl }

theorem of_bookWithdrawal {request : MovementRequest} {key : TransactionKey} {booked : Booked}
    (ran : bookWithdrawal session request key before = .ok (booked, after)) :
    WithdrawalBooked session request key before booked after := by
  unfold bookWithdrawal at ran
  obtain ⟨_, _, is, ran⟩ := Work.bind_eq_ok.mp ran
  obtain ⟨rfl, rfl⟩ := Work.get_eq_ok.mp is
  cases found : before.withdrawal? key.text with
  | some marker =>
    rw [found] at ran
    obtain ⟨rfl, rfl⟩ := Work.pure_eq_ok.mp ran
    exact .found found
  | none =>
    rw [found] at ran
    exact of_moveOut ran

/-! ### Operations -/

/-- A movement that ends with a receipt has read its key, booked what it books under it, and made
known what was made. -/
structure Receipted (booking : TransactionKey → Books → Booked → Books → Prop) (text : String)
    (world : World) (receipt : Receipt) (after : World) : Prop where
  booked : ∃ key booked, TransactionKey.read text = .ok key ∧ receipt = booked.receipt ∧
    (Sound world.books → booking key world.books booked after.books) ∧
      after.published = world.published ++ booked.event.toList

theorem readKey_looks (text : String) :
    Ends (readKey text) fun world key after =>
      TransactionKey.read text = .ok key ∧ after = world :=
  (Ends.verdict _).mono fun _ _ _ ⟨read, still⟩ => ⟨Verdict.mapError_eq_ok.mp read, still⟩

theorem readKey_of_ok {text : String} {key : TransactionKey} {world : World}
    (read : TransactionKey.read text = .ok key) : readKey text world = (.ok key, world) := by
  rw [readKey, Action.verdict, read]
  rfl

theorem readKey_of_error {text : String} {cause : Transfer.TransferError} {world : World}
    (failed : TransactionKey.read text = .error cause) :
    readKey text world = (.error (.refused (.transfer cause)), world) := by
  rw [readKey, Action.verdict, failed]
  rfl

theorem settle_run (booked : Booked) (world : World) :
    settle booked world = (.ok booked.receipt,
      { world with published := world.published ++ booked.event.toList }) := by
  obtain ⟨receipt, _ | event⟩ := booked
  · show (Except.ok receipt, world) = _
    simp
  · rfl

theorem withinDeadline_ends {α : Type} (session : Session) (kind : OperationKind)
    (own : Option Calendar.Duration) {work : PaymentWork α} {change : Books → α → Books → Prop}
    (changed : ∀ {before value after}, Sound before → work before = .ok (value, after) →
      change before value after) :
    Ends (withinDeadline session kind own work) (Leaves change fun _ => []) :=
  (Ends.leaves session changed).mapError _

section

variable {α : Type} {kind : OperationKind} {own : Option Calendar.Duration} {work : PaymentWork α}
    {world : World}

/-- Where the storage can be reached a unit of work is committed in time. -/
theorem withinDeadline_of_ok (reached : session.faults.blocked = false) {value : α}
    (ran : work world.books = .ok (value, after)) :
    withinDeadline session kind own work world = (.ok value, { world with books := after }) := by
  rw [withinDeadline, Action.mapError, Action.atomically_of_ok reached ran]
  rfl

theorem withinDeadline_of_error (reached : session.faults.blocked = false)
    {cause : Halt PaymentError} (failed : work world.books = .error cause) :
    withinDeadline session kind own work world =
      (.error (expired kind (allowance session own) cause), world) := by
  rw [withinDeadline, Action.mapError, Action.atomically_of_error reached failed]
  rfl

theorem withinDeadline_of_blocked (blocked : session.faults.blocked = true) :
    withinDeadline session kind own work world =
      (.error (.refused (.timeout kind (allowance session own).milliseconds)), world) := by
  rw [withinDeadline, Action.mapError, Action.atomically_of_blocked blocked]
  rfl

end

/-- A movement is booked under the key that was read, and settled. -/
theorem receipted {booking : TransactionKey → Books → Booked → Books → Prop} (text : String)
    {book : TransactionKey → Action (Halt PaymentError) Booked}
    (books : ∀ key, Ends (book key) (Leaves (booking key) fun _ => [])) :
    Ends (readKey text >>= fun key => book key >>= settle) (Receipted booking text) := by
  refine ((readKey_looks text).after fun key => (books key).andThen
    (fun booked world => { world with published := world.published ++ booked.event.toList })
    Booked.receipt settle_run).mono ?_
  rintro world _ _ ⟨key, read, booked, middle, did, rfl, rfl⟩
  refine ⟨key, booked, read, rfl, did.changed, ?_⟩
  show middle.published ++ _ = _
  rw [did.published, List.append_nil]

/-- **A transfer** moves money once under its key and leaves the marker, or leaves nothing. -/
theorem processTransfer_ends (session : Session) (request : TransferRequest) :
    Ends (processTransfer session request)
      (Receipted (TransferBooked session request) request.key) :=
  receipted request.key fun _ =>
    withinDeadline_ends session .transfer request.deadline fun _ => of_bookTransfer

/-- **A deposit** moves money once under its key and leaves the marker, or leaves nothing. -/
theorem processDeposit_ends (session : Session) (request : MovementRequest) :
    Ends (processDeposit session request)
      (Receipted (DepositBooked session request) request.key) :=
  receipted request.key fun _ =>
    withinDeadline_ends session .deposit request.deadline of_bookDeposit

/-- **A withdrawal** moves money once under its key and leaves the marker, or leaves nothing. -/
theorem processWithdrawal_ends (session : Session) (request : MovementRequest) :
    Ends (processWithdrawal session request)
      (Receipted (WithdrawalBooked session request) request.key) :=
  receipted request.key fun _ =>
    withinDeadline_ends session .withdrawal request.deadline fun _ => of_bookWithdrawal

/-! ### Replays -/

/-- A movement that its unit of work finds booked is answered by a replay, and nothing is left. -/
theorem replayed {kind : OperationKind} {text : String} {own : Option Calendar.Duration}
    {key : TransactionKey}
    {amount : Amount} {world : World} {book : TransactionKey → PaymentWork Booked}
    (reached : session.faults.blocked = false) (read : TransactionKey.read text = .ok key)
    (found : book key world.books = .ok (replay kind key amount, world.books)) :
    (readKey text >>= fun key => withinDeadline session kind own (book key) >>= settle) world =
      (.ok ⟨kind, key, amount, true⟩, world) := by
  have booked : withinDeadline session kind own (book key) world =
      (.ok (replay kind key amount), world) := withinDeadline_of_ok reached found
  rw [Action.bind_of_ok (readKey_of_ok read), Action.bind_of_ok booked]
  rfl

theorem processTransfer_replayed {request : TransferRequest} {key : TransactionKey}
    {marker : TransferRow} {world : World} (reached : session.faults.blocked = false)
    (read : TransactionKey.read request.key = .ok key)
    (found : world.books.transfer? key.text = some marker) :
    processTransfer session request world = (.ok ⟨.transfer, key, marker.amount, true⟩, world) := by
  refine replayed reached read (Work.bind_eq_ok.mpr ⟨world.books, world.books, rfl, ?_⟩)
  rw [found]
  rfl

theorem processDeposit_replayed {request : MovementRequest} {key : TransactionKey}
    {marker : DepositRow} {world : World} (reached : session.faults.blocked = false)
    (read : TransactionKey.read request.key = .ok key)
    (found : world.books.deposit? key.text = some marker) (completed : marker.status = .completed) :
    processDeposit session request world = (.ok ⟨.deposit, key, marker.amount, true⟩, world) := by
  refine replayed reached read (Work.bind_eq_ok.mpr ⟨world.books, world.books, rfl, ?_⟩)
  simp only [found, completed]
  rfl

theorem processWithdrawal_replayed {request : MovementRequest} {key : TransactionKey}
    {marker : WithdrawalRow} {world : World} (reached : session.faults.blocked = false)
    (read : TransactionKey.read request.key = .ok key)
    (found : world.books.withdrawal? key.text = some marker) :
    processWithdrawal session request world =
      (.ok ⟨.withdrawal, key, marker.amount, true⟩, world) := by
  refine replayed reached read (Work.bind_eq_ok.mpr ⟨world.books, world.books, rfl, ?_⟩)
  rw [found]
  rfl

end Passbook.Payments
