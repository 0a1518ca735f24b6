/-
**Money moves once for each key.**

* `marks`: the keys under which movements of a kind were made, with their amounts;
* `Persists`: no marker of a movement that was made is altered or removed; every deed persists
  (`Deed.persists`), and so does every operation;
* `Marked`: a movement that ends with a receipt leaves the mark of its key with the amount of the
  receipt, and unless the receipt is a replay there was none before (`Call.marked`);
* `Call.replays`: a key that is marked is answered by a replay, and nothing is left;
* `play_once`: so in every run from fresh books a key is used up by the first movement made under
  it, and every later one is answered from its marker.
-/

import Passbook.Proofs.Operation.Quiet
import Passbook.Proofs.Operation.Run

namespace Passbook.Operation

open Passbook.Payments (MovementRequest PaymentError)
open Passbook.Store
open Passbook.Transfer (OperationKind Receipt TransactionKey)

/-! ### Marks -/

/-- The keys under which movements of a kind were made, with their amounts. -/
def marks (books : Books) : OperationKind → List (String × Amount)
  | .transfer => books.transfers.map fun row => (row.key, row.amount)
  | .deposit => books.completedDeposits.map fun row => (row.key, row.amount)
  | .withdrawal => books.withdrawals.map fun row => (row.key, row.amount)

/-- No marker of a movement that was made is altered or removed. -/
structure Persists (before after : Books) : Prop where
  transfers : before.transfers ⊆ after.transfers
  deposits : before.completedDeposits ⊆ after.completedDeposits
  withdrawals : before.withdrawals ⊆ after.withdrawals

section

variable {session : Session} {before middle after : Books}

theorem Persists.refl : Persists before before :=
  ⟨List.Subset.refl _, List.Subset.refl _, List.Subset.refl _⟩

theorem Persists.trans (first : Persists before middle) (second : Persists middle after) :
    Persists before after :=
  ⟨List.Subset.trans first.transfers second.transfers,
    List.Subset.trans first.deposits second.deposits,
    List.Subset.trans first.withdrawals second.withdrawals⟩

theorem Persists.marks (persists : Persists before after) (kind : OperationKind) :
    Operation.marks before kind ⊆ Operation.marks after kind := by
  cases kind with
  | transfer => exact List.map_subset _ persists.transfers
  | deposit => exact List.map_subset _ persists.deposits
  | withdrawal => exact List.map_subset _ persists.withdrawals

/-- A marker that was completed is not the one that is completed now. -/
theorem persists_of_credited {request : MovementRequest} {key : TransactionKey}
    {marker : DepositRow} {wallet : WalletRow} {balance : Wallet.WalletBalance}
    (sound : Sound before)
    (did : Payments.Credited session request key marker wallet balance before after) :
    Persists before after := by
  obtain ⟨present, named⟩ := mem_of_deposit? did.found
  rw [did.left]
  refine ⟨List.Subset.refl _, fun row member => ?_, List.Subset.refl _⟩
  obtain ⟨there, completed⟩ := List.mem_filter.mp member
  refine List.mem_filter.mpr ⟨mem_altered_of_ne there fun same => ?_, completed⟩
  obtain rfl := eq_of_key sound.depositKeys there present (same.trans named.symm)
  rw [did.status] at completed
  cases completed

/-- **No deed alters or removes the marker of a movement that was made.** -/
theorem Deed.persists {kind : DeedKind} (deed : Deed session kind before after)
    (sound : Sound before) : Persists before after := by
  by_cases moving : kind ∈ movingKinds
  · cases deed with
    | walletOpened did =>
      rw [did.left]
      exact ⟨List.Subset.refl _, List.Subset.refl _, List.Subset.refl _⟩
    | transferred did =>
      rw [did.left]
      exact ⟨List.subset_append_left _ _, List.Subset.refl _, List.Subset.refl _⟩
    | deposited did =>
      rw [did.left]
      refine ⟨List.Subset.refl _, ?_, List.Subset.refl _⟩
      show before.deposits.filter _ ⊆ List.filter _ (before.deposits ++ _)
      rw [List.filter_append]
      exact List.subset_append_left _ _
    | withdrawn did =>
      rw [did.left]
      exact ⟨List.Subset.refl _, List.Subset.refl _, List.subset_append_left _ _⟩
    | credited _ _ did => exact persists_of_credited sound did
    | _ => exact absurd moving (by decide)
  · have quiet := deed.quiet sound moving
    refine ⟨?_, ?_, ?_⟩
    · rw [quiet.transfers]
      exact List.Subset.refl _
    · rw [quiet.deposits]
      exact List.Subset.refl _
    · rw [quiet.withdrawals]
      exact List.Subset.refl _

end

theorem Call.persists (call : Call) {world : World} (sound : Sound world.books) :
    Persists world.books (call.run world).2.books :=
  ((call.happened sound).preserves (Persists world.books)
    (fun _ sound deed held => held.trans (deed.persists sound)) sound .refl).2

theorem play_persists (calls : List Call) {world : World} (sound : Sound world.books) :
    Persists world.books (play calls world).books :=
  (play_preserves (Persists world.books) (fun sound deed held => held.trans (deed.persists sound))
    calls sound .refl).2

/-! ### Movements that end with a receipt -/

/-- The kind of a movement and its key without blanks around it. -/
def movement? : Call → Option (OperationKind × String)
  | .command _ (.transfer request) => some (.transfer, Text.trim request.key)
  | .command _ (.deposit request) => some (.deposit, Text.trim request.key)
  | .command _ (.withdraw request) => some (.withdrawal, Text.trim request.key)
  | .command _ (.externalDeposit request) => some (.deposit, Text.trim request.key)
  | .depositInStages _ _ _ request => some (.deposit, Text.trim request.key)
  | _ => none

/-- A receipt under a key is that of the movement made under it, either now or before. -/
structure Marked (kind : OperationKind) (key : TransactionKey) (before : Books) (receipt : Receipt)
    (after : Books) : Prop where
  sameKind : receipt.kind = kind
  sameKey : receipt.key = key
  mark : (key.text, receipt.amount) ∈ marks after kind
  new : receipt.replayed = false → ∀ amount, (key.text, amount) ∉ marks before kind

section

variable {session : Session} {before after : Books} {key : TransactionKey}

/-- A deposit that is found completed is marked with its amount. -/
theorem mark_of_completed {marker : DepositRow} (found : before.deposit? key.text = some marker)
    (completed : marker.status = .completed) :
    (key.text, marker.amount) ∈ marks before .deposit := by
  obtain ⟨member, named⟩ := mem_of_deposit? found
  have present : marker ∈ before.completedDeposits :=
    List.mem_filter.mpr ⟨member, beq_iff_eq.mpr completed⟩
  rw [← named]
  exact List.mem_map_of_mem present

theorem marked_of_transfer {request : Payments.TransferRequest} {booked : Payments.Booked}
    (did : Payments.TransferBooked session request key before booked after) :
    Marked .transfer key before booked.receipt after := by
  cases did with
  | found found =>
    obtain ⟨member, named⟩ := mem_of_transfer? found
    refine ⟨rfl, rfl, ?_, fun fresh => by cases fresh⟩
    rw [← named]
    exact List.mem_map_of_mem member
  | made did =>
    refine ⟨rfl, rfl, ?_, fun _ amount marked => ?_⟩
    · rw [did.left]
      exact List.mem_map.mpr ⟨_, List.mem_append_right _ List.mem_cons_self, rfl⟩
    · obtain ⟨row, member, same⟩ := List.mem_map.mp marked
      exact did.unused row member (congrArg Prod.fst same)

theorem marked_of_deposit {request : MovementRequest} {booked : Payments.Booked}
    (did : Payments.DepositBooked session request key before booked after) :
    Marked .deposit key before booked.receipt after := by
  cases did with
  | found found completed =>
    exact ⟨rfl, rfl, mark_of_completed found completed, fun fresh => by cases fresh⟩
  | made did =>
    refine ⟨rfl, rfl, ?_, fun _ amount marked => ?_⟩
    · have present : Payments.depositRow session request key .completed ∈
          after.completedDeposits := by
        rw [did.left]
        exact List.mem_filter.mpr ⟨List.mem_append_right _ List.mem_cons_self, rfl⟩
      exact List.mem_map.mpr ⟨_, present, rfl⟩
    · obtain ⟨row, member, same⟩ := List.mem_map.mp marked
      exact did.unused row (List.mem_filter.mp member).1 (congrArg Prod.fst same)

theorem marked_of_withdrawal {request : MovementRequest} {booked : Payments.Booked}
    (did : Payments.WithdrawalBooked session request key before booked after) :
    Marked .withdrawal key before booked.receipt after := by
  cases did with
  | found found =>
    obtain ⟨member, named⟩ := mem_of_withdrawal? found
    refine ⟨rfl, rfl, ?_, fun fresh => by cases fresh⟩
    rw [← named]
    exact List.mem_map_of_mem member
  | made did =>
    refine ⟨rfl, rfl, ?_, fun _ amount marked => ?_⟩
    · rw [did.left]
      exact List.mem_map.mpr ⟨_, List.mem_append_right _ List.mem_cons_self, rfl⟩
    · obtain ⟨row, member, same⟩ := List.mem_map.mp marked
      exact did.unused row member (congrArg Prod.fst same)

/-- A deposit whose credit is owed was not made before. -/
theorem unmarked_of_pending {request : MovementRequest} (sound : Sound before)
    (did : Payments.ConfirmBooked session request key before .pending after) (amount : Amount) :
    (key.text, amount) ∉ marks before .deposit := by
  intro marked
  obtain ⟨row, member, same⟩ := List.mem_map.mp marked
  obtain ⟨present, completed⟩ := List.mem_filter.mp member
  cases did with
  | @pending marker found _ _ status =>
    obtain ⟨there, named⟩ := mem_of_deposit? found
    have sameKey : row.key = marker.key := (congrArg Prod.fst same).trans named.symm
    obtain rfl := eq_of_key sound.depositKeys present there sameKey
    rw [status] at completed
    cases completed
  | confirmed did => exact did.unused row present (congrArg Prod.fst same)

/-- A deposit that is credited, or found credited, is marked with the amount of its marker. -/
theorem mark_of_credited {request : MovementRequest} {earlier : Bool}
    (matching : ∀ {marker : DepositRow}, before.deposit? key.text = some marker →
      marker.wallet = request.wallet ∧ marker.amount = request.amount)
    (did : Payments.CreditBooked session request key before earlier after) :
    (key.text, request.amount) ∈ marks after .deposit := by
  cases did with
  | found found completed =>
    rw [← (matching found).2]
    exact mark_of_completed found completed
  | @made marker _ _ _ did =>
    obtain ⟨member, named⟩ := mem_of_deposit? did.found
    have present : Payments.completed session.now marker ∈ after.completedDeposits := by
      rw [did.left]
      exact List.mem_filter.mpr ⟨alter_mem_altered member named, rfl⟩
    rw [← named, ← (matching did.found).2]
    exact List.mem_map.mpr ⟨_, present, rfl⟩

end

theorem marked_of_staged {confirming crediting undoing : Session} {request : MovementRequest}
    {world after : World} {receipt : Receipt}
    (staged : Payments.Staged confirming crediting undoing request world (.ok receipt, after))
    (sound : Sound world.books) :
    ∃ key, TransactionKey.read request.key = .ok key ∧
      Marked .deposit key world.books receipt after.books := by
  cases staged with
  | @found key amount _ read did =>
    refine ⟨key, read, rfl, rfl, ?_, fun fresh => by cases fresh⟩
    have confirmed := did.changed sound
    generalize after.books = books at confirmed
    cases confirmed with
    | completed found _ _ status => exact mark_of_completed found status
  | @credited key earlier middle _ read positive first second =>
    have confirmed := first.changed sound
    have sound' := (confirmBooked_happened confirmed).sound sound
    refine ⟨key, read, rfl, rfl, ?_, fun _ amount => unmarked_of_pending sound confirmed amount⟩
    exact mark_of_credited (confirmed.of_deposit? sound') (second.changed sound')

/-- A receipt that is answered is the one that the movement ends with. -/
theorem receipt_of_payment {action : Action (Halt PaymentError) Receipt} {world : World}
    {receipt : Receipt} (done : (ofPayment action world).1 = .ok (.receipt receipt)) :
    (action world).1 = .ok receipt := by
  obtain ⟨value, ended, is⟩ := ok_of_answering done
  cases is
  exact ended

theorem marked_of_receipted {text : String} {kind : OperationKind}
    {booking : TransactionKey → Books → Payments.Booked → Books → Prop}
    {action : Action (Halt PaymentError) Receipt} {world : World} {receipt : Receipt}
    (ends : Action.Ends action (Payments.Receipted booking text))
    (marked : ∀ {key booked}, booking key world.books booked (action world).2.books →
      Marked kind key world.books booked.receipt (action world).2.books)
    (sound : Sound world.books) (done : (action world).1 = .ok receipt) :
    ∃ key, TransactionKey.read text = .ok key ∧
      Marked kind key world.books receipt (action world).2.books := by
  obtain ⟨key, booked, read, rfl, did, _⟩ := (ends.part_of_ok done).booked
  exact ⟨key, read, marked (did sound)⟩

theorem marked_of_completed {confirming crediting undoing : Session} {request : MovementRequest}
    {world : World} {receipt : Receipt} (sound : Sound world.books)
    (done : (Payments.completeInStages confirming crediting undoing request world).1 =
      .ok receipt) :
    ∃ key, TransactionKey.read request.key = .ok key ∧ Marked .deposit key world.books receipt
      (Payments.completeInStages confirming crediting undoing request world).2.books := by
  have staged := Payments.completeInStages_cases confirming crediting undoing request world
  generalize Payments.completeInStages confirming crediting undoing request world = outcome
    at staged done ⊢
  obtain ⟨result, after⟩ := outcome
  obtain rfl : result = .ok receipt := done
  exact marked_of_staged staged sound

/-- The operation that makes a movement, the text of its key, and what a receipt of it says. -/
theorem Call.of_movement? {call : Call} {kind : OperationKind} {key : String} {world : World}
    (named : movement? call = some (kind, key)) (sound : Sound world.books) :
    ∃ (action : Action (Halt PaymentError) Receipt) (text : String),
      call.run = ofPayment action ∧ Text.trim text = key ∧
        ∀ receipt, (action world).1 = .ok receipt → ∃ own, TransactionKey.read text = .ok own ∧
          Marked kind own world.books receipt (action world).2.books := by
  cases call with
  | command session wanted =>
    cases wanted with
    | transfer request =>
      obtain ⟨rfl, rfl⟩ := Prod.mk.inj (Option.some.inj named)
      exact ⟨Payments.processTransfer session request, request.key, rfl, rfl, fun _ =>
        marked_of_receipted (Payments.processTransfer_ends session request) marked_of_transfer
          sound⟩
    | deposit request =>
      obtain ⟨rfl, rfl⟩ := Prod.mk.inj (Option.some.inj named)
      exact ⟨Payments.processDeposit session request, request.key, rfl, rfl, fun _ =>
        marked_of_receipted (Payments.processDeposit_ends session request) marked_of_deposit sound⟩
    | withdraw request =>
      obtain ⟨rfl, rfl⟩ := Prod.mk.inj (Option.some.inj named)
      exact ⟨Payments.processWithdrawal session request, request.key, rfl, rfl, fun _ =>
        marked_of_receipted (Payments.processWithdrawal_ends session request) marked_of_withdrawal
          sound⟩
    | externalDeposit request =>
      obtain ⟨rfl, rfl⟩ := Prod.mk.inj (Option.some.inj named)
      exact ⟨Payments.completeInStages session session session request, request.key, rfl, rfl,
        fun _ => marked_of_completed sound⟩
    | _ => cases named
  | depositInStages confirming crediting undoing request =>
    obtain ⟨rfl, rfl⟩ := Prod.mk.inj (Option.some.inj named)
    exact ⟨Payments.completeInStages confirming crediting undoing request, request.key, rfl, rfl,
      fun _ => marked_of_completed sound⟩
  | _ => cases named

/-- **A movement that ends with a receipt is marked**, and one that is no replay was not before. -/
theorem Call.marked {call : Call} {kind : OperationKind} {key : String} {world : World}
    {receipt : Receipt} (named : movement? call = some (kind, key)) (sound : Sound world.books)
    (done : (call.run world).1 = .ok (.receipt receipt)) :
    (∀ text, Text.trim text = key → TransactionKey.read text = .ok ⟨key⟩) ∧
      Marked kind ⟨key⟩ world.books receipt (call.run world).2.books := by
  obtain ⟨action, text, run, rfl, marks⟩ := Call.of_movement? named sound
  rw [run] at done ⊢
  obtain ⟨⟨own⟩, read, marked⟩ := marks receipt (receipt_of_payment done)
  obtain ⟨rfl, others⟩ := TransactionKey.of_read read
  rw [ofPayment, answering_run]
  exact ⟨others, marked⟩

/-! ### Keys that are used up -/

/-- A movement asked for by itself in a session that reaches the storage in time. -/
def isInTime : Call → Bool
  | .command session (.transfer _) => !session.faults.blocked
  | .command session (.deposit _) => !session.faults.blocked
  | .command session (.withdraw _) => !session.faults.blocked
  | _ => false

/-- **A key that is marked is answered by a replay**, whatever else is asked for, and nothing is
left. -/
theorem Call.replays {call : Call} {kind : OperationKind} {key : String} {amount : Amount}
    {world : World} (named : movement? call = some (kind, key)) (timely : isInTime call)
    (readable : ∀ text, Text.trim text = key → TransactionKey.read text = .ok ⟨key⟩)
    (sound : Sound world.books) (marked : (key, amount) ∈ marks world.books kind) :
    call.run world = (.ok (.receipt ⟨kind, ⟨key⟩, amount, true⟩), world) := by
  have answered : ∀ {action : Action (Halt PaymentError) Receipt},
      action world = (.ok ⟨kind, ⟨key⟩, amount, true⟩, world) →
        ofPayment action world = (.ok (.receipt ⟨kind, ⟨key⟩, amount, true⟩), world) := by
    intro action done
    rw [ofPayment, answering_run, done]
    rfl
  cases call with
  | command session wanted =>
    cases wanted with
    | transfer request =>
      obtain ⟨rfl, same⟩ := Prod.mk.inj (Option.some.inj named)
      have reached : session.faults.blocked = false := (Bool.not_eq_true' _).mp timely
      obtain ⟨row, member, is⟩ := List.mem_map.mp marked
      obtain ⟨rfl, rfl⟩ := Prod.mk.inj is
      show ofPayment (Payments.processTransfer session request) world = _
      exact answered (Payments.processTransfer_replayed reached (readable _ same)
        (transfer?_of_mem sound.transferKeys member))
    | deposit request =>
      obtain ⟨rfl, same⟩ := Prod.mk.inj (Option.some.inj named)
      have reached : session.faults.blocked = false := (Bool.not_eq_true' _).mp timely
      obtain ⟨row, member, is⟩ := List.mem_map.mp marked
      obtain ⟨rfl, rfl⟩ := Prod.mk.inj is
      obtain ⟨present, completed⟩ := List.mem_filter.mp member
      show ofPayment (Payments.processDeposit session request) world = _
      exact answered (Payments.processDeposit_replayed reached (readable _ same)
        (deposit?_of_mem sound.depositKeys present) (eq_of_beq completed))
    | withdraw request =>
      obtain ⟨rfl, same⟩ := Prod.mk.inj (Option.some.inj named)
      have reached : session.faults.blocked = false := (Bool.not_eq_true' _).mp timely
      obtain ⟨row, member, is⟩ := List.mem_map.mp marked
      obtain ⟨rfl, rfl⟩ := Prod.mk.inj is
      show ofPayment (Payments.processWithdrawal session request) world = _
      exact answered (Payments.processWithdrawal_replayed reached (readable _ same)
        (withdrawal?_of_mem sound.withdrawalKeys member))
    | _ => cases timely
  | _ => cases timely

/-- The answer to an operation tells that a movement of a kind was made under a key. -/
def isMade (kind : OperationKind) (key : String) : Call × Except Failure Answer → Bool
  | (call, .ok (.receipt receipt)) => movement? call == some (kind, key) && !receipt.replayed
  | _ => false

theorem marked_of_isMade {kind : OperationKind} {key : String} {call : Call} {world : World}
    (sound : Sound world.books) (made : isMade kind key (call, (call.run world).1)) :
    (∀ amount, (key, amount) ∉ marks world.books kind) ∧
      ∃ amount, (key, amount) ∈ marks (call.run world).2.books kind := by
  unfold isMade at made
  split at made
  · rename_i receipt pair
    obtain ⟨rfl, done⟩ := Prod.mk.inj pair
    obtain ⟨named, fresh⟩ := Bool.and_eq_true_iff.mp made
    obtain ⟨_, marked⟩ := Call.marked (eq_of_beq named) sound done
    exact ⟨marked.new ((Bool.not_eq_true' _).mp fresh), receipt.amount, marked.mark⟩
  · cases made

/-- Under a key that is marked no movement is made any more. -/
theorem count_of_marked {kind : OperationKind} {key : String} {amount : Amount} (calls : List Call)
    {world : World} (sound : Sound world.books) (marked : (key, amount) ∈ marks world.books kind) :
    (history calls world).countP (isMade kind key) = 0 := by
  induction calls generalizing world with
  | nil => rfl
  | cons call rest ih =>
    have none : ¬isMade kind key (call, (call.run world).1) := fun made =>
      (marked_of_isMade sound made).1 amount marked
    rw [history, List.countP_cons_of_neg none]
    exact ih ((call.happened sound).sound sound) ((call.persists sound).marks kind marked)

/-- Under a key at most one movement is made. -/
theorem count_le_one {kind : OperationKind} {key : String} (calls : List Call) {world : World}
    (sound : Sound world.books) : (history calls world).countP (isMade kind key) ≤ 1 := by
  induction calls generalizing world with
  | nil => exact Nat.zero_le 1
  | cons call rest ih =>
    have sound' := (call.happened sound).sound sound
    rw [history]
    by_cases made : isMade kind key (call, (call.run world).1)
    · obtain ⟨_, amount, marked⟩ := marked_of_isMade sound made
      have none := count_of_marked rest sound' marked
      rw [List.countP_cons_of_pos made]
      exact Nat.succ_le_succ (Nat.le_of_eq none)
    · rw [List.countP_cons_of_neg made]
      exact ih sound'

/-- **In every run of operations from fresh books a key is used up by the first movement made under
it.** At most one operation answers that it made a movement of a kind under a key. Once one has
answered with a receipt, whatever comes between, a movement of this kind asked for under this key
in time is answered by the same receipt as a replay, whatever else it asks for, and leaves the books
and what is published as they were. No marker of a movement that was made is ever altered or
removed. -/
theorem play_once (supply : Supply) (kind : OperationKind) (key : String) (calls : List Call) :
    (history calls (.fresh supply)).countP (isMade kind key) ≤ 1 ∧
      (∀ first between again receipt, movement? first = some (kind, key) →
        (first.run (play calls (.fresh supply))).1 = .ok (.receipt receipt) →
          movement? again = some (kind, key) → isInTime again →
            again.run (play (calls ++ first :: between) (.fresh supply)) =
              (.ok (.receipt { receipt with replayed := true }),
                play (calls ++ first :: between) (.fresh supply))) ∧
      ∀ later, Persists (play calls (.fresh supply)).books
        (play (calls ++ later) (.fresh supply)).books := by
  have start : Sound (World.fresh supply).books := Sound.fresh
  have sound := play_sound calls start
  refine ⟨count_le_one calls start, fun first between again receipt named done named' timely => ?_,
    fun later => ?_⟩
  · obtain ⟨readable, marked⟩ := Call.marked named sound done
    have sound' := (first.happened sound).sound sound
    have kept := (play_persists between sound').marks kind marked.mark
    obtain ⟨_, ⟨_⟩, amount, replayed⟩ := receipt
    obtain rfl := marked.sameKind
    obtain ⟨rfl⟩ := marked.sameKey
    rw [play_append]
    exact Call.replays named' timely readable (play_sound between sound') kept
  · rw [play_append]
    exact play_persists later sound

/-- A deposit that is asked for again under its key, with other blanks around it. -/
theorem play_once_deposit :
    (Call.command sampleSession (.deposit (sampleDeposit " first "))).run
        (play sampleDeposits .fresh) =
      (.ok (.receipt ⟨.deposit, ⟨"first"⟩, sampleAmount, true⟩), play sampleDeposits .fresh) := by
  have once := play_once .ascending .deposit "first" (sampleDeposits.take 1)
  exact once.2.1 (.command sampleSession (.deposit (sampleDeposit "first")))
    [.command sampleSession (.deposit (sampleDeposit " first "))]
    (.command sampleSession (.deposit (sampleDeposit " first ")))
    ⟨.deposit, ⟨"first"⟩, sampleAmount, false⟩ (by decide) (by rfl) (by decide) rfl

end Passbook.Operation
