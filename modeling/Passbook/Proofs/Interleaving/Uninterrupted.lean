/-
**An external deposit that nothing interrupts is a deposit.**

* `KeepsDeposits`: the storage can be reached, refuses nothing on the markers of deposits, and
  nobody takes a key first;
* `creditWallet_deposits`: crediting a wallet pays no heed to markers of deposits and leaves them;
* `deposited`, `resumed`: what a deposit comes to under a key without a marker, and under one whose
  credit is owed, told by the credit of the wallet alone;
* `completeExternalDeposit_unmarked`: under a key without a marker both ways to deposit come to the
  same; `AsMarked`: what the one in stages comes to under a key with a marker;
* `OwesNoMore`: no marker is confirmed that was not before; `owesNoMore_of_call`: so it is after
  every operation whose confirmation can be taken back;
* `play_uninterrupted`: all of this after every run of operations from fresh books.
-/

import Passbook.Proofs.Interleaving.Stages
import Passbook.Proofs.Operation.OrderlyMovements
import Passbook.Proofs.Operation.Refused
import Passbook.Proofs.Payments.Confined

namespace Passbook.Interleaving

open Passbook.Operation
open Passbook.Payments
open Passbook.Store
open Passbook.Transfer (Receipt TransactionKey)

/-- The storage can be reached and refuses nothing on the markers of deposits, and nobody takes a
key first. -/
structure KeepsDeposits (session : Session) : Prop where
  reached : session.faults.blocked = false
  allowed : ∀ statement, session.faults.refuses .processedDeposits statement = false
  alone : session.faults.rivals .processedDeposits = false

variable {session : Session} {request : MovementRequest} {key : TransactionKey} {books : Books}

/-! ### Crediting the wallet -/

/-- The wallet of a request and nothing else. -/
def ofWallet (request : MovementRequest) : Scope := fun place => place == .wallet request.wallet

/-- **Crediting a wallet pays no heed to markers** of deposits and leaves them. -/
theorem creditWallet_deposits (sound : Sound books) {rows : List DepositRow}
    (sound' : Sound { books with deposits := rows }) :
    creditWallet session request { books with deposits := rows } =
      (creditWallet session request books).map fun (done, after) =>
        (done, { after with deposits := rows }) := by
  have confined : Confined (ofWallet request) (creditWallet session request) :=
    creditWallet_confined session request (beq_self_eq_true _)
  have none : ∀ rows : List DepositRow, (rows.filter fun row =>
      ofWallet request (.deposit row.key)) = [] := fun rows =>
    List.filter_eq_nil_iff.mpr fun row _ => by simp [ofWallet]
  -- among the rows of the wallet alone it is one run, whatever the markers
  have within : { books with deposits := rows }.within (ofWallet request) =
      books.within (ofWallet request) := by
    simp only [Books.within, none]
  have one := confined.within sound
  have other := confined.within sound'
  rw [within, one] at other
  cases ran : creditWallet session request books with
  | error cause =>
    cases ran' : creditWallet session request { books with deposits := rows } with
    | error cause' =>
      rw [ran, ran'] at other
      exact congrArg _ (Except.error.inj other).symm
    | ok done =>
      rw [ran, ran'] at other
      cases other
  | ok done =>
    cases ran' : creditWallet session request { books with deposits := rows } with
    | error cause =>
      rw [ran, ran'] at other
      cases other
    | ok done' =>
      obtain ⟨_, after⟩ := done
      obtain ⟨_, after'⟩ := done'
      obtain ⟨wallet, balance, credit⟩ := of_creditWallet sound ran
      obtain ⟨wallet', balance', credit'⟩ := of_creditWallet sound' ran'
      obtain rfl : wallet' = wallet := eq_of_key sound.walletIds credit'.member credit.member
        (credit'.named.trans credit.named.symm)
      obtain rfl : balance' = balance := Except.ok.inj (credit'.planned.symm.trans credit.planned)
      have left := credit.left
      have left' := credit'.left
      subst left left'
      rfl

theorem deposits_of_credited (sound : Sound books) {done : Unit} {after : Books}
    (ran : creditWallet session request books = .ok (done, after)) :
    after.deposits = books.deposits := by
  obtain ⟨_, _, credit⟩ := of_creditWallet sound ran
  rw [credit.left]

theorem sound_of_credited (sound : Sound books) {done : Unit} {after : Books}
    (ran : creditWallet session request books = .ok (done, after)) : Sound after := by
  obtain ⟨_, _, credit⟩ := of_creditWallet sound ran
  obtain ⟨_, raised⟩ := Transfer.planDeposit_eq_ok.mp credit.planned
  rw [credit.left]
  exact Holdings.rebalanced_sound request.wallet session.now sound
    (Wallet.WalletBalance.credit_fits (sound.fits _ credit.member) raised)

/-! ### Leaving, completing and taking back a marker -/

theorem unused_of_none (none : books.deposit? key.text = none) :
    ∀ other ∈ books.deposits, other.key ≠ key.text := fun other member same =>
  List.find?_eq_none.mp none other member (beq_iff_eq.mpr same)

/-- A marker is left under a key that has none. -/
theorem insertMarker_unused (keeps : KeepsDeposits session) (status : DepositStatus)
    (unused : ∀ other ∈ books.deposits, other.key ≠ key.text) :
    insertMarker session depositSheet key (depositRow session request key status) books =
      .ok ((), { books with
        deposits := books.deposits ++ [depositRow session request key status] }) :=
  Work.mapError_eq_ok.mpr (insert_eq_ok.mpr ⟨keeps.allowed .insert, rfl, keeps.alone,
    fun other member => beq_eq_false_iff_ne.mpr (unused other member).symm, rfl, rfl⟩)

/-- A marker that is there is completed. -/
theorem changeDeposit_allowed (keeps : KeepsDeposits session) (sound : Sound books)
    {marker : DepositRow} (member : marker ∈ books.deposits) :
    changeOne session.faults depositSheet (fun row => row.key == marker.key)
        (completed session.now) books = .ok ((), { books with
      deposits := altered DepositRow.key marker.key (completed session.now) books.deposits }) := by
  have fails := changeDeposit_failsOnly session.faults (completed session.now) sound.depositKeys
    member fun _ => rfl
  obtain ⟨after, ran⟩ := exists_done fails (keeps.allowed .update)
  have left := (of_changeOne ran).2
  rw [ran, left]
  rfl

/-- The marker that is found is the one that is held. -/
theorem lockMarker_found {marker : DepositRow} (found : books.deposit? key.text = some marker) :
    lockMarker key books = .ok (marker, books) := by
  rw [lockMarker, Work.bind_of_ok (Work.get_eq_ok.mpr ⟨rfl, rfl⟩)]
  exact Work.found_eq_ok.mpr ⟨found, rfl⟩

/-- The credit that is owed succeeds with that of the wallet, and the marker is completed. -/
theorem creditConfirmed_of_ok (keeps : KeepsDeposits session) (sound : Sound books)
    {marker : DepositRow} (found : books.deposit? key.text = some marker)
    (status : marker.status = .confirmed) {done : Unit} {after : Books}
    (credited : creditWallet session request books = .ok (done, after)) :
    creditConfirmed session request key books = .ok (false, { after with
      deposits := altered DepositRow.key key.text (completed session.now) after.deposits }) := by
  obtain ⟨member, named⟩ := mem_of_deposit? found
  have present : marker ∈ after.deposits := deposits_of_credited sound credited ▸ member
  have marked := changeDeposit_allowed keeps (sound_of_credited sound credited) present
  rw [creditConfirmed, Work.bind_of_ok (lockMarker_found found)]
  simp only [status]
  rw [Work.bind_of_ok credited, ← named]
  exact Work.bind_of_ok (Work.stored_eq_ok.mpr marked)

/-- The credit that is owed fails with that of the wallet. -/
theorem creditConfirmed_of_error {marker : DepositRow}
    (found : books.deposit? key.text = some marker) (status : marker.status = .confirmed)
    {cause : Halt PaymentError} (failed : creditWallet session request books = .error cause) :
    creditConfirmed session request key books = .error cause := by
  rw [creditConfirmed, Work.bind_of_ok (lockMarker_found found)]
  simp only [status]
  exact Work.bind_of_error failed

/-- The marker of a confirmed deposit is taken back. -/
theorem takeBack_allowed (keeps : KeepsDeposits session) {world : World}
    (sound : Sound world.books) :
    takeBack session key world =
      World.withDeposits world (world.books.deposits.filter fun row => !isPending key row) := by
  have allowed := keeps.allowed .delete
  have removed : ∃ count after,
      rollbackConfirmation session key world.books = .ok (count, after) :=
    rollback_eq_ok_of_allowed sound allowed
  obtain ⟨count, after, done⟩ := removed
  have left := (of_rollbackConfirmation sound done).left
  rw [takeBack, Action.atomically_of_ok keeps.reached done, left]
  rfl

/-! ### Both ways to deposit -/

variable {world : World}

/-- What a deposit under a key without a marker comes to. -/
def deposited (session : Session) (request : MovementRequest) (key : TransactionKey)
    (world : World) : Except (Halt PaymentError) Receipt × World :=
  match creditWallet session request world.books with
  | .ok (_, after) =>
    (.ok ⟨.deposit, key, request.amount, false⟩,
      ⟨{ after with
          deposits := world.books.deposits ++ [depositRow session request key .completed] },
        world.published ++ [depositEvent session request key]⟩)
  | .error cause => (.error (expired .deposit (allowance session request.deadline) cause), world)

/-- What completing a deposit whose credit is owed comes to. -/
def resumed (session : Session) (request : MovementRequest) (key : TransactionKey)
    (world : World) : Except (Halt PaymentError) Receipt × World :=
  match creditWallet session request world.books with
  | .ok (_, after) =>
    (.ok ⟨.deposit, key, request.amount, false⟩,
      ⟨{ after with
          deposits := altered DepositRow.key key.text (completed session.now)
            world.books.deposits },
        world.published ++ [depositEvent session request key]⟩)
  | .error cause =>
    (.error (expired .deposit (allowance session request.deadline) cause),
      World.withDeposits world (world.books.deposits.filter fun row => !isPending key row))

/-- The credit that is owed, and its confirmation taken back where it fails. -/
def finish (session : Session) (request : MovementRequest) (key : TransactionKey)
    (world : World) : Except (Halt PaymentError) Receipt × World :=
  match complete session request key world with
  | (.ok receipt, after) => (.ok receipt, after)
  | (.error cause, after) => (.error cause, takeBack session key after)

/-- A deposit in stages whose credit is owed goes on with it. -/
theorem completeExternalDeposit_of_pending {after : World}
    (announced : announce session request world = (.ok (key, .pending), after)) :
    completeExternalDeposit session request world = finish session request key after := by
  rw [completeExternalDeposit, completeInStages_eq, announced]
  rfl

theorem finish_eq (keeps : KeepsDeposits session) (sound : Sound world.books)
    {marker : DepositRow} (found : world.books.deposit? key.text = some marker)
    (status : marker.status = .confirmed) :
    finish session request key world = resumed session request key world := by
  unfold finish resumed
  cases credit : creditWallet session request world.books with
  | error cause =>
    have failed : complete session request key world =
        (.error (expired .deposit (allowance session request.deadline) cause), world) :=
      Action.bind_of_error (withinDeadline_of_error keeps.reached
        (creditConfirmed_of_error found status credit))
    simp only [failed, takeBack_allowed keeps sound]
  | ok credited =>
    obtain ⟨_, after⟩ := credited
    have ran := creditConfirmed_of_ok keeps sound found status credit
    rw [deposits_of_credited sound credit] at ran
    have done : complete session request key world =
        (.ok ⟨.deposit, key, request.amount, false⟩,
          ⟨{ after with
              deposits := altered DepositRow.key key.text (completed session.now)
                world.books.deposits },
            world.published ++ [depositEvent session request key]⟩) :=
      Action.bind_of_ok (withinDeadline_of_ok keeps.reached ran)
    simp only [done]

/-- Under a key without a marker the credit that is owed after its confirmation is the deposit. -/
theorem resumed_of_confirmed (sound : Sound world.books)
    (unused : ∀ other ∈ world.books.deposits, other.key ≠ key.text) :
    resumed session request key (World.withDeposits world
        (world.books.deposits ++ [depositRow session request key .confirmed])) =
      deposited session request key world := by
  have sound' : Sound { world.books with
      deposits := world.books.deposits ++ [depositRow session request key .confirmed] } :=
    sound.addDeposit unused
  have last : altered DepositRow.key key.text (completed session.now)
      (world.books.deposits ++ [depositRow session request key .confirmed]) =
        world.books.deposits ++ [depositRow session request key .completed] :=
    altered_middle sound'.depositKeys
  unfold resumed deposited
  simp only [World.withDeposits, creditWallet_deposits sound sound', last]
  cases credit : creditWallet session request world.books with
  | error cause => simp only [Except.map, filter_of_confirmed unused]
  | ok credited => rfl

/-- The first unit of work of a deposit in stages, once its key, amount and deadline have passed. -/
theorem announce_of_positive (read : TransactionKey.read request.key = .ok key)
    (positive : request.amount.Positive) (timed : ¬Untimed session request.deadline) :
    announce session request world = (withinDeadline session .deposit request.deadline
      (confirmDeposit session request key) >>= fun confirmation => pure (key, confirmation))
        world := by
  have checked : Transfer.ensurePositive request.amount = .ok () :=
    Transfer.ensurePositive_eq_ok.mpr positive
  rw [announce, Action.bind_of_ok (readKey_of_ok read), checked]
  rcases setDeadline_cases session request.deadline world with ⟨_, set⟩ | ⟨untimed, _⟩
  · exact Action.bind_of_ok set
  · exact absurd untimed timed

theorem announce_of_ok (reached : session.faults.blocked = false)
    (read : TransactionKey.read request.key = .ok key) (positive : request.amount.Positive)
    (timed : ¬Untimed session request.deadline) {confirmation : Confirmation} {after : Books}
    (ran : confirmDeposit session request key world.books = .ok (confirmation, after)) :
    announce session request world = (.ok (key, confirmation), { world with books := after }) :=
  (announce_of_positive read positive timed).trans
    (Action.bind_of_ok (withinDeadline_of_ok reached ran))

/-- Under a key without a marker a deposit is new. -/
theorem bookDeposit_of_none (none : books.deposit? key.text = none) :
    bookDeposit session request key books = moveIn session request key books := by
  rw [bookDeposit, Work.bind_of_ok (Work.get_eq_ok.mpr ⟨rfl, rfl⟩), none]

/-- **A deposit in one unit of work** under a key without a marker. -/
theorem processDeposit_eq (keeps : KeepsDeposits session) (sound : Sound world.books)
    (read : TransactionKey.read request.key = .ok key) (positive : request.amount.Positive)
    (none : world.books.deposit? key.text = none) :
    processDeposit session request world = deposited session request key world := by
  have fresh : bookDeposit session request key world.books =
      moveIn session request key world.books := bookDeposit_of_none none
  have checked : (judged (Transfer.ensurePositive request.amount) : PaymentWork Unit)
      world.books = .ok ((), world.books) :=
    judged_eq_ok.mpr ⟨Transfer.ensurePositive_eq_ok.mpr positive, rfl⟩
  rw [moveIn, Work.bind_of_ok checked] at fresh
  rw [processDeposit, Action.bind_of_ok (readKey_of_ok read), deposited]
  cases credit : creditWallet session request world.books with
  | error cause =>
    rw [Work.bind_of_error credit] at fresh
    exact Action.bind_of_error (withinDeadline_of_error keeps.reached fresh)
  | ok credited =>
    obtain ⟨_, after⟩ := credited
    have kept := deposits_of_credited sound credit
    have unused : ∀ other ∈ after.deposits, other.key ≠ key.text := kept ▸ unused_of_none none
    rw [Work.bind_of_ok credit, Work.bind_of_ok (insertMarker_unused keeps .completed unused),
      kept] at fresh
    exact Action.bind_of_ok (withinDeadline_of_ok keeps.reached fresh)

theorem processDeposit_of_not_positive (keeps : KeepsDeposits session)
    (read : TransactionKey.read request.key = .ok key) (other : ¬request.amount.Positive)
    (none : world.books.deposit? key.text = none) :
    processDeposit session request world =
      (.error (.refused (.transfer (.invalidAmount request.amount))), world) := by
  have failed : bookDeposit session request key world.books =
      .error (.refused (.transfer (.invalidAmount request.amount))) := by
    rw [bookDeposit_of_none none, moveIn, Transfer.ensurePositive_of_not other]
    exact Work.bind_of_error rfl
  rw [processDeposit, Action.bind_of_ok (readKey_of_ok read)]
  exact Action.bind_of_error (withinDeadline_of_error keeps.reached failed)

/-- **A deposit in stages that nothing interrupts** under a key without a marker. -/
theorem completeExternalDeposit_eq (keeps : KeepsDeposits session) (sound : Sound world.books)
    (read : TransactionKey.read request.key = .ok key) (positive : request.amount.Positive)
    (timed : ¬Untimed session request.deadline)
    (none : world.books.deposit? key.text = none) :
    completeExternalDeposit session request world = deposited session request key world := by
  have unused := unused_of_none none
  -- the confirmation is left and the credit is owed
  have confirmed : confirmDeposit session request key world.books = .ok (.pending,
      { world.books with
        deposits := world.books.deposits ++ [depositRow session request key .confirmed] }) := by
    rw [confirmDeposit, Work.bind_of_ok (Work.get_eq_ok.mpr ⟨rfl, rfl⟩), none]
    exact Work.bind_of_ok (insertMarker_unused keeps .confirmed unused)
  have sound' : Sound { world.books with
      deposits := world.books.deposits ++ [depositRow session request key .confirmed] } :=
    sound.addDeposit unused
  have found : Books.deposit? { world.books with
      deposits := world.books.deposits ++ [depositRow session request key .confirmed] }
        key.text = some (depositRow session request key .confirmed) :=
    deposit?_of_mem sound'.depositKeys (List.mem_append_right _ List.mem_cons_self)
  have announced := announce_of_ok keeps.reached read positive timed confirmed
  rw [completeExternalDeposit_of_pending announced, ← resumed_of_confirmed sound unused]
  exact finish_eq keeps sound' found rfl

/-- The clock will show the deadline of a deposit, if its key and amount pass. -/
def Timely (session : Session) (request : MovementRequest) : Prop :=
  ∀ key, TransactionKey.read request.key = .ok key → request.amount.Positive →
    ¬Untimed session request.deadline

/-- An amount that is not positive is refused before any marker is looked up. -/
theorem completeExternalDeposit_of_not_positive
    (read : TransactionKey.read request.key = .ok key) (other : ¬request.amount.Positive) :
    completeExternalDeposit session request world =
      (.error (.refused (.transfer (.invalidAmount request.amount))), world) := by
  have refused : announce session request world =
      (.error (.refused (.transfer (.invalidAmount request.amount))), world) := by
    rw [announce, Action.bind_of_ok (readKey_of_ok read), Transfer.ensurePositive_of_not other]
    exact Action.bind_of_error rfl
  rw [completeExternalDeposit, completeInStages_eq, refused]

/-- **Under a key without a marker** it is the same whether a deposit is made in one unit of work or
in stages that nothing interrupts. -/
theorem completeExternalDeposit_unmarked (keeps : KeepsDeposits session)
    (timely : Timely session request) (sound : Sound world.books)
    (unmarked : ∀ key, TransactionKey.read request.key = .ok key →
      world.books.deposit? key.text = none) :
    completeExternalDeposit session request world = processDeposit session request world := by
  cases read : TransactionKey.read request.key with
  | error cause =>
    rw [completeExternalDeposit, completeInStages, Action.bind_of_error (readKey_of_error read),
      processDeposit, Action.bind_of_error (readKey_of_error read)]
  | ok key =>
    have none := unmarked key read
    by_cases positive : request.amount.Positive
    · rw [completeExternalDeposit_eq keeps sound read positive (timely key read positive) none,
        processDeposit_eq keeps sound read positive none]
    · rw [completeExternalDeposit_of_not_positive read positive,
        processDeposit_of_not_positive keeps read positive none]

/-- What completing a deposit comes to under a key that has a marker. -/
inductive AsMarked (session : Session) (request : MovementRequest) (key : TransactionKey)
    (marker : DepositRow) (world : World) : Except (Halt PaymentError) Receipt × World → Prop
  | invalid (other : ¬request.amount.Positive) :
      AsMarked session request key marker world
        (.error (.refused (.transfer (.invalidAmount request.amount))), world)
  /-- The key belongs to another deposit. -/
  | duplicate (positive : request.amount.Positive)
      (other : marker.wallet ≠ request.wallet ∨ marker.amount ≠ request.amount) :
      AsMarked session request key marker world
        (.error (.refused (.duplicateTransaction key.text)), world)
  | replayed (positive : request.amount.Positive) (sameWallet : marker.wallet = request.wallet)
      (sameAmount : marker.amount = request.amount) (status : marker.status = .completed) :
      AsMarked session request key marker world
        (.ok ⟨.deposit, key, request.amount, true⟩, world)
  /-- The credit that was owed is made and the marker completed. -/
  | credited (positive : request.amount.Positive) (sameWallet : marker.wallet = request.wallet)
      (sameAmount : marker.amount = request.amount) {wallet : WalletRow}
      {balance : Wallet.WalletBalance} {after : Books}
      (did : Credited session request key marker wallet balance world.books after) :
      AsMarked session request key marker world
        (.ok ⟨.deposit, key, request.amount, false⟩,
          ⟨after, world.published ++ [depositEvent session request key]⟩)
  /-- The credit that was owed fails, and the marker is gone. -/
  | takenBack (positive : request.amount.Positive) (sameWallet : marker.wallet = request.wallet)
      (sameAmount : marker.amount = request.amount) (status : marker.status = .confirmed)
      {cause : Halt PaymentError}
      (failed : creditConfirmed session request key world.books = .error cause) :
      AsMarked session request key marker world
        (.error (expired .deposit (allowance session request.deadline) cause),
          World.withDeposits world
            (world.books.deposits.filter fun row => row.key != key.text))
  /-- The credit that was owed fails, and the storage refuses to take the marker away. -/
  | stuck (positive : request.amount.Positive) (sameWallet : marker.wallet = request.wallet)
      (sameAmount : marker.amount = request.amount) (status : marker.status = .confirmed)
      {cause : Halt PaymentError}
      (failed : creditConfirmed session request key world.books = .error cause)
      (refused : session.faults.refuses .processedDeposits .delete = true) :
      AsMarked session request key marker world
        (.error (expired .deposit (allowance session request.deadline) cause), world)

/-- A marker that is confirmed is taken back, unless the storage refuses it. -/
theorem takeBack_cases (reached : session.faults.blocked = false) (sound : Sound world.books)
    {marker : DepositRow} (found : world.books.deposit? key.text = some marker)
    (status : marker.status = .confirmed) :
    takeBack session key world = World.withDeposits world
        (world.books.deposits.filter fun row => row.key != key.text) ∨
      session.faults.refuses .processedDeposits .delete = true ∧
        takeBack session key world = world := by
  cases ran : rollbackConfirmation session key world.books with
  | error fault =>
    refine .inr ⟨refuses_of_rollback sound ran, ?_⟩
    rw [takeBack, Action.atomically_of_error reached ran]
  | ok removed =>
    obtain ⟨count, after⟩ := removed
    left
    rw [takeBack, Action.atomically_of_ok reached ran, (of_rollbackConfirmation sound ran).left,
      filter_of_pending sound found status]
    rfl

/-- **The credit that is owed**: it is made, or else its confirmation is taken back. -/
theorem finish_marked (reached : session.faults.blocked = false) (sound : Sound world.books)
    {marker : DepositRow} (positive : request.amount.Positive)
    (found : world.books.deposit? key.text = some marker)
    (sameWallet : marker.wallet = request.wallet) (sameAmount : marker.amount = request.amount)
    (status : marker.status = .confirmed) :
    AsMarked session request key marker world (finish session request key world) := by
  unfold finish
  cases ran : creditConfirmed session request key world.books with
  | error cause =>
    have failed : complete session request key world =
        (.error (expired .deposit (allowance session request.deadline) cause), world) :=
      Action.bind_of_error (withinDeadline_of_error reached ran)
    simp only [failed]
    rcases takeBack_cases reached sound found status with gone | ⟨refused, stays⟩
    · rw [gone]
      exact .takenBack positive sameWallet sameAmount status ran
    · rw [stays]
      exact .stuck positive sameWallet sameAmount status ran refused
  | ok credited =>
    obtain ⟨earlier, after⟩ := credited
    have credit : complete session request key world = (if earlier then
        settle (replay .deposit key request.amount)
      else
        settle (done .deposit key request.amount (depositEvent session request key)))
        { world with books := after } :=
      Action.bind_of_ok (withinDeadline_of_ok reached ran)
    cases of_creditConfirmed sound ran with
    | found found' status' =>
      rw [Option.some.inj (found.symm.trans found'), status'] at status
      cases status
    | made did =>
      obtain rfl := Option.some.inj (found.symm.trans did.found)
      rw [credit, if_neg Bool.false_ne_true, settle_run]
      exact .credited positive sameWallet sameAmount did

/-- **A deposit in stages that nothing interrupts** under a key with a marker. -/
theorem completeExternalDeposit_marked (reached : session.faults.blocked = false)
    (timely : Timely session request) (sound : Sound world.books)
    (read : TransactionKey.read request.key = .ok key)
    {marker : DepositRow} (found : world.books.deposit? key.text = some marker) :
    AsMarked session request key marker world
      (completeExternalDeposit session request world) := by
  by_cases positive : request.amount.Positive
  · have timed := timely key read positive
    have looked : confirmDeposit session request key world.books = _ :=
      Work.bind_of_ok (Work.get_eq_ok.mpr ⟨rfl, rfl⟩)
    by_cases other : marker.wallet ≠ request.wallet ∨ marker.amount ≠ request.amount
    · simp only [found, if_pos other] at looked
      have refused : announce session request world =
          (.error (.refused (.duplicateTransaction key.text)), world) :=
        (announce_of_positive read positive timed).trans
          (Action.bind_of_error (withinDeadline_of_error reached looked))
      rw [completeExternalDeposit, completeInStages_eq, refused]
      exact .duplicate positive other
    · simp only [found, if_neg other] at looked
      rw [not_or, not_not, not_not] at other
      obtain ⟨sameWallet, sameAmount⟩ := other
      cases status : marker.status with
      | completed =>
        rw [status] at looked
        rw [completeExternalDeposit, completeInStages_eq,
          announce_of_ok reached read positive timed looked, sameAmount]
        exact .replayed positive sameWallet sameAmount status
      | confirmed =>
        rw [status] at looked
        rw [completeExternalDeposit_of_pending (announce_of_ok reached read positive timed looked)]
        exact finish_marked reached sound positive found sameWallet sameAmount status
  · rw [completeExternalDeposit_of_not_positive read positive]
    exact .invalid positive

/-! ### Confirmations that are taken back -/

/-- No marker is confirmed that was not before. -/
def OwesNoMore (before after : Books) : Prop :=
  ∀ row ∈ after.deposits, row.status = .confirmed → row ∈ before.deposits

section

variable {before middle after : Books}

theorem OwesNoMore.refl : OwesNoMore before before := fun _ member _ => member

theorem OwesNoMore.trans (first : OwesNoMore before middle) (second : OwesNoMore middle after) :
    OwesNoMore before after :=
  fun row member status => first row (second row member status) status

/-- A marker that is completed is owed no more, and no other becomes owed. -/
theorem mem_of_completed {now : Calendar.Instant} {row : DepositRow} {rows : List DepositRow}
    (member : row ∈ altered DepositRow.key key.text (completed now) rows)
    (status : row.status = .confirmed) : row ∈ rows ∧ row.key ≠ key.text := by
  obtain ⟨old, present, rfl⟩ := mem_altered.mp member
  by_cases same : old.key = key.text
  · rw [if_pos same] at status
    cases status
  · rw [if_neg same]
    exact ⟨present, same⟩

/-- **Only a confirmation makes a credit owed.** -/
theorem owesNoMore_of_deed {kind : DeedKind} (deed : Deed session kind before after)
    (other : kind ≠ .confirmed) : OwesNoMore before after := by
  have still : Table.processedDeposits ∉ kind.writes → OwesNoMore before after := by
    intro outside
    have same : after.deposits = before.deposits := deed.untouched outside
    exact fun row member _ => same ▸ member
  cases deed with
  | deposited did =>
    rw [did.left]
    intro row member status
    rcases List.mem_append.mp member with old | new
    · exact old
    · rw [List.mem_singleton.mp new] at status
      cases status
  | confirmed did => exact absurd rfl other
  | credited _ _ did =>
    rw [did.left]
    exact fun row member status => (mem_of_completed member status).1
  | undone did =>
    rw [did.left]
    exact fun row member _ => List.mem_of_mem_filter member
  | _ => exact still (by decide)

end

section

variable {confirming crediting undoing : Session}

/-- A confirmation leaves the markers under other keys. -/
theorem mem_of_confirmBooked {before after : Books} {confirmation : Confirmation}
    (did : ConfirmBooked confirming request key before confirmation after) {row : DepositRow}
    (member : row ∈ after.deposits) (other : row.key ≠ key.text) : row ∈ before.deposits := by
  cases did with
  | completed _ _ _ _ => exact member
  | pending _ _ _ _ => exact member
  | confirmed did =>
    rw [did.left] at member
    rcases List.mem_append.mp member with old | new
    · exact old
    · rw [List.mem_singleton.mp new] at other
      exact absurd rfl other

/-- After its confirmation was left or found, a deposit that is credited is owed no more. -/
theorem owesNoMore_of_credited {before middle after : Books} {earlier : Bool}
    (sound : Sound middle) (first : ConfirmBooked confirming request key before .pending middle)
    (second : CreditBooked crediting request key middle earlier after) :
    OwesNoMore before after := by
  cases second with
  | @found marker found completed =>
    -- the only marker under the key is completed
    obtain ⟨present, named⟩ := mem_of_deposit? found
    refine fun row member status => mem_of_confirmBooked first member fun same => ?_
    obtain rfl := eq_of_key sound.depositKeys member present (same.trans named.symm)
    rw [status] at completed
    cases completed
  | made did =>
    rw [did.left]
    intro row member status
    obtain ⟨present, other⟩ := mem_of_completed member status
    exact mem_of_confirmBooked first present other

/-- A deposit in stages leaves no credit owed, where its confirmation can be taken back. -/
theorem owesNoMore_of_staged {outcome : Except (Halt PaymentError) Receipt × World}
    (staged : Staged confirming crediting undoing request world outcome)
    (sound : Sound world.books) (reached : undoing.faults.blocked = false)
    (removes : undoing.faults.refuses .processedDeposits .delete = false) :
    OwesNoMore world.books outcome.2.books := by
  cases staged with
  | refused => exact .refl
  | @found _ _ after _ did =>
    have found := did.changed sound
    simp only
    generalize after.books = books at found
    cases found with
    | completed _ _ _ _ => exact .refl
  | credited _ _ first second =>
    have confirmed := first.changed sound
    have sound' := (confirmBooked_happened confirmed).sound sound
    exact owesNoMore_of_credited sound' confirmed (second.changed sound')
  | undone _ first second =>
    have confirmed := first.changed sound
    have undone := second.changed ((confirmBooked_happened confirmed).sound sound)
    simp only [undone.left]
    intro row member status
    obtain ⟨present, other⟩ := List.mem_filter.mp member
    refine mem_of_confirmBooked confirmed present fun same => ?_
    simp [isPending, same, status] at other
  | stuck _ first refused =>
    have sound' := (confirmBooked_happened (first.changed sound)).sound sound
    rcases refused with blocked | ⟨_, failed⟩
    · rw [reached] at blocked
      cases blocked
    · have refused := refuses_of_rollback sound' failed
      rw [removes] at refused
      cases refused

/-- Where the storage cannot be reached no deposit is confirmed. -/
theorem completeInStages_of_blocked (blocked : confirming.faults.blocked = true) :
    (completeInStages confirming crediting undoing request world).2 = world := by
  have refused : ∃ cause, announce confirming request world = (.error cause, world) := by
    unfold announce
    rcases readKey_looks request.key world with ⟨cause, same⟩ | ⟨key, _, same, _, rfl⟩
    · exact ⟨cause, Action.bind_of_error same⟩
    · rw [Action.bind_of_ok same]
      rcases Action.Ends.verdict ((Transfer.ensurePositive request.amount).mapError fun cause =>
          Halt.refused (PaymentError.transfer cause)) _ with ⟨cause, same⟩ | ⟨_, _, same, _, rfl⟩
      · exact ⟨cause, Action.bind_of_error same⟩
      · rw [Action.bind_of_ok same]
        rcases setDeadline_looks confirming request.deadline _ with
          ⟨cause, same⟩ | ⟨_, _, same, _, rfl⟩
        · exact ⟨cause, Action.bind_of_error same⟩
        · rw [Action.bind_of_ok same]
          exact ⟨_, Action.bind_of_error (withinDeadline_of_blocked blocked)⟩
  obtain ⟨cause, refused⟩ := refused
  rw [completeInStages_eq, refused]

end

/-- A confirmation that an operation leaves can be taken back: the storage does not refuse it, and
can still be reached. -/
def TakesBack (call : Call) : Prop :=
  ∀ confirming undoing request,
    confirmedDeposit? call = some (confirming, undoing, request) →
      undoing.faults.refuses .processedDeposits .delete = false ∧
        (undoing.faults.blocked = true → confirming.faults.blocked = true)

/-- A confirmed deposit, as operations do it. -/
theorem completed_owesNoMore {call : Call} {confirming crediting undoing : Session}
    (takesBack : TakesBack call) (sound : Sound world.books)
    (asked : confirmedDeposit? call = some (confirming, undoing, request)) :
    OwesNoMore world.books
      (ofPayment (completeInStages confirming crediting undoing request) world).2.books := by
  obtain ⟨removes, reaches⟩ := takesBack confirming undoing request asked
  rw [ofPayment, answering_run]
  cases reached : undoing.faults.blocked with
  | true =>
    rw [completeInStages_of_blocked (reaches reached)]
    exact .refl
  | false =>
    have staged := completeInStages_cases confirming crediting undoing request world
    generalize completeInStages confirming crediting undoing request world = outcome at staged
    exact owesNoMore_of_staged staged sound reached removes

/-- **No operation leaves a confirmed marker that it has made itself**, where it can take it
back. -/
theorem owesNoMore_of_call {call : Call} (takesBack : TakesBack call) (sound : Sound world.books) :
    OwesNoMore world.books (call.run world).2.books := by
  by_cases confirms : DeedKind.confirmed ∈ call.kinds
  · cases call with
    | command session wanted =>
      cases wanted with
      | externalDeposit request =>
        have run : (Call.command session (.externalDeposit request)).run =
            ofPayment (completeInStages session session session request) := rfl
        rw [run]
        exact completed_owesNoMore takesBack sound rfl
      | _ => exact absurd confirms (by simp [Call.kinds, Command.kinds])
    | query session wanted => exact absurd confirms List.not_mem_nil
    | provisionInStages reading opening linking wallet =>
      exact absurd confirms (by simp [Call.kinds])
    | provisionElsewhere reading linking find create wallet =>
      exact absurd confirms (by simp [Call.kinds])
    | depositInStages confirming crediting undoing request =>
      have run : (Call.depositInStages confirming crediting undoing request).run =
          ofPayment (completeInStages confirming crediting undoing request) := rfl
      rw [run]
      exact completed_owesNoMore takesBack sound rfl
  · exact ((call.happened sound).preserves (OwesNoMore world.books) (fun allowed _ deed held =>
      held.trans (owesNoMore_of_deed deed fun same => confirms (same ▸ allowed))) sound .refl).2

/-! ### Runs -/

/-- **An external deposit that nothing interrupts, after every run from fresh books.** Under a key
without a marker it is a plain deposit, where the storage keeps the markers of deposits and the
clock will show the deadline: the same receipt or error, the same events and the same books. Under a
key with a marker it goes as the marker says, where the clock will show the deadline. And no
operation leaves a confirmed marker that it has made itself, whatever else the storage refuses and
whatever time passes, as long as the marker can be taken back. -/
theorem play_uninterrupted (supply : Supply) (calls : List Call) :
    (∀ session request, KeepsDeposits session → Timely session request →
        (∀ key, TransactionKey.read request.key = .ok key →
          (play calls (.fresh supply)).books.deposit? key.text = none) →
            completeExternalDeposit session request (play calls (.fresh supply)) =
              processDeposit session request (play calls (.fresh supply))) ∧
      (∀ session request key marker, session.faults.blocked = false → Timely session request →
        TransactionKey.read request.key = .ok key →
          (play calls (.fresh supply)).books.deposit? key.text = some marker →
            AsMarked session request key marker (play calls (.fresh supply))
              (completeExternalDeposit session request (play calls (.fresh supply)))) ∧
        ∀ call, TakesBack call →
          OwesNoMore (play calls (.fresh supply)).books
            (call.run (play calls (.fresh supply))).2.books := by
  have sound : Sound (play calls (.fresh supply)).books := play_sound calls Sound.fresh
  refine ⟨fun session request keeps timely unmarked => ?_, ?_, fun call takesBack => ?_⟩
  · exact completeExternalDeposit_unmarked keeps timely sound unmarked
  · intro session request key marker reached timely read found
    exact completeExternalDeposit_marked reached timely sound read found
  · exact owesNoMore_of_call takesBack sound

/-- A session in which nothing goes wrong keeps the markers of deposits. -/
theorem sampleSession_keeps : KeepsDeposits sampleSession :=
  ⟨rfl, fun _ => rfl, rfl⟩

/-- A deposit is confirmed before there is a wallet, and its marker stays; then the wallet is
opened. -/
def sampleOwed : List Call := stuckDeposit :: sampleDeposits.take 1

/-- A deposit under an unused key, one whose credit was owed and is made now, and one that can be
taken back. -/
theorem play_uninterrupted_samples :
    completeExternalDeposit sampleSession (sampleDeposit "second") (play sampleOwed .fresh) =
        processDeposit sampleSession (sampleDeposit "second") (play sampleOwed .fresh) ∧
      (∃ marker, (play sampleOwed .fresh).books.deposit? "first" = some marker ∧
        AsMarked sampleSession (sampleDeposit "first") ⟨"first"⟩ marker (play sampleOwed .fresh)
          (completeExternalDeposit sampleSession (sampleDeposit "first")
            (play sampleOwed .fresh))) ∧
        (completeExternalDeposit sampleSession (sampleDeposit "first")
          (play sampleOwed .fresh)).1 = .ok ⟨.deposit, ⟨"first"⟩, sampleAmount, false⟩ ∧
          OwesNoMore (play sampleOwed .fresh).books
            ((Call.command sampleSession (.externalDeposit (sampleDeposit "second"))).run
              (play sampleOwed .fresh)).2.books := by
  obtain ⟨unmarked, marked, takesBack⟩ := play_uninterrupted .ascending sampleOwed
  have timely : ∀ key, Timely sampleSession (sampleDeposit key) := by
    intro key _ _ _ untimed
    have shown : ¬9223372036854775808000000000 ≤ sampleSession.timer.reading.nanoseconds +
        (allowance sampleSession none).nanoseconds := by decide
    exact shown (Calendar.Timer.deadline_eq_error.mp untimed)
  refine ⟨unmarked _ _ sampleSession_keeps (timely _) fun key read => ?_, ?_, by decide,
    takesBack _ ?_⟩
  · cases read
    decide
  · cases found : (play sampleOwed .fresh).books.deposit? "first" with
    | none => exact absurd found (by decide)
    | some marker =>
      exact ⟨marker, rfl, marked _ _ ⟨"first"⟩ marker rfl (timely _) rfl found⟩
  · intro _ _ _ asked
    cases asked
    exact ⟨rfl, fun blocked => blocked⟩

/-- A deposit that has all the time that can be told. -/
def samplePatience : MovementRequest := { sampleDeposit "second" with deadline := some .longest }

/-- **The storage has to take a marker back**, and an amount is looked at before any marker: where
the removal is refused the marker of a deposit that fails stays, and an amount that is not positive
is refused as such also under a key that belongs to another amount. Nor are the two ways to deposit
the same where the clock will not show the deadline. -/
theorem uninterrupted_fails :
    ¬OwesNoMore World.fresh.books (stuckDeposit.run .fresh).2.books ∧
      (∃ marker, (play sampleDeposits .fresh).books.deposit? "first" = some marker ∧
        marker.amount ≠ .zero ∧
          (completeExternalDeposit sampleSession { sampleDeposit "first" with amount := .zero }
            (play sampleDeposits .fresh)).1 ≠
              .error (.refused (.duplicateTransaction "first"))) ∧
        KeepsDeposits sampleSession ∧
          (play sampleDeposits .fresh).books.deposit? "second" = none ∧
            completeExternalDeposit sampleSession samplePatience (play sampleDeposits .fresh) ≠
              processDeposit sampleSession samplePatience (play sampleDeposits .fresh) := by
  refine ⟨?_, ?_, sampleSession_keeps, by decide, fun same => ?_⟩
  · intro owes
    have owed : ∃ row ∈ (stuckDeposit.run .fresh).2.books.deposits,
        row.status = .confirmed := by decide
    obtain ⟨row, member, status⟩ := owed
    exact absurd (owes row member status) List.not_mem_nil
  · cases found : (play sampleDeposits .fresh).books.deposit? "first" with
    | none => exact absurd found (by decide)
    | some marker =>
      have amount : ((play sampleDeposits .fresh).books.deposit? "first").map
          DepositRow.amount = some sampleAmount := by decide
      rw [found] at amount
      refine ⟨marker, rfl, ?_, by decide⟩
      rw [Option.some.inj amount]
      decide
  · exact absurd (congrArg Prod.fst same) (by decide)

end Passbook.Interleaving
