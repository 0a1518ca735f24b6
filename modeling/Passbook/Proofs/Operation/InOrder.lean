/-
**Operations on wallets stay in range, and no rule of a table refuses them.**

What a caller is told of an operation needs arithmetic that nothing guards: what is held of a
wallet, the shortfall of a payment, the differences and sums of debits, holds and releases.

* `InOrder`: the end of an operation can be told to a caller without leaving the range, and if the
  storage refused a statement there is a reason;
* `Obstructed`: what the reason may be. The storage refuses a statement that the operation issues,
  or has no identifier left for a wallet that is opened. A rule of a table is none;
* `Call.Untimed`: the one thing that is out of range otherwise, a deadline that the clock will not
  show;
* `Call.inOrder`: every operation on wallets, their limits and movements ends in order;
* `play_inOrder`: in every state that a run from fresh books reaches the figures of every wallet fit
  together, what is held of it is what was set aside, and every such operation ends in order.
-/

import Passbook.Proofs.Operation.OrderlyMovements
import Passbook.Proofs.Reconciliation.Holds

namespace Passbook.Operation

open Passbook.Holdings (HoldingError)
open Passbook.Payments (MovementRequest)
open Passbook.Reconciliation (earmarked)
open Passbook.Store
open Passbook.Store.Action (Ends)
open Passbook.Verdict (FailsOnly)
open Passbook.Wallet (WalletBalance)

/-! ### Operations by their parts -/

section

variable {reason : Prop} {session : Session} {world : World}

theorem unreachable_keeping : Keeping reason (StorageCause.ofFault .unreachable) :=
  ⟨⟨_, rfl⟩, fun refused => by cases refused⟩

theorem createWallet_keeping (sound : Sound world.books) {owner : UserId}
    {walletType : Wallet.WalletType} {code : String}
    (wallets : session.faults.refuses .wallets .insert → reason)
    (limits : session.faults.refuses .walletLimits .insert → reason)
    (exhausted : world.books.next? = none → reason) :
    FailsOnly (Keeping reason) (Holdings.createWallet session owner walletType code world).1 := by
  refine Action.failsOnly_after (Ends.found _ _) (Action.failsOnly_found fun _ =>
    ⟨⟨_, rfl⟩, fun refused => by cases refused⟩) fun currency middle read => ?_
  obtain ⟨_, rfl⟩ := read
  have unowned : FailsOnly (Keeping reason)
      (Holdings.ensureUnowned session owner walletType currency middle).1 := by
    refine Action.failsOnly_bind (Action.failsOnly_lookUp sound.plain unreachable_keeping)
      fun existing _ _ => ?_
    split
    · exact .error ⟨⟨_, rfl⟩, fun refused => by cases refused⟩
    · exact .ok ()
  refine Action.failsOnly_after (Holdings.ensureUnowned_looks owner walletType currency) unowned
    fun _ _ looked => ?_
  obtain ⟨_, rfl⟩ := looked
  exact Action.failsOnly_bind (Action.failsOnly_atomically unreachable_keeping
    (insertWallet_keeping sound wallets limits exhausted)) fun _ _ _ => .ok _

theorem updateStatus_keeping (sound : Sound world.books) {id : WalletId}
    {status : Wallet.WalletStatus} (wallets : session.faults.refuses .wallets .update → reason) :
    FailsOnly (Keeping reason) (Holdings.updateStatus session id status world).1 := by
  refine Action.failsOnly_bind (Action.failsOnly_atomically unreachable_keeping
    (bookStatus_keeping sound wallets)) fun (was, row) after _ => ?_
  by_cases other : was ≠ status
  · simp only [if_pos other]
    exact .ok row
  · simp only [if_neg other]
    exact .ok row

theorem closeWallet_keeping (sound : Sound world.books) {id : WalletId} {text : String}
    (wallets : session.faults.refuses .wallets .update → reason) :
    FailsOnly (Keeping reason) (Holdings.closeWallet session id text world).1 :=
  Action.failsOnly_bind (Action.failsOnly_atomically unreachable_keeping
    (bookClosing_keeping sound wallets)) fun (_, row) _ _ => .ok row

theorem findWallet_keeping (plain : world.books.strays = []) {id : WalletId} :
    FailsOnly (Keeping reason) (Holdings.findWallet session id world).1 :=
  Action.failsOnly_lookUp plain unreachable_keeping

theorem getWallet_keeping (plain : world.books.strays = []) {id : WalletId} :
    FailsOnly (Keeping reason) (Holdings.getWallet session id world).1 :=
  Action.failsOnly_bind (findWallet_keeping plain) fun _ _ _ =>
    Action.failsOnly_found fun _ => ⟨⟨_, rfl⟩, fun refused => by cases refused⟩

/-- The wallet is linked to an account of any ledger that leaves the wallets as they are. -/
theorem provisionInStages_keeping {reading linking : Session}
    {port : Chart.LedgerPort (StateM World)} {id : WalletId}
    {ensured : WalletRow → Books → Ledger.LedgerAccount → Books → Prop} (sound : Sound world.books)
    (asks : ∀ wallet : WalletRow,
      Ends (ExceptT.mk (Chart.ensureAccount port (Chart.walletAccount id wallet.currency)))
        (Action.Leaves (ensured wallet) fun _ => []))
    (keeps : ∀ {wallet before account after}, ensured wallet before account after →
      Sound before → Sound after ∧ after.wallets = before.wallets)
    (wallets : linking.faults.refuses .wallets .update → reason) :
    FailsOnly (Keeping reason) (Holdings.provisionInStages reading linking port id world).1 := by
  refine Action.failsOnly_after (Holdings.getWallet_looks id) (getWallet_keeping sound.plain)
    fun row _ looked => ?_
  obtain ⟨found, rfl⟩ := looked
  obtain ⟨member, named⟩ := mem_of_wallet? found
  have asked : Ends (Holdings.asked
      (Chart.ensureAccount port (Chart.walletAccount id row.currency)))
      (Action.Leaves (ensured row) fun _ => []) := (asks row).mapError HoldingError.ledger
  refine Action.failsOnly_after asked (FailsOnly.mapError fun problem _ =>
    ⟨⟨_, rfl⟩, fun refused => by cases refused⟩) fun account after did => ?_
  obtain ⟨sound', same⟩ := keeps (did.changed sound) sound
  have present : row ∈ after.books.wallets := same ▸ member
  by_cases other : row.ledgerAccount ≠ some account.id
  · rw [if_pos other, ← named]
    exact Action.failsOnly_bind (Action.failsOnly_atomically unreachable_keeping
      (linkAccount_keeping sound' present wallets)) fun _ _ _ => .ok account
  · rw [if_neg other]
    exact .ok account

theorem getLimits_keeping (plain : world.books.strays = []) {wallet : WalletId} :
    FailsOnly (Keeping reason) (Holdings.getLimits session wallet world).1 :=
  Action.failsOnly_bind (Action.failsOnly_lookUp plain unreachable_keeping) fun _ _ _ =>
    Action.failsOnly_bind (Action.failsOnly_found fun _ =>
      ⟨⟨_, rfl⟩, fun refused => by cases refused⟩) fun _ _ _ => .ok _

theorem updateLimits_keeping (sound : Sound world.books) (paired : Paired world.books)
    {wallet : WalletId} {daily monthly : Amount}
    (limits : session.faults.refuses .walletLimits .update → reason) :
    FailsOnly (Keeping reason) (Holdings.updateLimits session wallet daily monthly world).1 := by
  refine Action.failsOnly_after (Ends.verdict _) (FailsOnly.mapError fun cause _ =>
    Keeping.limit cause) fun wanted _ made => ?_
  obtain ⟨_, rfl⟩ := made
  exact Action.failsOnly_atomically unreachable_keeping (bookLimits_keeping sound paired limits)
end

/-! ### Operations that end in order -/

/-- The end of an operation can be told to a caller without leaving the range. -/
def Told : Except Failure Answer → Prop
  | .error failure => Tellable failure
  | .ok (.balance balance) => ∃ held, balance.held = .ok held
  | .ok (.reservations outcomes) => ∀ cause : HoldingError, .error cause ∈ outcomes → Tellable cause
  | .ok _ => True

/-- The storage has refused a statement of an operation. -/
def Rebuffed : Except Failure Answer → Prop
  | .error failure => failure.isRefusal
  | .ok (.reservations outcomes) => .error (.storage .refused) ∈ outcomes
  | .ok _ => False

/-- An operation ends in order. -/
structure InOrder (reason : Prop) (result : Except Failure Answer) : Prop where
  told : Told result
  excused : Rebuffed result → reason

section

variable {reason : Prop} {ε α : Type} {action : Action ε α} {world : World}

theorem inOrder_of_answering {fail : ε → Failure} {answer : α → Answer}
    (fails : FailsOnly (fun cause => Orderly reason (fail cause)) (action world).1)
    (answers : ∀ value, (action world).1 = .ok value → InOrder reason (.ok (answer value))) :
    InOrder reason (answering fail answer action world).1 := by
  rw [answering_run]
  cases ended : (action world).1 with
  | error cause =>
    have orderly := fails cause ended
    exact ⟨orderly.told, orderly.excused⟩
  | ok value => exact answers value ended

/-- An operation on wallets that answers with neither a balance nor reservations. -/
theorem inOrder_of_keeping {action : Action HoldingError α} {answer : α → Answer}
    (fails : FailsOnly (Keeping reason) (action world).1)
    (plain : ∀ value, InOrder reason (.ok (answer value))) :
    InOrder reason (ofHolding answer action world).1 :=
  inOrder_of_answering fails fun value _ => plain value

theorem inOrder_of_paying {action : Action (Halt Payments.PaymentError) Transfer.Receipt}
    (fails : FailsOnly (Paying reason) (action world).1) :
    InOrder reason (ofPayment action world).1 :=
  inOrder_of_answering fails fun _ _ => ⟨trivial, fun none => none.elim⟩

/-- A movement that fails in order or stops for want of a deadline does so for a caller. -/
theorem inOrder_of_staged {untimed : Prop}
    {action : Action (Halt Payments.PaymentError) Transfer.Receipt}
    (fails : FailsOnly (fun halt => Paying reason halt ∨ untimed ∧ halt = .overflowed .clock)
      (action world).1) :
    InOrder reason (ofPayment action world).1 ∨
      untimed ∧ (ofPayment action world).1 = .error (.payment (.overflowed .clock)) := by
  rw [ofPayment, answering_run]
  cases ended : (action world).1 with
  | error halt =>
    rcases fails halt ended with orderly | ⟨untimed, rfl⟩
    · exact .inl ⟨orderly.told, orderly.excused⟩
    · exact .inr ⟨untimed, rfl⟩
  | ok receipt => exact .inl ⟨trivial, fun none => none.elim⟩

end

section

variable {reason : Prop} {session : Session} {world : World}

/-- A hold or a release ends in order, since what it leaves fits. -/
theorem inOrder_of_hold {id : WalletId}
    {check : Wallet.Snapshot → Except Wallet.WalletError Unit}
    {move : WalletBalance → Except (Halt Wallet.WalletError) WalletBalance}
    (sound : Sound world.books) (checks : ∀ row, FailsOnly Tellable (check row))
    (moves : ∀ state, state.Fits → FailsOnly Tellable (move state))
    (fits : ∀ state after, state.Fits → move state = .ok after → after.Fits)
    (wallets : session.faults.refuses .wallets .update → reason) :
    InOrder reason
      (ofHold (Action.atomically session (Holdings.bookBalance session id check move)) world).1 := by
  refine inOrder_of_answering (Action.failsOnly_atomically
    ⟨⟨_, rfl⟩, fun refused => by cases refused⟩
    (bookBalance_keeping sound checks moves fits wallets)) fun balance done => ?_
  obtain ⟨_, ran, _⟩ := (Ends.atomically session _).part_of_ok done
  obtain ⟨old, _, moved, revised⟩ := Holdings.of_bookBalance sound ran
  obtain ⟨held, is, _⟩ := WalletBalance.exists_held
    (fits _ _ (sound.fits old revised.member) moved)
  exact ⟨⟨held, is⟩, fun none => none.elim⟩

theorem reserveAmounts_inOrder {wallet : WalletId} {amounts : List Amount} {commit : Bool}
    (sound : Sound world.books) (paired : Paired world.books)
    (limits : session.faults.refuses .walletLimits .update → reason) :
    InOrder reason (reserveAmounts session wallet amounts commit world).1 := by
  have counts : ∀ {action : Action HoldingError (List (Except HoldingError Limits.LimitState))},
      (action world).1 = (Action.atomically session
        (Holdings.reserveEach session wallet amounts) world).1 →
      InOrder reason (ofHolding .reservations action world).1 := by
    intro action same
    have never : FailsOnly (Keeping reason)
        (Holdings.reserveEach session wallet amounts world.books) := reserveEach_failsOnly
    refine inOrder_of_answering ?_ fun outcomes done => ?_
    · rw [same]
      exact Action.failsOnly_atomically unreachable_keeping never
    · rw [same] at done
      obtain ⟨_, ran, _⟩ := (Ends.atomically session _).part_of_ok done
      have each := reserveEach_keeping sound paired limits ran
      exact ⟨fun cause member => (each cause member).told,
        fun member => (each _ member).excused rfl⟩
  cases commit with
  | true => exact counts rfl
  | false => exact counts rfl

end

/-- The operations on wallets, their limits and movements that change the books. -/
def Command.concernsWallets : Command → Bool
  | createAccount _ => false
  | openAccount _ => false
  | ensureAccount _ => false
  | updateAccount _ _ => false
  | createEntry _ => false
  | postEntry _ _ => false
  | voidEntry _ _ _ => false
  | reverseEntry _ _ _ => false
  | deleteDraft _ => false
  | _ => true

/-- The operations on wallets, their limits and movements. -/
def Call.concernsWallets : Call → Bool
  | command _ wanted => wanted.concernsWallets
  | query _ (.findWallet _) => true
  | query _ (.getWallet _) => true
  | query _ (.listWallets _ _) => true
  | query _ (.walletBalance _) => true
  | query _ (.getLimits _) => true
  | query _ _ => false
  | provisionInStages _ _ _ _ => true
  | provisionElsewhere _ _ _ _ _ => true
  | depositInStages _ _ _ _ => true

/-- The statements that a command issues on wallets, their limits and the markers of movements. -/
def Command.statements : Command → List (Table × Statement)
  | createWallet _ _ _ => [(.wallets, .insert), (.walletLimits, .insert)]
  | updateStatus _ _ => [(.wallets, .update)]
  | closeWallet _ _ => [(.wallets, .update)]
  | placeHold _ _ => [(.wallets, .update)]
  | releaseHold _ _ => [(.wallets, .update)]
  | provisionWallet _ => [(.wallets, .update)]
  | updateLimits _ _ _ => [(.walletLimits, .update)]
  | reserve _ _ _ => [(.walletLimits, .update)]
  | transfer _ => [(.walletLimits, .update), (.wallets, .update), (.processedTransfers, .insert)]
  | deposit _ => [(.wallets, .update), (.processedDeposits, .insert)]
  | withdraw _ => [(.wallets, .update), (.processedWithdrawals, .insert)]
  | externalDeposit _ =>
    [(.processedDeposits, .insert), (.wallets, .update), (.processedDeposits, .update)]
  | _ => []

/-- The storage refuses a statement that an operation issues, or has no identifier left for a wallet
that is opened. -/
inductive Obstructed (books : Books) : Call → Prop
  | command {session : Session} {wanted : Command} {statement : Table × Statement}
      (issued : statement ∈ wanted.statements)
      (refused : session.faults.refuses statement.1 statement.2) :
      Obstructed books (.command session wanted)
  | exhausted {session : Session} {owner : UserId} {walletType : Wallet.WalletType} {code : String}
      (none : books.next? = none) :
      Obstructed books (.command session (.createWallet owner walletType code))
  | linking {reading opening linking : Session} {wallet : WalletId}
      (refused : linking.faults.refuses .wallets .update) :
      Obstructed books (.provisionInStages reading opening linking wallet)
  | linkingElsewhere {reading linking : Session}
      {find : String → Except Problem (Option Ledger.LedgerAccount)}
      {create : Ledger.NewAccount → Except Problem Ledger.LedgerAccount} {wallet : WalletId}
      (refused : linking.faults.refuses .wallets .update) :
      Obstructed books (.provisionElsewhere reading linking find create wallet)
  | confirming {confirming crediting undoing : Session} {request : MovementRequest}
      (refused : confirming.faults.refuses .processedDeposits .insert) :
      Obstructed books (.depositInStages confirming crediting undoing request)
  | crediting {confirming crediting undoing : Session} {request : MovementRequest}
      (refused : crediting.faults.refuses .wallets .update ∨
        crediting.faults.refuses .processedDeposits .update) :
      Obstructed books (.depositInStages confirming crediting undoing request)

/-- The clock will not show the deadline of a confirmed deposit. -/
def Call.Untimed : Call → Prop
  | command session (.externalDeposit request) => Payments.Untimed session request.deadline
  | depositInStages confirming _ _ request => Payments.Untimed confirming request.deadline
  | _ => False

section

variable {world : World} {session : Session}

/-- **Providing a wallet with an account of the chart ends in order.** -/
theorem provisionInStages_inOrder {reason : Prop} {reading opening linking : Session}
    {wallet : WalletId} (sound : Sound world.books)
    (wallets : linking.faults.refuses .wallets .update → reason) :
    InOrder reason (ofHolding (.ledgerAccount ∘ some)
      (Holdings.provisionInStages reading linking (Chart.port opening) wallet) world).1 := by
  refine inOrder_of_keeping (provisionInStages_keeping sound
    (fun row => Chart.ensureAccount_ends opening (Chart.walletAccount wallet row.currency))
    (fun ensured sound => ?_) wallets) fun _ => ⟨trivial, fun none => none.elim⟩
  cases ensured with
  | stood _ _ _ left =>
    rw [left]
    exact ⟨sound, rfl⟩
  | opened _ _ did _ =>
    refine ⟨did.sound sound, ?_⟩
    rw [did.left]

theorem Told.inOrder {reason : Prop} {answer : Answer} (told : Told (.ok answer))
    (none : ¬Rebuffed (.ok answer)) : InOrder reason (.ok answer) :=
  ⟨told, fun refused => absurd refused none⟩

/-- **A confirmed deposit ends in order**, or stops because the clock will not show its deadline. -/
theorem completeInStages_inOrder {reason : Prop} {confirming crediting undoing : Session}
    {request : MovementRequest} (sound : Sound world.books)
    (confirms : confirming.faults.refuses .processedDeposits .insert → reason)
    (wallets : crediting.faults.refuses .wallets .update → reason)
    (markers : crediting.faults.refuses .processedDeposits .update → reason) :
    InOrder reason
        (ofPayment (Payments.completeInStages confirming crediting undoing request) world).1 ∨
      Payments.Untimed confirming request.deadline ∧
        (ofPayment (Payments.completeInStages confirming crediting undoing request) world).1 =
          .error (.payment (.overflowed .clock)) :=
  inOrder_of_staged (completeInStages_paying sound confirms wallets markers)

/-- **A command on wallets, their limits or movements ends in order**, confirmed deposits apart. -/
theorem Command.inOrder {wanted : Command} (concerned : wanted.concernsWallets)
    (other : ¬∃ request, wanted = .externalDeposit request) (sound : Sound world.books)
    (paired : Paired world.books) :
    InOrder (Obstructed world.books (.command session wanted)) (wanted.run session world).1 := by
  have obstructed : ∀ table statement, (table, statement) ∈ wanted.statements →
      session.faults.refuses table statement →
        Obstructed world.books (.command session wanted) :=
    fun _ _ issued refused => .command issued refused
  cases wanted with
  | createWallet owner walletType code =>
    exact inOrder_of_keeping (createWallet_keeping sound
      (obstructed .wallets .insert (by simp [Command.statements]))
      (obstructed .walletLimits .insert (by simp [Command.statements])) .exhausted)
      fun _ => Told.inOrder trivial not_false
  | updateStatus wallet status =>
    exact inOrder_of_keeping (updateStatus_keeping sound
      (obstructed .wallets .update List.mem_cons_self)) fun _ => Told.inOrder trivial not_false
  | closeWallet wallet reason =>
    exact inOrder_of_keeping (closeWallet_keeping sound
      (obstructed .wallets .update List.mem_cons_self)) fun _ => Told.inOrder trivial not_false
  | placeHold wallet amount =>
    exact inOrder_of_hold sound (fun _ => Wallet.ensureActive_tellable)
      (fun _ fits => WalletBalance.hold_tellable fits) (fun _ _ => WalletBalance.hold_fits)
      (obstructed .wallets .update List.mem_cons_self)
  | releaseHold wallet amount =>
    exact inOrder_of_hold sound (fun _ => .ok ())
      (fun _ fits => WalletBalance.release_tellable fits) (fun _ _ => WalletBalance.release_fits)
      (obstructed .wallets .update List.mem_cons_self)
  | provisionWallet wallet =>
    exact provisionInStages_inOrder sound (obstructed .wallets .update List.mem_cons_self)
  | updateLimits wallet daily monthly =>
    exact inOrder_of_keeping (updateLimits_keeping sound paired
      (obstructed .walletLimits .update List.mem_cons_self)) fun _ => Told.inOrder trivial not_false
  | reserve wallet amounts commit =>
    exact reserveAmounts_inOrder sound paired
      (obstructed .walletLimits .update List.mem_cons_self)
  | transfer request =>
    exact inOrder_of_paying (receipted_paying fun _ => bookTransfer_paying sound paired
      (obstructed .wallets .update (by simp [Command.statements]))
      (obstructed .walletLimits .update (by simp [Command.statements]))
      (obstructed .processedTransfers .insert (by simp [Command.statements])))
  | deposit request =>
    exact inOrder_of_paying (receipted_paying fun _ => bookDeposit_paying sound
      (obstructed .wallets .update (by simp [Command.statements]))
      (obstructed .processedDeposits .insert (by simp [Command.statements])))
  | withdraw request =>
    exact inOrder_of_paying (receipted_paying fun _ => bookWithdrawal_paying sound
      (obstructed .wallets .update (by simp [Command.statements]))
      (obstructed .processedWithdrawals .insert (by simp [Command.statements])))
  | externalDeposit request => exact absurd ⟨request, rfl⟩ other
  | _ => cases concerned

/-- The balance that a wallet shows fits. -/
theorem walletBalance_inOrder {reason : Prop} (sound : Sound world.books) (id : WalletId) :
    InOrder reason (ofHolding .balance (Holdings.walletBalance session id) world).1 := by
  have looks := (@Holdings.getWallet_looks session id).map WalletRow.balance
  refine inOrder_of_answering ?_ fun balance done => ?_
  · show FailsOnly _ ((WalletRow.balance <$> Holdings.getWallet session id) world).1
    rw [← bind_pure_comp]
    exact Action.failsOnly_bind (getWallet_keeping sound.plain) fun _ _ _ => .ok _
  · obtain ⟨row, ⟨found, _⟩, rfl⟩ := looks.part_of_ok done
    obtain ⟨held, is, _⟩ :=
      WalletBalance.exists_held (sound.fits row (mem_of_wallet? found).1)
    exact ⟨⟨held, is⟩, fun none => none.elim⟩

/-- A query of wallets or their limits ends in order. -/
theorem Query.inOrder {reason : Prop} {wanted : Query}
    (concerned : (Call.query session wanted).concernsWallets) (sound : Sound world.books) :
    InOrder reason (wanted.run session world).1 := by
  cases wanted with
  | findWallet id =>
    exact inOrder_of_keeping (findWallet_keeping sound.plain) fun _ =>
      Told.inOrder trivial not_false
  | getWallet id =>
    exact inOrder_of_keeping (getWallet_keeping sound.plain) fun _ => Told.inOrder trivial not_false
  | listWallets owner status =>
    exact inOrder_of_keeping (Action.failsOnly_atomically unreachable_keeping
      (Work.failsOnly_gather sound.plain)) fun _ => Told.inOrder trivial not_false
  | walletBalance id => exact walletBalance_inOrder sound id
  | getLimits id =>
    exact inOrder_of_keeping (getLimits_keeping sound.plain) fun _ => Told.inOrder trivial not_false
  | _ => cases concerned

/-- **An operation on wallets, their limits or movements ends in order**, or it is a confirmed
deposit that stops because the clock will not show its deadline. -/
theorem Call.inOrder {call : Call} (concerned : call.concernsWallets) (sound : Sound world.books)
    (paired : Paired world.books) :
    InOrder (Obstructed world.books call) (call.run world).1 ∨
      call.Untimed ∧ (call.run world).1 = .error (.payment (.overflowed .clock)) := by
  cases call with
  | command session wanted =>
    by_cases external : ∃ request, wanted = .externalDeposit request
    · obtain ⟨request, rfl⟩ := external
      have obstructed : ∀ table statement,
          (table, statement) ∈ (Command.externalDeposit request).statements →
            session.faults.refuses table statement →
              Obstructed world.books (.command session (.externalDeposit request)) :=
        fun _ _ issued refused => .command issued refused
      exact completeInStages_inOrder sound
        (obstructed .processedDeposits .insert (by simp [Command.statements]))
        (obstructed .wallets .update (by simp [Command.statements]))
        (obstructed .processedDeposits .update (by simp [Command.statements]))
    · exact .inl (Command.inOrder concerned external sound paired)
  | query session wanted => exact .inl (Query.inOrder concerned sound)
  | provisionInStages reading opening linking wallet =>
    exact .inl (provisionInStages_inOrder sound .linking)
  | provisionElsewhere reading linking find create id =>
    refine .inl (inOrder_of_keeping (provisionInStages_keeping sound
      (fun _ => (Chart.elsewhere_looks find create _).looks) (fun same sound => ?_)
      .linkingElsewhere) fun _ => Told.inOrder trivial not_false)
    rw [show _ = _ from same]
    exact ⟨sound, rfl⟩
  | depositInStages confirming crediting undoing request =>
    exact completeInStages_inOrder sound .confirming
      (fun refused => .crediting (.inl refused)) fun refused => .crediting (.inr refused)

end

/-! ### Runs -/

/-- **In every state that a run from fresh books reaches** what is available of a wallet lies
between nothing and its balance, and what is held of it is what the holds of the run have set aside
less what its releases have made available again. Every operation on wallets, their limits or
movements that is asked for then can be told of without leaving the range, whatever its amounts,
unless it is a confirmed deposit that stops because the clock will not show its deadline; and no
statement of it is refused unless the storage refuses it or has no identifier left: no rule of
the table of wallets ever does. -/
theorem play_inOrder (supply : Supply) (calls : List Call) :
    (∀ row ∈ (play calls (.fresh supply)).books.wallets,
      (0 ≤ row.balance.available.units ∧
        row.balance.available.units ≤ row.balance.balance.units) ∧
      ∃ held, row.balance.held = .ok held ∧
        held.units = total (earmarked row.id) (history calls (.fresh supply))) ∧
    ∀ next : Call, next.concernsWallets →
      (Told (next.run (play calls (.fresh supply))).1 ∨ next.Untimed ∧
        (next.run (play calls (.fresh supply))).1 = .error (.payment (.overflowed .clock))) ∧
        (Rebuffed (next.run (play calls (.fresh supply))).1 →
          Obstructed (play calls (.fresh supply)).books next) := by
  have start : Sound (World.fresh supply).books := Sound.fresh
  have sound := play_sound calls start
  have paired := play_paired calls start Paired.fresh
  refine ⟨fun row member => ⟨sound.fits row member, ?_⟩, fun next concerned => ?_⟩
  · obtain ⟨held, is, units⟩ := WalletBalance.exists_held (sound.fits row member)
    exact ⟨held, is, units.trans (Reconciliation.heldUnits_of_play supply calls member)⟩
  · rcases Call.inOrder concerned sound paired with ends | ⟨untimed, stopped⟩
    · exact ⟨.inl ends.told, ends.excused⟩
    · refine ⟨.inr ⟨untimed, stopped⟩, fun refused => ?_⟩
      rw [stopped] at refused
      cases refused

/-- Thirty are held of a hundred and ten are released. -/
def sampleHolds : List Call :=
  sampleDeposits ++
    [.command sampleSession (.placeHold sampleWallet ⟨30, by decide, by decide⟩),
      .command sampleSession (.releaseHold sampleWallet ⟨10, by decide, by decide⟩)]

/-- Of the wallet twenty are held then, and a withdrawal of the greatest amount is told of. -/
theorem play_inOrder_holds :
    (∀ row ∈ (play sampleHolds .fresh).books.wallets, ∃ held, row.balance.held = .ok held ∧
      held.units = 20) ∧ Told (sampleOverdraft.run (play sampleHolds .fresh)).1 := by
  obtain ⟨wallets, ends⟩ := play_inOrder .ascending sampleHolds
  have summed : ∀ row ∈ (play sampleHolds .fresh).books.wallets,
      total (earmarked row.id) (history sampleHolds .fresh) = 20 := by decide
  refine ⟨fun row member => ?_, (ends sampleOverdraft rfl).1.resolve_right (nomatch ·.1)⟩
  obtain ⟨_, held, is, units⟩ := wallets row member
  exact ⟨held, is, units.trans (summed row member)⟩

end Passbook.Operation
