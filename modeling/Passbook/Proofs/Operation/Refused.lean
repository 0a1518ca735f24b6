/-
**What a refused operation leaves.**

* `isRefused`: an operation fails, or refuses all the amounts that it was asked to count;
* `Unconfirmed`: the marker of a confirmed deposit that stood before is gone;
* `StuckConfirmed`, `StuckOpened`: what the first unit of work has left when the storage refuses the
  one that takes it back, or the one that goes on from it, or cannot be reached any more;
* `Command.refused`, `staged_refused`, `provisioned_refused`: operations of one unit of work leave
  nothing, the others nothing but this;
* `play_refused`: so it is for every operation after every run from fresh books;
* `refused_leaves`: that the storage refuses a later unit of work cannot be left out.
-/

import Passbook.Proofs.Operation.Run

namespace Passbook.Operation

open Passbook.Holdings (HoldingError)
open Passbook.Payments (MovementRequest PaymentError)
open Passbook.Store
open Passbook.Transfer (TransactionKey)

/-! ### Refusals and what they leave -/

/-- An operation refuses all the amounts that it was asked to count. -/
def isUncounted : Command → Answer → Bool
  | .reserve _ _ _, .reservations outcomes => outcomes.all fun outcome => !outcome.toBool
  | _, _ => false

/-- An operation fails, or refuses all the amounts that it was asked to count. -/
def isRefused (call : Call) : Except Failure Answer → Bool
  | .error _ => true
  | .ok answer =>
    match call with
    | .command _ wanted => isUncounted wanted answer
    | _ => false

/-- The sessions of the first and last unit of work of a confirmed deposit, and what is asked. -/
def confirmedDeposit? : Call → Option (Session × Session × MovementRequest)
  | .command session (.externalDeposit request) => some (session, session, request)
  | .depositInStages confirming _ undoing request => some (confirming, undoing, request)
  | _ => none

/-- The books with other markers of deposits. -/
def World.withDeposits (world : World) (deposits : List DepositRow) : World :=
  { world with books := { world.books with deposits := deposits } }

/-- The marker of a confirmed deposit of the same key, wallet and amount stood and is gone. -/
def Unconfirmed (call : Call) (before after : World) : Prop :=
  ∃ confirming undoing request key, confirmedDeposit? call = some (confirming, undoing, request) ∧
    TransactionKey.read request.key = .ok key ∧
      ∃ marker ∈ before.books.deposits, marker.key = key.text ∧ marker.status = .confirmed ∧
        marker.wallet = request.wallet ∧ marker.amount = request.amount ∧
          after = World.withDeposits before
            (before.books.deposits.filter fun row => row.key != key.text)

/-- The storage refuses to take the marker of a confirmed deposit away. -/
def StuckConfirmed (call : Call) (before after : World) : Prop :=
  ∃ confirming undoing request key, confirmedDeposit? call = some (confirming, undoing, request) ∧
    TransactionKey.read request.key = .ok key ∧
      (∀ other ∈ before.books.deposits, other.key ≠ key.text) ∧
        (undoing.faults.blocked ∨ undoing.faults.refuses .processedDeposits .delete) ∧
          after = World.withDeposits before (before.books.deposits ++
            [Payments.depositRow confirming request key .confirmed])

/-- The sessions in which an account is opened for a wallet and linked to it, and the wallet. -/
def provisioning? : Call → Option (Session × Session × WalletId)
  | .command session (.provisionWallet id) => some (session, session, id)
  | .provisionInStages _ opening linking id => some (opening, linking, id)
  | _ => none

/-- The storage refuses to link a wallet to the account that was opened for it, or cannot be reached
any more. -/
def StuckOpened (call : Call) (before after : World) : Prop :=
  ∃ opening linking id wallet row, provisioning? call = some (opening, linking, id) ∧
    before.books.wallet? id = some wallet ∧ opening.faults.blocked = false ∧
      (linking.faults.blocked ∨ linking.faults.refuses .wallets .update) ∧
        Chart.Opened opening (Chart.walletAccount id wallet.currency) before.books row after.books ∧
          after.published = before.published

/-! ### Operations of one unit of work -/

theorem Command.refused {session : Session} {wanted : Command} (single : wanted.isSingle)
    {world : World} {failure : Failure} (failed : (wanted.run session world).1 = .error failure) :
    (wanted.run session world).2 = world :=
  (Command.does session wanted single).unchanged failed

/-- Amounts that are all refused leave the counters as they were. -/
theorem spentEach_refused {session : Session} {wallet : WalletId} {amounts : List Amount}
    {before after : Books} {outcomes : List (Except HoldingError Limits.LimitState)}
    (did : Holdings.SpentEach session wallet amounts before outcomes after)
    (refused : outcomes.all fun outcome => !outcome.toBool) : after = before := by
  induction did with
  | none => rfl
  | spent _ _ _ => cases refused
  | refused _ ih => exact ih refused

theorem reserveAmounts_refused {session : Session} {wallet : WalletId} {amounts : List Amount}
    {commit : Bool} {world : World} {outcomes : List (Except HoldingError Limits.LimitState)}
    (sound : Sound world.books)
    (done : (reserveAmounts session wallet amounts commit world).1 = .ok (.reservations outcomes))
    (refused : outcomes.all fun outcome => !outcome.toBool) :
    (reserveAmounts session wallet amounts commit world).2 = world := by
  cases commit with
  | false => rfl
  | true =>
    obtain ⟨counted, ended, is⟩ := ok_of_answering done
    cases is
    have left := (Holdings.reserveEach_ends session wallet amounts).part_of_ok ended
    have books := spentEach_refused (left.changed sound) refused
    have published := left.published.trans (List.append_nil _)
    have same : (reserveAmounts session wallet amounts true world).2 =
        (Action.atomically session (Holdings.reserveEach session wallet amounts) world).2 := rfl
    rw [same]
    generalize (Action.atomically session (Holdings.reserveEach session wallet amounts) world).2 =
      after at books published
    obtain ⟨_, _⟩ := after
    cases books
    cases published
    rfl

/-! ### Operations of several units of work -/

section

variable {confirming crediting undoing : Session} {request : MovementRequest}
  {key : TransactionKey} {before after : Books}

/-- A marker that stood is the one that is taken away. -/
theorem filter_of_pending {marker : DepositRow} (sound : Sound before)
    (found : before.deposit? key.text = some marker) (status : marker.status = .confirmed) :
    (before.deposits.filter fun row => !Payments.isPending key row) =
      before.deposits.filter fun row => row.key != key.text := by
  obtain ⟨member, named⟩ := mem_of_deposit? found
  refine List.filter_congr fun row present => ?_
  by_cases same : row.key = key.text
  · obtain rfl := eq_of_key sound.depositKeys present member (same.trans named.symm)
    simp [Payments.isPending, same, status]
  · rw [Payments.isPending, bne, beq_eq_false_iff_ne.mpr same]
    rfl

/-- A marker that was left just now is taken away, and no other. -/
theorem filter_of_confirmed (unused : ∀ other ∈ before.deposits, other.key ≠ key.text) :
    ((before.deposits ++ [Payments.depositRow confirming request key .confirmed]).filter
      fun row => !Payments.isPending key row) = before.deposits := by
  have kept :
      (before.deposits.filter fun row => !Payments.isPending key row) = before.deposits := by
    refine List.filter_eq_self.mpr fun row member => ?_
    rw [Payments.isPending, beq_eq_false_iff_ne.mpr (unused row member)]
    rfl
  have gone : ([Payments.depositRow confirming request key .confirmed].filter
      fun row => !Payments.isPending key row) = [] := by
    simp [Payments.isPending, Payments.depositRow]
  rw [List.filter_append, kept, gone, List.append_nil]

/-- The removal of a marker fails only if the storage refuses it. -/
theorem refuses_of_rollback {fault : StorageFault} (sound : Sound before)
    (failed : Payments.rollbackConfirmation undoing key before = .error fault) :
    undoing.faults.refuses .processedDeposits .delete := by
  by_contra allowed
  have removed : ∃ count after,
      Payments.rollbackConfirmation undoing key before = .ok (count, after) :=
    Payments.rollback_eq_ok_of_allowed sound (Bool.not_eq_true _ ▸ allowed)
  obtain ⟨count, after, done⟩ := removed
  rw [failed] at done
  cases done

/-- **A confirmed deposit that fails** leaves nothing, or its marker is gone, or stuck. -/
theorem staged_refused {call : Call} {world after : World} {cause : Halt PaymentError}
    (asked : confirmedDeposit? call = some (confirming, undoing, request))
    (sound : Sound world.books)
    (staged : Payments.Staged confirming crediting undoing request world (.error cause, after)) :
    after = world ∨ Unconfirmed call world after ∨ StuckConfirmed call world after := by
  obtain ⟨books, published⟩ := world
  cases staged with
  | refused => exact .inl rfl
  | @undone key _ middle _ read first second =>
    obtain ⟨middleBooks, middlePublished⟩ := middle
    obtain ⟨afterBooks, afterPublished⟩ := after
    have confirmed := first.changed sound
    have undone := (second.changed ((confirmBooked_happened confirmed).sound sound)).left
    have told : middlePublished = published := first.published.trans (List.append_nil _)
    have told' : afterPublished = middlePublished := second.published.trans (List.append_nil _)
    simp only at confirmed undone
    subst told told' undone
    cases confirmed with
    | @pending marker found sameWallet sameAmount status =>
      obtain ⟨member, named⟩ := mem_of_deposit? found
      refine .inr (.inl ⟨confirming, undoing, request, key, asked, read, marker, member, named,
        status, sameWallet, sameAmount, ?_⟩)
      rw [filter_of_pending sound found status]
      rfl
    | confirmed did =>
      left
      rw [did.left, filter_of_confirmed did.unused]
  | @stuck key _ _ read first refused =>
    obtain ⟨afterBooks, afterPublished⟩ := after
    have confirmed := first.changed sound
    have sound' := (confirmBooked_happened confirmed).sound sound
    have told : afterPublished = published := first.published.trans (List.append_nil _)
    simp only at confirmed
    subst told
    have kept : undoing.faults.blocked ∨ undoing.faults.refuses .processedDeposits .delete :=
      refused.imp_right fun ⟨_, failed⟩ => refuses_of_rollback sound' failed
    cases confirmed with
    | pending _ _ _ _ => exact .inl rfl
    | confirmed did =>
      refine .inr (.inr ⟨confirming, undoing, request, key, asked, read, did.unused, kept, ?_⟩)
      rw [did.left]
      rfl

end

/-- **Providing a wallet with an account, when it fails**, leaves nothing or the account. -/
theorem provisioned_refused {call : Call} {opening linking : Session} {id : WalletId}
    {world after : World} {cause : HoldingError}
    (asked : provisioning? call = some (opening, linking, id)) (sound : Sound world.books)
    (reached : opening.faults.blocked = false)
    (did : Holdings.Provisioned linking id
      (fun row => Chart.Ensured opening (Chart.walletAccount id row.currency)) world
      (.error cause, after)) :
    after = world ∨ StuckOpened call world after := by
  obtain ⟨books, published⟩ := world
  generalize ended : (Except.error cause, after) = outcome at did
  cases did with
  | refused _ => exact .inl (Prod.mk.inj ended).2
  | @halfway wallet account middle _ found opened _ failed =>
    obtain ⟨-, rfl⟩ := Prod.mk.inj ended
    obtain ⟨afterBooks, afterPublished⟩ := after
    have ensured := opened.changed sound
    have told : afterPublished = published := opened.published.trans (List.append_nil _)
    simp only at ensured
    cases ensured with
    | stood _ _ _ left =>
      left
      subst left told
      rfl
    | opened row _ did _ =>
      obtain ⟨member, rfl⟩ := mem_of_wallet? found
      have present : wallet ∈ afterBooks.wallets := by
        rw [did.left]
        exact member
      exact .inr ⟨opening, linking, wallet.id, wallet, row, asked, found, reached,
        Holdings.denied_of_link (did.sound sound) present failed, did, told⟩
  | kept _ _ _ => cases ended
  | linked _ _ _ _ => cases ended

theorem elsewhere_refused {linking : Session} {id : WalletId} {world after : World}
    {cause : HoldingError} (sound : Sound world.books)
    (did : Holdings.Provisioned linking id (fun _ => Unchanged) world (.error cause, after)) :
    after = world := by
  obtain ⟨books, published⟩ := world
  generalize ended : (Except.error cause, after) = outcome at did
  cases did with
  | refused _ => exact (Prod.mk.inj ended).2
  | halfway _ asked _ _ =>
    obtain ⟨-, rfl⟩ := Prod.mk.inj ended
    obtain ⟨afterBooks, afterPublished⟩ := after
    have told : afterPublished = published := asked.published.trans (List.append_nil _)
    have same : afterBooks = books := asked.changed sound
    rw [told, same]
  | kept _ _ _ => cases ended
  | linked _ _ _ _ => cases ended

/-! ### Every operation -/

theorem failed_of_isRefused {call : Call} {result : Except Failure Answer}
    (refused : isRefused call result) (counts : ∀ answer, isRefused call (.ok answer) = false) :
    ∃ failure, result = .error failure := by
  cases result with
  | error failure => exact ⟨failure, rfl⟩
  | ok answer =>
    rw [counts] at refused
    cases refused

/-- An operation that fails leaves what the operation of its part leaves. -/
theorem failed_answering {ε α : Type} {fail : ε → Failure} {answer : α → Answer}
    {action : Action ε α} {world : World} {failure : Failure}
    (failed : (answering fail answer action world).1 = .error failure) :
    ∃ cause after, action world = (.error cause, after) ∧
      (answering fail answer action world).2 = after := by
  obtain ⟨cause, ended⟩ := error_of_answering failed
  exact ⟨cause, (action world).2, Prod.ext ended rfl, rfl⟩

/-- A confirmed deposit that fails, as operations do it. -/
theorem completed_refused {call : Call} {confirming crediting undoing : Session}
    {request : MovementRequest} {world : World} {failure : Failure}
    (asked : confirmedDeposit? call = some (confirming, undoing, request))
    (sound : Sound world.books)
    (failed : (ofPayment (Payments.completeInStages confirming crediting undoing request)
      world).1 = .error failure) {after : World}
    (left : after = (ofPayment (Payments.completeInStages confirming crediting undoing request)
      world).2) :
    after = world ∨ Unconfirmed call world after ∨ StuckConfirmed call world after := by
  have staged := Payments.completeInStages_cases confirming crediting undoing request world
  obtain ⟨cause, last, ended, same⟩ := failed_answering failed
  rw [ended] at staged
  rw [left.trans same]
  exact staged_refused asked sound staged

/-- A command of one unit of work that fails, or counts none of the amounts that it was asked to,
leaves nothing. -/
theorem Command.unchanged {session : Session} {wanted : Command} (single : wanted.isSingle)
    {world : World} (sound : Sound world.books)
    (refused : isRefused (.command session wanted) (wanted.run session world).1) :
    (wanted.run session world).2 = world := by
  cases ended : (wanted.run session world).1 with
  | error failure => exact Command.refused single ended
  | ok answer =>
    have uncounted : isUncounted wanted answer := by
      rw [ended] at refused
      exact refused
    cases wanted with
    | reserve wallet amounts commit =>
      cases answer with
      | reservations outcomes => exact reserveAmounts_refused sound ended uncounted
      | _ => cases uncounted
    | _ => cases uncounted

/-- Providing a wallet with an account of the chart, as operations do it. -/
theorem provisioning_refused {call : Call} {reading opening linking : Session} {id : WalletId}
    {world : World} {failure : Failure}
    (asked : provisioning? call = some (opening, linking, id)) (sound : Sound world.books)
    (failed : (ofHolding (.ledgerAccount ∘ some)
      (Holdings.provisionInStages reading linking (Chart.port opening) id) world).1 =
        .error failure)
    {after : World} (left : after = (ofHolding (.ledgerAccount ∘ some)
      (Holdings.provisionInStages reading linking (Chart.port opening) id) world).2) :
    after = world ∨ StuckOpened call world after := by
  cases blocked : opening.faults.blocked with
  | true => exact .inl (left.trans (Holdings.provisionInStages_of_blocked blocked _ _ id world))
  | false =>
    obtain ⟨cause, last, ended, same⟩ := failed_answering failed
    have went := Holdings.provisionHere_cases reading opening linking id world
    rw [ended] at went
    rw [left.trans same]
    exact provisioned_refused asked sound blocked went

/-- **What a refused operation leaves** of sound books: nothing, or what a later unit of work of it
could not take back. -/
theorem Call.refused (call : Call) {world : World} (sound : Sound world.books)
    (refused : isRefused call (call.run world).1) :
    (call.run world).2 = world ∨ Unconfirmed call world (call.run world).2 ∨
      StuckConfirmed call world (call.run world).2 ∨ StuckOpened call world (call.run world).2 := by
  have regroup : ∀ {after : World}, (after = world ∨ Unconfirmed call world after ∨
      StuckConfirmed call world after) → (after = world ∨ Unconfirmed call world after ∨
        StuckConfirmed call world after ∨ StuckOpened call world after) :=
    fun left => left.imp_right fun rest => rest.imp_right .inl
  cases call with
  | command session wanted =>
    cases single : wanted.isSingle with
    | true => exact .inl (Command.unchanged single sound refused)
    | false =>
      cases wanted with
      | provisionWallet id =>
        obtain ⟨failure, failed⟩ := failed_of_isRefused refused fun _ => rfl
        have run : (Call.command session (.provisionWallet id)).run =
            ofHolding (.ledgerAccount ∘ some)
              (Holdings.provisionInStages session session (Chart.port session) id) := rfl
        rw [run] at failed ⊢
        exact (provisioning_refused rfl sound failed rfl).imp_right fun stuck => .inr (.inr stuck)
      | externalDeposit request =>
        obtain ⟨failure, failed⟩ := failed_of_isRefused refused fun _ => rfl
        have run : (Call.command session (.externalDeposit request)).run =
            ofPayment (Payments.completeInStages session session session request) := rfl
        rw [run] at failed ⊢
        exact regroup (completed_refused rfl sound failed rfl)
      | _ => cases single
  | query session wanted =>
    obtain ⟨failure, failed⟩ := failed_of_isRefused refused fun _ => rfl
    exact .inl ((Query.looks session wanted).unchanged failed)
  | provisionInStages reading opening linking id =>
    obtain ⟨failure, failed⟩ := failed_of_isRefused refused fun _ => rfl
    have run : (Call.provisionInStages reading opening linking id).run =
        ofHolding (.ledgerAccount ∘ some)
          (Holdings.provisionInStages reading linking (Chart.port opening) id) := rfl
    rw [run] at failed ⊢
    exact (provisioning_refused rfl sound failed rfl).imp_right fun stuck => .inr (.inr stuck)
  | provisionElsewhere reading linking find create id =>
    obtain ⟨failure, failed⟩ := failed_of_isRefused refused fun _ => rfl
    have run : (Call.provisionElsewhere reading linking find create id).run =
        ofHolding (.ledgerAccount ∘ some)
          (Holdings.provisionInStages reading linking
            (Chart.LedgerPort.elsewhere find create) id) := rfl
    rw [run] at failed ⊢
    obtain ⟨cause, after, ended, same⟩ := failed_answering failed
    have went := Holdings.provisionElsewhere_cases reading linking find create id world
    rw [ended] at went
    rw [ofHolding, same]
    exact .inl (elsewhere_refused sound went)
  | depositInStages confirming crediting undoing request =>
    obtain ⟨failure, failed⟩ := failed_of_isRefused refused fun _ => rfl
    have run : (Call.depositInStages confirming crediting undoing request).run =
        ofPayment (Payments.completeInStages confirming crediting undoing request) := rfl
    rw [run] at failed ⊢
    exact regroup (completed_refused rfl sound failed rfl)

/-- The operation takes several units of work. -/
def takesSeveral : Call → Bool
  | .command _ wanted => !wanted.isSingle
  | .query _ _ => false
  | .provisionInStages _ _ _ _ => true
  | .provisionElsewhere _ _ _ _ _ => true
  | .depositInStages _ _ _ _ => true

theorem several_of_confirmedDeposit {call : Call} {deposit : Session × Session × MovementRequest}
    (single : takesSeveral call = false) : confirmedDeposit? call ≠ some deposit := by
  intro asked
  cases call with
  | command session wanted =>
    cases wanted with
    | externalDeposit request => cases single
    | _ => cases asked
  | query session wanted => cases asked
  | provisionInStages reading opening linking id => cases asked
  | provisionElsewhere reading linking find create wallet => cases asked
  | depositInStages confirming crediting undoing request => cases single

theorem several_of_provisioning {call : Call} {provisioning : Session × Session × WalletId}
    (single : takesSeveral call = false) : provisioning? call ≠ some provisioning := by
  intro asked
  cases call with
  | command session wanted =>
    cases wanted with
    | provisionWallet id => cases single
    | _ => cases asked
  | provisionInStages reading opening linking id => cases single
  | _ => cases asked

/-- **What a refused operation leaves after every run from fresh books.** Either nothing is left of
it; or the marker of a confirmed deposit of the same key, wallet and amount, which stood before, is
gone; or the storage refuses a later unit of work or cannot be reached for it, and what the first
one has left stays: the marker of a confirmed deposit, or the account that was opened for a wallet.
Of an operation that takes one unit of work nothing is left: its key is unused, the counters and the
sequence stand where they stood, and nothing is published. -/
theorem play_refused (supply : Supply) (calls : List Call) (next : Call)
    (refused : isRefused next (next.run (play calls (.fresh supply))).1) :
    ((next.run (play calls (.fresh supply))).2 = play calls (.fresh supply) ∨
        Unconfirmed next (play calls (.fresh supply)) (next.run (play calls (.fresh supply))).2 ∨
          StuckConfirmed next (play calls (.fresh supply))
            (next.run (play calls (.fresh supply))).2 ∨
            StuckOpened next (play calls (.fresh supply))
              (next.run (play calls (.fresh supply))).2) ∧
      (takesSeveral next = false →
        (next.run (play calls (.fresh supply))).2 = play calls (.fresh supply)) := by
  have start : Sound (World.fresh supply).books := Sound.fresh
  have left := Call.refused next (play_sound calls start) refused
  refine ⟨left, fun single => ?_⟩
  rcases left with same | ⟨_, _, _, _, asked, _⟩ | ⟨_, _, _, _, asked, _⟩ |
    ⟨_, _, _, _, _, asked, _⟩
  · exact same
  · exact absurd asked (several_of_confirmedDeposit single)
  · exact absurd asked (several_of_confirmedDeposit single)
  · exact absurd asked (several_of_provisioning single)

/-- A withdrawal of more than there is. -/
theorem play_refused_overdraft :
    isRefused sampleOverdraft (sampleOverdraft.run (play sampleDeposits .fresh)).1 ∧
      (sampleOverdraft.run (play sampleDeposits .fresh)).2 = play sampleDeposits .fresh := by
  have refused : isRefused sampleOverdraft
      (sampleOverdraft.run (play sampleDeposits .fresh)).1 = true := by decide
  exact ⟨refused, (play_refused .ascending sampleDeposits sampleOverdraft refused).2 rfl⟩

/-- The storage refuses statements of a kind on a table. -/
def refusing (table : Table) (statement : Statement) : Session :=
  { sampleSession with
    faults := ⟨fun other kind => other == table && kind == statement, fun _ => false, false⟩ }

/-- A confirmed deposit into a wallet that fresh books do not have, its marker being stuck. -/
def stuckDeposit : Call :=
  .command (refusing .processedDeposits .delete) (.externalDeposit (sampleDeposit "first"))

/-- An account for a wallet that cannot be linked to it. -/
def stuckProvision : Call := .command (refusing .wallets .update) (.provisionWallet sampleWallet)

/-- **Where the storage refuses the last unit of work something else may be left**: of a deposit
that fails, the marker; of a wallet that is not linked, the account. -/
theorem refused_leaves :
    (isRefused stuckDeposit (stuckDeposit.run .fresh).1 ∧ (stuckDeposit.run .fresh).2 ≠ .fresh ∧
        ¬Unconfirmed stuckDeposit .fresh (stuckDeposit.run .fresh).2) ∧
      (isRefused stuckProvision (stuckProvision.run (play sampleDeposits .fresh)).1 ∧
        (stuckProvision.run (play sampleDeposits .fresh)).2 ≠ play sampleDeposits .fresh ∧
          ¬Unconfirmed stuckProvision (play sampleDeposits .fresh)
            (stuckProvision.run (play sampleDeposits .fresh)).2) := by
  refine ⟨⟨by decide, fun same => ?_, ?_⟩, by decide, fun same => ?_, ?_⟩
  · exact absurd (congrArg (fun world => world.books.deposits.length) same) (by decide)
  · rintro ⟨_, _, _, _, _, _, marker, member, _⟩
    exact absurd member List.not_mem_nil
  · exact absurd (congrArg (fun world => world.books.accounts.length) same) (by decide)
  · rintro ⟨_, _, _, _, asked, _⟩
    cases asked

end Passbook.Operation
