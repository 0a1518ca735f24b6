/-
**Runs of operations.**

* `Call`: an operation that is asked for, with the session in which it runs. Besides the commands
  and queries there are more general ones: time may pass between the units of work that provide a
  wallet with an account, the account may be kept by a ledger elsewhere, and time may pass between
  the units of work of an external deposit;
* `Call.kinds`: the kinds of deeds that an operation may do;
* `Call.unfolded`: whatever an operation leaves, deeds of these kinds led to it, each made known
  before the next; `Call.happened`: the same of the books alone;
* `play`, `history`: operations one after another, the world they leave and what each answers;
* `play_preserves`: what every deed preserves holds after every run; `play_tells`: so does what it
  preserves together with what is made known of it; `play_upholds`: and what its operations uphold.
-/

import Passbook.Operation.Command
import Passbook.Operation.Query
import Passbook.Proofs.Operation.Announced

namespace Passbook.Operation

open Passbook.Store
open Passbook.Store.Action (Ends Leaves)

/-- An operation that is asked for, with the session in which it runs. -/
inductive Call where
  | command (session : Session) (wanted : Command)
  | query (session : Session) (wanted : Query)
  /-- Provides a wallet with an account of the chart. The wallet is read, the account opened and
  the link written under sessions of their own. -/
  | provisionInStages (reading opening linking : Session) (wallet : WalletId)
  /-- Provides a wallet with an account of a ledger that is kept elsewhere. -/
  | provisionElsewhere (reading linking : Session)
      (find : String → Except Problem (Option Ledger.LedgerAccount))
      (create : Ledger.NewAccount → Except Problem Ledger.LedgerAccount) (wallet : WalletId)
  /-- Completes a confirmed deposit, each of its units of work under a session of its own. -/
  | depositInStages (confirming crediting undoing : Session) (request : Payments.MovementRequest)

/-- The operation that answers a call. -/
def Call.run : Call → Task
  | command session wanted => wanted.run session
  | query session wanted => wanted.run session
  | provisionInStages reading opening linking wallet =>
    ofHolding (.ledgerAccount ∘ some)
      (Holdings.provisionInStages reading linking (Chart.port opening) wallet)
  | provisionElsewhere reading linking find create wallet =>
    ofHolding (.ledgerAccount ∘ some)
      (Holdings.provisionInStages reading linking (Chart.LedgerPort.elsewhere find create) wallet)
  | depositInStages confirming crediting undoing request =>
    ofPayment (Payments.completeInStages confirming crediting undoing request)

/-- The kinds of deeds that a command may do. -/
def Command.kinds : Command → List DeedKind
  | createAccount _ => [.accountOpened]
  | openAccount _ => [.accountOpened]
  | ensureAccount _ => [.accountOpened]
  | updateAccount _ _ => [.accountChanged]
  | createEntry _ => [.drafted]
  | postEntry _ _ => [.posted]
  | voidEntry _ _ _ => [.voided]
  | reverseEntry _ _ _ => [.reversed]
  | deleteDraft _ => [.dropped]
  | createWallet _ _ _ => [.walletOpened]
  | updateStatus _ _ => [.statusSet]
  | closeWallet _ _ => [.closed]
  | placeHold _ _ => [.held]
  | releaseHold _ _ => [.released]
  | provisionWallet _ => [.accountOpened, .linked]
  | updateLimits _ _ _ => [.limitsSet]
  | reserve _ _ _ => [.spent]
  | transfer _ => [.transferred]
  | deposit _ => [.deposited]
  | withdraw _ => [.withdrawn]
  | externalDeposit _ => [.confirmed, .credited, .undone]

/-- The kinds of deeds that an operation may do. -/
def Call.kinds : Call → List DeedKind
  | command _ wanted => wanted.kinds
  | query _ _ => []
  | provisionInStages _ _ _ _ => [.accountOpened, .linked]
  | provisionElsewhere _ _ _ _ _ => [.linked]
  | depositInStages _ _ _ _ => [.confirmed, .credited, .undone]

/-! ### What an operation does -/

/-- All or nothing: an operation that is refused leaves the world as it was, and deeds of some kinds
have led to whatever another leaves of sound books. -/
def Does {ε α : Type} (kinds : List DeedKind) (action : Action ε α) : Prop :=
  Ends action fun world _ after => Sound world.books → Happened kinds world.books after.books

/-- All or nothing, each deed being made known before the next. -/
def Tells {ε α : Type} (kinds : List DeedKind) (action : Action ε α) : Prop :=
  Ends action fun world _ after => Sound world.books → Unfolded kinds world after

/-- Deeds of some kinds, each made known before the next, have led to whatever an operation leaves
of sound books. -/
def Leads {ε α : Type} (kinds : List DeedKind) (action : Action ε α) : Prop :=
  ∀ world, Sound world.books → Unfolded kinds world (action world).2

section

variable {ε α : Type} {kinds : List DeedKind} {action : Action ε α}

/-- How an operation of a part of the books ends for a caller. -/
theorem answering_run (fail : ε → Failure) (answer : α → Answer) (action : Action ε α)
    (world : World) : answering fail answer action world =
      (((action world).1.map answer).mapError fail, (action world).2) :=
  rfl

/-- An operation of a part of the books does for a caller what it does by itself. -/
theorem Tells.answering {fail : ε → Failure} {answer : α → Answer} (tells : Tells kinds action) :
    Tells kinds (Operation.answering fail answer action) := by
  intro world
  rw [answering_run]
  rcases tells world with ⟨cause, same⟩ | ⟨value, after, same, did⟩
  · rw [same]
    exact .inl ⟨fail cause, rfl⟩
  · rw [same]
    exact .inr ⟨answer value, after, rfl, did⟩

/-- An operation that answers has ended with what it answers. -/
theorem ok_of_answering {fail : ε → Failure} {answer : α → Answer} {world : World}
    {result : Answer} (done : (Operation.answering fail answer action world).1 = .ok result) :
    ∃ value, (action world).1 = .ok value ∧ answer value = result := by
  rw [answering_run] at done
  cases ran : (action world).1 with
  | error cause =>
    rw [ran] at done
    cases done
  | ok value =>
    rw [ran] at done
    cases done
    exact ⟨value, rfl, rfl⟩

/-- An operation that fails has ended with a cause. -/
theorem error_of_answering {fail : ε → Failure} {answer : α → Answer} {world : World}
    {failure : Failure}
    (failed : (Operation.answering fail answer action world).1 = .error failure) :
    ∃ cause, (action world).1 = .error cause := by
  rw [answering_run] at failed
  cases ran : (action world).1 with
  | error cause => exact ⟨cause, rfl⟩
  | ok value =>
    rw [ran] at failed
    cases failed

/-- Operations that do one deed and make it known. -/
theorem Tells.of_leaves {change : Books → α → Books → Prop} {news : α → List Event}
    {session : Session} {kind : DeedKind} (ends : Ends action (Leaves change news))
    (did : ∀ {before value after}, change before value after →
      Announced session kind before (news value) after) : Tells [kind] action :=
  ends.mono fun _ _ _ left sound =>
    .one (did (left.changed sound)) List.mem_cons_self left.published

/-- Operations that make nothing known. -/
theorem Tells.of_silent {change : Books → α → Books → Prop}
    (ends : Ends action (Leaves change fun _ => []))
    (did : ∀ {before value after}, change before value after → Happened kinds before after)
    (silent : ∀ kind ∈ kinds, kind.isAnnounced = false) : Tells kinds action :=
  ends.mono fun _ _ _ left sound =>
    .of_silent (did (left.changed sound)) silent (left.published.trans (List.append_nil _))

theorem Tells.of_looks (ends : Ends action fun world _ after => after = world) :
    Tells kinds action :=
  ends.mono fun _ _ _ same _ => by
    rw [same]
    exact .nothing

theorem Tells.does (tells : Tells kinds action) : Does kinds action :=
  tells.mono fun _ _ _ unfolded sound => (unfolded sound).happened

theorem Tells.leads (tells : Tells kinds action) : Leads kinds action := by
  intro world sound
  rcases tells world with ⟨cause, same⟩ | ⟨value, after, same, unfolded⟩
  · rw [same]
    exact .nothing
  · rw [same]
    exact unfolded sound

end

/-! ### Queries -/

/-- A query leaves everything as it is. -/
theorem Query.looks (session : Session) (wanted : Query) : Tells [] (wanted.run session) := by
  cases wanted with
  | findAccount account =>
    exact (Tells.of_looks ((Chart.findAccount_looks account).mono fun _ _ _ did => did.2)).answering
  | getAccount account =>
    exact (Tells.of_looks ((Chart.getAccount_looks account).mono fun _ _ _ did => did.2)).answering
  | findByCode code =>
    exact (Tells.of_looks ((Chart.findByCode_looks code).mono fun _ _ _ did => did.2)).answering
  | getByCode code =>
    exact (Tells.of_looks ((Chart.getByCode_looks code).mono fun _ _ _ did => did.2)).answering
  | lookUp code =>
    exact (Tells.of_looks ((Chart.find_looks session code).mono fun _ _ _ did => did.2)).answering
  | listAccounts filter page =>
    exact (Tells.of_looks (Ends.gatherPage session accountSheet _ page)).answering
  | accountBalance account =>
    exact (Tells.of_looks (((Chart.getAccount_looks account).map AccountRow.balance).mono
      fun _ _ _ ⟨_, did, _⟩ => did.2)).answering
  | getEntry entry => exact (Tells.of_looks (Journal.getEntry_looks entry)).answering
  | listEntries status page =>
    exact (Tells.of_looks (Ends.gatherPage session entrySheet _ page)).answering
  | findWallet wallet =>
    exact (Tells.of_looks
      ((Holdings.findWallet_looks wallet).mono fun _ _ _ did => did.2)).answering
  | getWallet wallet =>
    exact (Tells.of_looks ((Holdings.getWallet_looks wallet).mono fun _ _ _ did => did.2)).answering
  | listWallets owner status =>
    exact (Tells.of_looks ((Ends.gather session walletSheet _).mono
      fun _ _ _ did => did.2)).answering
  | walletBalance wallet =>
    exact (Tells.of_looks (((Holdings.getWallet_looks wallet).map WalletRow.balance).mono
      fun _ _ _ ⟨_, did, _⟩ => did.2)).answering
  | getLimits wallet => exact (Tells.of_looks (Holdings.getLimits_looks wallet)).answering

/-! ### Commands -/

theorem ensured_happened {session : Session} {input : Ledger.NewAccount} {before after : Books}
    {account : Ledger.LedgerAccount} (did : Chart.Ensured session input before account after) :
    Happened [.accountOpened] before after := by
  cases did with
  | stood _ _ _ left =>
    rw [left]
    exact .nothing
  | opened row valid did => exact .one (.accountOpened valid did) List.mem_cons_self

theorem spentEach_happened {session : Session} {wallet : WalletId} {amounts : List Amount}
    {before after : Books} {outcomes : List (Except Holdings.HoldingError Limits.LimitState)}
    (did : Holdings.SpentEach session wallet amounts before outcomes after) :
    Happened [.spent] before after := by
  induction did with
  | none => exact .nothing
  | spent first _ ih => exact (Happened.one (.spent first) List.mem_cons_self).andThen ih
  | refused _ ih => exact ih

/-- A status that was set is made known, and one that was so before is not. -/
theorem statusSet_unfolded {session : Session} {id : WalletId} {was status : Wallet.WalletStatus}
    {row : WalletRow} {world after : World}
    (did : Holdings.StatusSet session id status world.books (was, row) after.books)
    (published : after.published = world.published ++
      if was ≠ status then [.walletStatusChanged id was status] else []) :
    Unfolded [.statusSet] world after := by
  generalize same : after.books = books at did
  cases did with
  | same _ _ _ =>
    rw [if_neg fun other => other rfl, List.append_nil] at published
    exact .of_same same published
  | set unclosed wanted other did =>
    rw [if_pos other] at published
    rw [← same] at did
    exact .one (.statusSet unclosed wanted other did) List.mem_cons_self published

/-- A movement that was booked was made by one deed and made known, or found made. -/
theorem receipted_tells (session : Session) {kind : DeedKind} {text : String}
    {booking : Transfer.TransactionKey → Books → Payments.Booked → Books → Prop}
    {action : Action (Halt Payments.PaymentError) Transfer.Receipt}
    (ends : Ends action (Payments.Receipted booking text))
    (did : ∀ {key before booked after}, booking key before booked after →
      (after = before ∧ booked.event = none) ∨
        Announced session kind before booked.event.toList after) : Tells [kind] action :=
  ends.mono fun _ _ _ receipted sound => by
    obtain ⟨key, booked, _, _, books, published⟩ := receipted.booked
    rcases did (books sound) with ⟨same, silent⟩ | announced
    · rw [silent] at published
      exact .of_same same (published.trans (List.append_nil _))
    · exact .one announced List.mem_cons_self published

/-- A command whose changes are one unit of work. The others take two or three. -/
def Command.isSingle : Command → Bool
  | provisionWallet _ | externalDeposit _ => false
  | _ => true

theorem reserveAmounts_tells (session : Session) (wallet : WalletId) (amounts : List Amount)
    (commit : Bool) : Tells [.spent] (reserveAmounts session wallet amounts commit) := by
  cases commit with
  | true =>
    exact (Tells.of_silent (Holdings.reserveEach_ends session wallet amounts)
      spentEach_happened (by decide)).answering
  | false => exact (Tells.of_looks (Ends.rehearse session _)).answering

/-- **A command in one unit of work** is done whole and made known, or not done at all. -/
theorem Command.tells (session : Session) (wanted : Command) (single : wanted.isSingle) :
    Tells wanted.kinds (wanted.run session) := by
  cases wanted with
  | createAccount input =>
    exact (Tells.of_leaves (Chart.createAccount_ends session input) fun did =>
      .unannounced (.accountOpened did.1 did.2) rfl).answering
  | openAccount input =>
    exact (Tells.of_leaves (Chart.create_ends session input) fun ⟨_, did, _⟩ =>
      .unannounced (.accountOpened did.1 did.2) rfl).answering
  | ensureAccount input =>
    exact (Tells.of_silent (Chart.ensureAccount_ends session input) ensured_happened
      (by decide)).answering
  | updateAccount account wanted =>
    exact (Tells.of_leaves (Chart.updateAccount_ends session account wanted) fun did =>
      .unannounced (.accountChanged did) rfl).answering
  | createEntry input =>
    exact (Tells.of_leaves (Journal.createEntry_ends session input) fun did =>
      .unannounced (.drafted did.1 did.2) rfl).answering
  | postEntry entry user =>
    exact (Tells.of_leaves (Journal.postEntry_ends session entry user) fun ⟨_, _, did⟩ =>
      .posted did).answering
  | voidEntry entry user reason =>
    exact (Tells.of_leaves (Journal.voidEntry_ends session entry user reason) fun ⟨_, did⟩ =>
      .unannounced (.voided did) rfl).answering
  | reverseEntry entry user reason =>
    exact (Tells.of_leaves (Journal.reverseEntry_ends session entry user reason)
      fun ⟨_, _, did⟩ => .reversed did).answering
  | deleteDraft entry =>
    exact (Tells.of_leaves (Journal.deleteDraft_ends session entry) fun ⟨_, did⟩ =>
      .unannounced (show Deed session .dropped _ _ from .dropped did) rfl).answering
  | createWallet owner walletType currency =>
    exact (Tells.of_leaves (Holdings.createWallet_ends session owner walletType currency)
      fun ⟨_, _, did⟩ => .walletOpened did).answering
  | updateStatus wallet status =>
    exact Tells.answering ((Holdings.updateStatus_ends session wallet status).mono
      fun _ _ _ ⟨_, did, published⟩ sound => statusSet_unfolded (did sound) published)
  | closeWallet wallet reason =>
    exact Tells.answering ((Holdings.closeWallet_ends session wallet reason).mono
      fun _ _ _ ⟨_, did, published⟩ sound =>
        .one (.closed (did sound)) List.mem_cons_self published)
  | placeHold wallet amount =>
    exact (Tells.of_leaves (Holdings.placeHold_ends session wallet amount) fun did =>
      .unannounced (.held did) rfl).answering
  | releaseHold wallet amount =>
    exact (Tells.of_leaves (Holdings.releaseHold_ends session wallet amount) fun did =>
      .unannounced (.released did) rfl).answering
  | updateLimits wallet daily monthly =>
    exact (Tells.of_leaves (Holdings.updateLimits_ends session wallet daily monthly)
      fun ⟨_, _, did⟩ => .unannounced (.limitsSet did) rfl).answering
  | reserve wallet amounts commit => exact reserveAmounts_tells session wallet amounts commit
  | transfer request =>
    refine (receipted_tells session (Payments.processTransfer_ends session request)
      fun did => ?_).answering
    cases did with
    | found _ => exact .inl ⟨rfl, rfl⟩
    | made did => exact .inr (.transferred did)
  | deposit request =>
    refine (receipted_tells session (Payments.processDeposit_ends session request)
      fun did => ?_).answering
    cases did with
    | found _ _ => exact .inl ⟨rfl, rfl⟩
    | made did => exact .inr (.deposited did)
  | withdraw request =>
    refine (receipted_tells session (Payments.processWithdrawal_ends session request)
      fun did => ?_).answering
    cases did with
    | found _ => exact .inl ⟨rfl, rfl⟩
    | made did => exact .inr (.withdrawn did)
  | provisionWallet wallet => cases single
  | externalDeposit request => cases single

/-- A command in one unit of work is done whole or not at all. -/
theorem Command.does (session : Session) (wanted : Command) (single : wanted.isSingle) :
    Does wanted.kinds (wanted.run session) :=
  (Command.tells session wanted single).does

/-! ### Commands in several units of work -/

theorem Leads.answering {ε α : Type} {kinds : List DeedKind} {action : Action ε α}
    {fail : ε → Failure} {answer : α → Answer} (leads : Leads kinds action) :
    Leads kinds (Operation.answering fail answer action) :=
  leads

/-- Whatever is left of providing a wallet with an account, the account was opened if need be, and
then the wallet was linked if that was not refused. -/
theorem provisioned_unfolded {linking : Session} {id : WalletId} {kinds : List DeedKind}
    {ensured : WalletRow → Books → Ledger.LedgerAccount → Books → Prop} {world : World}
    {outcome : Except Holdings.HoldingError Ledger.LedgerAccount × World}
    (asked : ∀ {wallet before account after}, ensured wallet before account after →
      Happened kinds before after)
    (silent : ∀ kind ∈ kinds, kind.isAnnounced = false)
    (provisioned : Holdings.Provisioned linking id ensured world outcome)
    (sound : Sound world.books) : Unfolded (kinds ++ [.linked]) world outcome.2 := by
  have first : ∀ {wallet account after}, Leaves (ensured wallet) (fun _ => []) world account after →
      Unfolded (kinds ++ [.linked]) world after := fun opened =>
    (Unfolded.of_silent (asked (opened.changed sound)) silent
      (opened.published.trans (List.append_nil _))).mono fun _ => List.mem_append_left _
  cases provisioned with
  | refused _ => exact .nothing
  | halfway _ opened _ _ => exact first opened
  | kept _ opened _ => exact first opened
  | linked _ opened _ linked =>
    have sound' := (first opened).happened.sound sound
    exact (first opened).andThen (.one (.unannounced (.linked (linked.changed sound')) rfl)
      (List.mem_append_right _ List.mem_cons_self) linked.published)

theorem unchanged_happened {before after : Books} {account : Ledger.LedgerAccount}
    (same : Unchanged before account after) : Happened [] before after := by
  rw [same]
  exact .nothing

theorem confirmBooked_happened {session : Session} {request : Payments.MovementRequest}
    {key : Transfer.TransactionKey} {before after : Books} {confirmation : Payments.Confirmation}
    (did : Payments.ConfirmBooked session request key before confirmation after) :
    Happened [.confirmed] before after := by
  cases did with
  | completed _ _ _ _ => exact .nothing
  | pending _ _ _ _ => exact .nothing
  | confirmed did => exact .one (.confirmed did) List.mem_cons_self

/-- A credit that is made is made known, and one that was made before is not. -/
theorem creditBooked_unfolded {session : Session} {request : Payments.MovementRequest}
    {key : Transfer.TransactionKey} {world after : World} {earlier : Bool}
    (did : Payments.CreditBooked session request key world.books earlier after.books)
    (matching : ∀ {marker : DepositRow}, world.books.deposit? key.text = some marker →
      marker.wallet = request.wallet ∧ marker.amount = request.amount)
    (published : after.published = world.published ++
      if earlier then [] else [Payments.depositEvent session request key]) :
    Unfolded [.credited] world after := by
  generalize same : after.books = books at did
  cases did with
  | found _ _ => exact .of_same same (published.trans (List.append_nil _))
  | made did =>
    obtain ⟨sameWallet, sameAmount⟩ := matching did.found
    rw [← same] at did
    exact .one (.credited sameWallet sameAmount did) List.mem_cons_self published

/-- Whatever is left of completing a confirmed deposit, it was confirmed if need be, and then its
credit was made or its confirmation undone. -/
theorem staged_unfolded {confirming crediting undoing : Session}
    {request : Payments.MovementRequest} {world : World}
    {outcome : Except (Halt Payments.PaymentError) Transfer.Receipt × World}
    (staged : Payments.Staged confirming crediting undoing request world outcome)
    (sound : Sound world.books) :
    Unfolded [.confirmed, .credited, .undone] world outcome.2 := by
  have confirmed : ∀ {key confirmation after},
      Leaves (Payments.ConfirmBooked confirming request key) (fun _ => []) world confirmation
        after → Unfolded [.confirmed, .credited, .undone] world after := fun first =>
    (Unfolded.of_silent (confirmBooked_happened (first.changed sound)) (by decide)
      (first.published.trans (List.append_nil _))).mono (by decide)
  cases staged with
  | refused => exact .nothing
  | found _ did => exact confirmed did
  | credited _ _ first second =>
    have sound' := (confirmed first).happened.sound sound
    have credited := creditBooked_unfolded (second.changed sound')
      (fun found => (first.changed sound).of_deposit? sound' found) second.published
    exact (confirmed first).andThen (credited.mono (by decide))
  | undone _ first second =>
    have sound' := (confirmed first).happened.sound sound
    have deed : Deed undoing .undone _ _ := .undone (second.changed sound')
    exact (confirmed first).andThen (.one (.unannounced deed rfl) (by decide) second.published)
  | stuck _ first _ => exact confirmed first

theorem completeInStages_leads (confirming crediting undoing : Session)
    (request : Payments.MovementRequest) :
    Leads [.confirmed, .credited, .undone]
      (Payments.completeInStages confirming crediting undoing request) := fun world =>
  staged_unfolded (Payments.completeInStages_cases confirming crediting undoing request world)

theorem provisionInStages_leads (reading opening linking : Session) (wallet : WalletId) :
    Leads [.accountOpened, .linked]
      (Holdings.provisionInStages reading linking (Chart.port opening) wallet) := fun world =>
  provisioned_unfolded ensured_happened (by decide)
    (Holdings.provisionHere_cases reading opening linking wallet world)

theorem Command.leads (session : Session) (wanted : Command) :
    Leads wanted.kinds (wanted.run session) := by
  cases single : wanted.isSingle with
  | true => exact (Command.tells session wanted single).leads
  | false =>
    cases wanted with
    | provisionWallet wallet =>
      exact (provisionInStages_leads session session session wallet).answering
    | externalDeposit request =>
      exact (completeInStages_leads session session session request).answering
    | _ => cases single

/-! ### Operations -/

/-- **What an operation does**: deeds of its kinds, each made known before the next, lead to
whatever it leaves of sound books, also when it is refused. -/
theorem Call.unfolded (call : Call) {world : World} (sound : Sound world.books) :
    Unfolded call.kinds world (call.run world).2 := by
  cases call with
  | command session wanted => exact Command.leads session wanted world sound
  | query session wanted => exact (Query.looks session wanted).leads world sound
  | provisionInStages reading opening linking wallet =>
    exact (provisionInStages_leads reading opening linking wallet).answering world sound
  | provisionElsewhere reading linking find create wallet =>
    have leads : Leads [.linked] (Holdings.provisionInStages reading linking
        (Chart.LedgerPort.elsewhere find create) wallet) := fun world =>
      provisioned_unfolded unchanged_happened (by decide)
        (Holdings.provisionElsewhere_cases reading linking find create wallet world)
    exact leads.answering world sound
  | depositInStages confirming crediting undoing request =>
    have run : (Call.depositInStages confirming crediting undoing request).run =
        ofPayment (Payments.completeInStages confirming crediting undoing request) := rfl
    rw [run, ofPayment]
    have leads := completeInStages_leads confirming crediting undoing request
    exact leads.answering world sound

/-- Deeds of its kinds lead to whatever an operation leaves of sound books, also when it is
refused. -/
theorem Call.happened (call : Call) {world : World} (sound : Sound world.books) :
    Happened call.kinds world.books (call.run world).2.books :=
  (call.unfolded sound).happened

/-! ### What an operation upholds -/

/-- What holds of sound books holds of whatever an operation leaves of them. -/
def Upholds {ε α : Type} (holds : Books → Prop) (action : Action ε α) : Prop :=
  ∀ world, Sound world.books → holds world.books → holds (action world).2.books

section

variable {ε α : Type} {holds : Books → Prop} {action : Action ε α}

/-- An operation of a part of the books upholds for a caller what it upholds by itself. -/
theorem Upholds.answering {fail : ε → Failure} {answer : α → Answer}
    (upholds : Upholds holds action) : Upholds holds (Operation.answering fail answer action) :=
  upholds

/-- An operation that leaves the books changed as told, or leaves nothing. -/
theorem Upholds.of_leaves {change : Books → α → Books → Prop} {news : α → List Event}
    (ends : Ends action (Leaves change news))
    (step : ∀ {before value after}, change before value after → holds before → holds after) :
    Upholds holds action := by
  intro world sound held
  rcases ends world with ⟨cause, same⟩ | ⟨value, after, same, left⟩
  · rw [same]
    exact held
  · rw [same]
    exact step (left.changed sound) held

/-- Deeds of some kinds, each of which upholds it. -/
theorem Upholds.of_leads {kinds : List DeedKind} (leads : Leads kinds action)
    (step : ∀ {session kind before after}, kind ∈ kinds → Sound before →
      Deed session kind before after → holds before → holds after) : Upholds holds action :=
  fun world sound held => ((leads world sound).happened.preserves holds step sound held).2

/-- An operation, if every deed of its kinds upholds it. -/
theorem Call.upholds (call : Call)
    (step : ∀ {session kind before after}, kind ∈ call.kinds → Sound before →
      Deed session kind before after → holds before → holds after) : Upholds holds call.run :=
  .of_leads (fun _ sound => call.unfolded sound) step

end

/-! ### Runs -/

/-- The world that operations leave, one after another. -/
def play : List Call → World → World
  | [], world => world
  | call :: rest, world => play rest (call.run world).2

/-- What operations answer, one after another. -/
def history : List Call → World → List (Call × Except Failure Answer)
  | [], _ => []
  | call :: rest, world =>
    (call, (call.run world).1) :: history rest (call.run world).2

theorem play_append (calls later : List Call) (world : World) :
    play (calls ++ later) world = play later (play calls world) := by
  induction calls generalizing world with
  | nil => rfl
  | cons call rest ih => exact ih _

/-- **What every deed preserves holds after every run** that starts from sound books. -/
theorem play_preserves (holds : Books → Prop)
    (step : ∀ {session kind before after}, Sound before → Deed session kind before after →
      holds before → holds after) {world : World} (calls : List Call) (sound : Sound world.books)
    (start : holds world.books) :
    Sound (play calls world).books ∧ holds (play calls world).books := by
  induction calls generalizing world with
  | nil => exact ⟨sound, start⟩
  | cons call rest ih =>
    obtain ⟨sound', held⟩ := (call.happened sound).preserves holds (fun _ => step) sound start
    exact ih sound' held

/-- **What the operations of a run uphold holds after it**, if it starts from sound books. -/
theorem play_upholds (holds : Books → Prop) {world : World} (calls : List Call)
    (each : ∀ call ∈ calls, Upholds holds call.run) (sound : Sound world.books)
    (start : holds world.books) : holds (play calls world).books := by
  induction calls generalizing world with
  | nil => exact start
  | cons call rest ih =>
    exact ih (fun later member => each later (List.mem_cons_of_mem _ member))
      ((call.happened sound).sound sound) (each call List.mem_cons_self world sound start)

/-- **What every deed preserves together with what is made known of it holds after every run** that
starts from sound books. -/
theorem play_tells (holds : Books → List Event → Prop)
    (step : ∀ {session kind before events after published}, Sound before →
      Announced session kind before events after → holds before published →
        holds after (published ++ events))
    {world : World} (calls : List Call) (sound : Sound world.books)
    (start : holds world.books world.published) :
    holds (play calls world).books (play calls world).published := by
  induction calls generalizing world with
  | nil => exact start
  | cons call rest ih =>
    have unfolded := call.unfolded sound
    exact ih (unfolded.happened.sound sound)
      (unfolded.preserves holds (fun _ => step) sound start)

/-- Every run leaves the books sound. -/
theorem play_sound (calls : List Call) {world : World} (sound : Sound world.books) :
    Sound (play calls world).books :=
  (play_preserves (fun _ => True) (fun _ _ _ => trivial) calls sound trivial).1

/-! ### A run that can be followed -/

/-- A hundred minor units. -/
def sampleAmount : Amount := ⟨100, by decide, by decide⟩

/-- A session at the epoch in which nothing goes wrong. -/
def sampleSession : Session := ⟨.epoch, .none, ⟨sampleAmount, sampleAmount⟩, (5000 : Nat)⟩

/-- The first wallet that fresh books open. -/
def sampleWallet : WalletId := ⟨⟨Uuid.firstIssued, by decide⟩⟩

/-- A deposit into that wallet. -/
def sampleDeposit (key : String) : Payments.MovementRequest :=
  ⟨sampleWallet, sampleAmount, key, none, none⟩

/-- The second wallet that fresh books open. -/
def sampleOther : WalletId := ⟨(Supply.ascending.issued? 1).getD sampleWallet.uuid⟩

/-- Owners of wallets, told by their number. -/
def sampleOwner (number : Nat) : UserId := ⟨(Uuid.ofNat? number).getD sampleWallet.uuid⟩

/-- So many minor units. -/
def sampleUnits (units : Int) : Amount := (Amount.ofInt? units).getD .zero

/-- A wallet is opened and a deposit is asked for twice under one key. -/
def sampleDeposits : List Call :=
  [.command sampleSession (.createWallet ⟨⟨7, by decide⟩⟩ .main "USD"),
    .command sampleSession (.deposit (sampleDeposit "first")),
    .command sampleSession (.deposit (sampleDeposit " first "))]

/-- A withdrawal of more than was deposited. -/
def sampleOverdraft : Call :=
  .command sampleSession (.withdraw ⟨sampleWallet, .greatest, "second", none, none⟩)

end Passbook.Operation
