/-
**Changing accounts and linking wallets in turns with others.**

Whoever changes an account reads it and writes it back later; whoever provides a wallet with an
account reads the wallet, finds or opens the account in the steps of an errand, and writes the link
later. Nothing is held in between, and what was read may be out of date when it is written.

* `Rewriter`: a call that does one or the other; `rewriting`: its steps;
* `go_change`, `go_provide`: a call that is not interrupted is the operation by itself;
* `rewriter_happened`: a step changes an account, opens one or links a wallet, or does nothing.
-/

import Passbook.Proofs.Turns.Draft
import Passbook.Proofs.Turns.Ensuring

namespace Passbook.Turns

open Passbook.Chart
open Passbook.Holdings (HoldingError getWallet provisionInStages provisionWallet)
open Passbook.Ledger (LedgerAccount NewAccount)
open Passbook.Operation (DeedKind Happened)
open Passbook.Store
open Passbook.Store.Action (Ends)

/-! ### Rewriters -/

/-- What is asked for. -/
inductive Rewrite where
  /-- An account is to bear another name or status. -/
  | change (account : AccountId) (wanted : AccountChange)
  /-- A wallet is to be provided with an account. -/
  | provide (wallet : WalletId)

/-- How far a call has come. -/
inductive Rewriter where
  /-- The account or the wallet is to be read. -/
  | coming (wanted : Rewrite)
  /-- The account was read, and its change is to be written. -/
  | changing (seen : AccountRow) (wanted : AccountChange)
  /-- The wallet was read, and its account is to be found or opened and then linked. -/
  | asking (seen : WalletRow) (stage : Errand.Stage)
  | changed (result : Except AccountError AccountRow)
  | provided (result : Except HoldingError LedgerAccount)

namespace Rewriter

/-- After an account was read. -/
def readAccount (wanted : AccountChange) : Except AccountError AccountRow → Rewriter
  | .ok row => .changing row wanted
  | .error cause => .changed (.error cause)

/-- After a wallet was read. -/
def readWallet : Except HoldingError WalletRow → Rewriter
  | .ok row => .asking row .asking
  | .error cause => .provided (.error cause)

/-- Links the wallet, unless it bore the link when it was read. -/
def link (session : Session) (seen : WalletRow) (account : LedgerAccount) :
    Action HoldingError LedgerAccount := do
  if seen.ledgerAccount ≠ some account.id then
    .atomically session (writeLink session (linking account.id session.now seen))
  pure account

/-- The account that stands for a wallet that was read. -/
def account (seen : WalletRow) : NewAccount := walletAccount seen.id seen.currency

/-- The next step. -/
def next (session : Session) (world : World) : Rewriter → Rewriter × World
  | .coming (.change account wanted) =>
    let read := getAccount session account world
    (readAccount wanted read.1, read.2)
  | .coming (.provide wallet) =>
    let read := getWallet session wallet world
    (readWallet read.1, read.2)
  | .changing seen wanted =>
    let wrote := Action.atomically session
      (writeChange session (Turns.changing wanted session.now seen)) world
    (.changed wrote.1, wrote.2)
  | .asking seen (.ended (.ok account)) =>
    let wrote := link session seen account world
    (.provided wrote.1, wrote.2)
  | .asking _ (.ended (.error problem)) => (.provided (.error (.ledger problem)), world)
  | .asking seen stage =>
    let went := stage.next session (account seen) world
    (.asking seen went.1, went.2)
  | .changed result => (.changed result, world)
  | .provided result => (.provided result, world)

end Rewriter

/-- Changing accounts and providing wallets with accounts step by step. -/
def rewriting : Course Rewrite Rewriter where
  start := .coming
  next session caller world := caller.next session world

variable {session : Session} {world : World}

/-! ### Rewriters that are not interrupted -/

/-- **A change that is not interrupted** is the operation by itself. -/
theorem go_change (session : Session) (id : AccountId) (wanted : AccountChange) (world : World) :
    rewriting.go session 2 (rewriting.start (.change id wanted), world) =
      (.changed (updateAccount session id wanted world).1,
        (updateAccount session id wanted world).2) := by
  have reads : rewriting.next session (rewriting.start (.change id wanted)) world =
      (.readAccount wanted (getAccount session id world).1, (getAccount session id world).2) := rfl
  rw [Course.go, reads, updateAccount]
  cases read : getAccount session id world with
  | mk result world =>
  cases result with
  | error cause =>
    rw [Action.bind_of_error read]
    rfl
  | ok seen =>
    rw [Action.bind_of_ok read, ← writeChange_eq]
    rfl

/-- A call that has provided a wallet takes no more steps. -/
theorem go_provided (count : Nat) (result : Except HoldingError LedgerAccount) :
    rewriting.go session count (.provided result, world) = (.provided result, world) := by
  induction count with
  | zero => rfl
  | succ count ih => exact ih

/-- What is done with the answer to an errand. -/
def Rewriter.conclude (session : Session) (seen : WalletRow) (world : World) :
    Except Problem LedgerAccount → Rewriter × World
  | .ok account => (.provided (link session seen account world).1,
      (link session seen account world).2)
  | .error problem => (.provided (.error (.ledger problem)), world)

/-- While the account of a wallet is asked for, the steps are those of the errand. The one after
them links the wallet. -/
theorem go_asking (seen : WalletRow) {stage : Errand.Stage} {after : World}
    {result : Except Problem LedgerAccount} (count : Nat)
    (went : ensuring.go session count (⟨Rewriter.account seen, stage⟩, world) =
      (⟨Rewriter.account seen, .ended result⟩, after)) :
    rewriting.go session (count + 1) (.asking seen stage, world) =
      Rewriter.conclude session seen after result := by
  -- the errand may have ended before, and the link is written at once then
  have concluded : ∀ count world result,
      rewriting.go session (count + 1) (.asking seen (.ended result), world) =
        Rewriter.conclude session seen world result := by
    intro count world result
    cases result <;> exact go_provided count _
  induction count generalizing stage world with
  | zero =>
    cases went
    exact concluded 0 _ _
  | succ count ih =>
    cases stage with
    | ended result =>
      rw [go_ended] at went
      cases went
      exact concluded _ _ _
    | _ => exact ih went

/-- **Providing a wallet without interruption** is the operation by itself. -/
theorem go_provide (session : Session) (wallet : WalletId) (world : World) :
    rewriting.go session 7 (rewriting.start (.provide wallet), world) =
      (.provided (provisionWallet session (port session) wallet world).1,
        (provisionWallet session (port session) wallet world).2) := by
  have reads : rewriting.next session (rewriting.start (.provide wallet)) world =
      (.readWallet (getWallet session wallet world).1, (getWallet session wallet world).2) := rfl
  rw [Course.go, reads, provisionWallet, provisionInStages]
  rcases Holdings.getWallet_looks wallet world with
    ⟨cause, read⟩ | ⟨seen, after, read, found, still⟩
  · rw [Action.bind_of_error read, read]
    exact go_provided 6 _
  · obtain rfl := (mem_of_wallet? found).2
    rw [Action.bind_of_ok read, read]
    have went := go_ensuring session (Rewriter.account seen) after
    have asks : ∀ answer left, ensureAccount (port session) (Rewriter.account seen) after =
        (answer, left) →
          Holdings.asked (ensureAccount (port session) (walletAccount seen.id seen.currency)) after =
            (answer.mapError .ledger, left) := by
      intro answer left asked
      rw [Holdings.asked, show ensureAccount (port session) (walletAccount _ _) after = _ from asked]
    cases asked : ensureAccount (port session) (Rewriter.account seen) after with
    | mk answer left =>
    rw [asked] at went
    refine (go_asking seen 5 went).trans ?_
    cases answer with
    | error problem =>
      rw [Action.bind_of_error (asks _ _ asked)]
      rfl
    | ok account =>
      rw [Action.bind_of_ok (asks _ _ asked)]
      simp only [Rewriter.conclude, Rewriter.link, writeLink_eq]

/-! ### What a step does -/

/-- An account that is to be added was found valid. -/
def Errand.Stage.Judged (input : NewAccount) : Errand.Stage → Prop
  | .uncoded | .rooted => input.validate = .ok ()
  | _ => True

theorem judged_refused {α : Type} {input : NewAccount} {onward : α → Errand.Stage}
    (cause : AccountError) : (Errand.Stage.heed onward (.error cause)).Judged input := by
  rw [Errand.Stage.heed]
  by_cases conflict : cause.problem.category = .conflict
  · rw [if_pos conflict]
    trivial
  · rw [if_neg conflict]
    trivial

/-- Whoever looks at the code of an account before it is opened has found the account valid. -/
theorem ensureUncoded_looks (session : Session) (input : NewAccount) :
    Ends (ensureUncoded session input) fun world _ after =>
      input.validate = .ok () ∧ after = world := by
  unfold ensureUncoded
  refine ((Ends.verdict _).after fun _ => (findByCode_looks _).after fun row =>
    show Ends _ fun world _ after => after = world from ?_).mono ?_
  · cases row with
    | none => exact (Ends.pure ()).mono fun _ _ _ did => did.2
    | some row => exact .throw _
  · rintro world _ after ⟨_, valid, _, _, same⟩
    exact ⟨Verdict.mapError_eq_ok.mp valid, same⟩

/-- **A step of an errand** opens an account, or does nothing. -/
theorem errand_happened (session : Session) {input : NewAccount} {stage : Errand.Stage}
    (sound : Sound world.books) (judged : stage.Judged input) :
    Happened [.accountOpened] world.books (stage.next session input world).2.books ∧
      (stage.next session input world).1.Judged input := by
  have finds := find_leaves session input.code world
  cases stage with
  | asking =>
    simp only [Errand.Stage.next, finds]
    refine ⟨.nothing, ?_⟩
    rcases ((port session).find input.code world).1 with problem | account | account <;> trivial
  | absent =>
    simp only [Errand.Stage.next]
    rcases ensureUncoded_looks session input world with
      ⟨cause, same⟩ | ⟨_, after, same, valid, still⟩
    · rw [same]
      exact ⟨.nothing, judged_refused cause⟩
    · rw [same, still]
      exact ⟨.nothing, valid⟩
  | uncoded =>
    simp only [Errand.Stage.next]
    have looks : Ends (ensureParent session input.parent) _ := ensureParent_looks input.parent
    rcases looks world with ⟨cause, same⟩ | ⟨_, after, same, _, still⟩
    · rw [same]
      exact ⟨.nothing, judged_refused cause⟩
    · rw [same, still]
      exact ⟨.nothing, judged⟩
  | rooted =>
    simp only [Errand.Stage.next]
    have opens : Ends (addAccount session input)
        (Action.Leaves (Opened session input) fun _ => []) := Ends.leaves session of_insertAccount
    rcases opens world with ⟨cause, same⟩ | ⟨row, after, same, left⟩
    · rw [same]
      exact ⟨.nothing, judged_refused cause⟩
    · rw [same]
      exact ⟨.one (.accountOpened judged (left.changed sound)) List.mem_cons_self,
        trivial⟩
  | beaten =>
    simp only [Errand.Stage.next, finds]
    exact ⟨.nothing, trivial⟩
  | ended result => exact ⟨.nothing, trivial⟩

/-- The kinds of deeds that steps may do. -/
def rewritingKinds : List DeedKind := [.accountChanged, .accountOpened, .linked]

/-- An account that is to be added for a wallet was found valid. -/
def Rewriter.Judged : Rewriter → Prop
  | .asking seen stage => stage.Judged (account seen)
  | _ => True

/-- While the account of a wallet is asked for, a step is one of the errand. -/
theorem next_asking {seen : WalletRow} {stage : Errand.Stage}
    (under : ∀ result, stage ≠ .ended result) :
    rewriting.next session (.asking seen stage) world =
      (.asking seen (stage.next session (Rewriter.account seen) world).1,
        (stage.next session (Rewriter.account seen) world).2) := by
  cases stage with
  | ended result => exact absurd rfl (under result)
  | _ => simp only [rewriting, Rewriter.next]

/-- Linking a wallet links it, or does nothing. -/
theorem link_happened (seen : WalletRow) (account : LedgerAccount) (sound : Sound world.books) :
    Happened rewritingKinds world.books (Rewriter.link session seen account world).2.books := by
  rw [Rewriter.link, writeLink_eq]
  by_cases already : seen.ledgerAccount = some account.id
  · rw [if_neg (not_not_intro already)]
    exact .nothing
  · rw [if_pos already]
    have links : Ends (Action.atomically session (Holdings.linkAccount session seen.id account.id))
        (Action.Leaves (fun before _ after => Holdings.Linked session seen.id account.id before after)
          fun _ => []) := Ends.leaves session Holdings.of_linkAccount
    rcases links world with ⟨cause, same⟩ | ⟨_, after, same, left⟩
    · rw [Action.bind_of_error same]
      exact .nothing
    · rw [Action.bind_of_ok same]
      exact .one (.linked (left.changed sound)) (by decide)

/-- **A step changes an account, opens one or links a wallet, or does nothing.** -/
theorem rewriter_happened (session : Session) {caller : Rewriter} (sound : Sound world.books)
    (judged : caller.Judged) :
    Happened rewritingKinds world.books (rewriting.next session caller world).2.books ∧
      (rewriting.next session caller world).1.Judged := by
  cases caller with
  | coming wanted =>
    cases wanted with
    | change id wanted =>
      have left : (getAccount session id world).2 = world := (getAccount_looks id).left world
      simp only [rewriting, Rewriter.next, left]
      refine ⟨.nothing, ?_⟩
      cases (getAccount session id world).1 <;> trivial
    | provide wallet =>
      have left : (getWallet session wallet world).2 = world :=
        (Holdings.getWallet_looks wallet).left world
      simp only [rewriting, Rewriter.next, left]
      refine ⟨.nothing, ?_⟩
      cases (getWallet session wallet world).1 <;> trivial
  | changing seen wanted =>
    simp only [rewriting, Rewriter.next, writeChange_eq]
    have changes : Ends (Action.atomically session (writeAccount session seen.id wanted))
        (Action.Leaves (Changed session seen.id wanted) fun _ => []) :=
      Ends.leaves session fun _ => of_writeAccount
    rcases changes world with ⟨cause, same⟩ | ⟨row, after, same, left⟩
    · rw [same]
      exact ⟨.nothing, trivial⟩
    · rw [same]
      exact ⟨.one (.accountChanged (left.changed sound)) (by decide), trivial⟩
  | asking seen stage =>
    by_cases ended : ∃ result, stage = .ended result
    · obtain ⟨result, rfl⟩ := ended
      cases result with
      | error problem => exact ⟨.nothing, trivial⟩
      | ok account => exact ⟨link_happened seen account sound, trivial⟩
    · obtain ⟨opened, judged⟩ := errand_happened session sound judged
      rw [next_asking fun result same => ended ⟨result, same⟩]
      exact ⟨opened.mono (by decide), judged⟩
  | changed result => exact ⟨.nothing, trivial⟩
  | provided result => exact ⟨.nothing, trivial⟩

end Passbook.Turns
