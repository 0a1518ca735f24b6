/-
**What providing a wallet with an account leaves.**

Finding or opening the account and linking it to the wallet are two units of work, each under a
session of its own. When the second is refused or cannot reach the storage, the first stays.

* `linkAccount_eq_ok_of_allowed`: the link of a wallet that is there is refused by the storage only;
* `Provisioned`: how the operation may go; `Provisioned.keeps`: what its two parts keep is kept;
* `provisionInStages_cases`: it goes so, whatever the ledger.
-/

import Passbook.Proofs.Chart.Port
import Passbook.Proofs.Holdings.Wallets

namespace Passbook.Holdings

open Passbook.Chart (LedgerPort)
open Passbook.Ledger (LedgerAccount)
open Passbook.Store
open Passbook.Store.Action (Ends Leaves)
open Passbook.Verdict (FailsOnly)

/-- The link of a wallet that is there is written, unless the storage refuses it. -/
theorem linkAccount_eq_ok_of_allowed {session : Session} {books : Books} {row : WalletRow}
    (account : AccountId) (sound : Sound books) (member : row ∈ books.wallets)
    (allowed : session.faults.refuses .wallets .update = false) :
    ∃ after, linkAccount session row.id account books = .ok ((), after) := by
  have fails : FailsOnly
      (fun fault => fault = .refused ∧ session.faults.refuses .wallets .update = true)
      (changeOne session.faults walletSheet (fun other => other.id == row.id)
        (linked session.now account) books) :=
    changeWallet_failsOnly _ _ sound member (sound.fits row member) (fun _ => rfl) fun _ => rfl
  cases ran : changeOne session.faults walletSheet (fun other => other.id == row.id)
      (linked session.now account) books with
  | error fault =>
    rw [(fails fault ran).2] at allowed
    cases allowed
  | ok outcome => exact ⟨outcome.2, Work.stored_eq_ok.mpr ran⟩

/-- The link of a wallet that is there is written, unless the storage refuses it or is out of
reach. -/
theorem denied_of_link {session : Session} {world after : World} {row : WalletRow}
    {account : AccountId} {cause : HoldingError} (sound : Sound world.books)
    (member : row ∈ world.books.wallets)
    (failed : Action.atomically session (linkAccount session row.id account) world =
      (.error cause, after)) :
    session.faults.blocked ∨ session.faults.refuses .wallets .update := by
  by_contra denied
  obtain ⟨reached, allowed⟩ := not_or.mp denied
  rw [Bool.not_eq_true] at reached allowed
  obtain ⟨_, linked⟩ := linkAccount_eq_ok_of_allowed account sound member allowed
  rw [Action.atomically_of_ok reached linked] at failed
  cases failed

/-- How providing a wallet with an account may go, the link being written under a session of its
own. -/
inductive Provisioned (linking : Session) (id : WalletId)
    (ensured : WalletRow → Books → LedgerAccount → Books → Prop) (world : World) :
    Except HoldingError LedgerAccount × World → Prop
  /-- Nothing is left. -/
  | refused (cause : HoldingError) : Provisioned linking id ensured world (.error cause, world)
  /-- The account is there and the link is not written. -/
  | halfway {wallet : WalletRow} {account : LedgerAccount} {middle : World} {cause : HoldingError}
      (found : world.books.wallet? id = some wallet)
      (asked : Leaves (ensured wallet) (fun _ => []) world account middle)
      (other : wallet.ledgerAccount ≠ some account.id)
      (failed : Action.atomically linking (linkAccount linking id account.id) middle =
        (.error cause, middle)) :
      Provisioned linking id ensured world (.error cause, middle)
  /-- The wallet was linked to the account before. -/
  | kept {wallet : WalletRow} {account : LedgerAccount} {middle : World}
      (found : world.books.wallet? id = some wallet)
      (asked : Leaves (ensured wallet) (fun _ => []) world account middle)
      (already : wallet.ledgerAccount = some account.id) :
      Provisioned linking id ensured world (.ok account, middle)
  /-- The wallet is linked to the account. -/
  | linked {wallet : WalletRow} {account : LedgerAccount} {middle after : World}
      (found : world.books.wallet? id = some wallet)
      (asked : Leaves (ensured wallet) (fun _ => []) world account middle)
      (other : wallet.ledgerAccount ≠ some account.id)
      (linked : Leaves (fun before _ after => Linked linking id account.id before after)
        (fun _ => []) middle () after) :
      Provisioned linking id ensured world (.ok account, after)

/-- **What finding the account and linking it keep is kept**, however providing a wallet went. -/
theorem Provisioned.keeps {linking : Session} {id : WalletId}
    {ensured : WalletRow → Books → LedgerAccount → Books → Prop} {world : World}
    {outcome : Except HoldingError LedgerAccount × World} {holds : Books → Prop}
    (provisioned : Provisioned linking id ensured world outcome) (sound : Sound world.books)
    (held : holds world.books)
    (finds : ∀ {wallet account after}, wallet ∈ world.books.wallets → wallet.id = id →
      ensured wallet world.books account after → Sound after ∧ holds after ∧
        ∀ later, Linked linking id account.id after later → holds later) :
    holds outcome.2.books := by
  have first : ∀ {wallet account} {middle : World}, world.books.wallet? id = some wallet →
      Leaves (ensured wallet) (fun _ => []) world account middle → Sound middle.books ∧
        holds middle.books ∧ ∀ later, Linked linking id account.id middle.books later →
          holds later := by
    intro wallet account middle found did
    obtain ⟨member, named⟩ := mem_of_wallet? found
    exact finds member named (did.changed sound)
  cases provisioned with
  | refused _ => exact held
  | halfway found did _ _ => exact (first found did).2.1
  | kept found did _ => exact (first found did).2.1
  | linked found did _ linked =>
    obtain ⟨sound', _, links⟩ := first found did
    exact links _ (linked.changed sound')

/-- The account that a ledger answers with, as providing a wallet sees it. -/
theorem asked_run {α : Type} {answer : StateM World (Except Problem α)} {world after : World}
    {result : Except Problem α} (same : ExceptT.mk answer world = (result, after)) :
    asked answer world = (result.mapError .ledger, after) := by
  unfold asked
  rw [show answer world = _ from same]

/-- **Providing a wallet with an account** goes one of these ways, whatever the ledger. -/
theorem provisionInStages_cases (reading linking : Session) (port : LedgerPort (StateM World))
    (id : WalletId) {ensured : WalletRow → Books → LedgerAccount → Books → Prop}
    (asks : ∀ wallet : WalletRow,
      Ends (ExceptT.mk (Chart.ensureAccount port (Chart.walletAccount id wallet.currency)))
        (Leaves (ensured wallet) fun _ => [])) (world : World) :
    Provisioned linking id ensured world (provisionInStages reading linking port id world) := by
  unfold provisionInStages
  rcases getWallet_looks id world with ⟨cause, same⟩ | ⟨wallet, middle, same, found, still⟩
  · rw [Action.bind_of_error same]
    exact .refused cause
  · subst still
    rw [Action.bind_of_ok same]
    rcases asks wallet middle with ⟨problem, same⟩ | ⟨account, middle', same, done⟩
    · rw [Action.bind_of_error (asked_run same)]
      exact .refused _
    · rw [Action.bind_of_ok (asked_run same)]
      by_cases already : wallet.ledgerAccount = some account.id
      · rw [if_neg (not_not_intro already)]
        exact .kept found done already
      · rw [if_pos already]
        have links : Ends (Action.atomically linking (linkAccount linking id account.id))
            (Leaves (fun before _ after => Linked linking id account.id before after)
              fun _ => []) := Ends.leaves linking of_linkAccount
        rcases links middle' with ⟨cause, same⟩ | ⟨_, after, same, linked⟩
        · rw [Action.bind_of_error same]
          exact .halfway found done already same
        · rw [Action.bind_of_ok same]
          exact .linked found done already linked

/-- Providing a wallet with an account of the chart. -/
theorem provisionHere_cases (reading opening linking : Session) (id : WalletId) (world : World) :
    Provisioned linking id
      (fun row => Chart.Ensured opening (Chart.walletAccount id row.currency)) world
      (provisionInStages reading linking (Chart.port opening) id world) :=
  provisionInStages_cases reading linking (Chart.port opening) id
    (fun _ => Chart.ensureAccount_ends opening _) world

/-- Providing a wallet with an account of a ledger that is kept elsewhere. -/
theorem provisionElsewhere_cases (reading linking : Session)
    (find : String → Except Problem (Option LedgerAccount))
    (create : Ledger.NewAccount → Except Problem LedgerAccount) (id : WalletId) (world : World) :
    Provisioned linking id (fun _ => Unchanged) world
      (provisionInStages reading linking (LedgerPort.elsewhere find create) id world) :=
  provisionInStages_cases reading linking (LedgerPort.elsewhere find create) id
    (fun _ => (Chart.elsewhere_looks find create _).looks) world

/-- Where no account can be opened nothing is left. -/
theorem provisionInStages_of_blocked {opening : Session} (blocked : opening.faults.blocked = true)
    (reading linking : Session) (id : WalletId) (world : World) :
    (provisionInStages reading linking (Chart.port opening) id world).2 = world := by
  unfold provisionInStages
  rcases getWallet_looks id world with ⟨cause, same⟩ | ⟨wallet, middle, same, -, still⟩
  · rw [Action.bind_of_error same]
  · subst still
    obtain ⟨_, failed⟩ := Chart.ensureAccount_of_blocked blocked
      (Chart.walletAccount id wallet.currency) middle
    rw [Action.bind_of_ok same, Action.bind_of_error (asked_run failed)]

end Passbook.Holdings
