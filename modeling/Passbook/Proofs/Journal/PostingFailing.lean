/-
**What adding lines to accounts fails for.**

* `Exceeds`: a total of an account would leave the range; `balanceAfter_failsOnly`: nothing else
  keeps lines from an account, since no total is below nothing and their difference stays in range;
* `Charted`: parents of accounts are accounts, and no total is below nothing;
* `Unbookable`: the causes that accounts give for taking no lines;
* `applyLines_failsOnly`: lines on accounts that are there are refused for one of these, or because
  the storage refuses to change an account.
-/

import Passbook.Proofs.Journal.Posting
import Passbook.Proofs.Store.Failing

namespace Passbook.Journal

open Passbook.Ledger (AccountBalance LedgerError Line)
open Passbook.Store
open Passbook.Verdict (FailsOnly)

/-! ### Accounts that take no lines -/

/-- A total of an account would leave the range with lines. -/
def Exceeds (row : AccountRow) (lines : List Line) : Prop :=
  9223372036854775807 < row.balance.debitTotal.units + debitsOn row.id lines ∨
    9223372036854775807 < row.balance.creditTotal.units + creditsOn row.id lines

/-- Parents of accounts are accounts, and no total is below nothing. -/
structure Charted (accounts : List AccountRow) : Prop where
  parents : ∀ row ∈ accounts, ∀ parent ∈ row.parent, parent ∈ accounts.map AccountRow.id
  debits : ∀ row ∈ accounts, 0 ≤ row.balance.debitTotal.units
  credits : ∀ row ∈ accounts, 0 ≤ row.balance.creditTotal.units

/-- The causes that accounts give for taking no lines: one that a line names is inactive, or a total
of it would leave the range. -/
inductive Unbookable (accounts : List AccountRow) (lines : List Line) : LedgerError → Prop
  | inactive {row : AccountRow} (member : row ∈ accounts)
      (mentioned : ∃ line ∈ lines, line.account = row.id) (status : row.status ≠ .active) :
      Unbookable accounts lines (.accountInactive row.id)
  | beyond {row : AccountRow} (member : row ∈ accounts)
      (mentioned : ∃ line ∈ lines, line.account = row.id) (exceeds : Exceeds row lines) :
      Unbookable accounts lines .amountOverflow

/-- Accounts that are active and have room take lines. -/
theorem not_unbookable {accounts : List AccountRow} {lines : List Line} {cause : LedgerError}
    (room : ∀ row ∈ accounts, row.status = .active ∧ ¬Exceeds row lines) :
    ¬Unbookable accounts lines cause := by
  intro unbookable
  cases unbookable with
  | inactive member _ inactive => exact inactive (room _ member).1
  | beyond member _ exceeds => exact (room _ member).2 exceeds

theorem balanceAfter_failsOnly {row : AccountRow} {lines : List Line}
    (debits : 0 ≤ row.balance.debitTotal.units) (credits : 0 ≤ row.balance.creditTotal.units)
    (sided : ∀ line ∈ lines, line.Sided) :
    FailsOnly (fun cause => cause = .amountOverflow ∧ Exceeds row lines)
      (balanceAfter row lines) := by
  unfold Exceeds
  rw [balanceAfter_eq, ← debits_filter, ← credits_filter]
  exact AccountBalance.applyAll_failsOnly debits credits fun line member =>
    sided line (List.mem_filter.mp member).1

variable {allowed : Halt JournalError → Prop} {books : Books} {session : Session}

theorem lockAccount_failsOnly (plain : books.strays = []) {id : AccountId}
    (present : id ∈ books.accounts.map AccountRow.id)
    (inactive : ∀ row ∈ books.accounts, row.id = id → row.status ≠ .active →
      allowed (.refused (.ledger (.accountInactive id)))) :
    FailsOnly allowed (lockAccount id books) := by
  refine Work.failsOnly_bind (Work.failsOnly_lookUp plain) fun row? _ looked => ?_
  obtain ⟨chosen, rfl⟩ := Work.of_lookUp looked
  refine Work.failsOnly_bind (Work.failsOnly_found fun none => ?_) fun row _ found => ?_
  · obtain ⟨row, member, named⟩ := List.mem_map.mp present
    exact absurd named (ne_of_account? plain (chosen.trans none) row member)
  · obtain ⟨is, rfl⟩ := Work.found_eq_ok.mp found
    obtain ⟨member, named⟩ := mem_of_account? (chosen.trans is)
    by_cases status : row.status ≠ .active
    · rw [if_pos status]
      exact Work.failsOnly_bind (.error (inactive row member named status)) fun _ _ _ =>
        Work.failsOnly_pure _
    · rw [if_neg status]
      exact Work.failsOnly_pure row

theorem lockAccounts_failsOnly (plain : books.strays = []) {ids : List AccountId}
    (present : ∀ id ∈ ids, id ∈ books.accounts.map AccountRow.id)
    (inactive : ∀ row ∈ books.accounts, row.id ∈ ids → row.status ≠ .active →
      allowed (.refused (.ledger (.accountInactive row.id)))) :
    FailsOnly allowed (lockAccounts ids books) := by
  induction ids with
  | nil => exact Work.failsOnly_pure _
  | cons id rest ih =>
    refine Work.failsOnly_bind (lockAccount_failsOnly plain (present id List.mem_cons_self)
      fun row member named status => ?_) fun row _ locked => ?_
    · rw [← named]
      exact inactive row member (named ▸ List.mem_cons_self) status
    · obtain ⟨_, _, _, rfl⟩ := of_lockAccount locked
      exact Work.failsOnly_bind (ih
        (fun other member => present other (List.mem_cons_of_mem _ member))
        fun other member later => inactive other member (List.mem_cons_of_mem _ later))
        fun _ _ _ => Work.failsOnly_pure _

theorem balancesAfter_failsOnly {lines : List Line} {rows : List AccountRow}
    (debits : ∀ row ∈ rows, 0 ≤ row.balance.debitTotal.units)
    (credits : ∀ row ∈ rows, 0 ≤ row.balance.creditTotal.units)
    (sided : ∀ line ∈ lines, line.Sided) :
    FailsOnly (fun cause => cause = .amountOverflow ∧ ∃ row ∈ rows, Exceeds row lines)
      (balancesAfter lines rows) := by
  induction rows with
  | nil => exact .ok []
  | cons row rest ih =>
    unfold balancesAfter
    refine FailsOnly.bind ((balanceAfter_failsOnly (debits row List.mem_cons_self)
      (credits row List.mem_cons_self) sided).mono fun cause is =>
        ⟨is.1, row, List.mem_cons_self, is.2⟩) fun _ _ => ?_
    refine FailsOnly.bind ((ih (fun other member => debits other (List.mem_cons_of_mem _ member))
      fun other member => credits other (List.mem_cons_of_mem _ member)).mono fun cause is => ?_)
      fun _ _ => .ok _
    obtain ⟨same, other, member, exceeds⟩ := is
    exact ⟨same, other, List.mem_cons_of_mem _ member, exceeds⟩

/-- An account that is there can be changed, unless the storage refuses, as long as it keeps its
identifier, code and parent. -/
theorem changeAccount_failsOnly (faults : Faults) (alter : AccountRow → AccountRow) {id : AccountId}
    (sound : Sound books) (parents : ∀ row ∈ books.accounts, ∀ parent ∈ row.parent,
      parent ∈ books.accounts.map AccountRow.id)
    (present : id ∈ books.accounts.map AccountRow.id) (sameId : ∀ row, (alter row).id = row.id)
    (sameCode : ∀ row, (alter row).code = row.code)
    (sameParent : ∀ row, (alter row).parent = row.parent) :
    FailsOnly (fun fault => fault = .refused ∧ faults.refuses .accounts .update = true)
      (changeOne faults accountSheet (fun row => row.id == id) alter books) := by
  have ids : (altered AccountRow.id id alter books.accounts).map AccountRow.id =
      books.accounts.map AccountRow.id := map_altered _ sameId
  have codes : (altered AccountRow.id id alter books.accounts).map AccountRow.code =
      books.accounts.map AccountRow.code := map_altered _ sameCode
  obtain ⟨row, member, named⟩ := List.mem_map.mp present
  refine changeOne_failsOnly ⟨row, member, beq_iff_eq.mpr named⟩ (fun _ _ _ => rfl) ?_
    fun row member _ => ?_
  · show allDistinct _ (books.accounts.map _) = true
    rw [map_eq_altered, accountSheet_allDistinct sound.plain, ids, codes]
    exact ⟨sound.accountIds, sound.codes⟩
  · refine (accountSheet_isLinked (by exact sound.plain)).mpr fun parent link => ?_
    show ∃ other ∈ books.accounts.map _, AccountRow.id other = parent
    rw [sameParent] at link
    rw [map_eq_altered, ← List.mem_map, ids]
    exact parents row member parent link

theorem saveBalances_failsOnly {balances : List (AccountId × AccountBalance)} (sound : Sound books)
    (parents : ∀ row ∈ books.accounts, ∀ parent ∈ row.parent,
      parent ∈ books.accounts.map AccountRow.id)
    (present : ∀ id ∈ balances.map Prod.fst, id ∈ books.accounts.map AccountRow.id)
    (refused : session.faults.refuses .accounts .update = true →
      allowed (.refused (.storage .refused))) :
    FailsOnly allowed (saveBalances session balances books) := by
  induction balances generalizing books with
  | nil => exact Work.failsOnly_pure _
  | cons first rest ih =>
    obtain ⟨id, balance⟩ := first
    refine Work.failsOnly_bind (Work.failsOnly_stored ((changeAccount_failsOnly session.faults
      (fun row => { row with balance := balance, updatedAt := session.now }) sound parents
      (present id List.mem_cons_self) (fun _ => rfl) (fun _ => rfl) fun _ => rfl).mono
        fun fault ⟨same, refuses⟩ => ?_)) fun _ after saved => ?_
    · rw [same]
      exact refused refuses
    · have left := (of_changeOne (Work.stored_eq_ok.mp saved)).2
      have accounts : after.accounts = altered AccountRow.id id
          (fun row => { row with balance := balance, updatedAt := session.now })
          books.accounts := by
        rw [left]
        rfl
      have ids : after.accounts.map AccountRow.id = books.accounts.map AccountRow.id := by
        rw [accounts]
        exact map_altered AccountRow.id fun _ => rfl
      have sound' : Sound after := by
        rw [left]
        exact sound.mapAccounts (fun row => by split <;> rfl) fun row => by split <;> rfl
      refine ih sound' (fun row member parent link => ?_) fun other member => ?_
      · rw [accounts] at member
        obtain ⟨old, there, rfl⟩ := mem_altered.mp member
        rw [ids]
        refine parents old there parent ?_
        split at link <;> exact link
      · rw [ids]
        exact present other (List.mem_cons_of_mem _ member)

/-- **Adding lines to accounts that are there** fails only because one is inactive or has no room,
or because the storage refuses. -/
theorem applyLines_failsOnly {lines : List Line} (sound : Sound books)
    (charted : Charted books.accounts) (sided : ∀ line ∈ lines, line.Sided)
    (present : ∀ line ∈ lines, line.account ∈ books.accounts.map AccountRow.id)
    (unbookable : ∀ cause, Unbookable books.accounts lines cause →
      allowed (.refused (.ledger cause)))
    (refused : session.faults.refuses .accounts .update = true →
      allowed (.refused (.storage .refused))) :
    FailsOnly allowed (applyLines session lines books) := by
  have there : ∀ id ∈ accountsOf lines, id ∈ books.accounts.map AccountRow.id := by
    intro id mentioned
    obtain ⟨line, member, rfl⟩ := mem_accountsOf.mp mentioned
    exact present line member
  refine Work.failsOnly_bind (lockAccounts_failsOnly sound.plain there fun row member mentioned
    status => unbookable _ (.inactive member (mem_accountsOf.mp mentioned) status))
    fun rows _ locked => ?_
  obtain ⟨named, members, rfl⟩ := of_lockAccounts locked
  have mentioned : ∀ row ∈ rows, ∃ line ∈ lines, line.account = row.id := by
    intro row member
    refine mem_accountsOf.mp ?_
    rw [← named]
    exact List.mem_map_of_mem member
  refine Work.failsOnly_bind (Work.failsOnly_verdict (FailsOnly.mapError
    ((balancesAfter_failsOnly (fun row member => charted.debits row (members row member).1)
      (fun row member => charted.credits row (members row member).1) sided).mono ?_)))
    fun balances _ summed => ?_
  · rintro _ ⟨rfl, row, member, exceeds⟩
    exact unbookable _ (.beyond (members row member).1 (mentioned row member) exceeds)
  · obtain ⟨is, rfl⟩ := Work.verdict_eq_ok.mp summed
    obtain ⟨keys, _⟩ := of_balancesAfter (Verdict.mapError_eq_ok.mp is)
    refine saveBalances_failsOnly sound charted.parents (fun id member => ?_) refused
    rw [keys, named] at member
    exact there id member

end Passbook.Journal
