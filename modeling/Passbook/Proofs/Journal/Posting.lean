/-
**What adding lines to accounts leaves.**

* `accountsOf_sorted`, `mem_accountsOf`: the accounts that lines name, each once;
* `posted`: an account after lines, `Bookable`: lines that every account takes;
* `of_applyLines`: lines that are added leave every account posted, those that no line names being
  as they were;
* `posted_balance`: the totals grow by what the lines on the account come to.
-/

import Passbook.Journal.Entries
import Passbook.Proofs.Ledger.Balance
import Passbook.Proofs.Store.Leaves
import Passbook.Proofs.Store.Tables

namespace Passbook.Journal

open Passbook.Calendar (Instant)
open Passbook.Ledger (AccountBalance Line)
open Passbook.Store

/-! ### The accounts that lines name -/

theorem id_lt_trans {kind : IdKind} {first second third : Id kind} (below : first < second)
    (below' : second < third) : first < third :=
  Nat.lt_trans below below'

theorem id_lt_of_not {kind : IdKind} {first second : Id kind} (other : first ≠ second)
    (notBelow : ¬first < second) : second < first := by
  refine Nat.lt_of_le_of_ne (Nat.not_lt.mp notBelow) fun same => other ?_
  exact Id.ext (Uuid.ext same.symm)

theorem mem_insertAscending {id other : AccountId} {ids : List AccountId} :
    other ∈ insertAscending id ids ↔ other = id ∨ other ∈ ids := by
  induction ids with
  | nil => simp [insertAscending]
  | cons first rest ih =>
    unfold insertAscending
    by_cases same : id = first
    · rw [if_pos same, same]
      simp
    · rw [if_neg same]
      by_cases below : id < first
      · rw [if_pos below]
        simp
      · rw [if_neg below, List.mem_cons, ih, List.mem_cons]
        tauto

theorem insertAscending_sorted {id : AccountId} {ids : List AccountId}
    (sorted : ids.Pairwise (· < ·)) : (insertAscending id ids).Pairwise (· < ·) := by
  induction ids with
  | nil => simp [insertAscending]
  | cons first rest ih =>
    obtain ⟨least, later⟩ := List.pairwise_cons.mp sorted
    unfold insertAscending
    by_cases same : id = first
    · rw [if_pos same]
      exact sorted
    · rw [if_neg same]
      by_cases below : id < first
      · rw [if_pos below]
        refine List.pairwise_cons.mpr ⟨fun other member => ?_, sorted⟩
        rcases List.mem_cons.mp member with rfl | present
        · exact below
        · exact id_lt_trans below (least other present)
      · rw [if_neg below]
        refine List.pairwise_cons.mpr ⟨fun other member => ?_, ih later⟩
        rcases mem_insertAscending.mp member with rfl | present
        · exact id_lt_of_not same below
        · exact least other present

/-- The accounts that lines name are taken in ascending order. -/
theorem accountsOf_sorted (lines : List Line) : (accountsOf lines).Pairwise (· < ·) := by
  induction lines with
  | nil => exact List.Pairwise.nil
  | cons line rest ih => exact insertAscending_sorted ih

theorem accountsOf_nodup (lines : List Line) : (accountsOf lines).Nodup :=
  (accountsOf_sorted lines).imp fun {first second} below same => by
    rw [same] at below
    exact Nat.lt_irrefl _ below

theorem mem_accountsOf {id : AccountId} {lines : List Line} :
    id ∈ accountsOf lines ↔ ∃ line ∈ lines, line.account = id := by
  induction lines with
  | nil => simp [accountsOf]
  | cons line rest ih =>
    show id ∈ insertAscending line.account (accountsOf rest) ↔ _
    rw [mem_insertAscending, ih, List.exists_mem_cons_iff]
    exact or_congr_left eq_comm

/-! ### Accounts after lines -/

/-- An account after lines. One that no line names stays as it is. -/
def posted (now : Instant) (lines : List Line) (row : AccountRow) : AccountRow :=
  match balanceAfter row lines with
  | .ok balance =>
    if row.id ∈ accountsOf lines then { row with balance := balance, updatedAt := now } else row
  | .error _ => row

section Posted

variable {now : Instant} {lines : List Line} {row : AccountRow}

theorem posted_of_mem {balance : AccountBalance} (mentioned : row.id ∈ accountsOf lines)
    (is : balanceAfter row lines = .ok balance) :
    posted now lines row = { row with balance := balance, updatedAt := now } := by
  unfold posted
  rw [is]
  exact if_pos mentioned

theorem posted_of_not_mem (untouched : row.id ∉ accountsOf lines) : posted now lines row = row := by
  unfold posted
  cases balanceAfter row lines with
  | error cause => rfl
  | ok balance => exact if_neg untouched

/-- What of an account its balance does not touch stays. -/
theorem posted_keeps {α : Type} (view : AccountRow → α)
    (keeps : ∀ balance, view { row with balance := balance, updatedAt := now } = view row) :
    view (posted now lines row) = view row := by
  by_cases mentioned : row.id ∈ accountsOf lines
  · cases is : balanceAfter row lines with
    | error cause =>
      unfold posted
      rw [is]
    | ok balance => rw [posted_of_mem mentioned is, keeps]
  · rw [posted_of_not_mem mentioned]

theorem posted_id : (posted now lines row).id = row.id := posted_keeps AccountRow.id fun _ => rfl

theorem posted_code : (posted now lines row).code = row.code :=
  posted_keeps AccountRow.code fun _ => rfl

theorem posted_accountType : (posted now lines row).accountType = row.accountType :=
  posted_keeps AccountRow.accountType fun _ => rfl

end Posted

/-- Lines that every account takes: each that is named is there, active, and has room. -/
def Bookable (accounts : List AccountRow) (lines : List Line) : Prop :=
  ∀ id ∈ accountsOf lines, ∃ row ∈ accounts, row.id = id ∧ row.status = .active ∧
    ∃ balance, balanceAfter row lines = .ok balance

variable {session : Session} {before after : Books}

theorem of_lockAccount {id : AccountId} {row : AccountRow}
    (ran : lockAccount id before = .ok (row, after)) :
    row ∈ before.accounts ∧ row.id = id ∧ row.status = .active ∧ before = after := by
  simp only [lockAccount, Work.bind_eq_ok, Work.found_eq_ok] at ran
  obtain ⟨_, _, looked, found, _, ⟨is, rfl⟩, rest⟩ := ran
  obtain ⟨chosen, rfl⟩ := Work.of_lookUp looked
  obtain ⟨member, named⟩ := mem_of_account? (chosen.trans is)
  by_cases inactive : found.status ≠ .active
  · rw [if_pos inactive] at rest
    obtain ⟨_, _, refused, _⟩ := Work.bind_eq_ok.mp rest
    exact (Work.throw_eq_ok.mp refused).elim
  · rw [if_neg inactive] at rest
    obtain ⟨rfl, rfl⟩ := Work.pure_eq_ok.mp rest
    exact ⟨member, named, not_not.mp inactive, rfl⟩

theorem of_lockAccounts {ids : List AccountId} {rows : List AccountRow}
    (ran : lockAccounts ids before = .ok (rows, after)) :
    rows.map AccountRow.id = ids ∧
      (∀ row ∈ rows, row ∈ before.accounts ∧ row.status = .active) ∧ before = after := by
  induction ids generalizing rows with
  | nil =>
    obtain ⟨rfl, rfl⟩ := Work.pure_eq_ok.mp ran
    simp
  | cons id rest ih =>
    simp only [lockAccounts, Work.bind_eq_ok, Work.pure_eq_ok] at ran
    obtain ⟨row, _, locked, rows, _, others, rfl, rfl⟩ := ran
    obtain ⟨member, named, active, rfl⟩ := of_lockAccount locked
    obtain ⟨same, present, rfl⟩ := ih others
    refine ⟨?_, fun other there => ?_, rfl⟩
    · rw [List.map_cons, named, same]
    · rcases List.mem_cons.mp there with rfl | later
      · exact ⟨member, active⟩
      · exact present other later

/-- Balances after lines are those of the accounts, in their order. -/
theorem of_balancesAfter {lines : List Line} {rows : List AccountRow}
    {balances : List (AccountId × AccountBalance)}
    (summed : balancesAfter lines rows = .ok balances) :
    balances.map Prod.fst = rows.map AccountRow.id ∧
      ∀ row ∈ rows, ∃ balance, balanceAfter row lines = .ok balance ∧
        (row.id, balance) ∈ balances := by
  induction rows generalizing balances with
  | nil =>
    cases summed
    simp
  | cons row rest ih =>
    simp only [balancesAfter, Verdict.bind_eq_ok, Verdict.pure_eq_ok] at summed
    obtain ⟨balance, first, balances, others, rfl⟩ := summed
    obtain ⟨same, each⟩ := ih others
    refine ⟨?_, fun other member => ?_⟩
    · rw [List.map_cons, List.map_cons, same]
    · rcases List.mem_cons.mp member with rfl | later
      · exact ⟨balance, first, List.mem_cons_self⟩
      · obtain ⟨balance', is, present⟩ := each other later
        exact ⟨balance', is, List.mem_cons_of_mem _ present⟩

/-- An account with the balance that is written for it, if there is one. -/
def restated (now : Instant) (balances : List (AccountId × AccountBalance)) (row : AccountRow) :
    AccountRow :=
  match balances.lookup row.id with
  | some balance => { row with balance := balance, updatedAt := now }
  | none => row

/-- Balances that are written leave every account restated. -/
theorem of_saveBalances {balances : List (AccountId × AccountBalance)} {done : Unit}
    (unique : (balances.map Prod.fst).Nodup)
    (ran : saveBalances session balances before = .ok (done, after)) :
    after = { before with accounts := before.accounts.map (restated session.now balances) } := by
  induction balances generalizing before with
  | nil =>
    obtain ⟨_, rfl⟩ := Work.pure_eq_ok.mp ran
    show before = { before with accounts := before.accounts.map id }
    rw [List.map_id]
  | cons first rest ih =>
    obtain ⟨id, balance⟩ := first
    simp only [saveBalances, Work.bind_eq_ok, Work.stored_eq_ok] at ran
    obtain ⟨_, _, saved, others⟩ := ran
    rw [List.map_cons, List.nodup_cons] at unique
    have later := ih unique.2 others
    rw [(of_changeOne saved).2] at later
    rw [later]
    show { before with accounts := (altered AccountRow.id id _ before.accounts).map _ } = _
    rw [altered, List.map_map]
    congr 1
    refine List.map_congr_left fun row _ => ?_
    -- the first balance is written for its own account, and no later one is
    have absent : rest.lookup id = none := by
      rw [List.lookup_eq_none_iff]
      intro pair member
      rw [bne_iff_ne]
      intro same
      refine unique.1 ?_
      show id ∈ rest.map Prod.fst
      rw [same]
      exact List.mem_map_of_mem member
    by_cases own : row.id = id
    · simp [own, restated, absent]
    · simp [own, restated, List.lookup_cons, beq_eq_false_iff_ne.mpr own]

/-- Where keys are unique, the pair under a key is the one that is looked up. -/
theorem lookup_of_mem {κ α : Type} [BEq κ] [LawfulBEq κ] {pairs : List (κ × α)}
    (unique : (pairs.map Prod.fst).Nodup) {key : κ} {value : α} (member : (key, value) ∈ pairs) :
    pairs.lookup key = some value := by
  induction pairs with
  | nil => cases member
  | cons first rest ih =>
    rw [List.map_cons, List.nodup_cons] at unique
    rcases List.mem_cons.mp member with rfl | later
    · simp
    · have other : key ≠ first.1 := fun same =>
        unique.1 (same ▸ List.mem_map_of_mem later)
      obtain ⟨firstKey, firstValue⟩ := first
      rw [List.lookup_cons, beq_eq_false_iff_ne.mpr other]
      exact ih unique.2 later

/-- **Adding lines to accounts** finds every account that is named active and with room, and leaves
each posted. -/
theorem of_applyLines {lines : List Line} {done : Unit} (sound : Sound before)
    (ran : applyLines session lines before = .ok (done, after)) :
    Bookable before.accounts lines ∧
      after = { before with accounts := before.accounts.map (posted session.now lines) } := by
  simp only [applyLines, Work.bind_eq_ok, judged, Work.verdict_eq_ok, Verdict.mapError_eq_ok] at ran
  obtain ⟨rows, _, locked, balances, _, ⟨summed, rfl⟩, saved⟩ := ran
  obtain ⟨named, present, rfl⟩ := of_lockAccounts locked
  obtain ⟨keys, each⟩ := of_balancesAfter summed
  have unique : (balances.map Prod.fst).Nodup := by
    rw [keys, named]
    exact accountsOf_nodup lines
  have rowOf : ∀ id ∈ accountsOf lines, ∃ row ∈ rows, row.id = id := by
    intro id member
    rw [← named] at member
    obtain ⟨row, there, same⟩ := List.mem_map.mp member
    exact ⟨row, there, same⟩
  refine ⟨fun id member => ?_, ?_⟩
  · obtain ⟨row, there, same⟩ := rowOf id member
    obtain ⟨balance, is, _⟩ := each row there
    exact ⟨row, (present row there).1, same, (present row there).2, balance, is⟩
  · rw [of_saveBalances unique saved]
    congr 1
    refine List.map_congr_left fun row member => ?_
    unfold restated
    by_cases mentioned : row.id ∈ accountsOf lines
    · obtain ⟨row', there, same⟩ := rowOf row.id mentioned
      obtain rfl := eq_of_key sound.accountIds (present row' there).1 member same
      obtain ⟨balance, is, paired⟩ := each row' there
      rw [lookup_of_mem unique paired, posted_of_mem mentioned is]
    · have absent : balances.lookup row.id = none := by
        rw [List.lookup_eq_none_iff]
        intro pair paired
        rw [bne_iff_ne]
        intro same
        refine mentioned ?_
        rw [← named, ← keys, same]
        exact List.mem_map_of_mem paired
      rw [absent, posted_of_not_mem mentioned]

/-! ### What accounts grow by -/

variable {now : Instant} {lines : List Line} {row : AccountRow}

/-- The debits of the lines on an account. -/
def debitsOn (account : AccountId) (lines : List Line) : Int :=
  total (fun line => if line.account = account then line.debit.units else 0) lines

/-- The credits of the lines on an account. -/
def creditsOn (account : AccountId) (lines : List Line) : Int :=
  total (fun line => if line.account = account then line.credit.units else 0) lines

theorem debits_filter {account : AccountId} :
    Ledger.debits (lines.filter fun line => line.account == account) = debitsOn account lines := by
  rw [Ledger.debits, total_filter, debitsOn]
  simp only [beq_iff_eq]

theorem credits_filter {account : AccountId} :
    Ledger.credits (lines.filter fun line => line.account == account) =
      creditsOn account lines := by
  rw [Ledger.credits, total_filter, creditsOn]
  simp only [beq_iff_eq]

theorem balanceAfter_eq : balanceAfter row lines = row.balance.applyAll row.accountType
    (lines.filter fun line => line.account == row.id) := rfl

/-- **The totals of an account grow by its lines**, and its balance follows from them. -/
theorem posted_balance (derived : row.balance.Derived row.accountType)
    (room : row.id ∈ accountsOf lines → ∃ balance, balanceAfter row lines = .ok balance) :
    (posted now lines row).balance.debitTotal.units =
        row.balance.debitTotal.units + debitsOn row.id lines ∧
      (posted now lines row).balance.creditTotal.units =
        row.balance.creditTotal.units + creditsOn row.id lines ∧
      (posted now lines row).balance.Derived row.accountType := by
  by_cases mentioned : row.id ∈ accountsOf lines
  · obtain ⟨balance, is⟩ := room mentioned
    rw [posted_of_mem mentioned is, ← debits_filter, ← credits_filter]
    rw [balanceAfter_eq] at is
    exact AccountBalance.of_applyAll is derived
  · have none : ∀ line ∈ lines, line.account ≠ row.id := fun line member same =>
      mentioned (mem_accountsOf.mpr ⟨line, member, same⟩)
    have debits : debitsOn row.id lines = 0 :=
      total_eq_zero fun line member => if_neg (none line member)
    have credits : creditsOn row.id lines = 0 :=
      total_eq_zero fun line member => if_neg (none line member)
    rw [posted_of_not_mem mentioned, debits, credits, add_zero, add_zero]
    exact ⟨rfl, rfl, derived⟩

end Passbook.Journal
