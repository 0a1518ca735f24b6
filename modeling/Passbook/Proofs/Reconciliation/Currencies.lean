/-
**The ledger in each currency.**

The lines of an entry come to the same on both sides, whatever the currencies of the accounts that
they are on.

* `inCurrency`: an account is in a currency; `excess`: what the lines of an entry debit accounts in
  a currency more than they credit them;
* `booked_by_entry`: what booked lines come to is what those of each entry come to;
* `Agreed.by_currency`: accounts in a currency have been debited more than credited by the excess of
  the booked entries in it;
* `Unmixed`: an entry is on accounts in one currency; `excess_of_unmixed`: it has no excess in any;
* `play_currencies`: so it is after every run, and each currency is level where no entry is mixed.
-/

import Passbook.Proofs.Bookkeeping.Kept

namespace Passbook.Reconciliation

open Passbook.Bookkeeping
open Passbook.Journal (Exceeds linesOf_of_ordered)
open Passbook.Ledger (Line)
open Passbook.Operation
open Passbook.Store

/-- The accounts in a currency. -/
def accountsIn (books : Books) (currency : String) : List AccountRow :=
  books.accounts.filter fun row => row.currency == currency

/-- An account is in a currency. -/
def inCurrency (books : Books) (currency : String) (account : AccountId) : Bool :=
  books.accounts.any fun row => account == row.id && row.currency == currency

/-- What a line debits an account in a currency more than it credits it. -/
def surplus (books : Books) (currency : String) (line : Line) : Int :=
  if inCurrency books currency line.account then line.debit.units - line.credit.units else 0

/-- The lines of an entry. -/
def linesIn (books : Books) (entry : EntryId) : List Line :=
  (books.linesOf entry).map LineRow.line

/-- What the lines of an entry debit accounts in a currency more than they credit them. -/
def excess (books : Books) (currency : String) (entry : EntryId) : Int :=
  total (surplus books currency) (linesIn books entry)

/-- The entries that are no drafts. -/
def bookedEntries (books : Books) : List EntryRow :=
  books.entries.filter fun row => row.status != .draft

/-- An entry is on accounts in one currency. -/
def Unmixed (books : Books) (entry : EntryId) : Prop :=
  ∃ currency, ∀ line ∈ linesIn books entry, inCurrency books currency line.account

section

variable {books : Books} {currency : String}

/-! ### Booked lines, entry by entry -/

/-- **What booked lines come to is what those of each booked entry come to.** -/
theorem booked_by_entry (sound : Sound books) (figure : Line → Int) :
    booked books figure =
      total (fun entry => total figure (linesIn books entry.id)) (bookedEntries books) := by
  have ofEntry : ∀ id : EntryId, total figure (linesIn books id) =
      total (fun row => if row.entry = id then figure row.line else 0) books.lines := by
    intro id
    have lines : total figure (linesIn books id) =
        total (fun row => if row.entry == id then figure row.line else 0) books.lines :=
      total_linesOf sound.plain id
    simpa only [beq_iff_eq] using lines
  have sums := total_by_key (fun entry : EntryRow => entry.status != .draft) sound.entryIds
    LineRow.entry (fun row => figure row.line) books.lines
  have same : ∀ row : LineRow, isBooked books.entries row.entry =
      books.entries.any fun entry => row.entry == entry.id && entry.status != .draft := by
    intro row
    unfold isBooked
    congr 1
    funext entry
    rw [BEq.comm]
  rw [booked_eq, bookedEntries, total_filter]
  simp only [ofEntry, same]
  exact sums.symm

/-! ### Currencies -/

/-- Booked lines on accounts in a currency may be summed account by account. -/
theorem booked_by_account (sound : Sound books) (currency : String) (figure : Line → Int) :
    total (fun row => booked books fun line => if line.account = row.id then figure line else 0)
        (accountsIn books currency) =
      booked books fun line =>
        if inCurrency books currency line.account then figure line else 0 := by
  rw [accountsIn, total_filter]
  exact total_by_key (fun row : AccountRow => row.currency == currency) sound.accountIds
    (fun line => line.line.account) (fun line : LineRow => figure line.line) (bookedLines books)

/-- **Accounts in a currency have been debited more than credited by the excess of the booked
entries in it.** -/
theorem Agreed.by_currency (agreed : Agreed books) (sound : Sound books) (currency : String) :
    total (fun row => row.balance.debitTotal.units) (accountsIn books currency) -
        total (fun row => row.balance.creditTotal.units) (accountsIn books currency) =
      total (fun entry => excess books currency entry.id) (bookedEntries books) := by
  have there : ∀ row ∈ accountsIn books currency, row ∈ books.accounts :=
    fun row member => (List.mem_filter.mp member).1
  have debits := booked_by_account sound currency fun line => line.debit.units
  have credits := booked_by_account sound currency fun line => line.credit.units
  rw [total_congr fun row member => agreed.debits row (there row member),
    total_congr fun row member => agreed.credits row (there row member)]
  refine (congrArg₂ (· - ·) debits credits).trans ?_
  have excesses : total (fun entry => excess books currency entry.id) (bookedEntries books) =
      booked books (surplus books currency) := (booked_by_entry sound _).symm
  rw [excesses, booked, booked, booked, ← total_sub]
  refine total_congr fun row _ => ?_
  by_cases inside : inCurrency books currency row.line.account <;> simp [surplus, inside]

/-- An account is in one currency. -/
theorem inCurrency_unique (sound : Sound books) {account : AccountId} {other : String}
    (is : inCurrency books currency account) (is' : inCurrency books other account) :
    currency = other := by
  obtain ⟨row, member, both⟩ := List.any_eq_true.mp is
  obtain ⟨row', member', both'⟩ := List.any_eq_true.mp is'
  simp only [Bool.and_eq_true, beq_iff_eq] at both both'
  obtain rfl := eq_of_key sound.accountIds member member' (both.1.symm.trans both'.1)
  exact both.2.symm.trans both'.2

/-- Where all accounts are in one currency, so is every entry. -/
theorem unmixed_of_single (sound : Sound books)
    (only : ∀ row ∈ books.accounts, row.currency = currency) (entry : EntryId) :
    Unmixed books entry := by
  refine ⟨currency, fun line member => ?_⟩
  obtain ⟨row, present, rfl⟩ := List.mem_map.mp member
  obtain ⟨account, there, named⟩ :=
    sound.lineAccounts row ((Journal.mem_linesOf sound.plain).mp present).1
  refine List.any_eq_true.mpr ⟨account, there, ?_⟩
  rw [named, only account there, beq_self_eq_true, beq_self_eq_true, Bool.and_self]

/-- **An entry on accounts in one currency has no excess in any.** -/
theorem excess_of_unmixed (sound : Sound books) {entry : EntryId} (formed : Formed books entry)
    (unmixed : Unmixed books entry) (currency : String) : excess books currency entry = 0 := by
  obtain ⟨own, only⟩ := unmixed
  by_cases same : currency = own
  · subst same
    have all : excess books currency entry =
        total (fun line => line.debit.units - line.credit.units) (linesIn books entry) :=
      total_congr fun line member => if_pos (only line member)
    rw [all, total_sub]
    exact Int.sub_eq_zero.mpr formed.valid.balanced
  · exact total_eq_zero fun line member => if_neg fun is =>
      same (inCurrency_unique sound is (only line member))

end

/-! ### Runs -/

/-- **The ledger in each currency**, after every run from fresh books. The accounts in a currency
have been debited more than credited by what the lines of posted, voided and reversed entries on
them have been; and where each of these entries is on accounts in one currency, the accounts in any
currency have been debited as much as credited. -/
theorem play_currencies (supply : Supply) (calls : List Call) :
    (∀ currency : String,
        total (fun row => row.balance.debitTotal.units)
              (accountsIn (play calls (.fresh supply)).books currency) -
            total (fun row => row.balance.creditTotal.units)
              (accountsIn (play calls (.fresh supply)).books currency) =
          total (fun entry => excess (play calls (.fresh supply)).books currency entry.id)
            (bookedEntries (play calls (.fresh supply)).books)) ∧
      ((∀ entry ∈ bookedEntries (play calls (.fresh supply)).books,
          Unmixed (play calls (.fresh supply)).books entry.id) →
        ∀ currency : String,
          total (fun row => row.balance.debitTotal.units)
              (accountsIn (play calls (.fresh supply)).books currency) =
            total (fun row => row.balance.creditTotal.units)
              (accountsIn (play calls (.fresh supply)).books currency)) := by
  have start : Sound (World.fresh supply).books := Sound.fresh
  obtain ⟨sound, agreed⟩ := play_preserves Agreed
    (fun sound deed held => agreed_of_deed deed sound held) calls start Agreed.fresh
  have excesses := agreed.by_currency sound
  refine ⟨excesses, fun unmixed currency => Int.sub_eq_zero.mp ?_⟩
  rw [excesses]
  refine total_eq_zero fun entry member => ?_
  have formed := play_formed supply calls entry (List.mem_filter.mp member).1
  exact excess_of_unmixed sound formed (unmixed entry member) currency

/-- Two accounts are opened, one in dollars and one in a currency, and a sale is entered on both. -/
def sampleSold (currency : String) : List Call :=
  [.command sampleSession (.createAccount ⟨"1000", "Cash", .asset, "USD", none⟩),
    .command sampleSession (.createAccount ⟨"4000", "Sales", .revenue, currency, none⟩),
    .command sampleSession (.createEntry (sampleSale 100))]

/-- The sale is posted. -/
def sampleSalePosting : Call := .command sampleSession (.postEntry (sampleId 2) (sampleOwner 2))

/-- Both accounts take the sale, whether they are in one currency or in two. -/
theorem sampleSold_posted {currency : String} (known : currency ∈ ["USD", "INR"]) :
    (play (sampleSold currency ++ [sampleSalePosting]) .fresh).books.accounts =
      (play (sampleSold currency) .fresh).books.accounts.map
        (Journal.posted sampleSession.now (sampleSale 100).lines) := by
  have draft : ∀ currency ∈ ["USD", "INR"],
      ∃ row ∈ (play (sampleSold currency) .fresh).books.entries,
        row.id = sampleId 2 ∧ row.status = .draft := by
    decide +kernel
  have ordered : ∀ currency ∈ ["USD", "INR"],
      ((play (sampleSold currency) .fresh).books.lines.filter fun row =>
        row.entry == sampleId 2).Pairwise fun first second => first.place ≤ second.place := by
    decide +kernel
  have written : ∀ currency ∈ ["USD", "INR"],
      ((play (sampleSold currency) .fresh).books.lines.filter fun row =>
        row.entry == sampleId 2).map LineRow.line = (sampleSale 100).lines := by
    decide +kernel
  have room : ∀ currency ∈ ["USD", "INR"],
      ∀ row ∈ (play (sampleSold currency) .fresh).books.accounts,
        row.status = .active ∧ ¬Exceeds row (sampleSale 100).lines := by
    unfold Exceeds
    decide +kernel
  have plain := (play_kept .ascending (sampleSold currency)).sound.plain
  have loaded := written currency known
  rw [← linesOf_of_ordered plain (ordered currency known)] at loaded
  obtain ⟨_, _, _, posted⟩ := play_posts .ascending (sampleSold currency) sampleSession
    (sampleOwner 2) rfl
    (draft currency known) loaded (room currency known)
  unfold sampleSalePosting
  exact posted.accounts_eq

/-- A sale that is posted to accounts in dollars leaves every currency level. -/
theorem play_currencies_sale :
    (∃ row ∈ (play (sampleSold "USD" ++ [sampleSalePosting]) .fresh).books.accounts,
        row.balance.debitTotal.units = 100) ∧
      ∀ currency : String,
        total (fun row => row.balance.debitTotal.units)
            (accountsIn (play (sampleSold "USD" ++ [sampleSalePosting]) .fresh).books currency) =
          total (fun row => row.balance.creditTotal.units)
            (accountsIn (play (sampleSold "USD" ++ [sampleSalePosting]) .fresh).books
              currency) := by
  have accounts := sampleSold_posted (show "USD" ∈ ["USD", "INR"] by decide)
  constructor
  · rw [accounts]
    decide +kernel
  · have only : ∀ row ∈ (play (sampleSold "USD" ++ [sampleSalePosting]) .fresh).books.accounts,
        row.currency = "USD" := by
      rw [accounts]
      decide +kernel
    exact (play_currencies .ascending (sampleSold "USD" ++ [sampleSalePosting])).2 fun entry _ =>
      unmixed_of_single (play_kept .ascending _).sound only entry.id

/-- **The ledger need not be level in each currency**: an entry may be on accounts in several. -/
theorem sampleSold_uneven :
    ¬ ∀ currency : String,
      total (fun row => row.balance.debitTotal.units)
          (accountsIn (play (sampleSold "INR" ++ [sampleSalePosting]) .fresh).books currency) =
        total (fun row => row.balance.creditTotal.units)
          (accountsIn (play (sampleSold "INR" ++ [sampleSalePosting]) .fresh).books currency) := by
  intro level
  have uneven := level "USD"
  rw [accountsIn, sampleSold_posted (show "INR" ∈ ["USD", "INR"] by decide)] at uneven
  revert uneven
  decide +kernel

end Passbook.Reconciliation
