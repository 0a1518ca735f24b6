/-
**What the tables ask of the rows of plain books.**

Books without strays hold the values of their rows, so the rules of a table speak of these values
alone.

* `accountSheet_clashes` and its like: two rows that cannot stand together;
* `accountSheet_isLinked` and its like: what a row has to refer to;
* `walletSheet_allDistinct` and its like: rows that stand together;
* `walletSheet_isFit`, `lineSheet_isFit`: the figures of a wallet and of a line.
-/

import Passbook.Proofs.Store.Sound

namespace Passbook.Store

variable {books : Books}

theorem accountSheet_clashes (plain : books.strays = []) {first second : AccountRow} :
    accountSheet.clashes books first second = false ↔
      first.id ≠ second.id ∧ first.code ≠ second.code := by
  simp [accountSheet, Books.agree_eq plain]

theorem accountSheet_isLinked (plain : books.strays = []) {row : AccountRow} :
    accountSheet.isLinked books row = true ↔
      ∀ parent ∈ row.parent, ∃ other ∈ books.accounts, other.id = parent := by
  cases named : row.parent with
  | none => simp [accountSheet, named, Books.mayHaveAccount, Books.isUsual_eq_true plain]
  | some parent =>
    simp [accountSheet, named, Books.mayHaveAccount, Books.hasAccount, Books.agree_eq plain]

/-- Accounts stand together when identifiers and codes are unique. -/
theorem accountSheet_allDistinct (plain : books.strays = []) {rows : List AccountRow} :
    allDistinct (accountSheet.clashes books) rows = true ↔
      (rows.map AccountRow.id).Nodup ∧ (rows.map AccountRow.code).Nodup := by
  rw [allDistinct_iff, List.Nodup, List.Nodup, List.pairwise_map, List.pairwise_map,
    ← List.pairwise_and_iff]
  exact ⟨fun apart => apart.imp (accountSheet_clashes plain).mp,
    fun apart => apart.imp (accountSheet_clashes plain).mpr⟩

theorem entrySheet_clashes (plain : books.strays = []) {first second : EntryRow} :
    entrySheet.clashes books first second = false ↔
      first.id ≠ second.id ∧ first.number ≠ second.number := by
  simp [entrySheet, Books.agree_eq plain]

/-- Entries stand together when identifiers and numbers are unique. -/
theorem entrySheet_allDistinct (plain : books.strays = []) {rows : List EntryRow} :
    allDistinct (entrySheet.clashes books) rows = true ↔
      (rows.map EntryRow.id).Nodup ∧ (rows.map EntryRow.number).Nodup := by
  rw [allDistinct_iff, List.Nodup, List.Nodup, List.pairwise_map, List.pairwise_map,
    ← List.pairwise_and_iff]
  exact ⟨fun apart => apart.imp (entrySheet_clashes plain).mp,
    fun apart => apart.imp (entrySheet_clashes plain).mpr⟩

theorem mayHaveEntry_iff (plain : books.strays = []) {spot : Spot} {link : Option EntryId} :
    books.mayHaveEntry spot link = true ↔
      ∀ id ∈ link, ∃ other ∈ books.entries, other.id = id := by
  cases link with
  | none => simp [Books.mayHaveEntry, Books.isUsual_eq_true plain]
  | some id => simp [Books.mayHaveEntry, Books.hasEntry, Books.agree_eq plain]

theorem entrySheet_isLinked (plain : books.strays = []) {row : EntryRow} :
    entrySheet.isLinked books row = true ↔
      (∀ id ∈ row.reverses, ∃ other ∈ books.entries, other.id = id) ∧
        ∀ id ∈ row.reversal, ∃ other ∈ books.entries, other.id = id := by
  rw [← mayHaveEntry_iff plain, ← mayHaveEntry_iff plain]
  exact Bool.and_eq_true_iff

theorem lineSheet_clashes (plain : books.strays = []) {first second : LineRow} :
    lineSheet.clashes books first second = false ↔
      first.id ≠ second.id ∧ (first.entry = second.entry → first.place ≠ second.place) := by
  simp [lineSheet, Books.agree_eq plain]

theorem lineSheet_isFit (plain : books.strays = []) {row : LineRow} :
    lineSheet.isFit books row = true ↔
      (row.line.debit.Positive ∧ row.line.credit.units = 0) ∨
        (row.line.debit.units = 0 ∧ row.line.credit.Positive) := by
  simp [lineSheet, Books.held_eq plain, Cell.zero, Cell.isPositive_integer, Amount.ext_iff,
    Amount.zero]

theorem lineSheet_isLinked (plain : books.strays = []) {row : LineRow} :
    lineSheet.isLinked books row = true ↔
      (∃ entry ∈ books.entries, entry.id = row.entry) ∧
        ∃ account ∈ books.accounts, account.id = row.line.account := by
  simp [lineSheet, Books.hasEntry, Books.hasAccount, Books.agree_eq plain]

theorem walletSheet_clashes (plain : books.strays = []) {first second : WalletRow} :
    walletSheet.clashes books first second = false ↔
      first.id ≠ second.id ∧ first.slot ≠ second.slot := by
  simp [walletSheet, WalletRow.slot, Books.agree_eq plain]

/-- Wallets stand together when identifiers are unique and an owner has one of a type and
currency. -/
theorem walletSheet_allDistinct (plain : books.strays = []) {rows : List WalletRow} :
    allDistinct (walletSheet.clashes books) rows = true ↔
      (rows.map WalletRow.id).Nodup ∧ (rows.map WalletRow.slot).Nodup := by
  rw [allDistinct_iff, List.Nodup, List.Nodup, List.pairwise_map, List.pairwise_map,
    ← List.pairwise_and_iff]
  exact ⟨fun apart => apart.imp (walletSheet_clashes plain).mp,
    fun apart => apart.imp (walletSheet_clashes plain).mpr⟩

theorem walletSheet_isFit (plain : books.strays = []) {row : WalletRow} :
    walletSheet.isFit books row = true ↔ row.balance.Fits := by
  simp [walletSheet, Wallet.WalletBalance.Fits, Books.held_eq plain, Cell.zero,
    Cell.isAtMost_integer, Amount.zero]

theorem limitsSheet_clashes (plain : books.strays = []) {first second : LimitsRow} :
    limitsSheet.clashes books first second = false ↔ first.wallet ≠ second.wallet := by
  simp [limitsSheet, Books.agree_eq plain]

/-- Limits stand together when each is of another wallet. -/
theorem limitsSheet_allDistinct (plain : books.strays = []) {rows : List LimitsRow} :
    allDistinct (limitsSheet.clashes books) rows = true ↔ (rows.map LimitsRow.wallet).Nodup := by
  rw [allDistinct_iff, List.Nodup, List.pairwise_map]
  exact ⟨fun apart => apart.imp (limitsSheet_clashes plain).mp,
    fun apart => apart.imp (limitsSheet_clashes plain).mpr⟩

theorem limitsSheet_isLinked (plain : books.strays = []) {row : LimitsRow} :
    limitsSheet.isLinked books row = true ↔ ∃ wallet ∈ books.wallets, wallet.id = row.wallet := by
  simp [limitsSheet, Books.hasWallet, Books.agree_eq plain]

/-- Deposits stand together when each has a key of its own. -/
theorem depositSheet_allDistinct {rows : List DepositRow} :
    allDistinct (depositSheet.clashes books) rows = true ↔ (rows.map DepositRow.key).Nodup := by
  rw [allDistinct_iff, List.Nodup, List.pairwise_map]
  exact ⟨fun apart => apart.imp beq_eq_false_iff_ne.mp,
    fun apart => apart.imp beq_eq_false_iff_ne.mpr⟩

end Passbook.Store
