/-
**What the tables ask of their rows.**

* `Sheet`: a table as a list of rows, with the rows that cannot stand together, the figures that a
  row may have, and what it has to refer to;
* one sheet a table, and `Books.isLinked`, which asks every reference of the books to lead
  somewhere.
-/

import Passbook.Store.Books

namespace Passbook.Store

/-- A table as a list of rows with its rules. -/
structure Sheet (ρ : Type) where
  table : Table
  key : ρ → RowKey
  rows : Books → List ρ
  replace : Books → List ρ → Books
  /-- Two rows that cannot stand together. -/
  clashes : Books → ρ → ρ → Bool
  /-- The figures of a row fit together. -/
  isFit : Books → ρ → Bool
  /-- What a row refers to is there. -/
  isLinked : Books → ρ → Bool

/-- Every place of a row can be read. -/
def Sheet.isLegible {ρ : Type} (sheet : Sheet ρ) (books : Books) (row : ρ) : Bool :=
  books.isLegible sheet.table (sheet.key row)

namespace Books

/-- A place leads to an account. -/
def hasAccount (books : Books) (spot : Spot) (id : AccountId) : Bool :=
  books.accounts.any fun row => books.agree spot (row.spot "id") (row.id == id)

/-- A place leads to an entry. -/
def hasEntry (books : Books) (spot : Spot) (id : EntryId) : Bool :=
  books.entries.any fun row => books.agree spot (row.spot "id") (row.id == id)

/-- A place leads to a wallet. -/
def hasWallet (books : Books) (spot : Spot) (id : WalletId) : Bool :=
  books.wallets.any fun row => books.agree spot (row.spot "id") (row.id == id)

/-- A place is empty or leads to an account. -/
def mayHaveAccount (books : Books) (spot : Spot) : Option AccountId → Bool
  | some id => books.hasAccount spot id
  | none => books.isUsual spot

/-- A place is empty or leads to an entry. -/
def mayHaveEntry (books : Books) (spot : Spot) : Option EntryId → Bool
  | some id => books.hasEntry spot id
  | none => books.isUsual spot

end Books

/-- Codes are unique and a parent is an account. -/
def accountSheet : Sheet AccountRow where
  table := .accounts
  key row := .id row.id.uuid
  rows := Books.accounts
  replace books rows := { books with accounts := rows }
  clashes books first second :=
    books.agree (first.spot "id") (second.spot "id") (first.id == second.id) ||
      first.code == second.code
  isFit _ _ := true
  isLinked books row := books.mayHaveAccount (row.spot "parent_id") row.parent

/-- Numbers are unique and the links lead to entries. -/
def entrySheet : Sheet EntryRow where
  table := .journalEntries
  key row := .id row.id.uuid
  rows := Books.entries
  replace books rows := { books with entries := rows }
  clashes books first second :=
    books.agree (first.spot "id") (second.spot "id") (first.id == second.id) ||
      first.number == second.number
  isFit _ _ := true
  isLinked books row :=
    books.mayHaveEntry (row.spot "reverses_entry_id") row.reverses &&
      books.mayHaveEntry (row.spot "reversed_by_entry_id") row.reversal

/-- Places are unique in an entry, the line is on an account, and exactly one side is positive and
the other nothing. -/
def lineSheet : Sheet LineRow where
  table := .ledgerLines
  key row := .id row.id.uuid
  rows := Books.lines
  replace books rows := { books with lines := rows }
  clashes books first second :=
    books.agree (first.spot "id") (second.spot "id") (first.id == second.id) ||
      (books.agree (first.spot "entry_id") (second.spot "entry_id")
          (first.entry == second.entry) &&
        books.agree (first.spot "line_number") (second.spot "line_number")
          (first.place == second.place))
  isFit books row :=
    let debit := books.held (row.spot "debit_amount") row.line.debit
    let credit := books.held (row.spot "credit_amount") row.line.credit
    (debit.isPositive && credit == .zero) || (debit == .zero && credit.isPositive)
  isLinked books row :=
    books.hasEntry (row.spot "entry_id") row.entry &&
      books.hasAccount (row.spot "account_id") row.line.account

/-- Names are unique. -/
def sequenceSheet : Sheet SequenceRow where
  table := .ledgerSequences
  key row := .name row.name
  rows := Books.sequences
  replace books rows := { books with sequences := rows }
  clashes _ first second := first.name == second.name
  isFit _ _ := true
  isLinked _ _ := true

/-- An owner has one wallet of a type and currency, and what is available lies between nothing and
the balance. -/
def walletSheet : Sheet WalletRow where
  table := .wallets
  key row := .id row.id.uuid
  rows := Books.wallets
  replace books rows := { books with wallets := rows }
  clashes books first second :=
    books.agree (first.spot "id") (second.spot "id") (first.id == second.id) ||
      (books.agree (first.spot "user_id") (second.spot "user_id")
          (first.owner == second.owner) &&
        books.agree (first.spot "wallet_type") (second.spot "wallet_type")
          (first.walletType == second.walletType) &&
        first.currency == second.currency)
  isFit books row :=
    let balance := books.held (row.spot "balance") row.balance.balance
    let available := books.held (row.spot "available_balance") row.balance.available
    Cell.zero.isAtMost available && available.isAtMost balance
  isLinked _ _ := true

/-- A wallet has one row of limits. -/
def limitsSheet : Sheet LimitsRow where
  table := .walletLimits
  key row := .id row.wallet.uuid
  rows := Books.limits
  replace books rows := { books with limits := rows }
  clashes books first second :=
    books.agree (first.spot "wallet_id") (second.spot "wallet_id")
      (first.wallet == second.wallet)
  isFit _ _ := true
  isLinked books row := books.hasWallet (row.spot "wallet_id") row.wallet

/-- Keys are unique. -/
def transferSheet : Sheet TransferRow where
  table := .processedTransfers
  key row := .name row.key
  rows := Books.transfers
  replace books rows := { books with transfers := rows }
  clashes _ first second := first.key == second.key
  isFit _ _ := true
  isLinked _ _ := true

/-- Keys are unique. -/
def depositSheet : Sheet DepositRow where
  table := .processedDeposits
  key row := .name row.key
  rows := Books.deposits
  replace books rows := { books with deposits := rows }
  clashes _ first second := first.key == second.key
  isFit _ _ := true
  isLinked _ _ := true

/-- Keys are unique. -/
def withdrawalSheet : Sheet WithdrawalRow where
  table := .processedWithdrawals
  key row := .name row.key
  rows := Books.withdrawals
  replace books rows := { books with withdrawals := rows }
  clashes _ first second := first.key == second.key
  isFit _ _ := true
  isLinked _ _ := true

/-- Every reference leads somewhere. -/
def Books.isLinked (books : Books) : Bool :=
  books.accounts.all (accountSheet.isLinked books) &&
    books.entries.all (entrySheet.isLinked books) &&
    books.lines.all (lineSheet.isLinked books) &&
    books.limits.all (limitsSheet.isLinked books)

end Passbook.Store
