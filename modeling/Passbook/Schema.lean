/-
**Tables and their columns.**

The schema is built in two steps: the books of account first, then the wallets. A step is undone in
the reverse order.

* `Table.columns`: the columns of a table in order;
* `Schema.up`, `Schema.down`: so many steps forwards or backwards;
* `Schema.tables`: the tables that the steps taken so far have left.
-/

import Passbook.Ledger.Kind
import Passbook.Wallet.Error

namespace Passbook

/-- The tables. -/
inductive Table where
  | accounts
  | journalEntries
  | ledgerLines
  | ledgerSequences
  | wallets
  | walletLimits
  | processedTransfers
  | processedDeposits
  | processedWithdrawals
deriving DecidableEq

instance : Named Table where
  all :=
    [.accounts, .journalEntries, .ledgerLines, .ledgerSequences, .wallets, .walletLimits,
      .processedTransfers, .processedDeposits, .processedWithdrawals]
  name
    | .accounts => "accounts"
    | .journalEntries => "journal_entries"
    | .ledgerLines => "ledger_lines"
    | .ledgerSequences => "ledger_sequences"
    | .wallets => "wallets"
    | .walletLimits => "wallet_limits"
    | .processedTransfers => "processed_transfers"
    | .processedDeposits => "processed_deposits"
    | .processedWithdrawals => "processed_withdrawals"

/-- The state of an incoming deposit. -/
inductive DepositStatus where
  /-- Announced by the payment rail and not yet credited. -/
  | confirmed
  /-- Credited. -/
  | completed
deriving DecidableEq

instance : Named DepositStatus where
  all := [.confirmed, .completed]
  name
    | .confirmed => "confirmed"
    | .completed => "completed"

/-- What a column holds. -/
inductive ColumnKind where
  | id
  | text
  | amount
  | lineNumber
  | moment
  | choice (names : List String)
  | document

/-- A column of a table. -/
structure Column where
  name : String
  kind : ColumnKind
  nullable : Bool

namespace Column

/-- A column that always holds a value. -/
def filled (name : String) (kind : ColumnKind) : Column := ⟨name, kind, false⟩

/-- A column that may be empty. -/
def optional (name : String) (kind : ColumnKind) : Column := ⟨name, kind, true⟩

end Column

/-- The names of a finite choice. -/
def ColumnKind.ofNamed (α : Type) [Named α] : ColumnKind :=
  .choice ((Named.all : List α).map Named.name)

open Column in
/-- The columns of a table in order. -/
def Table.columns : Table → List Column
  | .accounts =>
    [filled "id" .id, filled "code" .text, filled "name" .text,
      filled "account_type" (.ofNamed Ledger.AccountType), filled "currency" .text,
      filled "balance" .amount, filled "debit_total" .amount, filled "credit_total" .amount,
      filled "status" (.ofNamed Ledger.AccountStatus), optional "parent_id" .id,
      filled "created_at" .moment, filled "updated_at" .moment]
  | .journalEntries =>
    [filled "id" .id, filled "entry_number" .text,
      filled "entry_type" (.ofNamed Ledger.EntryType), filled "description" .text,
      filled "status" (.ofNamed Ledger.EntryStatus), optional "reference" .text,
      filled "created_by" .id, optional "posted_at" .moment, optional "posted_by" .id,
      optional "voided_at" .moment, optional "voided_by" .id, optional "void_reason" .text,
      optional "reversed_at" .moment, optional "reversed_by" .id,
      optional "reversal_reason" .text, optional "reverses_entry_id" .id,
      optional "reversed_by_entry_id" .id, filled "created_at" .moment,
      filled "updated_at" .moment]
  | .ledgerLines =>
    [filled "id" .id, filled "entry_id" .id, filled "account_id" .id,
      filled "debit_amount" .amount, filled "credit_amount" .amount,
      optional "description" .text, filled "line_number" .lineNumber]
  | .ledgerSequences => [filled "name" .text, filled "next_value" .amount]
  | .wallets =>
    [filled "id" .id, filled "user_id" .id, filled "wallet_type" (.ofNamed Wallet.WalletType),
      filled "currency" .text, filled "balance" .amount, filled "available_balance" .amount,
      filled "status" (.ofNamed Wallet.WalletStatus), optional "ledger_account_id" .id,
      optional "metadata" .document, optional "closed_at" .moment,
      optional "close_reason" .text, filled "created_at" .moment, filled "updated_at" .moment]
  | .walletLimits =>
    [filled "wallet_id" .id, filled "daily_limit" .amount, filled "daily_spent" .amount,
      filled "daily_reset_at" .moment, filled "monthly_limit" .amount,
      filled "monthly_spent" .amount, filled "monthly_reset_at" .moment,
      filled "updated_at" .moment]
  | .processedTransfers =>
    [filled "transaction_id" .text, filled "source_wallet_id" .id,
      filled "destination_wallet_id" .id, filled "amount" .amount,
      filled "processed_at" .moment]
  | .processedDeposits =>
    [filled "transaction_id" .text, filled "wallet_id" .id, filled "amount" .amount,
      filled "status" (.ofNamed DepositStatus), filled "processed_at" .moment]
  | .processedWithdrawals =>
    [filled "transaction_id" .text, filled "wallet_id" .id, filled "amount" .amount,
      filled "processed_at" .moment]

/-- What a column of a table holds, if there is such a column. -/
def Table.kind? (table : Table) (name : String) : Option ColumnKind :=
  (table.columns.find? fun column => column.name == name).map Column.kind

/-- How many steps have been taken. -/
structure Schema where
  steps : Nat
deriving DecidableEq

namespace Schema

/-- The tables that each step adds. -/
def additions : List (List Table) :=
  [[.accounts, .journalEntries, .ledgerLines, .ledgerSequences],
    [.wallets, .walletLimits, .processedTransfers, .processedDeposits, .processedWithdrawals]]

/-- Nothing built yet. -/
def empty : Schema := ⟨0⟩

/-- So many steps forwards, or all that are left. -/
def up (schema : Schema) (count : Option Nat) : Schema :=
  ⟨min additions.length (schema.steps + count.getD additions.length)⟩

/-- So many steps backwards, or all that were taken. -/
def down (schema : Schema) (count : Option Nat) : Schema :=
  ⟨schema.steps - count.getD schema.steps⟩

/-- The tables that there are. -/
def tables (schema : Schema) : List Table := (additions.take schema.steps).flatten

end Schema

end Passbook
