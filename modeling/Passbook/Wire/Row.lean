/-
**Rows as documents.**

A row goes by the names of its columns; an empty column is null.

* the forms of the rows of each table;
* `Table.normalRow?`: a document that has the columns of a table, with every column written in its
  usual form. A moment keeps the offset that it was given with.
-/

import Passbook.Store.Lookup
import Passbook.Wire.Wallet

namespace Passbook.Wire

open Passbook.Calendar (Stamp)
open Passbook.Json (Value)
open Passbook.Store

/-- The document of an account. -/
def writeAccount (row : AccountRow) : Value :=
  .record [field "id" row.id, field "code" row.code, field "name" row.name,
    field "account_type" row.accountType, field "currency" row.currency,
    field "balance" row.balance.balance, field "debit_total" row.balance.debitTotal,
    field "credit_total" row.balance.creditTotal, field "status" row.status,
    field "parent_id" row.parent, field "created_at" row.createdAt,
    field "updated_at" row.updatedAt]

/-- The document of the header of an entry. -/
def writeEntry (row : EntryRow) : Value :=
  .record [field "id" row.id, field "entry_number" row.number, field "entry_type" row.entryType,
    field "description" row.description, field "status" row.status,
    field "reference" row.reference, field "created_by" row.createdBy,
    field "posted_at" row.postedAt, field "posted_by" row.postedBy,
    field "voided_at" row.voidedAt, field "voided_by" row.voidedBy,
    field "void_reason" row.voidReason, field "reversed_at" row.reversedAt,
    field "reversed_by" row.reversedBy, field "reversal_reason" row.reversalReason,
    field "reverses_entry_id" row.reverses, field "reversed_by_entry_id" row.reversal,
    field "created_at" row.createdAt, field "updated_at" row.updatedAt]

/-- The document of a line, without the identifier of its own. -/
def writeLine (row : LineRow) : Value :=
  .record [field "entry_id" row.entry, field "account_id" row.line.account,
    field "debit_amount" row.line.debit, field "credit_amount" row.line.credit,
    field "description" row.line.description, ("line_number", .ofInt row.place)]

/-- The document of a sequence. -/
def writeSequence (row : SequenceRow) : Value :=
  .record [field "name" row.name, field "next_value" row.next]

/-- A document in writing, or null. -/
def writeMetadata (written : Option String) : Value := (written.bind Value.read?).getD .null

/-- The document of a wallet. -/
def writeWallet (row : WalletRow) : Value :=
  .record [field "id" row.id, field "user_id" row.owner, field "wallet_type" row.walletType,
    field "currency" row.currency, field "balance" row.balance.balance,
    field "available_balance" row.balance.available, field "status" row.status,
    field "ledger_account_id" row.ledgerAccount, ("metadata", writeMetadata row.metadata),
    field "closed_at" row.closedAt, field "close_reason" row.closeReason,
    field "created_at" row.createdAt, field "updated_at" row.updatedAt]

/-- The document of limits. -/
def writeLimits (row : LimitsRow) : Value :=
  .record [field "wallet_id" row.wallet, field "daily_limit" row.state.dailyLimit,
    field "daily_spent" row.state.dailySpent, field "daily_reset_at" row.state.dailyResetAt,
    field "monthly_limit" row.state.monthlyLimit, field "monthly_spent" row.state.monthlySpent,
    field "monthly_reset_at" row.state.monthlyResetAt, field "updated_at" row.updatedAt]

/-- The document of a transfer. -/
def writeTransfer (row : TransferRow) : Value :=
  .record [field "transaction_id" row.key, field "source_wallet_id" row.source,
    field "destination_wallet_id" row.destination, field "amount" row.amount,
    field "processed_at" row.processedAt]

/-- The document of a deposit. -/
def writeDeposit (row : DepositRow) : Value :=
  .record [field "transaction_id" row.key, field "wallet_id" row.wallet,
    field "amount" row.amount, field "status" row.status, field "processed_at" row.processedAt]

/-- The document of a withdrawal. -/
def writeWithdrawal (row : WithdrawalRow) : Value :=
  .record [field "transaction_id" row.key, field "wallet_id" row.wallet,
    field "amount" row.amount, field "processed_at" row.processedAt]

/-- An entry with its lines by their place. -/
def writeFullEntry (entry : EntryRow) (lines : List LineRow) : Value :=
  .record [("entry", writeEntry entry), ("lines", .ofList writeLine lines)]

/-- Rows by the order of a key. -/
def sortedBy {ρ : Type} (key : ρ → String) (rows : List ρ) : List ρ :=
  rows.mergeSort fun first second => !decide (key second < key first)

/-- The books: accounts, entries, wallets and limits in the order of their creation, and the
markers by their keys. -/
def writeBooks (books : Books) : Value :=
  .record
    [("accounts", .ofList writeAccount books.accounts),
      ("entries", .ofList (fun row => writeFullEntry row (books.linesOf row.id)) books.entries),
      ("wallets", .ofList writeWallet books.wallets),
      ("limits", .ofList writeLimits books.limits),
      ("transfers", .ofList writeTransfer (sortedBy TransferRow.key books.transfers)),
      ("deposits", .ofList writeDeposit (sortedBy DepositRow.key books.deposits)),
      ("withdrawals", .ofList writeWithdrawal (sortedBy WithdrawalRow.key books.withdrawals)),
      ("sequences", .ofList writeSequence books.sequences)]

/-- A value to be set by hand is an integer or a text. -/
instance : Coded Cell where
  write
    | .integer figure => .ofAmount figure
    | .fraction negative size => .number (.fraction negative size)
    | .text content => .text content
  read?
    | .text content => some (.text content)
    | value => value.amount?.map .integer

/-! ### Documents of rows -/

/-- The usual form of a value of a column. -/
def ColumnKind.normal? (kind : ColumnKind) (value : Value) : Option Value :=
  match kind with
  | .id => (read? value : Option Uuid).map write
  | .text => value.text?.map .text
  | .amount => value.amount?.map .ofAmount
  | .lineNumber => value.signed32?.map .ofInt
  | .moment => (value.text?.bind Stamp.read?).map fun stamp => .text stamp.text
  | .choice names => (value.choice? fun name => names.find? (· == name)).map .text
  | .document => some value

/-- The usual form of a column. -/
def Column.normal? (column : Column) (fields : Json.Fields) : Option (String × Value) :=
  if column.nullable then
    (fields.optional? column.name (ColumnKind.normal? column.kind)).map fun value =>
      (column.name, value.getD .null)
  else
    (fields.required? column.name (ColumnKind.normal? column.kind)).map fun value =>
      (column.name, value)

/-- The usual form of a row of a table. -/
def Table.normalRow? (table : Table) (value : Value) : Option Value := do
  let fields ← value.fields? (table.columns.map fun column => column.name)
  (table.columns.mapM fun column => Column.normal? column fields).map .record

end Passbook.Wire
