/-
**Rows set and removed by hand.**

An operator may set single columns of rows, or remove rows, past the rules of the domain. The rules
of the tables hold all the same.

* `Target`: the rows meant, by the identifier of an account, an entry, a wallet or the wallet of
  limits, by an entry and perhaps a place for lines, and all rows for sequences;
* `amend`: sets columns to any values; only a column that is not there is refused. What a row
  cannot read stays beside it as a stray;
* `discard`: removes rows.
-/

import Passbook.Store.Statement

namespace Passbook.Store

/-! ### Columns by their names

A column is set to a value that its row can read. Identifiers of rows are among the columns.
-/

/-- Sets a column of an account. -/
def AccountRow.set? (row : AccountRow) (column : String) (cell : Cell) : Option AccountRow :=
  match column with
  | "id" => cell.id?.map fun value => { row with id := value }
  | "code" => cell.text?.map fun value => { row with code := value }
  | "name" => cell.text?.map fun value => { row with name := value }
  | "account_type" => cell.choice?.map fun value => { row with accountType := value }
  | "currency" => cell.text?.map fun value => { row with currency := value }
  | "balance" => cell.amount?.map fun value =>
      { row with balance := { row.balance with balance := value } }
  | "debit_total" => cell.amount?.map fun value =>
      { row with balance := { row.balance with debitTotal := value } }
  | "credit_total" => cell.amount?.map fun value =>
      { row with balance := { row.balance with creditTotal := value } }
  | "status" => cell.choice?.map fun value => { row with status := value }
  | "parent_id" => cell.id?.map fun value => { row with parent := some value }
  | "created_at" => cell.moment?.map fun value => { row with createdAt := value }
  | "updated_at" => cell.moment?.map fun value => { row with updatedAt := value }
  | _ => none

/-- Sets a column of the header of an entry. -/
def EntryRow.set? (row : EntryRow) (column : String) (cell : Cell) : Option EntryRow :=
  match column with
  | "id" => cell.id?.map fun value => { row with id := value }
  | "entry_number" => cell.text?.map fun value => { row with number := value }
  | "entry_type" => cell.choice?.map fun value => { row with entryType := value }
  | "description" => cell.text?.map fun value => { row with description := value }
  | "status" => cell.choice?.map fun value => { row with status := value }
  | "reference" => cell.text?.map fun value => { row with reference := some value }
  | "created_by" => cell.id?.map fun value => { row with createdBy := value }
  | "posted_at" => cell.moment?.map fun value => { row with postedAt := some value }
  | "posted_by" => cell.id?.map fun value => { row with postedBy := some value }
  | "voided_at" => cell.moment?.map fun value => { row with voidedAt := some value }
  | "voided_by" => cell.id?.map fun value => { row with voidedBy := some value }
  | "void_reason" => cell.text?.map fun value => { row with voidReason := some value }
  | "reversed_at" => cell.moment?.map fun value => { row with reversedAt := some value }
  | "reversed_by" => cell.id?.map fun value => { row with reversedBy := some value }
  | "reversal_reason" => cell.text?.map fun value => { row with reversalReason := some value }
  | "reverses_entry_id" => cell.id?.map fun value => { row with reverses := some value }
  | "reversed_by_entry_id" => cell.id?.map fun value => { row with reversal := some value }
  | "created_at" => cell.moment?.map fun value => { row with createdAt := value }
  | "updated_at" => cell.moment?.map fun value => { row with updatedAt := value }
  | _ => none

/-- Sets a column of a line. -/
def LineRow.set? (row : LineRow) (column : String) (cell : Cell) : Option LineRow :=
  match column with
  | "id" => cell.id?.map fun value => { row with id := value }
  | "entry_id" => cell.id?.map fun value => { row with entry := value }
  | "account_id" => cell.id?.map fun value =>
      { row with line := { row.line with account := value } }
  | "debit_amount" => cell.amount?.map fun value =>
      { row with line := { row.line with debit := value } }
  | "credit_amount" => cell.amount?.map fun value =>
      { row with line := { row.line with credit := value } }
  | "description" => cell.text?.map fun value =>
      { row with line := { row.line with description := some value } }
  | "line_number" => cell.place?.map fun value => { row with place := value }
  | _ => none

/-- Sets a column of a sequence. -/
def SequenceRow.set? (row : SequenceRow) (column : String) (cell : Cell) : Option SequenceRow :=
  match column with
  | "name" => cell.text?.map fun value => { row with name := value }
  | "next_value" => cell.amount?.map fun value => { row with next := value }
  | _ => none

/-- Sets a column of a wallet. -/
def WalletRow.set? (row : WalletRow) (column : String) (cell : Cell) : Option WalletRow :=
  match column with
  | "id" => cell.id?.map fun value => { row with id := value }
  | "user_id" => cell.id?.map fun value => { row with owner := value }
  | "wallet_type" => cell.choice?.map fun value => { row with walletType := value }
  | "currency" => cell.text?.map fun value => { row with currency := value }
  | "balance" => cell.amount?.map fun value =>
      { row with balance := { row.balance with balance := value } }
  | "available_balance" => cell.amount?.map fun value =>
      { row with balance := { row.balance with available := value } }
  | "status" => cell.choice?.map fun value => { row with status := value }
  | "ledger_account_id" => cell.id?.map fun value => { row with ledgerAccount := some value }
  | "metadata" => cell.document?.map fun value => { row with metadata := some value }
  | "closed_at" => cell.moment?.map fun value => { row with closedAt := some value }
  | "close_reason" => cell.text?.map fun value => { row with closeReason := some value }
  | "created_at" => cell.moment?.map fun value => { row with createdAt := value }
  | "updated_at" => cell.moment?.map fun value => { row with updatedAt := value }
  | _ => none

/-- Sets a column of limits. -/
def LimitsRow.set? (row : LimitsRow) (column : String) (cell : Cell) : Option LimitsRow :=
  match column with
  | "wallet_id" => cell.id?.map fun value => { row with wallet := value }
  | "daily_limit" => cell.amount?.map fun value =>
      { row with state := { row.state with dailyLimit := value } }
  | "daily_spent" => cell.amount?.map fun value =>
      { row with state := { row.state with dailySpent := value } }
  | "daily_reset_at" => cell.moment?.map fun value =>
      { row with state := { row.state with dailyResetAt := value } }
  | "monthly_limit" => cell.amount?.map fun value =>
      { row with state := { row.state with monthlyLimit := value } }
  | "monthly_spent" => cell.amount?.map fun value =>
      { row with state := { row.state with monthlySpent := value } }
  | "monthly_reset_at" => cell.moment?.map fun value =>
      { row with state := { row.state with monthlyResetAt := value } }
  | "updated_at" => cell.moment?.map fun value => { row with updatedAt := value }
  | _ => none

/-! ### Rows -/

/-- The rows meant. -/
inductive Target where
  | account (id : AccountId)
  | entry (id : EntryId)
  | lines (entry : EntryId) (place : Option Int)
  | sequences
  | wallet (id : WalletId)
  | limits (wallet : WalletId)
deriving DecidableEq

/-- The rows of a table meant by an identifier and perhaps a place. -/
def Target.of? (table : Table) (id : Option Uuid) (place : Option Int) : Option Target :=
  match table, id with
  | .accounts, some id => some (.account ⟨id⟩)
  | .journalEntries, some id => some (.entry ⟨id⟩)
  | .ledgerLines, some id => some (.lines ⟨id⟩ place)
  | .ledgerSequences, _ => some .sequences
  | .wallets, some id => some (.wallet ⟨id⟩)
  | .walletLimits, some id => some (.limits ⟨id⟩)
  | _, _ => none

/-- A line of an entry, at a place if one is named. -/
def isLineAt (books : Books) (entry : EntryId) (place : Option Int) (row : LineRow) : Bool :=
  isLineOf books entry row && place.all fun place => place == row.place &&
    books.isUsual (row.spot "line_number")

/-! ### Setting columns -/

/-- A row and its strays by their columns. -/
structure Patched (ρ : Type) where
  row : ρ
  strays : List (String × Cell)

/-- Sets a column of a row, if there is such a column. -/
def Patched.set? {ρ : Type} (table : Table) (set? : ρ → String → Cell → Option ρ)
    (patched : Patched ρ) (column : String) (value : Cell) : Option (Patched ρ) :=
  (table.kind? column).map fun kind =>
    let cell := value.settled kind
    let others := patched.strays.filter fun stray => stray.1 != column
    ⟨(set? patched.row column cell).getD patched.row,
      if cell.isUsual kind then others else others ++ [(column, cell)]⟩

/-- Sets columns of a row one after another. -/
def Patched.setAll? {ρ : Type} (table : Table) (set? : ρ → String → Cell → Option ρ)
    (cells : List (String × Cell)) (patched : Patched ρ) : Option (Patched ρ) :=
  cells.foldlM (fun patched (column, cell) => patched.set? table set? column cell) patched

/-- A row with its strays. -/
def Sheet.patchedOf {ρ : Type} (sheet : Sheet ρ) (books : Books) (row : ρ) : Patched ρ :=
  ⟨row, (books.strays.filter fun stray => sheet.isAmong [row] stray.1).map fun (spot, cell) =>
    (spot.column, cell)⟩

/-- Books in which another row with its strays stands in the place of a row. -/
def Sheet.substitute {ρ : Type} (sheet : Sheet ρ) (books : Books) (row : ρ)
    (patched : Patched ρ) : Books :=
  let rows := (sheet.rows books).map fun other =>
    if sheet.key other == sheet.key row then patched.row else other
  let others := books.strays.filter fun stray => !sheet.isAmong [row] stray.1
  let own := patched.strays.map fun (column, cell) =>
    ((⟨sheet.table, sheet.key patched.row, column⟩ : Spot), cell)
  { sheet.replace books rows with strays := others ++ own }

/-- Sets columns of a row, the rules that it stands under by itself being kept. -/
def amendRow {ρ : Type} (sheet : Sheet ρ) (set? : ρ → String → Cell → Option ρ)
    (cells : List (String × Cell)) (row : ρ) : Work StorageFault Unit := fun books =>
  match (sheet.patchedOf books row).setAll? sheet.table set? cells with
  | none => .error .refused
  | some patched =>
    let after := sheet.substitute books row patched
    let others := (sheet.rows books).filter fun other => sheet.key other != sheet.key row
    if !sheet.isFit after patched.row then .error .refused
    else if others.any (sheet.clashes after patched.row) then .error .notUnique
    else .ok ((), after)

/-- Sets columns of rows one after another. -/
def amendRows {ρ : Type} (sheet : Sheet ρ) (set? : ρ → String → Cell → Option ρ)
    (cells : List (String × Cell)) : List ρ → Work StorageFault Unit
  | [] => pure ()
  | row :: rest => do
    amendRow sheet set? cells row
    amendRows sheet set? cells rest

/-- Sets columns of the rows chosen. References are looked at once all rows are set. -/
def amendSheet {ρ : Type} (faults : Faults) (sheet : Sheet ρ)
    (set? : ρ → String → Cell → Option ρ) (cells : List (String × Cell))
    (chosen : Books → ρ → Bool) : Work StorageFault Nat := do
  let touched := (sheet.rows (← get)).filter (chosen (← get))
  if cells.isEmpty || cells.any (fun (column, _) => (sheet.table.kind? column).isNone) then
    throw .refused
  if touched.isEmpty then return 0
  if faults.refuses sheet.table .update then throw .refused
  amendRows sheet set? cells touched
  if (← get).isLinked then return touched.length else throw .refused

/-- Sets columns of the rows meant and tells how many there were. -/
def amend (faults : Faults) (target : Target) (cells : List (String × Cell)) :
    Work StorageFault Nat :=
  match target with
  | .account id => amendSheet faults accountSheet AccountRow.set? cells fun books row =>
      row.id == id && books.isUsual (row.spot "id")
  | .entry id => amendSheet faults entrySheet EntryRow.set? cells fun books row =>
      row.id == id && books.isUsual (row.spot "id")
  | .lines entry place =>
    amendSheet faults lineSheet LineRow.set? cells fun books => isLineAt books entry place
  | .sequences => amendSheet faults sequenceSheet SequenceRow.set? cells fun _ _ => true
  | .wallet id => amendSheet faults walletSheet WalletRow.set? cells fun books row =>
      row.id == id && books.isUsual (row.spot "id")
  | .limits wallet => amendSheet faults limitsSheet LimitsRow.set? cells fun books row =>
      row.wallet == wallet && books.isUsual (row.spot "wallet_id")

/-- Removes the rows meant and tells how many there were. -/
def discard (faults : Faults) (target : Target) : Work StorageFault Nat := do
  let books ← get
  match target with
  | .account id => remove faults accountSheet accountReferred fun row =>
      row.id == id && books.isUsual (row.spot "id")
  | .entry id => removeEntry faults id
  | .lines entry place => remove faults lineSheet unreferred (isLineAt books entry place)
  | .sequences => remove faults sequenceSheet unreferred fun _ => true
  | .wallet id => removeWallet faults id
  | .limits wallet => remove faults limitsSheet unreferred fun row =>
      row.wallet == wallet && books.isUsual (row.spot "wallet_id")

end Passbook.Store
