/-
**The books.**

* `Books`: the rows of every table, the strays among what they hold, the identifiers that are handed
  out and how many have been;
* `Spot`: a column of a row;
* `Books.isUsual`, `Books.agree`, `Books.held`: what a place holds beside the value that its row
  gives it.

A row gives every column a value of its own type. A place that was set by hand may hold something
else: such a place is a stray, and the row keeps the value that the stray is read as, or the last
one before it when the stray cannot be read. Books that only the operations of the domain have
changed have no strays.
-/

import Passbook.Store.Cell
import Passbook.Store.Row

namespace Passbook.Store

/-- What a row is known by. -/
inductive RowKey where
  | id (uuid : Uuid)
  | name (text : String)
deriving DecidableEq

/-- A column of a row. -/
structure Spot where
  table : Table
  row : RowKey
  column : String
deriving DecidableEq

/-- The rows of every table. -/
structure Books where
  accounts : List AccountRow
  entries : List EntryRow
  lines : List LineRow
  sequences : List SequenceRow
  wallets : List WalletRow
  limits : List LimitsRow
  transfers : List TransferRow
  deposits : List DepositRow
  withdrawals : List WithdrawalRow
  /-- What places hold that is not in the usual form of their column. -/
  strays : List (Spot × Cell)
  /-- The identifiers that are handed out. -/
  supply : Supply
  /-- How many identifiers have been handed out. -/
  issued : Nat

/-- The name of the sequence that numbers journal entries. -/
def entrySequence : String := "journal_entry"

/-- Books with no rows but the sequence of journal entries, which starts at one. -/
def Books.fresh (supply : Supply := .ascending) : Books where
  accounts := []
  entries := []
  lines := []
  sequences := [⟨entrySequence, .one⟩]
  wallets := []
  limits := []
  transfers := []
  deposits := []
  withdrawals := []
  strays := []
  supply := supply
  issued := 0

/-! ### The places of rows -/

/-- A column of an account. -/
def AccountRow.spot (row : AccountRow) (column : String) : Spot :=
  ⟨.accounts, .id row.id.uuid, column⟩

/-- A column of the header of an entry. -/
def EntryRow.spot (row : EntryRow) (column : String) : Spot :=
  ⟨.journalEntries, .id row.id.uuid, column⟩

/-- A column of a line. -/
def LineRow.spot (row : LineRow) (column : String) : Spot :=
  ⟨.ledgerLines, .id row.id.uuid, column⟩

/-- A column of a wallet. -/
def WalletRow.spot (row : WalletRow) (column : String) : Spot :=
  ⟨.wallets, .id row.id.uuid, column⟩

/-- A column of limits. -/
def LimitsRow.spot (row : LimitsRow) (column : String) : Spot :=
  ⟨.walletLimits, .id row.wallet.uuid, column⟩

/-! ### Strays -/

namespace Books

/-- The next identifier, if any is left. -/
def next? (books : Books) : Option Uuid := books.supply.issued? books.issued

/-- The stray in a place. -/
def stray? (books : Books) (spot : Spot) : Option Cell :=
  (books.strays.find? fun stray => stray.1 == spot).map Prod.snd

/-- A place holds the value of its row. -/
def isUsual (books : Books) (spot : Spot) : Bool := (books.stray? spot).isNone

/-- Two places hold the same, if they do by the values of their rows. Strays are the same as equal
strays only. -/
def agree (books : Books) (first second : Spot) (byValue : Bool) : Bool :=
  match books.stray? first, books.stray? second with
  | none, none => byValue
  | some cell, some other => cell == other
  | _, _ => false

/-- What a place of an amount holds. -/
def held (books : Books) (spot : Spot) (amount : Amount) : Cell :=
  (books.stray? spot).getD (.integer amount)

/-- Every place of a row can be read. -/
def isLegible (books : Books) (table : Table) (key : RowKey) : Bool :=
  books.strays.all fun (spot, cell) =>
    spot.table != table || spot.row != key || (table.kind? spot.column).all cell.isLegible

/-- Every place can be read. -/
def isReadable (books : Books) : Bool :=
  books.strays.all fun (spot, cell) => (spot.table.kind? spot.column).all cell.isLegible

variable {books : Books}

theorem stray?_eq_none (plain : books.strays = []) (spot : Spot) : books.stray? spot = none := by
  simp [stray?, plain]

theorem isUsual_eq_true (plain : books.strays = []) (spot : Spot) :
    books.isUsual spot = true := by
  simp [isUsual, stray?_eq_none plain]

theorem agree_eq (plain : books.strays = []) (first second : Spot) (byValue : Bool) :
    books.agree first second byValue = byValue := by
  simp [agree, stray?_eq_none plain]

theorem held_eq (plain : books.strays = []) (spot : Spot) (amount : Amount) :
    books.held spot amount = .integer amount := by
  simp [held, stray?_eq_none plain]

theorem isLegible_eq_true (plain : books.strays = []) (table : Table) (key : RowKey) :
    books.isLegible table key = true := by
  simp [isLegible, plain]

end Books

end Passbook.Store
