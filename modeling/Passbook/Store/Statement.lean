/-
**The statements that change the books.**

* `Work`: a unit of work on the books, which ends with a result and the books it leaves, or with
  an error;
* `insert`, `change`, `remove`: the statements. A statement that breaks a rule of its table, or
  that the storage refuses, changes nothing. The figures of a row are looked at first, then whether
  it clashes with another, and last what it refers to.
-/

import Passbook.Store.Sheet

namespace Passbook.Store

/-- Why a statement failed. -/
inductive StorageFault where
  /-- Another row has the same key. -/
  | notUnique
  /-- The storage refused the statement. -/
  | refused
  /-- The storage could not be reached. -/
  | unreachable
deriving DecidableEq

namespace StorageFault

/-- The category of a fault. -/
def category : StorageFault → Category
  | notUnique => .conflict
  | refused => .database
  | unreachable => .database

/-- The report of a fault, without words. -/
def report (fault : StorageFault) : Report := ⟨fault.category, "Database", none⟩

end StorageFault

/-- The kinds of statements that change rows. -/
inductive Statement where
  | insert
  | update
  | delete
deriving DecidableEq

instance : Named Statement where
  all := [.insert, .update, .delete]
  name
    | .insert => "insert"
    | .update => "update"
    | .delete => "delete"

/-- What goes wrong in the storage. -/
structure Faults where
  /-- Statements of a kind fail when they touch a row of a table. -/
  refuses : Table → Statement → Bool
  /-- A rival inserts the same key into a table first, and goes away again. -/
  rivals : Table → Bool
  /-- The storage cannot be reached. -/
  blocked : Bool

/-- Nothing goes wrong. -/
def Faults.none : Faults := ⟨fun _ _ => false, fun _ => false, false⟩

/-- A unit of work on the books: its result with the books it leaves, or an error. -/
abbrev Work (ε α : Type) := StateT Books (Except ε) α

/-- No two of the rows clash. -/
def allDistinct {ρ : Type} (clashes : ρ → ρ → Bool) : List ρ → Bool
  | [] => true
  | row :: rest => !rest.any (clashes row) && allDistinct clashes rest

/-- Adds a row. -/
def insert {ρ : Type} (faults : Faults) (sheet : Sheet ρ) (row : ρ) : Work StorageFault Unit :=
  fun books =>
    let after := sheet.replace books (sheet.rows books ++ [row])
    if faults.refuses sheet.table .insert || !sheet.isFit books row then .error .refused
    else if faults.rivals sheet.table || (sheet.rows books).any (sheet.clashes books row) then
      .error .notUnique
    else if sheet.isLinked after row then .ok ((), after)
    else .error .refused

/-- Changes the rows chosen and tells how many there were. -/
def change {ρ : Type} (faults : Faults) (sheet : Sheet ρ) (chosen : ρ → Bool) (alter : ρ → ρ) :
    Work StorageFault Nat :=
  fun books =>
    let touched := (sheet.rows books).filter chosen
    let rows := (sheet.rows books).map fun row => if chosen row then alter row else row
    let after := sheet.replace books rows
    if touched.isEmpty then .ok (0, books)
    else if faults.refuses sheet.table .update ||
        touched.any fun row => !sheet.isFit books (alter row) then .error .refused
    else if !allDistinct (sheet.clashes books) rows then .error .notUnique
    else if touched.all fun row => sheet.isLinked after (alter row) then
      .ok (touched.length, after)
    else .error .refused

/-- Changes one row, which has to be there. -/
def changeOne {ρ : Type} (faults : Faults) (sheet : Sheet ρ) (chosen : ρ → Bool)
    (alter : ρ → ρ) : Work StorageFault Unit := do
  let count ← change faults sheet chosen alter
  if count = 0 then throw .refused

/-- A place of one of the rows. -/
def Sheet.isAmong {ρ : Type} (sheet : Sheet ρ) (rows : List ρ) (spot : Spot) : Bool :=
  spot.table == sheet.table && rows.any fun row => sheet.key row == spot.row

/-- Removes the rows chosen, which nothing may refer to, and tells how many there were. -/
def remove {ρ : Type} (faults : Faults) (sheet : Sheet ρ) (referred : Books → ρ → Bool)
    (chosen : ρ → Bool) : Work StorageFault Nat :=
  fun books =>
    let touched := (sheet.rows books).filter chosen
    if touched.isEmpty then .ok (0, books)
    else if faults.refuses sheet.table .delete then .error .refused
    else if touched.any (referred books) then .error .refused
    else
      let after := sheet.replace books ((sheet.rows books).filter fun row => !chosen row)
      .ok (touched.length, { after with
        strays := books.strays.filter fun stray => !sheet.isAmong touched stray.1 })

/-- Nothing refers to the row. -/
def unreferred {ρ : Type} (_ : Books) (_ : ρ) : Bool := false

/-- Accounts with children or lines are referred to. -/
def accountReferred (books : Books) (row : AccountRow) : Bool :=
  books.accounts.any (fun other => other.id != row.id &&
      books.agree (other.spot "parent_id") (row.spot "id") (other.parent == some row.id)) ||
    books.lines.any fun line =>
      books.agree (line.spot "account_id") (row.spot "id") (line.line.account == row.id)

/-- Entries linked to others are referred to. -/
def entryReferred (books : Books) (row : EntryRow) : Bool :=
  books.entries.any fun other => other.id != row.id &&
    (books.agree (other.spot "reverses_entry_id") (row.spot "id")
        (other.reverses == some row.id) ||
      books.agree (other.spot "reversed_by_entry_id") (row.spot "id")
        (other.reversal == some row.id))

/-- A line of an entry. -/
def isLineOf (books : Books) (entry : EntryId) (row : LineRow) : Bool :=
  row.entry == entry && books.isUsual (row.spot "entry_id")

/-- Removes an entry together with the lines it has left. -/
def removeEntry (faults : Faults) (id : EntryId) : Work StorageFault Nat := fun books =>
  (do
    let _ ← remove faults lineSheet unreferred (isLineOf books id)
    remove faults entrySheet entryReferred fun row =>
      row.id == id && books.isUsual (row.spot "id")) books

/-- Removes a wallet together with its limits. -/
def removeWallet (faults : Faults) (id : WalletId) : Work StorageFault Nat := fun books =>
  (do
    let _ ← remove faults limitsSheet unreferred fun row => row.wallet == id
    remove faults walletSheet unreferred fun row =>
      row.id == id && books.isUsual (row.spot "id")) books

end Passbook.Store
