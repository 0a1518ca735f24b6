/-
**The journal.**

* `createEntry`: a draft with the next number of the sequence;
* `postEntry`: a draft becomes posted and its lines are added to the accounts;
* `voidEntry`: a posted entry is set aside, the accounts being left as they are;
* `reverseEntry`: a posted entry is cancelled by another, posted at once, with the sides of every
  line exchanged; both are linked to each other;
* `deleteDraft`: a draft goes away with its lines.

Each is one unit of work, so a refusal at any point leaves nothing behind.
-/

import Passbook.Ledger.Lifecycle
import Passbook.Page
import Passbook.Store.Session

namespace Passbook.Journal

open Passbook.Calendar (Instant)
open Passbook.Ledger (AccountBalance EntryStatus EntryType LedgerError Line Step)
open Passbook.Store

/-- The causes of a refusal. -/
inductive JournalError where
  /-- The entry is not in the journal. -/
  | notFound (entry : EntryId)
  /-- A line names an account that is not in the chart. -/
  | accountNotFound (account : AccountId)
  /-- The ledger refuses. -/
  | ledger (cause : LedgerError)
  /-- The storage failed. -/
  | storage (fault : StorageFault)
deriving DecidableEq

/-- The report of a cause. -/
def JournalError.report : JournalError → Report
  | notFound entry => .plain .notFound "NotFound" ("Journal entry not found: " ++ entry.text)
  | accountNotFound account =>
    .plain .notFound "AccountNotFound" ("Account not found: " ++ account.text)
  | ledger cause => cause.report
  | storage fault => fault.report

instance : StorageCause JournalError := ⟨.storage⟩

instance : Reportable JournalError := ⟨fun cause => .ok cause.report⟩

/-- A unit of work on the journal. -/
abbrev JournalWork (α : Type) := Work (Halt JournalError) α

/-- The cause of a refusal of the journal. -/
def refuse {α : Type} (cause : JournalError) : JournalWork α := throw (.refused cause)

/-- The verdict of the ledger. -/
def judged {α : Type} (verdict : Except LedgerError α) : JournalWork α :=
  Work.verdict (verdict.mapError fun cause => .refused (.ledger cause))

/-- An entry that is asked for. -/
structure NewEntry where
  entryType : EntryType
  description : String
  reference : Option String
  lines : List Line
  createdBy : UserId

/-- An entry with its lines. -/
structure FullEntry where
  entry : EntryRow
  lines : List LineRow

/-- An identifier put in its place among ascending ones, once. -/
def insertAscending (id : AccountId) : List AccountId → List AccountId
  | [] => [id]
  | other :: rest =>
    if id = other then other :: rest
    else if id < other then id :: other :: rest
    else other :: insertAscending id rest

/-- The accounts that lines name, in ascending order. -/
def accountsOf (lines : List Line) : List AccountId :=
  lines.foldr (fun line ids => insertAscending line.account ids) []

/-- The accounts have to be in the chart. -/
def ensureAccounts : List AccountId → JournalWork Unit
  | [] => pure ()
  | id :: rest => do
    let _ ← Work.found (.refused (.accountNotFound id))
      (← Work.lookUp accountSheet fun books => books.account? id)
    ensureAccounts rest

/-- The value that the sequence gives, which then gives the one after it. -/
def nextValue (session : Session) : JournalWork Amount := do
  match ← Work.lookUp sequenceSheet fun books => books.sequence? entrySequence with
  | some row =>
    let next ← Work.verdict (unguarded (row.next.add .one))
    Work.stored (changeOne session.faults sequenceSheet (fun other => other.name == row.name)
      fun other => { other with next := next })
    pure row.next
  | none =>
    Work.stored (insert session.faults sequenceSheet ⟨entrySequence, .two⟩)
    pure .one

/-- The number of the next entry. -/
def nextNumber (session : Session) : JournalWork String := Ledger.entryNumber <$> nextValue session

/-- The header of a draft. -/
def draftRow (id : EntryId) (number : String) (input : NewEntry) (now : Instant) : EntryRow where
  id := id
  number := number
  entryType := input.entryType
  description := input.description
  status := .draft
  reference := input.reference
  createdBy := input.createdBy
  postedAt := none
  postedBy := none
  voidedAt := none
  voidedBy := none
  voidReason := none
  reversedAt := none
  reversedBy := none
  reversalReason := none
  reverses := none
  reversal := none
  createdAt := now
  updatedAt := now

/-- Adds lines from a place on. -/
def insertLines (session : Session) (entry : EntryId) :
    (place : Nat) → List Line → JournalWork (List LineRow)
  | _, [] => pure []
  | place, line :: rest => do
    let id ← Work.fresh
    let row : LineRow := ⟨⟨id⟩, entry, line, place⟩
    Work.stored (insert session.faults lineSheet row)
    let rows ← insertLines session entry (place + 1) rest
    pure (row :: rows)

/-- Adds an entry with its lines. -/
def insertEntry (session : Session) (row : EntryRow) (lines : List Line) :
    JournalWork FullEntry := do
  Work.stored (insert session.faults entrySheet row)
  let rows ← insertLines session row.id 1 lines
  pure ⟨row, rows⟩

/-- Books a draft. -/
def bookDraft (session : Session) (input : NewEntry) : JournalWork FullEntry := do
  ensureAccounts (accountsOf input.lines)
  let number ← nextNumber session
  let id ← Work.fresh
  insertEntry session (draftRow ⟨id⟩ number input session.now) input.lines

/-- Creates a draft. Its lines are looked at before the books are. -/
def createEntry (session : Session) (input : NewEntry) :
    Action (Halt JournalError) FullEntry := do
  let _ ← Action.verdict ((Ledger.validateLines input.lines).mapError fun cause =>
    Halt.refused (JournalError.ledger cause))
  .atomically session (bookDraft session input)

/-! ### Steps in the life of an entry -/

/-- The entry has to be in the journal. -/
def lockEntry (id : EntryId) : JournalWork EntryRow := do
  Work.found (.refused (.notFound id)) (← Work.lookUp entrySheet fun books => books.header? id)

/-- The lines of an entry by their place. -/
def loadLines (id : EntryId) : JournalWork (List Line) := do
  let rows ← Work.gather lineSheet fun books => books.linesOf id
  pure (rows.map LineRow.line)

/-- The account has to be in the chart and active. -/
def lockAccount (id : AccountId) : JournalWork AccountRow := do
  let row ← Work.found (.refused (.accountNotFound id))
    (← Work.lookUp accountSheet fun books => books.account? id)
  if row.status ≠ .active then refuse (.ledger (.accountInactive id))
  pure row

/-- The balance of an account after those of the lines that are on it. -/
def balanceAfter (row : AccountRow) (lines : List Line) : Except LedgerError AccountBalance :=
  (lines.filter fun line => line.account == row.id).foldlM
    (fun balance line => balance.apply row.accountType line.debit line.credit) row.balance

/-- The accounts of identifiers, in their order. -/
def lockAccounts : List AccountId → JournalWork (List AccountRow)
  | [] => pure []
  | id :: rest => do
    let row ← lockAccount id
    let rows ← lockAccounts rest
    pure (row :: rows)

/-- The balances of accounts after lines, with the identifiers of the accounts. -/
def balancesAfter (lines : List Line) :
    List AccountRow → Except LedgerError (List (AccountId × AccountBalance))
  | [] => .ok []
  | row :: rest => do
    let balance ← balanceAfter row lines
    let balances ← balancesAfter lines rest
    pure ((row.id, balance) :: balances)

/-- Writes balances. -/
def saveBalances (session : Session) : List (AccountId × AccountBalance) → JournalWork Unit
  | [] => pure ()
  | (id, balance) :: rest => do
    Work.stored (changeOne session.faults accountSheet (fun row => row.id == id)
      fun row => { row with balance := balance, updatedAt := session.now })
    saveBalances session rest

/-- Adds lines to their accounts, which are taken in ascending order. -/
def applyLines (session : Session) (lines : List Line) : JournalWork Unit := do
  let rows ← lockAccounts (accountsOf lines)
  let balances ← judged (balancesAfter lines rows)
  saveBalances session balances

/-- A header after a step. -/
def stepped (step : Step) (row : EntryRow) : EntryRow :=
  match step with
  | .post user moment =>
    { row with
      status := .posted, postedBy := some user, postedAt := some moment, updatedAt := moment }
  | .void user moment reason =>
    { row with
      status := .voided, voidedBy := some user, voidedAt := some moment,
      voidReason := some reason, updatedAt := moment }
  | .reverse user moment reason =>
    { row with
      status := .reversed, reversedBy := some user, reversedAt := some moment,
      reversalReason := some reason, updatedAt := moment }

/-- Writes a header and gives the row as it stands then. -/
def writeEntry (session : Session) (id : EntryId) (alter : EntryRow → EntryRow) :
    JournalWork EntryRow := do
  Work.stored (changeOne session.faults entrySheet (fun row => row.id == id) alter)
  Work.found (.refused (.storage .refused))
    (← Work.lookUp entrySheet fun books => books.header? id)

/-- Posts a draft within a unit of work. -/
def bookPosting (session : Session) (id : EntryId) (user : UserId) : JournalWork EntryRow := do
  let entry ← lockEntry id
  let step ← judged (Ledger.post entry.status user session.now)
  let lines ← loadLines entry.id
  let _ ← judged (Ledger.validateLines lines)
  applyLines session lines
  writeEntry session entry.id (stepped step)

/-- Posts a draft. -/
def postEntry (session : Session) (id : EntryId) (user : UserId) :
    Action (Halt JournalError) EntryRow := do
  let entry ← .atomically session (bookPosting session id user)
  .publish (.entryPosted id entry.number)
  pure entry

/-- Voids a posted entry within a unit of work. -/
def bookVoid (session : Session) (id : EntryId) (user : UserId) (reason : String) :
    JournalWork EntryRow := do
  let entry ← lockEntry id
  let step ← judged (Ledger.void entry.status user (Text.trim reason) session.now)
  writeEntry session entry.id (stepped step)

/-- Voids a posted entry. -/
def voidEntry (session : Session) (id : EntryId) (user : UserId) (reason : String) :
    Action (Halt JournalError) EntryRow :=
  .atomically session (bookVoid session id user reason)

/-- A reversed entry and the one that reverses it. -/
structure Reversal where
  reversed : EntryRow
  reversal : FullEntry

/-- The header of the entry that reverses another, posted at once. -/
def reversalRow (id : EntryId) (number : String) (reversed : EntryRow) (user : UserId)
    (reason : String) (now : Instant) : EntryRow :=
  { draftRow id number
      ⟨.reversing, Ledger.reversalDescription reversed.number reason, reversed.reference, [], user⟩
      now with
    status := .posted
    postedAt := some now
    postedBy := some user
    reverses := some reversed.id }

/-- Reverses a posted entry within a unit of work. -/
def bookReversal (session : Session) (id : EntryId) (user : UserId) (reason : String) :
    JournalWork Reversal := do
  let reversed ← lockEntry id
  let step ← judged (Ledger.reverse reversed.status user reason session.now)
  let lines ← Ledger.reversing <$> loadLines reversed.id
  let _ ← judged (Ledger.validateLines lines)
  let number ← nextNumber session
  let fresh ← Work.fresh
  let reversal ← insertEntry session
    (reversalRow ⟨fresh⟩ number reversed user reason session.now) lines
  applyLines session lines
  let reversed ← writeEntry session reversed.id fun row =>
    { stepped step row with reversal := some reversal.entry.id }
  pure ⟨reversed, reversal⟩

/-- Reverses a posted entry. -/
def reverseEntry (session : Session) (id : EntryId) (user : UserId) (reason : String) :
    Action (Halt JournalError) Reversal := do
  let outcome ← .atomically session (bookReversal session id user (Text.trim reason))
  .publish (.entryReversed id outcome.reversal.entry.id)
  pure outcome

/-- Removes a draft within a unit of work. -/
def dropDraft (session : Session) (id : EntryId) : JournalWork Unit := do
  let entry ← lockEntry id
  if entry.status ≠ .draft then refuse (.ledger (.notDraft entry.status))
  let _ ← Work.stored (removeEntry session.faults entry.id)

/-- Removes a draft with its lines. -/
def deleteDraft (session : Session) (id : EntryId) : Action (Halt JournalError) Unit :=
  .atomically session (dropDraft session id)

/-! ### Looking entries up -/

/-- An entry with its lines. -/
def getEntry (session : Session) (id : EntryId) : Action (Halt JournalError) FullEntry := do
  let entry ← .found (.refused (.notFound id))
    (← .lookUp session entrySheet fun books => books.header? id)
  let lines ← .gather session lineSheet fun books => books.linesOf entry.id
  pure ⟨entry, lines⟩

/-- The headers of a status by their number as text. -/
def matchingEntries (status : Option EntryStatus) (books : Books) : List EntryRow :=
  (books.entries.filter fun row => status.all fun wanted =>
      wanted == row.status && books.isUsual (row.spot "status")).mergeSort fun first second =>
    !decide (second.number < first.number)

/-- A page of a listing. -/
def listEntries (session : Session) (status : Option EntryStatus) (page : PageRequest) :
    Action (Halt JournalError) (Page EntryRow) :=
  .gatherPage session entrySheet (matchingEntries status) page

end Passbook.Journal
