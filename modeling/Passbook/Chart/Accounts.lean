/-
**The chart of accounts.**

* `createAccount`: an account with nothing on it under a code of its own. The code is looked up
  first; a rival that opens it in between is found by the code's uniqueness;
* `updateAccount`: reads the account, then writes its new name or status, without holding it in
  between;
* `listAccounts`: the accounts of a type or status by code, a page at a time;
* `port`: the chart as a ledger port.
-/

import Passbook.Chart.Port
import Passbook.Page
import Passbook.Store.Session

namespace Passbook.Chart

open Passbook.Ledger (AccountBalance AccountStatus AccountType LedgerAccount LedgerError NewAccount)
open Passbook.Store

/-- The causes of a refusal. -/
inductive AccountError where
  /-- The code belongs to another account. -/
  | duplicateCode (code : String)
  /-- The parent is not in the chart. -/
  | parentNotFound (account : AccountId)
  /-- The account is not in the chart. -/
  | notFound (account : AccountId)
  /-- No account has the code. -/
  | codeNotFound (code : String)
  /-- The ledger refuses. -/
  | ledger (cause : LedgerError)
  /-- The storage failed. -/
  | storage (fault : StorageFault)
deriving DecidableEq

namespace AccountError

/-- The report of a cause. -/
def report : AccountError → Report
  | duplicateCode code =>
    .plain .conflict "DuplicateCode" ("Account code '" ++ code ++ "' already exists")
  | parentNotFound account =>
    .plain .notFound "ParentNotFound" ("Parent account not found: " ++ account.text)
  | notFound account => .plain .notFound "NotFound" ("Account not found: " ++ account.text)
  | codeNotFound code => .plain .notFound "CodeNotFound" ("Account not found: " ++ code)
  | ledger cause => cause.report
  | storage fault => fault.report

/-- The cause as other parts see it. -/
def problem (error : AccountError) : Problem :=
  let report := error.report
  ⟨report.category, (report.words.map Prod.fst).getD "storage failure"⟩

end AccountError

instance : StorageCause AccountError := ⟨.storage⟩

instance : Reportable AccountError := ⟨fun cause => .ok cause.report⟩

/-- The account of an identifier, if there is one. -/
def findAccount (session : Session) (id : AccountId) : Action AccountError (Option AccountRow) :=
  .lookUp session accountSheet fun books => books.account? id

/-- The account of an identifier. -/
def getAccount (session : Session) (id : AccountId) : Action AccountError AccountRow := do
  .found (.notFound id) (← findAccount session id)

/-- The account of a code without the blanks around it, if there is one. -/
def findByCode (session : Session) (code : String) : Action AccountError (Option AccountRow) :=
  .lookUp session accountSheet fun books => books.accountByCode? (Text.trim code)

/-- The account of a code. -/
def getByCode (session : Session) (code : String) : Action AccountError AccountRow := do
  .found (.codeNotFound code) (← findByCode session code)

/-- The row of an account that is opened. -/
def newRow (id : AccountId) (now : Calendar.Instant) (input : NewAccount) : AccountRow where
  id := id
  code := Text.trim input.code
  name := Text.trim input.name
  accountType := input.accountType
  currency := Text.capitals input.currency
  balance := .zero
  status := .active
  parent := input.parent
  createdAt := now
  updatedAt := now

/-- Adds the row of an account. A code that is taken by now is a duplicate. -/
def insertAccount (session : Session) (input : NewAccount) : Work AccountError AccountRow := do
  let id ← Work.fresh
  let row := newRow ⟨id⟩ session.now input
  Work.mapError (fun fault =>
      match fault with
      | .notUnique => .duplicateCode row.code
      | fault => .storage fault)
    (insert session.faults accountSheet row)
  pure row

/-- The parent has to be in the chart. -/
def ensureParent (session : Session) : Option AccountId → Action AccountError Unit
  | none => pure ()
  | some parent => do
    let _ ← Action.found (.parentNotFound parent) (← findAccount session parent)

/-- Opens an account. -/
def createAccount (session : Session) (input : NewAccount) : Action AccountError AccountRow := do
  .verdict (input.validate.mapError .ledger)
  let code := Text.trim input.code
  if (← findByCode session code).isSome then throw (.duplicateCode code)
  ensureParent session input.parent
  .atomically session (insertAccount session input)

/-- Which accounts a listing asks for. -/
structure AccountFilter where
  accountType : Option AccountType
  status : Option AccountStatus

/-- An account that a listing asks for. -/
def AccountFilter.admits (filter : AccountFilter) (books : Books) (row : AccountRow) : Bool :=
  filter.accountType.all (fun wanted =>
      wanted == row.accountType && books.isUsual (row.spot "account_type")) &&
    filter.status.all fun wanted => wanted == row.status && books.isUsual (row.spot "status")

/-- The accounts that a listing asks for, by code. -/
def matchingAccounts (filter : AccountFilter) (books : Books) : List AccountRow :=
  (books.accounts.filter (filter.admits books)).mergeSort fun first second =>
    !decide (second.code < first.code)

/-- A page of a listing. -/
def listAccounts (session : Session) (filter : AccountFilter) (page : PageRequest) :
    Action (Halt AccountError) (Page AccountRow) :=
  .gatherPage session accountSheet (matchingAccounts filter) page

/-- What is to change of an account. -/
structure AccountChange where
  name : Option String
  status : Option AccountStatus

/-- An account changed at an instant. The name is taken as it is given. -/
def AccountChange.applyTo (wanted : AccountChange) (now : Calendar.Instant) (row : AccountRow) :
    AccountRow :=
  { row with
    name := wanted.name.getD row.name
    status := wanted.status.getD row.status
    updatedAt := now }

/-- Writes the change of an account and gives the row as it stands then. -/
def writeAccount (session : Session) (id : AccountId) (wanted : AccountChange) :
    Work AccountError AccountRow := do
  Work.stored (changeOne session.faults accountSheet (fun row => row.id == id)
    (wanted.applyTo session.now))
  Work.found (.storage .refused) (← Work.lookUp accountSheet fun books => books.account? id)

/-- Changes the name or the status of an account. -/
def updateAccount (session : Session) (id : AccountId) (wanted : AccountChange) :
    Action AccountError AccountRow := do
  let row ← getAccount session id
  .atomically session (writeAccount session row.id wanted)

/-- The balance of an account. -/
def accountBalance (session : Session) (id : AccountId) : Action AccountError AccountBalance :=
  AccountRow.balance <$> getAccount session id

/-- An operation on the chart as other parts see it. -/
def shown {α β : Type} (view : α → β) (action : Action AccountError α) :
    StateM World (Except Problem β) := fun world =>
  let (result, world) := action world
  ((result.map view).mapError AccountError.problem, world)

/-- The chart as a ledger port. -/
def port (session : Session) : LedgerPort (StateM World) where
  find code := shown (Option.map AccountRow.shown) (findByCode session code)
  create input := shown AccountRow.shown (createAccount session input)

end Passbook.Chart
