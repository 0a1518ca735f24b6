/-
**What an operation answers.**

* `Answer`: the results of all operations;
* `Failure`: the ends of all operations without a result;
* `Task`: an operation on the books whose end is one of these.
-/

import Passbook.Chart.Accounts
import Passbook.Journal.Entries
import Passbook.Payments.External

namespace Passbook.Operation

open Passbook.Chart (AccountError)
open Passbook.Holdings (HoldingError)
open Passbook.Journal (FullEntry JournalError Reversal)
open Passbook.Ledger (AccountBalance LedgerAccount)
open Passbook.Limits (LimitState)
open Passbook.Payments (PaymentError)
open Passbook.Store
open Passbook.Transfer (Receipt)
open Passbook.Wallet (WalletBalance)

/-- A result. -/
inductive Answer where
  | nothing
  | account (row : Option AccountRow)
  | accounts (page : Page AccountRow)
  | ledgerAccount (account : Option LedgerAccount)
  | accountBalance (balance : AccountBalance)
  | entry (row : EntryRow)
  | fullEntry (entry : FullEntry)
  | reversal (outcome : Reversal)
  | entries (page : Page EntryRow)
  | wallet (row : Option WalletRow)
  | wallets (rows : List WalletRow)
  | balance (balance : WalletBalance)
  | limits (state : LimitState)
  | reservations (outcomes : List (Except HoldingError LimitState))
  | receipt (receipt : Receipt)
  | count (rows : Nat)
  | deposit (row : DepositRow)

/-- An end without a result. -/
inductive Failure where
  /-- The chart refused. -/
  | chart (halt : Halt AccountError)
  /-- The chart, asked as a ledger, had a problem. -/
  | ledger (problem : Problem)
  /-- The journal refused. -/
  | journal (halt : Halt JournalError)
  /-- The wallets or their limits refused. -/
  | holding (halt : Halt HoldingError)
  /-- The movement was refused. -/
  | payment (halt : Halt PaymentError)
  /-- The storage failed. -/
  | storage (fault : StorageFault)
deriving DecidableEq

instance : Reportable Failure where
  report
    | .chart halt => Reportable.report halt
    | .ledger problem => Reportable.report problem
    | .journal halt => Reportable.report halt
    | .holding halt => Reportable.report halt
    | .payment halt => Reportable.report halt
    | .storage fault => Reportable.report fault

/-- An operation on the books. -/
abbrev Task := Action Failure Answer

/-- An operation of a part of the books, its ends taken as those of any operation. -/
def answering {ε α : Type} (fail : ε → Failure) (answer : α → Answer) (action : Action ε α) :
    Task := fun world =>
  let (result, world) := action world
  ((result.map answer).mapError fail, world)

/-- An operation of the chart. -/
def ofChart {α : Type} (answer : α → Answer) (action : Action AccountError α) : Task :=
  answering (fun cause => .chart (.refused cause)) answer action

/-- A listing of the chart. -/
def ofListing (action : Action (Halt AccountError) (Page AccountRow)) : Task :=
  answering .chart .accounts action

/-- An operation of the chart as a ledger. -/
def ofLedger {α : Type} (answer : α → Answer) (action : StateM World (Except Problem α)) :
    Task :=
  answering .ledger answer action

/-- An operation of the journal. -/
def ofJournal {α : Type} (answer : α → Answer) (action : Action (Halt JournalError) α) :
    Task :=
  answering .journal answer action

/-- An operation on wallets or their limits. -/
def ofHolding {α : Type} (answer : α → Answer) (action : Action HoldingError α) : Task :=
  answering (fun cause => .holding (.refused cause)) answer action

/-- An operation on the balance of a wallet. -/
def ofHold (action : Action (Halt HoldingError) WalletBalance) : Task :=
  answering .holding .balance action

/-- A movement of money. -/
def ofPayment (action : Action (Halt PaymentError) Receipt) : Task :=
  answering .payment .receipt action

/-- A statement by hand. -/
def ofStorage {α : Type} (answer : α → Answer) (action : Action StorageFault α) : Task :=
  answering .storage answer action

end Passbook.Operation
