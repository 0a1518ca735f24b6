/-
**Books for a first look.**

* `openChart`: the accounts that every chart has;
* `demoWallet`: the wallet of a demonstration, opened once;
* `runScript`: a deposit, a transfer, the same transfer again, and one that asks for too much;
* `bootstrap`: all of it. Every step may be taken again: what is there stays, and money moves once;
* `start`: all of it under the settings in force, if there are any.
-/

import Passbook.Chart.Accounts
import Passbook.Payments.Processing
import Passbook.Settings.Load

namespace Passbook.Bootstrap

open Passbook.Chart (LedgerPort)
open Passbook.Holdings (HoldingError)
open Passbook.Ledger (AccountType LedgerAccount NewAccount)
open Passbook.Payments (MovementRequest PaymentError TransferRequest)
open Passbook.Store
open Passbook.Transfer (Receipt)

/-- Why a step failed. -/
inductive BootstrapError where
  /-- The chart could not be opened. -/
  | chart (problem : Problem)
  /-- A wallet could not be opened or linked. -/
  | holding (cause : HoldingError)
  /-- Money could not be moved. -/
  | payment (halt : Halt PaymentError)

/-- The currency of the demonstration. -/
def currency : Currency := .inr

/-- The accounts that every chart has. -/
def chart : List (String × String × AccountType) :=
  [("1000", "Settlement bank", .asset), ("2000", "Customer wallets", .liability),
    ("3000", "Owner equity", .equity), ("4000", "Fee income", .revenue),
    ("5000", "Payment processing costs", .expense)]

/-- The owner of the first wallet. -/
def firstOwner : UserId := ⟨⟨0xa1, by decide⟩⟩

/-- The owner of the second wallet. -/
def secondOwner : UserId := ⟨⟨0xb2, by decide⟩⟩

/-- An answer of the ledger. -/
def asked {α : Type} (answer : StateM World (Except Problem α)) : Action BootstrapError α :=
  fun world =>
    let (result, world) := answer world
    (result.mapError .chart, world)

/-- Finds or opens accounts. -/
def openAccounts (session : Session) :
    List (String × String × AccountType) → Action BootstrapError Unit
  | [] => pure ()
  | (code, name, accountType) :: rest => do
    let _ ← asked (Chart.ensureAccount (Chart.port session)
      ⟨code, name, accountType, currency.code, none⟩)
    openAccounts session rest

/-- Finds or opens the accounts that every chart has. -/
def openChart (session : Session) : Action BootstrapError Unit := openAccounts session chart

/-- The earliest wallet of an owner in the currency of the demonstration, opened if there is
none. -/
def demoWallet (session : Session) (owner : UserId) : Action BootstrapError WalletId := do
  let wallets ← Action.mapError .holding (Holdings.listWallets session owner none)
  match wallets.find? fun row => row.currency == currency.code with
  | some row => pure row.id
  | none =>
    let row ← Action.mapError .holding
      (Holdings.createWallet session owner .main currency.code)
    pure row.id

/-- Links a wallet to its account in the chart. -/
def provision (session : Session) (wallet : WalletId) : Action BootstrapError LedgerAccount :=
  Action.mapError .holding (Holdings.provisionWallet session (Chart.port session) wallet)

/-- A deposit for the demonstration. -/
def demoDeposit (wallet : WalletId) : MovementRequest :=
  ⟨wallet, .clamp 50000, "seed-deposit-1", none, none⟩

/-- A transfer for the demonstration. -/
def demoTransfer (source destination : WalletId) : TransferRequest :=
  ⟨source, destination, .clamp 20000, "seed-t1", none, none⟩

/-- A transfer of more than there is. -/
def demoOverdraft (source destination : WalletId) : TransferRequest :=
  ⟨source, destination, .clamp 1000000000, "seed-t2", none, none⟩

/-- Whether a movement was refused as a bad request. -/
def isBadRequest (halt : Halt PaymentError) : Bool :=
  match halt with
  | .refused cause =>
    match cause.report with
    | .ok report => report.category == .badRequest
    | .error _ => false
  | .overflowed _ => false

/-- Asks for too much, which may only be refused as a bad request. -/
def tryOverdraft (session : Session) (source destination : WalletId) :
    Action BootstrapError Unit := do
  match ← Action.attempt
      (Payments.processTransfer session (demoOverdraft source destination)) with
  | .ok _ => pure ()
  | .error halt => if isBadRequest halt then pure () else throw (.payment halt)

/-- Moves money between the wallets of the demonstration. -/
def runScript (session : Session) (source destination : WalletId) :
    Action BootstrapError Unit := do
  let _ ← Action.mapError .payment (Payments.processDeposit session (demoDeposit source))
  let _ ← Action.mapError .payment
    (Payments.processTransfer session (demoTransfer source destination))
  let _ ← Action.mapError .payment
    (Payments.processTransfer session (demoTransfer source destination))
  tryOverdraft session source destination

/-- Opens the chart and the wallets of the demonstration and moves money between them. -/
def bootstrap (session : Session) : Action BootstrapError Unit := do
  openChart session
  let first ← demoWallet session firstOwner
  let second ← demoWallet session secondOwner
  let _ ← provision session first
  let _ ← provision session second
  runScript session first second

/-- The session of settings, on a storage in some condition. No movement of a bootstrap has its
deadline set on the clock. -/
def sessionOf (now : Calendar.Instant) (storage : Faults) (settings : Settings) : Session :=
  ⟨now, storage, settings.limits, settings.operationTimeout⟩

/-- Bootstraps the books under the settings of files and variables, and tells whether it went
well. Without settings nothing is done. -/
def start (now : Calendar.Instant) (files : String → Option String)
    (environment : List (String × String)) (world : World) (storage : Faults := .none) :
    Bool × World :=
  match Settings.load? files environment with
  | none => (false, world)
  | some settings =>
    let (result, world) := bootstrap (sessionOf now storage settings) world
    (result.isOk, world)

end Passbook.Bootstrap
