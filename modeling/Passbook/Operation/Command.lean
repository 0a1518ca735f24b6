/-
**The operations that change the books.**

* `Command`: what may be asked for;
* `Command.run`: the operation that answers it.
-/

import Passbook.Operation.Answer

namespace Passbook.Operation

open Passbook.Chart (AccountChange)
open Passbook.Journal (NewEntry)
open Passbook.Ledger (NewAccount)
open Passbook.Payments (MovementRequest TransferRequest)
open Passbook.Store
open Passbook.Wallet (WalletStatus WalletType)

/-- What may be asked for to change the books. -/
inductive Command where
  | createAccount (input : NewAccount)
  /-- Opens an account as a ledger does for others. -/
  | openAccount (input : NewAccount)
  | ensureAccount (input : NewAccount)
  | updateAccount (account : AccountId) (wanted : AccountChange)
  | createEntry (input : NewEntry)
  | postEntry (entry : EntryId) (user : UserId)
  | voidEntry (entry : EntryId) (user : UserId) (reason : String)
  | reverseEntry (entry : EntryId) (user : UserId) (reason : String)
  | deleteDraft (entry : EntryId)
  | createWallet (owner : UserId) (walletType : WalletType) (currency : String)
  | updateStatus (wallet : WalletId) (status : WalletStatus)
  | closeWallet (wallet : WalletId) (reason : String)
  | placeHold (wallet : WalletId) (amount : Amount)
  | releaseHold (wallet : WalletId) (amount : Amount)
  | provisionWallet (wallet : WalletId)
  | updateLimits (wallet : WalletId) (daily monthly : Amount)
  /-- Counts amounts against limits outside a transfer, and keeps the counters or not. -/
  | reserve (wallet : WalletId) (amounts : List Amount) (commit : Bool)
  | transfer (request : TransferRequest)
  | deposit (request : MovementRequest)
  | withdraw (request : MovementRequest)
  | externalDeposit (request : MovementRequest)

/-- Counts amounts against the limits of a wallet and keeps the counters if asked to. -/
def reserveAmounts (session : Session) (wallet : WalletId) (amounts : List Amount)
    (commit : Bool) : Task :=
  let work := Holdings.reserveEach session wallet amounts
  ofHolding .reservations
    (if commit then Action.atomically session work else Action.rehearse session work)

/-- The operation that answers a command. -/
def Command.run (session : Session) : Command → Task
  | createAccount input => ofChart (.account ∘ some) (Chart.createAccount session input)
  | openAccount input => ofLedger (.ledgerAccount ∘ some) ((Chart.port session).create input)
  | ensureAccount input =>
    ofLedger (.ledgerAccount ∘ some) (Chart.ensureAccount (Chart.port session) input)
  | updateAccount account wanted =>
    ofChart (.account ∘ some) (Chart.updateAccount session account wanted)
  | createEntry input => ofJournal .fullEntry (Journal.createEntry session input)
  | postEntry entry user => ofJournal .entry (Journal.postEntry session entry user)
  | voidEntry entry user reason => ofJournal .entry (Journal.voidEntry session entry user reason)
  | reverseEntry entry user reason =>
    ofJournal .reversal (Journal.reverseEntry session entry user reason)
  | deleteDraft entry => ofJournal (fun _ => .nothing) (Journal.deleteDraft session entry)
  | createWallet owner walletType currency =>
    ofHolding (.wallet ∘ some) (Holdings.createWallet session owner walletType currency)
  | updateStatus wallet status =>
    ofHolding (.wallet ∘ some) (Holdings.updateStatus session wallet status)
  | closeWallet wallet reason =>
    ofHolding (.wallet ∘ some) (Holdings.closeWallet session wallet reason)
  | placeHold wallet amount => ofHold (Holdings.placeHold session wallet amount)
  | releaseHold wallet amount => ofHold (Holdings.releaseHold session wallet amount)
  | provisionWallet wallet =>
    ofHolding (.ledgerAccount ∘ some)
      (Holdings.provisionWallet session (Chart.port session) wallet)
  | updateLimits wallet daily monthly =>
    ofHolding .limits (Holdings.updateLimits session wallet daily monthly)
  | reserve wallet amounts commit => reserveAmounts session wallet amounts commit
  | transfer request => ofPayment (Payments.processTransfer session request)
  | deposit request => ofPayment (Payments.processDeposit session request)
  | withdraw request => ofPayment (Payments.processWithdrawal session request)
  | externalDeposit request => ofPayment (Payments.completeExternalDeposit session request)

end Passbook.Operation
