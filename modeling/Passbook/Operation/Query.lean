/-
**The operations that only look at the books.**

* `Query`: what may be asked for;
* `Query.run`: the operation that answers it.
-/

import Passbook.Operation.Answer

namespace Passbook.Operation

open Passbook.Chart (AccountFilter)
open Passbook.Ledger (EntryStatus)
open Passbook.Store
open Passbook.Wallet (WalletStatus)

/-- What may be asked for without changing the books. -/
inductive Query where
  | findAccount (account : AccountId)
  | getAccount (account : AccountId)
  | findByCode (code : String)
  | getByCode (code : String)
  /-- Finds an account as a ledger does for others. -/
  | lookUp (code : String)
  | listAccounts (filter : AccountFilter) (page : PageRequest)
  | accountBalance (account : AccountId)
  | getEntry (entry : EntryId)
  | listEntries (status : Option EntryStatus) (page : PageRequest)
  | findWallet (wallet : WalletId)
  | getWallet (wallet : WalletId)
  | listWallets (owner : UserId) (status : Option WalletStatus)
  | walletBalance (wallet : WalletId)
  | getLimits (wallet : WalletId)

/-- The operation that answers a query. -/
def Query.run (session : Session) : Query → Task
  | findAccount account => ofChart .account (Chart.findAccount session account)
  | getAccount account => ofChart (.account ∘ some) (Chart.getAccount session account)
  | findByCode code => ofChart .account (Chart.findByCode session code)
  | getByCode code => ofChart (.account ∘ some) (Chart.getByCode session code)
  | lookUp code => ofLedger .ledgerAccount ((Chart.port session).find code)
  | listAccounts filter page => ofListing (Chart.listAccounts session filter page)
  | accountBalance account => ofChart .accountBalance (Chart.accountBalance session account)
  | getEntry entry => ofJournal .fullEntry (Journal.getEntry session entry)
  | listEntries status page => ofJournal .entries (Journal.listEntries session status page)
  | findWallet wallet => ofHolding .wallet (Holdings.findWallet session wallet)
  | getWallet wallet => ofHolding (.wallet ∘ some) (Holdings.getWallet session wallet)
  | listWallets owner status => ofHolding .wallets (Holdings.listWallets session owner status)
  | walletBalance wallet => ofHolding .balance (Holdings.walletBalance session wallet)
  | getLimits wallet => ofHolding .limits (Holdings.getLimits session wallet)

end Passbook.Operation
