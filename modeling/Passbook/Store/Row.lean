/-
**The rows of the books.**

One structure a table. Amounts carry the range of their column; a moment is an instant in UTC.
-/

import Passbook.Ledger.Account
import Passbook.Ledger.Line
import Passbook.Ledger.Lifecycle
import Passbook.Limits.State
import Passbook.Schema
import Passbook.Wallet.Balance

namespace Passbook.Store

open Passbook.Calendar (Instant)

/-- An account of the chart. -/
structure AccountRow where
  id : AccountId
  code : String
  name : String
  accountType : Ledger.AccountType
  currency : String
  balance : Ledger.AccountBalance
  status : Ledger.AccountStatus
  parent : Option AccountId
  createdAt : Instant
  updatedAt : Instant
deriving DecidableEq

/-- The header of a journal entry. -/
structure EntryRow where
  id : EntryId
  number : String
  entryType : Ledger.EntryType
  description : String
  status : Ledger.EntryStatus
  reference : Option String
  createdBy : UserId
  postedAt : Option Instant
  postedBy : Option UserId
  voidedAt : Option Instant
  voidedBy : Option UserId
  voidReason : Option String
  reversedAt : Option Instant
  reversedBy : Option UserId
  reversalReason : Option String
  /-- The entry that this one reverses. -/
  reverses : Option EntryId
  /-- The entry that reverses this one. -/
  reversal : Option EntryId
  createdAt : Instant
  updatedAt : Instant
deriving DecidableEq

/-- A line of a journal entry and its place there, counted from one. -/
structure LineRow where
  id : LineId
  entry : EntryId
  line : Ledger.Line
  place : Int
deriving DecidableEq

/-- A sequence and the value it gives next. -/
structure SequenceRow where
  name : String
  next : Amount
deriving DecidableEq

/-- A wallet. -/
structure WalletRow where
  id : WalletId
  owner : UserId
  walletType : Wallet.WalletType
  currency : String
  balance : Wallet.WalletBalance
  status : Wallet.WalletStatus
  /-- The account that stands for the wallet in the chart. -/
  ledgerAccount : Option AccountId
  /-- A document in writing. No operation of the domain sets it. -/
  metadata : Option String
  closedAt : Option Instant
  closeReason : Option String
  createdAt : Instant
  updatedAt : Instant
deriving DecidableEq

/-- The limits of a wallet. -/
structure LimitsRow where
  wallet : WalletId
  state : Limits.LimitState
  updatedAt : Instant
deriving DecidableEq

/-- A transfer that was made. -/
structure TransferRow where
  key : String
  source : WalletId
  destination : WalletId
  amount : Amount
  processedAt : Instant
deriving DecidableEq

/-- A deposit that was made or announced. -/
structure DepositRow where
  key : String
  wallet : WalletId
  amount : Amount
  status : DepositStatus
  processedAt : Instant
deriving DecidableEq

/-- A withdrawal that was made. -/
structure WithdrawalRow where
  key : String
  wallet : WalletId
  amount : Amount
  processedAt : Instant
deriving DecidableEq

/-- What the rules need to know of a wallet. -/
def WalletRow.snapshot (row : WalletRow) : Wallet.Snapshot where
  id := row.id
  owner := row.owner
  currency := row.currency
  status := row.status
  balance := row.balance

/-- An account as the ledger shows it to others. -/
def AccountRow.shown (row : AccountRow) : Ledger.LedgerAccount where
  id := row.id
  code := row.code
  name := row.name
  accountType := row.accountType
  currency := row.currency
  status := row.status

end Passbook.Store
