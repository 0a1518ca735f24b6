/-
**What the books make known.**

An event tells of a change after it was committed.
-/

import Passbook.Calendar.Instant
import Passbook.Identifier
import Passbook.Wallet.Error

namespace Passbook

open Passbook.Calendar (Instant)
open Passbook.Wallet (WalletStatus)

/-- A committed change. -/
inductive Event where
  | transferCompleted (key : String) (source destination : WalletId) (amount : Amount)
      (currency : String) (moment : Instant)
  | depositCompleted (key : String) (wallet : WalletId) (amount : Amount) (moment : Instant)
  | withdrawalCompleted (key : String) (wallet : WalletId) (amount : Amount) (moment : Instant)
  | walletCreated (wallet : WalletId) (owner : UserId) (currency : String)
  | walletStatusChanged (wallet : WalletId) (before after : WalletStatus)
  | entryPosted (entry : EntryId) (number : String)
  | entryReversed (entry reversal : EntryId)
deriving DecidableEq

namespace Event

/-- The name of the kind of change. -/
def name : Event → String
  | transferCompleted _ _ _ _ _ _ => "transfer_completed"
  | depositCompleted _ _ _ _ => "deposit_completed"
  | withdrawalCompleted _ _ _ _ => "withdrawal_completed"
  | walletCreated _ _ _ => "wallet_created"
  | walletStatusChanged _ _ _ => "wallet_status_changed"
  | entryPosted _ _ => "entry_posted"
  | entryReversed _ _ => "entry_reversed"

end Event

end Passbook
