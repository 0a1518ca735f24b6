/-
**Wallets, their conditions, and what they refuse.**

A wallet is active, frozen or closed.

* `WalletError.message`: the words of a cause. The words for a missing balance name the shortfall,
  an unguarded difference;
* `WalletError.report`: code, category and words of a cause.
-/

import Passbook.Amount
import Passbook.Halt
import Passbook.Identifier
import Passbook.Named
import Passbook.Problem

namespace Passbook.Wallet

/-- The types of wallets. -/
inductive WalletType where
  | main
  | savings
  | rewards
deriving DecidableEq

instance : Named WalletType where
  all := [.main, .savings, .rewards]
  name
    | .main => "main"
    | .savings => "savings"
    | .rewards => "rewards"

/-- The conditions of a wallet. -/
inductive WalletStatus where
  | active
  | frozen
  | closed
deriving DecidableEq

instance : Named WalletStatus where
  all := [.active, .frozen, .closed]
  name
    | .active => "active"
    | .frozen => "frozen"
    | .closed => "closed"

/-- The causes of a refusal. -/
inductive WalletError where
  /-- Only an active wallet takes part. -/
  | inactive (wallet : WalletId) (status : WalletStatus)
  /-- The wallet was closed for good. -/
  | alreadyClosed (wallet : WalletId)
  /-- The status does not lead to the other. -/
  | illegalStatusChange (current wanted : WalletStatus)
  /-- Funds are left in a wallet that is to be closed. -/
  | closeWithBalance (balance : Amount)
  /-- Too little is available. -/
  | insufficientBalance (available requested : Amount)
  /-- Too little is held. -/
  | insufficientHeld (held requested : Amount)
  /-- Only a positive amount can be moved. -/
  | invalidAmount (amount : Amount)
  /-- A balance leaves the range. -/
  | overflow
  /-- The wallet is someone else's. -/
  | notOwner (wallet : WalletId)
deriving DecidableEq

namespace WalletError

/-- The code of a cause. -/
def code : WalletError → String
  | inactive _ _ => "WALLET_INACTIVE"
  | alreadyClosed _ => "WALLET_CLOSED"
  | illegalStatusChange _ _ => "ILLEGAL_STATUS_CHANGE"
  | closeWithBalance _ => "WALLET_NOT_EMPTY"
  | insufficientBalance _ _ => "INSUFFICIENT_BALANCE"
  | insufficientHeld _ _ => "INSUFFICIENT_HELD"
  | invalidAmount _ => "INVALID_AMOUNT"
  | overflow => "AMOUNT_OVERFLOW"
  | notOwner _ => "NOT_OWNER"

/-- The category of a cause. -/
def category : WalletError → Category
  | inactive _ _ => .badRequest
  | alreadyClosed _ => .conflict
  | illegalStatusChange _ _ => .conflict
  | closeWithBalance _ => .badRequest
  | insufficientBalance _ _ => .badRequest
  | insufficientHeld _ _ => .badRequest
  | invalidAmount _ => .validation
  | overflow => .validation
  | notOwner _ => .forbidden

/-- The message of a cause. -/
def message : WalletError → Except Overflow String
  | inactive wallet status =>
    .ok ("Wallet " ++ wallet.text ++ " is " ++ Named.name status ++ ", not active")
  | alreadyClosed wallet => .ok ("Wallet " ++ wallet.text ++ " is already closed")
  | illegalStatusChange current wanted =>
    .ok ("Cannot change wallet status from " ++ Named.name current ++ " to " ++ Named.name wanted)
  | closeWithBalance balance =>
    .ok ("Wallet still holds a balance of " ++ Text.decimal balance.units)
  | insufficientBalance available requested =>
    (requested.sub available).map fun shortfall =>
      "insufficient balance: available " ++ Text.decimal available.units ++ ", requested " ++
        Text.decimal requested.units ++ ", short by " ++ Text.decimal shortfall.units
  | insufficientHeld held requested =>
    .ok ("Cannot release " ++ Text.decimal requested.units ++ ", only " ++
      Text.decimal held.units ++ " is held")
  | invalidAmount amount => .ok ("Amount must be positive, got " ++ Text.decimal amount.units)
  | overflow => .ok "Wallet balance overflow"
  | notOwner wallet => .ok ("Wallet " ++ wallet.text ++ " does not belong to the caller")

/-- The report of a cause. -/
def report (error : WalletError) : Except Overflow Report :=
  error.message.map (.plain error.category error.code)

end WalletError

instance : Reportable WalletError := ⟨WalletError.report⟩

end Passbook.Wallet
