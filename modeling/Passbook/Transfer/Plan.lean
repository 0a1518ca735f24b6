/-
**Planning a movement of money.**

* `TransactionKey.read`: the key under which a movement happens once, without blanks around it;
* `planTransfer`, `planDeposit`, `planWithdrawal`: the balances after a movement, or the first rule
  that refuses it;
* `Receipt`: what a caller is told of a movement.
-/

import Passbook.Text.Blank
import Passbook.Transfer.Error
import Passbook.Wallet.Balance

namespace Passbook.Transfer

open Passbook.Wallet (Snapshot WalletBalance WalletError)

/-- The kinds of movements. -/
inductive OperationKind where
  | transfer
  | deposit
  | withdrawal
deriving DecidableEq

instance : Named OperationKind where
  all := [.transfer, .deposit, .withdrawal]
  name
    | .transfer => "transfer"
    | .deposit => "deposit"
    | .withdrawal => "withdrawal"

/-- The key under which a movement happens once. -/
structure TransactionKey where
  text : String
deriving DecidableEq

/-- The most characters of a key. -/
def greatestKeyLength : Nat := 128

/-- Blanks around a key do not count; it must not be empty or too long. -/
def TransactionKey.read (raw : String) : Except TransferError TransactionKey :=
  let text := Text.trim raw
  if text.isEmpty || greatestKeyLength < text.length then .error (.invalidKey text)
  else .ok ⟨text⟩

/-- What a caller is told of a movement. -/
structure Receipt where
  kind : OperationKind
  key : TransactionKey
  amount : Amount
  replayed : Bool
deriving DecidableEq

/-- The balances of both wallets after a transfer. -/
structure TransferPlan where
  source : WalletBalance
  destination : WalletBalance
deriving DecidableEq

/-- Only a positive amount can be moved. -/
def ensurePositive (amount : Amount) : Except TransferError Unit :=
  if amount.units ≤ 0 then .error (.invalidAmount amount) else .ok ()

/-- The verdict of a wallet on a movement. -/
def ofWallet {α : Type} (verdict : Except WalletError α) : Except TransferError α :=
  verdict.mapError .wallet

/-- The verdict of a wallet on a movement, or an overflow. -/
def ofHalt {α : Type} (verdict : Except (Halt WalletError) α) : Except (Halt TransferError) α :=
  verdict.mapError (Halt.map .wallet)

/-- The rules of a transfer in the order in which they are looked at. -/
def validateTransfer (source destination : Snapshot) (amount : Amount) :
    Except TransferError Unit := do
  ensurePositive amount
  if source.id = destination.id then throw .sameWallet
  ofWallet (Wallet.ensureActive source)
  ofWallet (Wallet.ensureActive destination)
  if source.currency ≠ destination.currency then
    throw (.currencyMismatch source.currency destination.currency)
  ofWallet (source.balance.ensureAvailable amount)

/-- The balances after a transfer. -/
def planTransfer (source destination : Snapshot) (amount : Amount) :
    Except (Halt TransferError) TransferPlan := do
  ruled (validateTransfer source destination amount)
  let debited ← ofHalt (source.balance.debit amount)
  let credited ← ruled (ofWallet (destination.balance.credit amount))
  pure ⟨debited, credited⟩

/-- The balance after a deposit. -/
def planDeposit (wallet : Snapshot) (amount : Amount) : Except TransferError WalletBalance := do
  ensurePositive amount
  ofWallet (Wallet.ensureActive wallet)
  ofWallet (wallet.balance.credit amount)

/-- The balance after a withdrawal. -/
def planWithdrawal (wallet : Snapshot) (amount : Amount) :
    Except (Halt TransferError) WalletBalance := do
  ruled (ensurePositive amount)
  ruled (ofWallet (Wallet.ensureActive wallet))
  ofHalt (wallet.balance.debit amount)

end Passbook.Transfer
