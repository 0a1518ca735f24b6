/-
**What moving money refuses.**

Causes of its own and those of wallets and limits. The latter keep their code, category and words.
-/

import Passbook.Halt
import Passbook.Limits.State
import Passbook.Wallet.Error

namespace Passbook.Transfer

open Passbook.Limits (LimitError)
open Passbook.Wallet (WalletError)

/-- The causes of a refusal. -/
inductive TransferError where
  /-- Only a positive amount can be moved. -/
  | invalidAmount (amount : Amount)
  /-- A wallet cannot pay itself. -/
  | sameWallet
  /-- The wallets have different currencies. -/
  | currencyMismatch (source destination : String)
  /-- The key of the movement is empty or too long. -/
  | invalidKey (key : String)
  /-- A wallet refuses. -/
  | wallet (cause : WalletError)
  /-- A limit refuses. -/
  | limit (cause : LimitError)
deriving DecidableEq

namespace TransferError

/-- The report of a cause. -/
def report : TransferError → Except Overflow Report
  | invalidAmount amount =>
    .ok (.plain .validation "INVALID_AMOUNT"
      ("Amount must be positive, got " ++ Text.decimal amount.units))
  | sameWallet => .ok (.plain .badRequest "SAME_WALLET" "Cannot transfer to the same wallet")
  | currencyMismatch source destination =>
    .ok (.plain .badRequest "CURRENCY_MISMATCH"
      ("currency mismatch: " ++ source ++ " to " ++ destination))
  | invalidKey key =>
    .ok (.plain .validation "INVALID_TRANSACTION_ID" ("Invalid transaction id: " ++ key))
  | wallet cause => cause.report
  | limit cause => .ok cause.report

end TransferError

instance : Reportable TransferError := ⟨TransferError.report⟩

end Passbook.Transfer
