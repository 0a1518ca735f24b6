/-
**What keeping wallets refuses.**

Causes of its own, and those of wallets, limits, the ledger and the storage, which keep their code
and category.
-/

import Passbook.Limits.State
import Passbook.Money
import Passbook.Store.Session
import Passbook.Wallet.Error

namespace Passbook.Holdings

open Passbook.Limits (LimitError)
open Passbook.Store
open Passbook.Wallet (WalletError WalletType)

/-- The causes of a refusal. -/
inductive HoldingError where
  /-- There is no such wallet. -/
  | notFound (wallet : WalletId)
  /-- The owner has a wallet of the type and currency. -/
  | duplicate (owner : UserId) (walletType : WalletType) (currency : Currency)
  /-- The text names no supported currency. -/
  | unsupportedCurrency (text : String)
  /-- The wallet has no limits. -/
  | limitsNotFound (wallet : WalletId)
  /-- The wallet refuses. -/
  | wallet (cause : WalletError)
  /-- The limits refuse. -/
  | limit (cause : LimitError)
  /-- The ledger has a problem. -/
  | ledger (problem : Problem)
  /-- The storage failed. -/
  | storage (fault : StorageFault)
deriving DecidableEq

/-- The report of a cause. -/
def HoldingError.report : HoldingError → Except Overflow Report
  | notFound id => .ok (.plain .notFound "NotFound" ("Wallet not found: " ++ id.text))
  | duplicate owner walletType currency =>
    .ok (.plain .conflict "Duplicate"
      ("User " ++ owner.text ++ " already has a " ++ Named.name walletType ++ " wallet in " ++
        currency.code))
  | unsupportedCurrency text =>
    .ok (.plain .validation "UnsupportedCurrency" ("Unsupported currency: " ++ text))
  | limitsNotFound id =>
    .ok (.plain .notFound "LimitsNotFound" ("Limits not found for wallet " ++ id.text))
  | wallet cause => cause.report
  | limit cause => .ok cause.report
  | ledger problem => .ok (.wrapped problem "Ledger" ("Ledger error: " ++ problem.text))
  | storage fault => .ok fault.report

instance : StorageCause HoldingError := ⟨.storage⟩

instance : Reportable HoldingError := ⟨HoldingError.report⟩

end Passbook.Holdings
