/-
**What processing payments refuses.**

Causes of its own, and those of transfers, wallets and the storage, which keep their code and
category.
-/

import Passbook.Holdings.Error
import Passbook.Transfer.Plan

namespace Passbook.Payments

open Passbook.Holdings (HoldingError)
open Passbook.Store
open Passbook.Transfer (OperationKind TransferError)

/-- The causes of a refusal. -/
inductive PaymentError where
  /-- The deadline passed before anything was committed. -/
  | timeout (kind : OperationKind) (milliseconds : Nat)
  /-- The key belongs to another movement. -/
  | duplicateTransaction (key : String)
  /-- The rules of movements refuse. -/
  | transfer (cause : TransferError)
  /-- A wallet or its limits refuse. -/
  | holding (cause : HoldingError)
  /-- The storage failed. -/
  | storage (fault : StorageFault)
deriving DecidableEq

/-- The report of a cause. -/
def PaymentError.report : PaymentError → Except Overflow Report
  | timeout kind milliseconds =>
    .ok (.plain .timeout "Timeout"
      (Named.name kind ++ " timed out after " ++ Text.decimal milliseconds ++ " ms"))
  | duplicateTransaction key =>
    .ok (.plain .conflict "DuplicateTransaction"
      ("Transaction " ++ key ++ " is already being processed"))
  | transfer cause => cause.report
  | holding cause => cause.report
  | storage fault => .ok fault.report

instance : StorageCause PaymentError := ⟨.storage⟩

instance : Reportable PaymentError := ⟨PaymentError.report⟩

end Passbook.Payments
