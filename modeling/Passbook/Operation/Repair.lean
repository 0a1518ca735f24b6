/-
**The operations by hand.**

An operator may set columns, remove rows, or announce a deposit, past the rules of the domain.

* `Repair`: what may be done;
* `Repair.run`: the operation that does it.
-/

import Passbook.Operation.Answer
import Passbook.Store.Amend

namespace Passbook.Operation

open Passbook.Store

/-- What an operator may do. -/
inductive Repair where
  | amend (target : Target) (cells : List (String × Cell))
  | discard (target : Target)
  | announce (key : String) (wallet : WalletId) (amount : Amount) (status : DepositStatus)

/-- Leaves the marker of a deposit. -/
def announceDeposit (session : Session) (row : DepositRow) : Work StorageFault DepositRow := do
  insert session.faults depositSheet row
  pure row

/-- The operation that does a repair. -/
def Repair.run (session : Session) : Repair → Task
  | amend target cells =>
    ofStorage .count (Action.atomically session (Store.amend session.faults target cells))
  | discard target =>
    ofStorage .count (Action.atomically session (Store.discard session.faults target))
  | announce key wallet amount status =>
    ofStorage .deposit (Action.atomically session
      (announceDeposit session ⟨key, wallet, amount, status, session.now⟩))

end Passbook.Operation
