/-
**Finding or opening an account by its code.**

A ledger port finds accounts by code and opens new ones.

* `ensureAccount`: the account of a code, opened if there is none. Whoever loses the race to open
  it takes the account that the winner opened;
* `walletAccount`: the account that stands for a wallet in the chart.
-/

import Passbook.Ledger.Account

namespace Passbook.Chart

open Passbook.Ledger (LedgerAccount NewAccount)

/-- A ledger that finds accounts by code and opens new ones. -/
structure LedgerPort (m : Type → Type) where
  find : String → m (Except Problem (Option LedgerAccount))
  create : NewAccount → m (Except Problem LedgerAccount)

/-- The account of a code that was opened by someone else and could not be found after that. -/
def vanished (code : String) : Problem :=
  ⟨.internal, "account " ++ code ++ " vanished after conflict"⟩

/-- The account found after losing the race for its code. -/
def settleConflict (code : String) :
    Except Problem (Option LedgerAccount) → Except Problem LedgerAccount
  | .ok (some account) => .ok account
  | .ok none => .error (vanished code)
  | .error problem => .error problem

/-- The account of a code, opened if there is none. -/
def ensureAccount {m : Type → Type} [Monad m] (port : LedgerPort m) (input : NewAccount) :
    m (Except Problem LedgerAccount) := do
  match ← port.find input.code with
  | .error problem => pure (.error problem)
  | .ok (some account) => pure (.ok account)
  | .ok none =>
    match ← port.create input with
    | .ok account => pure (.ok account)
    | .error problem =>
      if problem.category = .conflict then
        settleConflict input.code <$> port.find input.code
      else pure (.error problem)

/-- The code of the account that stands for a wallet. -/
def walletCode (wallet : WalletId) : String := "WAL-" ++ wallet.uuid.compactText

/-- The account that stands for a wallet: what is owed to its owner, in its currency. -/
def walletAccount (wallet : WalletId) (currency : String) : NewAccount where
  code := walletCode wallet
  name := "Wallet " ++ wallet.text
  accountType := .liability
  currency := currency
  parent := none

end Passbook.Chart
