/-
**Balances of a wallet and the rules for changing them.**

A wallet has a balance, and of it a part is available; the rest is held.

* `WalletBalance.credit`, `debit`, `hold`, `release`: only positive amounts, debits and holds only
  from what is available, releases only from what is held;
* `validateStatusChange`: active and frozen lead to each other, nothing leads out of closed;
* `validateClose`: only an empty wallet is closed.
-/

import Passbook.Halt
import Passbook.Wallet.Error

namespace Passbook.Wallet

/-- What a wallet has and how much of it is available. -/
@[ext]
structure WalletBalance where
  balance : Amount
  available : Amount
deriving DecidableEq

/-- What the rules need to know of a wallet. -/
structure Snapshot where
  id : WalletId
  owner : UserId
  currency : String
  status : WalletStatus
  balance : WalletBalance
deriving DecidableEq

/-- Only a positive amount can be moved. -/
def ensurePositive (amount : Amount) : Except WalletError Unit :=
  if amount.units ≤ 0 then .error (.invalidAmount amount) else .ok ()

/-- Nothing leads out of closed, and closing is an operation of its own. -/
def validateStatusChange (wallet : WalletId) (current wanted : WalletStatus) :
    Except WalletError Unit :=
  match current, wanted with
  | .closed, _ => .error (.alreadyClosed wallet)
  | current, .closed => .error (.illegalStatusChange current .closed)
  | _, _ => .ok ()

/-- A wallet is closed once and only when it is empty. -/
def validateClose (wallet : WalletId) (status : WalletStatus) (balance : WalletBalance) :
    Except WalletError Unit :=
  if status = .closed then .error (.alreadyClosed wallet)
  else if balance.balance.units ≠ 0 then .error (.closeWithBalance balance.balance)
  else .ok ()

/-- The caller has to own the wallet. -/
def ensureOwner (wallet : Snapshot) (caller : UserId) : Except WalletError Unit :=
  if wallet.owner = caller then .ok () else .error (.notOwner wallet.id)

/-- The wallet has to be active. -/
def ensureActive (wallet : Snapshot) : Except WalletError Unit :=
  if wallet.status = .active then .ok () else .error (.inactive wallet.id wallet.status)

namespace WalletBalance

/-- Nothing at all. -/
def zero : WalletBalance := ⟨.zero, .zero⟩

/-- What is held, an unguarded difference. -/
def held (state : WalletBalance) : Except Overflow Amount := state.balance.sub state.available

/-- The amount has to be available. -/
def ensureAvailable (state : WalletBalance) (amount : Amount) : Except WalletError Unit :=
  if state.available < amount then .error (.insufficientBalance state.available amount)
  else .ok ()

/-- Takes an available amount out. -/
def debit (state : WalletBalance) (amount : Amount) : Except (Halt WalletError) WalletBalance := do
  ruled (ensurePositive amount)
  ruled (state.ensureAvailable amount)
  let balance ← unguarded (state.balance.sub amount)
  let available ← unguarded (state.available.sub amount)
  pure ⟨balance, available⟩

/-- Puts an amount in. -/
def credit (state : WalletBalance) (amount : Amount) : Except WalletError WalletBalance := do
  ensurePositive amount
  match state.balance.add? amount, state.available.add? amount with
  | some balance, some available => pure ⟨balance, available⟩
  | _, _ => throw .overflow

/-- Sets an available amount aside. -/
def hold (state : WalletBalance) (amount : Amount) : Except (Halt WalletError) WalletBalance := do
  ruled (ensurePositive amount)
  ruled (state.ensureAvailable amount)
  let available ← unguarded (state.available.sub amount)
  pure ⟨state.balance, available⟩

/-- Makes a held amount available again. -/
def release (state : WalletBalance) (amount : Amount) :
    Except (Halt WalletError) WalletBalance := do
  ruled (ensurePositive amount)
  let held ← unguarded state.held
  if held < amount then throw (.refused (.insufficientHeld held amount))
  let available ← unguarded (state.available.add amount)
  pure ⟨state.balance, available⟩

end WalletBalance

end Passbook.Wallet
