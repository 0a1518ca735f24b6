/-
**Accounts of the chart and their balances.**

* `NewAccount.validate`: a code of 1 to 50 characters, a name, and a supported currency;
* `balanceChange`: what a line adds to the balance of an account;
* `AccountBalance.apply`: a line added to the totals, the balance derived from them again;
* `AccountBalance.isConsistent`: the balance is the one that the totals give.
-/

import Passbook.Ledger.Error
import Passbook.Money
import Passbook.Text.Blank

namespace Passbook.Ledger

/-- An account that is asked for. -/
structure NewAccount where
  code : String
  name : String
  accountType : AccountType
  currency : String
  parent : Option AccountId

/-- An account as the ledger shows it to others. -/
structure LedgerAccount where
  id : AccountId
  code : String
  name : String
  accountType : AccountType
  currency : String
  status : AccountStatus
deriving DecidableEq

/-- The most characters of a code. -/
def greatestCodeLength : Nat := 50

/-- The code is looked at first, then the name, then the currency. Blanks around the code and the
name do not count. -/
def NewAccount.validate (account : NewAccount) : Except LedgerError Unit :=
  let code := Text.trim account.code
  if code.isEmpty || greatestCodeLength < code.length then
    .error (.invalidAccountCode account.code)
  else if (Text.trim account.name).isEmpty then .error (.invalidAccountName code)
  else if (Currency.read? account.currency).isNone then
    .error (.unsupportedCurrency account.currency)
  else .ok ()

/-- What a line adds to the balance of an account of a type. -/
def balanceChange (accountType : AccountType) (debit credit : Amount) : Except Overflow Amount :=
  match accountType.side with
  | .debit => debit.sub credit
  | .credit => credit.sub debit

/-- The balance of an account and the totals of its two sides. -/
@[ext]
structure AccountBalance where
  balance : Amount
  debitTotal : Amount
  creditTotal : Amount
deriving DecidableEq

namespace AccountBalance

/-- Nothing on either side. -/
def zero : AccountBalance := ⟨.zero, .zero, .zero⟩

/-- The balance that totals give on the side on which the account grows. -/
def ofTotals (accountType : AccountType) (debitTotal creditTotal : Amount) :
    Except LedgerError AccountBalance :=
  let balance? := match accountType.side with
    | .debit => debitTotal.sub? creditTotal
    | .credit => creditTotal.sub? debitTotal
  match balance? with
  | some balance => .ok ⟨balance, debitTotal, creditTotal⟩
  | none => .error .amountOverflow

/-- Adds a line to the totals. -/
def apply (start : AccountBalance) (accountType : AccountType) (debit credit : Amount) :
    Except LedgerError AccountBalance :=
  match start.debitTotal.add? debit, start.creditTotal.add? credit with
  | some debitTotal, some creditTotal => ofTotals accountType debitTotal creditTotal
  | _, _ => .error .amountOverflow

/-- The balance is the one that the totals give. -/
def isConsistent (state : AccountBalance) (accountType : AccountType) : Bool :=
  match ofTotals accountType state.debitTotal state.creditTotal with
  | .ok derived => derived.balance == state.balance
  | .error _ => false

end AccountBalance

end Passbook.Ledger
