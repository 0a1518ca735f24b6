/-
**Accounts, lines and balances of accounts as documents.**
-/

import Passbook.Ledger.Account
import Passbook.Ledger.Line
import Passbook.Wire.Coded

namespace Passbook.Wire

open Passbook.Json (Value)
open Passbook.Ledger (AccountBalance LedgerAccount Line NewAccount Totals)

instance : Coded Line where
  write line :=
    .record [field "account_id" line.account, field "debit_amount" line.debit,
      field "credit_amount" line.credit, field "description" line.description]
  read? value := do
    let fields ← value.fields? ["account_id", "debit_amount", "credit_amount", "description"]
    some ⟨← required fields "account_id", ← required fields "debit_amount",
      ← required fields "credit_amount", ← optional fields "description"⟩

instance : Coded Totals where
  write totals := .record [field "debits" totals.debits, field "credits" totals.credits]
  read? value := do
    let fields ← value.fields? ["debits", "credits"]
    some ⟨← required fields "debits", ← required fields "credits"⟩

instance : Coded AccountBalance where
  write state :=
    .record [field "balance" state.balance, field "debit_total" state.debitTotal,
      field "credit_total" state.creditTotal]
  read? value := do
    let fields ← value.fields? ["balance", "debit_total", "credit_total"]
    some ⟨← required fields "balance", ← required fields "debit_total",
      ← required fields "credit_total"⟩

instance : Coded LedgerAccount where
  write account :=
    .record [field "id" account.id, field "code" account.code, field "name" account.name,
      field "account_type" account.accountType, field "currency" account.currency,
      field "status" account.status]
  read? value := do
    let fields ← value.fields? ["id", "code", "name", "account_type", "currency", "status"]
    some ⟨← required fields "id", ← required fields "code", ← required fields "name",
      ← required fields "account_type", ← required fields "currency", ← required fields "status"⟩

instance : Coded NewAccount where
  write account :=
    .record [field "code" account.code, field "name" account.name,
      field "type" account.accountType, field "currency" account.currency,
      field "parent_id" account.parent]
  read? value := do
    let fields ← value.fields? ["code", "name", "type", "currency", "parent_id"]
    some ⟨← required fields "code", ← required fields "name", ← required fields "type",
      ← required fields "currency", ← optional fields "parent_id"⟩

end Passbook.Wire
