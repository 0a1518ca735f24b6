/-
**Wallet balances, limits, receipts and events as documents.**

An event carries the name of its kind in the field `type`, or in front of the list of its fields.
-/

import Passbook.Event
import Passbook.Limits.State
import Passbook.Transfer.Plan
import Passbook.Wire.Coded

namespace Passbook.Wire

open Passbook.Calendar (Instant)
open Passbook.Json (Value)
open Passbook.Limits (LimitState SpendLimits)
open Passbook.Transfer (Receipt TransactionKey)
open Passbook.Wallet (Snapshot WalletBalance WalletStatus)

instance : Coded WalletBalance where
  write state :=
    .record [field "balance" state.balance, field "available_balance" state.available]
  read? value := do
    let fields ← value.fields? ["balance", "available_balance"]
    some ⟨← required fields "balance", ← required fields "available_balance"⟩

instance : Coded Snapshot where
  write wallet :=
    .record [field "id" wallet.id, field "user_id" wallet.owner, field "currency" wallet.currency,
      field "status" wallet.status, field "balance" wallet.balance.balance,
      field "available_balance" wallet.balance.available]
  read? value := do
    let fields ← value.fields?
      ["id", "user_id", "currency", "status", "balance", "available_balance"]
    some ⟨← required fields "id", ← required fields "user_id", ← required fields "currency",
      ← required fields "status",
      ⟨← required fields "balance", ← required fields "available_balance"⟩⟩

instance : Coded SpendLimits where
  write limits := .record [field "daily_limit" limits.daily, field "monthly_limit" limits.monthly]
  read? value := do
    let fields ← value.fields? ["daily_limit", "monthly_limit"]
    some ⟨← required fields "daily_limit", ← required fields "monthly_limit"⟩

instance : Coded LimitState where
  write state :=
    .record [field "daily_limit" state.dailyLimit, field "daily_spent" state.dailySpent,
      field "daily_reset_at" state.dailyResetAt, field "monthly_limit" state.monthlyLimit,
      field "monthly_spent" state.monthlySpent, field "monthly_reset_at" state.monthlyResetAt]
  read? value := do
    let fields ← value.fields?
      ["daily_limit", "daily_spent", "daily_reset_at", "monthly_limit", "monthly_spent",
        "monthly_reset_at"]
    some ⟨← required fields "daily_limit", ← required fields "daily_spent",
      ← required fields "daily_reset_at", ← required fields "monthly_limit",
      ← required fields "monthly_spent", ← required fields "monthly_reset_at"⟩

instance : Coded TransactionKey := ⟨fun key => .text key.text, fun value => value.text?.map .mk⟩

instance : Coded Receipt where
  write receipt :=
    .record [field "kind" receipt.kind, field "transaction_id" receipt.key,
      field "amount" receipt.amount, field "replayed" receipt.replayed]
  read? value := do
    let fields ← value.fields? ["kind", "transaction_id", "amount", "replayed"]
    some ⟨← required fields "kind", ← required fields "transaction_id",
      ← required fields "amount", ← required fields "replayed"⟩

/-! ### Events -/

/-- The fields of an event without its name. -/
def eventFields : Event → List (String × Value)
  | .transferCompleted key source destination amount currency moment =>
    [field "transaction_id" key, field "source_wallet_id" source,
      field "destination_wallet_id" destination, field "amount" amount, field "currency" currency,
      field "occurred_at" moment]
  | .depositCompleted key wallet amount moment =>
    [field "transaction_id" key, field "wallet_id" wallet, field "amount" amount,
      field "occurred_at" moment]
  | .withdrawalCompleted key wallet amount moment =>
    [field "transaction_id" key, field "wallet_id" wallet, field "amount" amount,
      field "occurred_at" moment]
  | .walletCreated wallet owner currency =>
    [field "wallet_id" wallet, field "user_id" owner, field "currency" currency]
  | .walletStatusChanged wallet before after =>
    [field "wallet_id" wallet, field "from" before, field "to" after]
  | .entryPosted entry number => [field "entry_id" entry, field "entry_number" number]
  | .entryReversed entry reversal =>
    [field "entry_id" entry, field "reversal_entry_id" reversal]

/-- A movement into or out of a wallet. -/
def readMovement? (build : String → WalletId → Amount → Instant → Event) (value : Value) :
    Option Event := do
  let fields ← value.fields? ["transaction_id", "wallet_id", "amount", "occurred_at"]
  some (build (← required fields "transaction_id") (← required fields "wallet_id")
    (← required fields "amount") (← required fields "occurred_at"))

/-- A status within an event. As a record of its name it may hold an empty record as well. -/
def readEventStatus? : Value → Option WalletStatus
  | .record [(name, .record [])] => Named.ofName? name
  | value => read? value

/-- The event of a name whose fields a document holds. -/
def readEvent? (name : String) (value : Value) : Option Event :=
  match name with
  | "transfer_completed" => do
    let fields ← value.fields?
      ["transaction_id", "source_wallet_id", "destination_wallet_id", "amount", "currency",
        "occurred_at"]
    some (.transferCompleted (← required fields "transaction_id")
      (← required fields "source_wallet_id") (← required fields "destination_wallet_id")
      (← required fields "amount") (← required fields "currency")
      (← required fields "occurred_at"))
  | "deposit_completed" => readMovement? .depositCompleted value
  | "withdrawal_completed" => readMovement? .withdrawalCompleted value
  | "wallet_created" => do
    let fields ← value.fields? ["wallet_id", "user_id", "currency"]
    some (.walletCreated (← required fields "wallet_id") (← required fields "user_id")
      (← required fields "currency"))
  | "wallet_status_changed" => do
    let fields ← value.fields? ["wallet_id", "from", "to"]
    some (.walletStatusChanged (← required fields "wallet_id")
      (← fields.required? "from" readEventStatus?) (← fields.required? "to" readEventStatus?))
  | "entry_posted" => do
    let fields ← value.fields? ["entry_id", "entry_number"]
    some (.entryPosted (← required fields "entry_id") (← required fields "entry_number"))
  | "entry_reversed" => do
    let fields ← value.fields? ["entry_id", "reversal_entry_id"]
    some (.entryReversed (← required fields "entry_id") (← required fields "reversal_entry_id"))
  | _ => none

instance : Coded Event where
  write event := .record (field "type" event.name :: eventFields event)
  read? value :=
    match value with
    | .list (.text name :: rest) => readEvent? name (.list rest)
    | .record _ => do readEvent? (← (← value.field? "type").text?) value
    | _ => none

end Passbook.Wire
