/-
**When money may be moved.**

* `TransactionKey.of_read`: a key is the text without blanks around it, whatever they were;
* `planTransfer_eq_ok`, `planDeposit_eq_ok`, `planWithdrawal_eq_ok`: what has to hold of the
  wallets, and the balances after the movement;
* `planTransfer_tellable` and its like: where balances fit, a plan stays within the range, or the
  rule that refuses it can be put into words.
-/

import Passbook.Proofs.Wallet.Balance
import Passbook.Transfer.Plan

namespace Passbook.Transfer

open Passbook.Verdict (FailsOnly)
open Passbook.Wallet (Snapshot WalletBalance)

variable {wallet source destination : Snapshot} {amount : Amount}

@[simp]
theorem ensurePositive_eq_ok {done : Unit} :
    ensurePositive amount = .ok done ↔ amount.Positive := by
  unfold ensurePositive
  split
  · simp only [reduceCtorEq, false_iff, Amount.Positive]
    omega
  · simp only [true_iff, Amount.Positive]
    omega

theorem ensurePositive_of_not (other : ¬amount.Positive) :
    ensurePositive amount = .error (.invalidAmount amount) :=
  if_pos (Int.not_lt.mp other)

theorem planDeposit_eq_ok {after : WalletBalance} :
    planDeposit wallet amount = .ok after ↔ wallet.status = .active ∧
      wallet.balance.credit amount = .ok after := by
  simp only [planDeposit, ofWallet, Verdict.bind_eq_ok, Verdict.mapError_eq_ok,
    ensurePositive_eq_ok, Wallet.ensureActive_eq_ok, exists_const]
  constructor
  · rintro ⟨_, active, credited⟩
    exact ⟨active, credited⟩
  · rintro ⟨active, credited⟩
    exact ⟨(WalletBalance.credit_eq_ok.mp credited).1, active, credited⟩

theorem planWithdrawal_eq_ok {after : WalletBalance} :
    planWithdrawal wallet amount = .ok after ↔ wallet.status = .active ∧
      wallet.balance.debit amount = .ok after := by
  simp only [planWithdrawal, ofWallet, ofHalt, Verdict.bind_eq_ok, Verdict.mapError_eq_ok,
    Verdict.ruled_eq_ok, ensurePositive_eq_ok, Wallet.ensureActive_eq_ok, exists_const]
  constructor
  · rintro ⟨_, active, debited⟩
    exact ⟨active, debited⟩
  · rintro ⟨active, debited⟩
    exact ⟨(WalletBalance.debit_eq_ok.mp debited).1, active, debited⟩

theorem validateTransfer_eq_ok {done : Unit} :
    validateTransfer source destination amount = .ok done ↔
      amount.Positive ∧ source.id ≠ destination.id ∧ source.status = .active ∧
        destination.status = .active ∧ source.currency = destination.currency ∧
          amount.units ≤ source.balance.available.units := by
  unfold validateTransfer
  rw [Verdict.bind_eq_ok]
  simp only [ensurePositive_eq_ok, exists_const]
  refine and_congr_right fun _ => ?_
  by_cases same : source.id = destination.id
  · simp [same]
  · by_cases currency : source.currency = destination.currency
    · simp [same, currency, ofWallet]
    · simp [same, currency, ofWallet]

theorem planTransfer_eq_ok {plan : TransferPlan} :
    planTransfer source destination amount = .ok plan ↔
      source.id ≠ destination.id ∧ source.status = .active ∧ destination.status = .active ∧
        source.currency = destination.currency ∧ source.balance.debit amount = .ok plan.source ∧
          destination.balance.credit amount = .ok plan.destination := by
  simp only [planTransfer, ofWallet, ofHalt, Verdict.bind_eq_ok, Verdict.mapError_eq_ok,
    Verdict.ruled_eq_ok, Verdict.pure_eq_ok, validateTransfer_eq_ok, exists_const]
  constructor
  · rintro ⟨⟨_, apart, active, active', currency, _⟩, debited, is, credited, is', rfl⟩
    exact ⟨apart, active, active', currency, is, is'⟩
  · rintro ⟨apart, active, active', currency, is, is'⟩
    obtain ⟨positive, enough, _⟩ := WalletBalance.debit_eq_ok.mp is
    exact ⟨⟨positive, apart, active, active', currency, enough⟩, plan.source, is,
      plan.destination, is', rfl⟩

/-! ### Plans that are refused -/

theorem ensurePositive_tellable : FailsOnly Tellable (ensurePositive amount) := by
  unfold ensurePositive
  split
  · exact .error ⟨_, rfl⟩
  · exact .ok ()

theorem ofWallet_tellable {α : Type} {verdict : Except Wallet.WalletError α}
    (fails : FailsOnly Tellable verdict) : FailsOnly Tellable (ofWallet verdict) :=
  FailsOnly.mapError fails

theorem ofHalt_tellable {α : Type} {verdict : Except (Halt Wallet.WalletError) α}
    (fails : FailsOnly Tellable verdict) : FailsOnly Tellable (ofHalt verdict) := by
  refine FailsOnly.mapError (fails.mono fun halt told => ?_)
  cases halt with
  | refused cause => exact told
  | overflowed fault => exact told

theorem planDeposit_tellable : FailsOnly Tellable (planDeposit wallet amount) :=
  FailsOnly.bind ensurePositive_tellable fun _ _ =>
    FailsOnly.bind (ofWallet_tellable Wallet.ensureActive_tellable) fun _ _ =>
      ofWallet_tellable WalletBalance.credit_tellable

theorem planWithdrawal_tellable (fits : wallet.balance.Fits) :
    FailsOnly Tellable (planWithdrawal wallet amount) :=
  FailsOnly.bind (FailsOnly.ruled ensurePositive_tellable) fun _ _ =>
    FailsOnly.bind (FailsOnly.ruled (ofWallet_tellable Wallet.ensureActive_tellable)) fun _ _ =>
      ofHalt_tellable (WalletBalance.debit_tellable fits)

theorem validateTransfer_tellable (fits : source.balance.Fits) :
    FailsOnly Tellable (validateTransfer source destination amount) := by
  refine FailsOnly.bind ensurePositive_tellable fun _ checked => ?_
  have positive := ensurePositive_eq_ok.mp checked
  have last : FailsOnly Tellable (ofWallet (source.balance.ensureAvailable amount)) :=
    ofWallet_tellable (WalletBalance.ensureAvailable_tellable fits positive)
  have currencies : FailsOnly Tellable (do
      if source.currency ≠ destination.currency then
        throw (TransferError.currencyMismatch source.currency destination.currency)
      ofWallet (source.balance.ensureAvailable amount)) := by
    by_cases other : source.currency ≠ destination.currency
    · rw [if_pos other]
      exact .error ⟨_, rfl⟩
    · rw [if_neg other]
      exact last
  by_cases same : source.id = destination.id
  · rw [if_pos same]
    exact .error ⟨_, rfl⟩
  · rw [if_neg same]
    exact FailsOnly.bind (ofWallet_tellable Wallet.ensureActive_tellable) fun _ _ =>
      FailsOnly.bind (ofWallet_tellable Wallet.ensureActive_tellable) fun _ _ => currencies

theorem planTransfer_tellable (fits : source.balance.Fits) :
    FailsOnly Tellable (planTransfer source destination amount) :=
  FailsOnly.bind (FailsOnly.ruled (validateTransfer_tellable fits)) fun _ _ =>
    FailsOnly.bind (ofHalt_tellable (WalletBalance.debit_tellable fits)) fun _ _ =>
      FailsOnly.bind (FailsOnly.ruled (ofWallet_tellable WalletBalance.credit_tellable))
        fun _ _ => .ok _

/-! ### Keys -/

/-- Only the text without blanks around it counts for a key. -/
theorem TransactionKey.of_read {raw : String} {key : TransactionKey}
    (read : TransactionKey.read raw = .ok key) :
    key.text = Text.trim raw ∧
      ∀ other, Text.trim other = Text.trim raw → TransactionKey.read other = .ok key := by
  refine ⟨?_, fun other same => ?_⟩
  · unfold TransactionKey.read at read
    simp only at read
    split at read
    · cases read
    · cases read
      rfl
  · rw [← read]
    unfold TransactionKey.read
    rw [same]

theorem TransactionKey.read_tellable {raw : String} :
    FailsOnly Tellable (TransactionKey.read raw) := by
  unfold TransactionKey.read
  simp only
  split
  · exact .error ⟨_, rfl⟩
  · exact .ok _

end Passbook.Transfer
