/-
**What lines come to on an account.**

The balance of an account is derived from its totals whenever a line is added, and what a line adds
to the balance has a formula of its own.

* `AccountBalance.isConsistent_iff`: a balance is consistent when it is the one that the totals give;
* `AccountBalance.apply_eq_ok`: a line is added to the totals, and the balance follows from them;
  `AccountBalance.apply_failsOnly`: it is, unless a total leaves the range;
* `AccountBalance.applyAll`: lines one after another; `AccountBalance.applyAll_eq_ok`: they are added
  to the totals when what they come to stays in range, and so in whatever order
  (`AccountBalance.applyAll_perm`);
* `exists_changes`: what lines add to the balance one by one is what they add together;
* `AccountBalance.applyAll_sum`: both formulas agree.
-/

import Passbook.Ledger.Account
import Passbook.Proofs.Ledger.Lines

namespace Passbook.Ledger

open Passbook.Store (total)
open Passbook.Verdict (FailsOnly)

/-- The balance that two totals give on the side on which accounts of a type grow. -/
def AccountType.net (accountType : AccountType) (debit credit : Int) : Int :=
  match accountType.side with
  | .debit => debit - credit
  | .credit => credit - debit

theorem AccountType.net_add (accountType : AccountType) (debit debit' credit credit' : Int) :
    accountType.net (debit + debit') (credit + credit') =
      accountType.net debit credit + accountType.net debit' credit' := by
  unfold AccountType.net
  cases accountType.side with
  | debit =>
    simp only
    omega
  | credit =>
    simp only
    omega

/-- The difference of two figures from nothing on stays in range where both do. -/
theorem AccountType.net_inRange (accountType : AccountType) {debit credit : Int}
    (debitLeast : 0 ≤ debit) (creditLeast : 0 ≤ credit)
    (debitMost : debit ≤ Amount.greatest.units) (creditMost : credit ≤ Amount.greatest.units) :
    Amount.InRange (accountType.net debit credit) := by
  change debit ≤ 9223372036854775807 at debitMost
  change credit ≤ 9223372036854775807 at creditMost
  show -9223372036854775808 ≤ accountType.net debit credit ∧
    accountType.net debit credit ≤ 9223372036854775807
  unfold AccountType.net
  cases accountType.side with
  | debit =>
    simp only
    omega
  | credit =>
    simp only
    omega

namespace AccountBalance

variable {start after : AccountBalance} {accountType : AccountType}

/-- The balance is the one that the totals give. -/
def Derived (accountType : AccountType) (state : AccountBalance) : Prop :=
  state.balance.units = accountType.net state.debitTotal.units state.creditTotal.units

theorem zero_derived (accountType : AccountType) : zero.Derived accountType := by
  cases accountType <;> rfl

/-- Totals whose difference stays in range give a balance. -/
theorem ofTotals_eq_ok {debitTotal creditTotal : Amount} :
    ofTotals accountType debitTotal creditTotal = .ok after ↔
      after.debitTotal = debitTotal ∧ after.creditTotal = creditTotal ∧
        after.Derived accountType := by
  have net : ∀ balance : Amount,
      (match accountType.side with
        | .debit => debitTotal.sub? creditTotal
        | .credit => creditTotal.sub? debitTotal) = some balance ↔
          balance.units = accountType.net debitTotal.units creditTotal.units := by
    intro balance
    unfold AccountType.net
    cases accountType.side with
    | debit => exact Amount.sub?_eq_some_iff
    | credit => exact Amount.sub?_eq_some_iff
  unfold ofTotals Derived
  simp only
  constructor
  · intro derived
    split at derived
    · rename_i balance is
      cases derived
      exact ⟨rfl, rfl, (net balance).mp is⟩
    · cases derived
  · rintro ⟨rfl, rfl, derived⟩
    have is := (net after.balance).mpr derived
    split
    · rename_i balance is'
      rw [Option.some.inj (is'.symm.trans is)]
    · rename_i is'
      cases is'.symm.trans is

/-- A balance is consistent when it is the one that the totals give. -/
theorem isConsistent_iff : start.isConsistent accountType = true ↔ start.Derived accountType := by
  unfold isConsistent
  cases derived : ofTotals accountType start.debitTotal start.creditTotal with
  | ok given =>
    obtain ⟨debit, credit, net⟩ := ofTotals_eq_ok.mp derived
    have net' : given.balance.units = accountType.net start.debitTotal.units
        start.creditTotal.units := debit ▸ credit ▸ net
    simp only [beq_iff_eq, Amount.ext_iff, Derived, net']
    exact eq_comm
  | error cause =>
    simp only [Bool.false_eq_true, false_iff]
    intro is
    cases derived.symm.trans (ofTotals_eq_ok.mpr ⟨rfl, rfl, is⟩)

/-- The totals decide a balance that is derived from them. -/
theorem eq_of_derived {other : AccountBalance} (derived : start.Derived accountType)
    (derived' : other.Derived accountType)
    (debit : start.debitTotal.units = other.debitTotal.units)
    (credit : start.creditTotal.units = other.creditTotal.units) : start = other := by
  refine AccountBalance.ext (Amount.ext ?_) (Amount.ext debit) (Amount.ext credit)
  unfold Derived at derived derived'
  rw [derived, derived', debit, credit]

/-- A line is added to the totals when these stay in range, and the balance follows from them. -/
theorem apply_eq_ok {debit credit : Amount} :
    start.apply accountType debit credit = .ok after ↔
      after.debitTotal.units = start.debitTotal.units + debit.units ∧
        after.creditTotal.units = start.creditTotal.units + credit.units ∧
          after.Derived accountType := by
  unfold apply
  rw [← Amount.add?_eq_some_iff, ← Amount.add?_eq_some_iff]
  cases start.debitTotal.add? debit with
  | none => simp
  | some debitTotal =>
    cases start.creditTotal.add? credit with
    | none => simp
    | some creditTotal =>
      simp only [ofTotals_eq_ok, Option.some.injEq]
      exact ⟨fun ⟨same, same', derived⟩ => ⟨same.symm, same'.symm, derived⟩,
        fun ⟨same, same', derived⟩ => ⟨same.symm, same'.symm, derived⟩⟩

theorem ofTotals_error {debitTotal creditTotal : Amount} {cause : LedgerError}
    (failed : ofTotals accountType debitTotal creditTotal = .error cause) :
    cause = .amountOverflow := by
  unfold ofTotals at failed
  simp only at failed
  split at failed
  · cases failed
  · cases failed
    rfl

/-- Only leaving the range keeps a line from an account. -/
theorem apply_error {debit credit : Amount} {cause : LedgerError}
    (failed : start.apply accountType debit credit = .error cause) : cause = .amountOverflow := by
  unfold apply at failed
  split at failed
  · exact ofTotals_error failed
  · cases failed
    rfl

/-- A total leaves the range when a line is added. The difference of two totals from nothing on
never does. -/
theorem apply_failsOnly {debit credit : Amount}
    (debits : 0 ≤ start.debitTotal.units) (credits : 0 ≤ start.creditTotal.units)
    (least : 0 ≤ debit.units) (least' : 0 ≤ credit.units) :
    FailsOnly (fun cause => cause = .amountOverflow ∧
      (9223372036854775807 < start.debitTotal.units + debit.units ∨
        9223372036854775807 < start.creditTotal.units + credit.units))
      (start.apply accountType debit credit) := by
  intro cause failed
  refine ⟨apply_error failed, ?_⟩
  by_contra within
  obtain ⟨first, second⟩ := not_or.mp within
  have net := accountType.net_inRange (Int.add_nonneg debits least)
    (Int.add_nonneg credits least') (Int.not_lt.mp first) (Int.not_lt.mp second)
  let after : AccountBalance :=
    { balance := ⟨_, net.1, net.2⟩
      debitTotal := ⟨start.debitTotal.units + debit.units, by omega, by omega⟩
      creditTotal := ⟨start.creditTotal.units + credit.units, by omega, by omega⟩ }
  have done : start.apply accountType debit credit = .ok after :=
    apply_eq_ok.mpr ⟨rfl, rfl, rfl⟩
  rw [failed] at done
  cases done

/-! ### Lines one after another -/

/-- Adds lines to the totals one after another. -/
def applyAll (start : AccountBalance) (accountType : AccountType) (lines : List Line) :
    Except LedgerError AccountBalance :=
  lines.foldlM (fun balance line => balance.apply accountType line.debit line.credit) start

theorem applyAll_cons {line : Line} {rest : List Line} :
    start.applyAll accountType (line :: rest) =
      start.apply accountType line.debit line.credit >>= fun balance =>
        balance.applyAll accountType rest := by
  simp only [applyAll, List.foldlM_cons]

/-- Lines one after another are added to the totals. -/
theorem of_applyAll {lines : List Line} (applied : start.applyAll accountType lines = .ok after)
    (derived : start.Derived accountType) :
    after.debitTotal.units = start.debitTotal.units + debits lines ∧
      after.creditTotal.units = start.creditTotal.units + credits lines ∧
        after.Derived accountType := by
  induction lines generalizing start with
  | nil =>
    cases applied
    simp [debits, credits, derived]
  | cons line rest ih =>
    rw [applyAll_cons] at applied
    obtain ⟨middle, first, others⟩ := Verdict.bind_eq_ok.mp applied
    obtain ⟨debit, credit, derived⟩ := apply_eq_ok.mp first
    obtain ⟨debit', credit', derived⟩ := ih others derived
    refine ⟨?_, ?_, derived⟩
    · rw [debit', debit, debits, debits, Store.total_cons]
      omega
    · rw [credit', credit, credits, credits, Store.total_cons]
      omega

section Sided

variable {lines others : List Line} (debitLeast : 0 ≤ start.debitTotal.units)
  (creditLeast : 0 ≤ start.creditTotal.units) (sided : ∀ line ∈ lines, line.Sided)

include debitLeast creditLeast sided

/-- A total leaves the range when lines are added one after another. -/
theorem applyAll_failsOnly :
    FailsOnly (fun cause => cause = .amountOverflow ∧
      (9223372036854775807 < start.debitTotal.units + debits lines ∨
        9223372036854775807 < start.creditTotal.units + credits lines))
      (start.applyAll accountType lines) := by
  induction lines generalizing start with
  | nil => exact .ok start
  | cons line rest ih =>
    have bounds := (sided line List.mem_cons_self).bounds
    have others : ∀ other ∈ rest, other.Sided := fun other member =>
      sided other (List.mem_cons_of_mem _ member)
    have later := debits_nonneg others
    have later' := credits_nonneg others
    rw [applyAll_cons]
    simp only [debits, credits, Store.total_cons] at later later' ⊢
    refine FailsOnly.bind ((apply_failsOnly debitLeast creditLeast bounds.1 bounds.2).mono
      fun cause is => ⟨is.1, ?_⟩) fun middle added => ?_
    · have beyond := is.2
      omega
    · obtain ⟨debit, credit, _⟩ := apply_eq_ok.mp added
      refine (ih (by omega) (by omega) others).mono fun cause is => ⟨is.1, ?_⟩
      have beyond := is.2
      rw [debit, credit] at beyond
      simp only [debits, credits] at beyond
      omega

/-- Lines whose sums stay in range are added: no total leaves it on the way, since nothing is taken
off. -/
theorem exists_applyAll (room : start.debitTotal.units + debits lines ≤ Amount.greatest.units)
    (room' : start.creditTotal.units + credits lines ≤ Amount.greatest.units) :
    ∃ after, start.applyAll accountType lines = .ok after := by
  refine (applyAll_failsOnly debitLeast creditLeast sided).exists_ok fun cause is => ?_
  rcases is.2 with beyond | beyond
  · exact absurd room (Int.not_le.mpr beyond)
  · exact absurd room' (Int.not_le.mpr beyond)

/-- **Lines are added exactly to what they come to.** -/
theorem applyAll_eq_ok (derived : start.Derived accountType) :
    start.applyAll accountType lines = .ok after ↔
      after.debitTotal.units = start.debitTotal.units + debits lines ∧
        after.creditTotal.units = start.creditTotal.units + credits lines ∧
          after.Derived accountType := by
  refine ⟨fun applied => of_applyAll applied derived, fun ⟨debit, credit, derived'⟩ => ?_⟩
  obtain ⟨sum, applied⟩ := exists_applyAll debitLeast creditLeast sided
    (debit ▸ after.debitTotal.atMost) (credit ▸ after.creditTotal.atMost)
  obtain ⟨debit', credit', derived''⟩ := of_applyAll applied derived
  rw [applied, eq_of_derived derived'' derived' (debit'.trans debit.symm)
    (credit'.trans credit.symm)]

/-- **The order of lines makes no difference.** -/
theorem applyAll_perm (derived : start.Derived accountType) (same : lines.Perm others) :
    start.applyAll accountType others = start.applyAll accountType lines := by
  have sided' : ∀ line ∈ others, line.Sided := fun line member =>
    sided line (same.mem_iff.mpr member)
  have alike : ∀ after, start.applyAll accountType others = .ok after ↔
      start.applyAll accountType lines = .ok after := by
    intro after
    rw [applyAll_eq_ok debitLeast creditLeast sided derived,
      applyAll_eq_ok debitLeast creditLeast sided' derived, debits_perm same, credits_perm same]
  cases is : start.applyAll accountType lines with
  | ok after => exact (alike after).mpr is
  | error cause =>
    obtain rfl := (applyAll_failsOnly debitLeast creditLeast sided cause is).1
    cases is' : start.applyAll accountType others with
    | ok after => cases is.symm.trans ((alike after).mp is')
    | error cause => rw [(applyAll_failsOnly debitLeast creditLeast sided' cause is').1]

end Sided

end AccountBalance

/-! ### What lines add to the balance -/

variable {accountType : AccountType}

theorem balanceChange_eq_ok {debit credit change : Amount} :
    balanceChange accountType debit credit = .ok change ↔
      change.units = accountType.net debit.units credit.units := by
  unfold balanceChange AccountType.net
  cases accountType.side with
  | debit => exact Amount.sub_eq_ok
  | credit => exact Amount.sub_eq_ok

/-- What a line on one side adds stays in range. -/
theorem exists_balanceChange {line : Line} (sided : line.Sided) :
    ∃ change, balanceChange accountType line.debit line.credit = .ok change := by
  have bounds := sided.bounds
  obtain ⟨change, is⟩ := Amount.exists_of_inRange (accountType.net_inRange bounds.1 bounds.2
    line.debit.atMost line.credit.atMost)
  exact ⟨change, balanceChange_eq_ok.mpr is⟩

/-- What lines add one by one, and what they add together. -/
theorem exists_changes {lines : List Line} (sided : ∀ line ∈ lines, line.Sided) :
    ∃ changes, lines.mapM (fun line => balanceChange accountType line.debit line.credit) =
        .ok changes ∧ total Amount.units changes = accountType.net (debits lines) (credits lines) := by
  induction lines with
  | nil =>
    refine ⟨[], rfl, ?_⟩
    cases accountType <;> rfl
  | cons line rest ih =>
    obtain ⟨change, is⟩ := @exists_balanceChange accountType _ (sided line List.mem_cons_self)
    obtain ⟨changes, are, sum⟩ := ih fun other member =>
      sided other (List.mem_cons_of_mem _ member)
    refine ⟨change :: changes, ?_, ?_⟩
    · rw [List.mapM_cons, is, are]
      rfl
    · rw [Store.total_cons, sum, balanceChange_eq_ok.mp is, ← AccountType.net_add]
      simp only [debits, credits, Store.total_cons]

/-! ### Both formulas -/

namespace AccountBalance

/-- **Lines are added up.** To a consistent balance with totals from nothing on, lines that are valid
one by one can be added exactly when the range holds both totals with all that the lines come to.
Then these are the totals, the balance is consistent again, and it has grown by what the lines add to
it one by one, none of which leaves the range. In whatever order the lines come, the outcome is the
same. -/
theorem applyAll_sum (accountType : AccountType) (start : AccountBalance) (lines : List Line)
    (consistent : start.isConsistent accountType = true)
    (debitLeast : 0 ≤ start.debitTotal.units) (creditLeast : 0 ≤ start.creditTotal.units)
    (valid : ∀ line ∈ lines, ∃ index, line.validate index = .ok ()) :
    ((∃ after, start.applyAll accountType lines = .ok after) ↔
        Amount.InRange (start.debitTotal.units + debits lines) ∧
          Amount.InRange (start.creditTotal.units + credits lines)) ∧
      (∃ changes, lines.mapM (fun line => balanceChange accountType line.debit line.credit) =
          .ok changes ∧
        ∀ after, start.applyAll accountType lines = .ok after →
          after.debitTotal.units = start.debitTotal.units + debits lines ∧
            after.creditTotal.units = start.creditTotal.units + credits lines ∧
            after.isConsistent accountType = true ∧
            after.balance.units = start.balance.units + total Amount.units changes) ∧
      ∀ others, lines.Perm others →
        start.applyAll accountType others = start.applyAll accountType lines := by
  have sided : ∀ line ∈ lines, line.Sided := fun line member =>
    validate_eq_ok.mp (valid line member).choose_spec
  have derived := isConsistent_iff.mp consistent
  refine ⟨⟨?_, ?_⟩, ?_, fun others same => applyAll_perm debitLeast creditLeast sided derived same⟩
  · rintro ⟨after, applied⟩
    obtain ⟨debit, credit, _⟩ := of_applyAll applied derived
    rw [← debit, ← credit]
    exact ⟨after.debitTotal.inRange, after.creditTotal.inRange⟩
  · rintro ⟨room, room'⟩
    exact exists_applyAll debitLeast creditLeast sided room.2 room'.2
  · obtain ⟨changes, are, sum⟩ := @exists_changes accountType _ sided
    refine ⟨changes, are, fun after applied => ?_⟩
    obtain ⟨debit, credit, derived'⟩ := of_applyAll applied derived
    refine ⟨debit, credit, isConsistent_iff.mpr derived', ?_⟩
    calc after.balance.units
        = accountType.net after.debitTotal.units after.creditTotal.units := derived'
      _ = accountType.net start.debitTotal.units start.creditTotal.units +
            accountType.net (debits lines) (credits lines) := by
          rw [debit, credit, AccountType.net_add]
      _ = start.balance.units + total Amount.units changes := by
          rw [sum]
          exact congrArg (· + _) derived.symm

/-- A liability with room for two more credits. -/
def sampleLiability : AccountBalance :=
  ⟨⟨9223372036854775804, by decide, by decide⟩, .one,
    ⟨9223372036854775805, by decide, by decide⟩⟩

/-- Two are credited, and one is debited. -/
def sampleLines : List Line :=
  [sampleLine .zero .one, sampleLine .one .zero, sampleLine .zero .one]

/-- The credits come to the greatest amount, also the other way round, and for one more there is no
room. -/
theorem applyAll_sum_samples :
    (∃ after, sampleLiability.applyAll .liability sampleLines.reverse = .ok after ∧
        after.creditTotal = .greatest ∧
        after.balance.units = 9223372036854775804 + (1 + (-1 + (1 + 0)))) ∧
      ¬∃ after, sampleLiability.applyAll .liability (sampleLine .zero .one :: sampleLines) =
        .ok after := by
  obtain ⟨fits, ⟨changes, are, adds⟩, order⟩ :=
    applyAll_sum .liability sampleLiability sampleLines (by decide) (by decide) (by decide)
      fun line member => ⟨0, by
        revert line member
        decide⟩
  have full := (applyAll_sum .liability sampleLiability
    (sampleLine .zero .one :: sampleLines) (by decide) (by decide) (by decide)
    fun line member => ⟨0, by
      revert line member
      decide⟩).1
  obtain ⟨after, applied⟩ := fits.mpr (by decide)
  obtain ⟨_, credit, _, balance⟩ := adds after applied
  rw [order _ (List.reverse_perm _).symm, full]
  obtain rfl : [.one, ⟨-1, by decide, by decide⟩, .one] = changes := Except.ok.inj are
  exact ⟨⟨after, applied, Amount.ext credit, balance⟩, by decide⟩

end AccountBalance

end Passbook.Ledger
