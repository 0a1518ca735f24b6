/-
**What valid lines come to.**

* `validate_eq_ok`: exactly one side of a valid line is more than nothing, the other is nothing;
* `of_sumLines`: lines that are summed are all valid, and the totals grow by what they come to;
* `validateLines_eq_ok`: what the validation of lines accepts (`Valid`), and what it says they come
  to; `valid_iff`: valid lines are accepted; `balanced_of_validateLines`: accepted lines come to the
  same on both sides;
* `Valid.perm`, `Valid.reversing`: lines in another order and lines with their sides exchanged are as
  valid.
-/

import Passbook.Ledger.Line
import Passbook.Proofs.Store.Rows
import Passbook.Proofs.Verdict

namespace Passbook.Ledger

open Passbook.Store (total)

/-- Exactly one side is more than nothing and the other is nothing. -/
def Line.Sided (line : Line) : Prop :=
  (line.debit.Positive ∧ line.credit.units = 0) ∨ (line.debit.units = 0 ∧ line.credit.Positive)

instance (line : Line) : Decidable line.Sided := inferInstanceAs (Decidable (_ ∨ _))

theorem validate_eq_ok {index : Nat} {line : Line} {done : Unit} :
    line.validate index = .ok done ↔ line.Sided := by
  unfold Line.validate Line.Sided
  by_cases below : line.debit.units < 0 ∨ line.credit.units < 0
  · rw [if_pos below]
    simp only [reduceCtorEq, false_iff, Amount.Positive]
    omega
  · rw [if_neg below]
    by_cases both : 0 < line.debit.units ↔ 0 < line.credit.units
    · rw [if_pos both]
      simp only [reduceCtorEq, false_iff, Amount.Positive]
      omega
    · rw [if_neg both]
      simp only [true_iff, Amount.Positive]
      omega

theorem Totals.add?_eq_some {totals after : Totals} {line : Line} :
    totals.add? line = some after ↔
      after.debits.units = totals.debits.units + line.debit.units ∧
        after.credits.units = totals.credits.units + line.credit.units := by
  unfold Totals.add?
  rw [← Amount.add?_eq_some_iff, ← Amount.add?_eq_some_iff]
  cases totals.debits.add? line.debit with
  | none => simp
  | some debits =>
    cases totals.credits.add? line.credit with
    | none => simp
    | some credits =>
      simp only [Option.some.injEq]
      constructor
      · rintro rfl
        exact ⟨rfl, rfl⟩
      · rintro ⟨rfl, rfl⟩
        rfl

/-- What the debits of lines come to. -/
def debits (lines : List Line) : Int := total (fun line => line.debit.units) lines

/-- What the credits of lines come to. -/
def credits (lines : List Line) : Int := total (fun line => line.credit.units) lines

theorem debits_perm {lines others : List Line} (same : lines.Perm others) :
    debits lines = debits others := Store.total_perm same

theorem credits_perm {lines others : List Line} (same : lines.Perm others) :
    credits lines = credits others := Store.total_perm same

/-- What lines debit, lines with their sides exchanged credit. -/
theorem debits_reversing (lines : List Line) : debits (reversing lines) = credits lines :=
  Store.total_map _ _ _

theorem credits_reversing (lines : List Line) : credits (reversing lines) = debits lines :=
  Store.total_map _ _ _

/-- Lines that are summed are valid, and the sums are added to those before them. -/
theorem of_sumLines {lines : List Line} {index : Nat} {start totals : Totals}
    (summed : sumLines index start lines = .ok totals) :
    (∀ line ∈ lines, line.Sided) ∧ totals.debits.units = start.debits.units + debits lines ∧
      totals.credits.units = start.credits.units + credits lines := by
  induction lines generalizing index start with
  | nil =>
    cases summed
    simp [debits, credits]
  | cons line rest ih =>
    unfold sumLines at summed
    split at summed
    · cases summed
    · rename_i valid
      split at summed
      · rename_i middle added
        obtain ⟨sided, debits', credits'⟩ := ih summed
        obtain ⟨debit, credit⟩ := Totals.add?_eq_some.mp added
        have first := validate_eq_ok.mp valid
        refine ⟨fun other member => ?_, ?_, ?_⟩
        · rcases List.mem_cons.mp member with rfl | later
          · exact first
          · exact sided other later
        · rw [debits', debit, debits, debits, Store.total_cons]
          omega
        · rw [credits', credit, credits, credits, Store.total_cons]
          omega
      · cases summed

/-- Summed from nothing on, lines come to what their sides come to. -/
theorem of_sumLines_zero {lines : List Line} {index : Nat} {totals : Totals}
    (summed : sumLines index .zero lines = .ok totals) :
    (∀ line ∈ lines, line.Sided) ∧ totals.debits.units = debits lines ∧
      totals.credits.units = credits lines := by
  obtain ⟨sided, first, second⟩ := of_sumLines summed
  exact ⟨sided, first.trans (Int.zero_add _), second.trans (Int.zero_add _)⟩

/-- Lines are accepted when there are two or more, they can be summed, and both sums are the
same. -/
theorem validateLines_iff_summed {lines : List Line} {totals : Totals} :
    validateLines lines = .ok totals ↔
      2 ≤ lines.length ∧ sumLines 0 .zero lines = .ok totals ∧ totals.debits = totals.credits := by
  unfold validateLines
  by_cases few : lines.length < 2
  · rw [if_pos few]
    exact ⟨fun accepted => (by cases accepted), fun both => absurd both.1 (Nat.not_le.mpr few)⟩
  · rw [if_neg few]
    cases sumLines 0 .zero lines with
    | error cause => simp
    | ok sums =>
      have balanced : sums.isBalanced = true ↔ sums.debits = sums.credits := beq_iff_eq
      simp only [balanced, Except.ok.injEq]
      constructor
      · intro accepted
        split at accepted
        · rename_i same
          cases accepted
          exact ⟨Nat.not_lt.mp few, rfl, same⟩
        · cases accepted
      · rintro ⟨_, rfl, same⟩
        exact if_pos same

/-! ### Lines that may make up an entry -/

theorem Line.Sided.bounds {line : Line} (sided : line.Sided) :
    0 ≤ line.debit.units ∧ 0 ≤ line.credit.units := by
  rcases sided with ⟨debit, credit⟩ | ⟨debit, credit⟩ <;> unfold Amount.Positive at * <;> omega

theorem debits_nonneg {lines : List Line} (sided : ∀ line ∈ lines, line.Sided) :
    0 ≤ debits lines :=
  Store.total_nonneg fun line member => (sided line member).bounds.1

theorem credits_nonneg {lines : List Line} (sided : ∀ line ∈ lines, line.Sided) :
    0 ≤ credits lines :=
  Store.total_nonneg fun line member => (sided line member).bounds.2

/-- Valid lines are summed when what they come to stays in range, since nothing is taken off. -/
theorem sumLines_of_sided {lines : List Line} {index : Nat} {start totals : Totals}
    (sided : ∀ line ∈ lines, line.Sided)
    (debit : totals.debits.units = start.debits.units + debits lines)
    (credit : totals.credits.units = start.credits.units + credits lines) :
    sumLines index start lines = .ok totals := by
  induction lines generalizing index start with
  | nil =>
    have debits' : totals.debits = start.debits := Amount.ext (by simpa [debits] using debit)
    have credits' : totals.credits = start.credits := Amount.ext (by simpa [credits] using credit)
    rw [sumLines]
    obtain ⟨_, _⟩ := totals
    obtain ⟨_, _⟩ := start
    subst debits' credits'
    rfl
  | cons line rest ih =>
    have rest' : ∀ other ∈ rest, other.Sided := fun other member =>
      sided other (List.mem_cons_of_mem _ member)
    have first := sided line List.mem_cons_self
    have bounds := first.bounds
    have later := debits_nonneg rest'
    have later' := credits_nonneg rest'
    simp only [debits, credits, Store.total_cons] at debit credit later later'
    have least := start.debits.atLeast
    have least' := start.credits.atLeast
    have most := totals.debits.atMost
    have most' := totals.credits.atMost
    let middle : Totals := ⟨⟨start.debits.units + line.debit.units, by omega, by omega⟩,
      ⟨start.credits.units + line.credit.units, by omega, by omega⟩⟩
    have added : start.add? line = some middle := Totals.add?_eq_some.mpr ⟨rfl, rfl⟩
    have valid : line.validate index = .ok () := validate_eq_ok.mpr first
    rw [sumLines, valid]
    simp only [added]
    refine ih rest' ?_ ?_
    · show _ = start.debits.units + line.debit.units + debits rest
      simp only [debits]
      omega
    · show _ = start.credits.units + line.credit.units + credits rest
      simp only [credits]
      omega

/-- Lines that may make up an entry: two or more, each with one side, both sides coming to the same
within the range. -/
structure Valid (lines : List Line) : Prop where
  several : 2 ≤ lines.length
  sided : ∀ line ∈ lines, line.Sided
  balanced : debits lines = credits lines
  fits : debits lines ≤ 9223372036854775807

/-- **What the validation of lines accepts**, and what it says they come to. -/
theorem validateLines_eq_ok {lines : List Line} {totals : Totals} :
    validateLines lines = .ok totals ↔ Valid lines ∧ totals.debits.units = debits lines ∧
      totals.credits.units = credits lines := by
  constructor
  · intro accepted
    obtain ⟨several, summed, same⟩ := validateLines_iff_summed.mp accepted
    obtain ⟨sided, first, second⟩ := of_sumLines_zero summed
    have balanced : debits lines = credits lines := by
      rw [← first, ← second, same]
    have most := totals.debits.atMost
    rw [first] at most
    exact ⟨⟨several, sided, balanced, most⟩, first, second⟩
  · rintro ⟨valid, first, second⟩
    refine validateLines_iff_summed.mpr ⟨valid.several, ?_, Amount.ext ?_⟩
    · exact sumLines_of_sided valid.sided (first.trans (Int.zero_add _).symm)
        (second.trans (Int.zero_add _).symm)
    · rw [first, second, valid.balanced]

/-- **Valid lines are balanced**: there are two or more, each is on one side, and both sides come
to the same. -/
theorem balanced_of_validateLines {lines : List Line} {totals : Totals}
    (accepted : validateLines lines = .ok totals) :
    2 ≤ lines.length ∧ (∀ line ∈ lines, line.Sided) ∧ debits lines = credits lines := by
  obtain ⟨valid, _⟩ := validateLines_eq_ok.mp accepted
  exact ⟨valid.several, valid.sided, valid.balanced⟩

/-- Valid lines are accepted, and no others. -/
theorem valid_iff {lines : List Line} :
    (∃ totals, validateLines lines = .ok totals) ↔ Valid lines := by
  constructor
  · rintro ⟨totals, accepted⟩
    exact (validateLines_eq_ok.mp accepted).1
  · intro valid
    have least := debits_nonneg valid.sided
    have most := valid.fits
    let sum : Amount := ⟨debits lines, by omega, by omega⟩
    exact ⟨⟨sum, sum⟩, validateLines_eq_ok.mpr ⟨valid, rfl, valid.balanced⟩⟩

/-- Lines may make up an entry in whatever order. -/
theorem Valid.perm {lines others : List Line} (valid : Valid lines) (same : lines.Perm others) :
    Valid others := by
  refine ⟨?_, fun line member => valid.sided line (same.mem_iff.mpr member), ?_, ?_⟩
  · rw [← same.length_eq]
    exact valid.several
  · rw [← debits_perm same, ← credits_perm same]
    exact valid.balanced
  · rw [← debits_perm same]
    exact valid.fits

/-- Lines that may make up an entry may also make up its reversal. -/
theorem Valid.reversing {lines : List Line} (valid : Valid lines) :
    Valid (Ledger.reversing lines) := by
  refine ⟨?_, fun line member => ?_, ?_, ?_⟩
  · rw [Ledger.reversing, List.length_map]
    exact valid.several
  · obtain ⟨old, present, rfl⟩ := List.mem_map.mp member
    exact (valid.sided old present).symm.imp And.symm And.symm
  · rw [debits_reversing, credits_reversing, valid.balanced]
  · rw [debits_reversing, ← valid.balanced]
    exact valid.fits

/-- A line on one account, without a description. -/
def sampleLine (debit credit : Amount) : Line := ⟨⟨⟨0, by decide⟩⟩, debit, credit, none⟩

end Passbook.Ledger
