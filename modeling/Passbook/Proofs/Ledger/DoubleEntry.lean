/-
**Double entry is decided exactly.**

What the validation of lines answers is told apart from the order in which it looks at them: lines are
accepted for what they are one by one and for what they come to together.

* `validateLines_perm`: lines in another order are accepted for the same totals;
* `Line.validate_reversing`, `sumLines_reversing`, `validateLines_reversing`: exchanging the sides of
  the lines exchanges the sides of the answer (`exchanged`), and changes nothing else in it;
* `sides_reversing_reversing`: exchanged twice, the lines have the sides they had;
* `validateLines_exact`: all of these, with what is accepted.
-/

import Passbook.Proofs.Ledger.Lines

namespace Passbook.Ledger

/-! ### Lines in another order -/

/-- Lines come to the same totals in whatever order they are accepted. Why they are refused may
depend on it, since the first line at fault is named. -/
theorem validateLines_perm {lines others : List Line} (same : lines.Perm others) {totals : Totals} :
    validateLines others = .ok totals ↔ validateLines lines = .ok totals := by
  have valid : Valid others ↔ Valid lines :=
    ⟨fun valid => valid.perm same.symm, fun valid => valid.perm same⟩
  rw [validateLines_eq_ok, validateLines_eq_ok, valid, debits_perm same, credits_perm same]

/-! ### Sides exchanged -/

/-- The sums with their sides exchanged. -/
def Totals.exchanged (totals : Totals) : Totals := ⟨totals.credits, totals.debits⟩

/-- A cause with the sums that it names exchanged. No other cause tells the sides apart. -/
def LedgerError.exchanged : LedgerError → LedgerError
  | .unbalanced debits credits => .unbalanced credits debits
  | cause => cause

/-- The answer to lines whose sides are exchanged. -/
def exchanged : Except LedgerError Totals → Except LedgerError Totals
  | .ok totals => .ok totals.exchanged
  | .error cause => .error cause.exchanged

theorem Line.validate_reversing (index : Nat) (line : Line) :
    line.reversing.validate index = line.validate index := by
  unfold Line.validate Line.reversing
  exact if_congr or_comm rfl (if_congr iff_comm rfl rfl)

/-- What is wrong with a line is as wrong with its sides exchanged. -/
theorem Line.exchanged_of_validate {index : Nat} {line : Line} {cause : LedgerError}
    (failed : line.validate index = .error cause) : cause.exchanged = cause := by
  unfold Line.validate at failed
  split at failed
  · cases failed
    rfl
  · split at failed
    · cases failed
      rfl
    · cases failed

theorem Totals.add?_reversing (totals : Totals) (line : Line) :
    totals.exchanged.add? line.reversing = (totals.add? line).map Totals.exchanged := by
  unfold Totals.add? Totals.exchanged Line.reversing
  simp only
  cases totals.debits.add? line.debit with
  | none => cases totals.credits.add? line.credit <;> rfl
  | some debits => cases totals.credits.add? line.credit <;> rfl

/-- The sums of lines go the same way with the sides exchanged: they stop at the same line. -/
theorem sumLines_reversing (index : Nat) (totals : Totals) (lines : List Line) :
    sumLines index totals.exchanged (reversing lines) = exchanged (sumLines index totals lines) := by
  induction lines generalizing index totals with
  | nil => rfl
  | cons line rest ih =>
    show sumLines index totals.exchanged (line.reversing :: reversing rest) = _
    unfold sumLines
    rw [Line.validate_reversing, Totals.add?_reversing]
    cases checked : line.validate index with
    | error cause => exact congrArg Except.error (Line.exchanged_of_validate checked).symm
    | ok done =>
      cases totals.add? line with
      | none => rfl
      | some after => exact ih (index + 1) after

theorem Totals.isBalanced_exchanged (totals : Totals) :
    totals.exchanged.isBalanced = totals.isBalanced := Bool.beq_comm

/-- **Lines with their sides exchanged get the same answer with its sides exchanged.** -/
theorem validateLines_reversing (lines : List Line) :
    validateLines (reversing lines) = exchanged (validateLines lines) := by
  have nothing : sumLines 0 .zero (reversing lines) = exchanged (sumLines 0 .zero lines) :=
    sumLines_reversing 0 .zero lines
  unfold validateLines
  rw [nothing, reversing, List.length_map]
  by_cases few : lines.length < 2
  · rw [if_pos few, if_pos few]
    rfl
  · rw [if_neg few, if_neg few]
    cases sumLines 0 .zero lines with
    | error cause => rfl
    | ok totals =>
      simp only [exchanged, Totals.isBalanced_exchanged]
      cases totals.isBalanced <;> rfl

/-- The account of a line and its sides, which is all but its description. -/
def Line.sides (line : Line) : AccountId × Amount × Amount :=
  (line.account, line.debit, line.credit)

/-- Only the descriptions tell that the sides were exchanged twice. -/
theorem sides_reversing_reversing (lines : List Line) :
    (reversing (reversing lines)).map Line.sides = lines.map Line.sides := by
  unfold reversing
  rw [List.map_map, List.map_map]
  rfl

/-! ### The whole answer -/

/-- **Double entry is decided exactly.** Lines are accepted when there are two or more, exactly one
side of each is more than nothing and the other is nothing, and both sides come to the same sum
within the range; they come to these sums, in whatever order. With the sides of the lines exchanged
the answer is the same with its sides exchanged, and exchanging them again restores the account and
the sides of every line. -/
theorem validateLines_exact (lines : List Line) :
    ((∃ totals, validateLines lines = .ok totals) ↔
        2 ≤ lines.length ∧ (∀ line ∈ lines, line.Sided) ∧ debits lines = credits lines ∧
          Amount.InRange (debits lines)) ∧
      (∀ totals, validateLines lines = .ok totals →
        totals.debits.units = debits lines ∧ totals.credits.units = credits lines) ∧
      (∀ others, lines.Perm others → ∀ totals,
        validateLines others = .ok totals ↔ validateLines lines = .ok totals) ∧
      validateLines (reversing lines) = exchanged (validateLines lines) ∧
      (reversing (reversing lines)).map Line.sides = lines.map Line.sides := by
  refine ⟨?_, fun totals accepted => (validateLines_eq_ok.mp accepted).2,
    fun others same totals => validateLines_perm same, validateLines_reversing lines,
    sides_reversing_reversing lines⟩
  rw [valid_iff]
  constructor
  · intro valid
    have least := debits_nonneg valid.sided
    refine ⟨valid.several, valid.sided, valid.balanced, ?_, valid.fits⟩
    exact Int.le_trans (by decide) least
  · rintro ⟨several, sided, balanced, within⟩
    exact ⟨several, sided, balanced, within.2⟩

/-- Both sides come to the greatest amount. -/
def sampleEntry : List Line :=
  [sampleLine ⟨9223372036854775806, by decide, by decide⟩ .zero, sampleLine .zero .greatest,
    sampleLine .one .zero]

/-- One more on both sides. -/
def sampleExcess : List Line := sampleLine .one .zero :: sampleLine .zero .one :: sampleEntry

/-- The greatest sums are accepted, also the other way round, and one more on both sides is too
much. Where the sums differ, the answer to the lines with their sides exchanged names them
exchanged. -/
theorem validateLines_exact_samples :
    (∃ totals, validateLines sampleEntry.reverse = .ok totals ∧ totals.credits = .greatest) ∧
      (¬∃ totals, validateLines sampleExcess = .ok totals) ∧
      validateLines (reversing [sampleLine .two .zero, sampleLine .zero .one]) =
        .error (.unbalanced .one .two) := by
  obtain ⟨accepted, sums, order, _, _⟩ := validateLines_exact sampleEntry
  have beyond := (validateLines_exact sampleExcess).1
  have exchange := (validateLines_exact [sampleLine .two .zero, sampleLine .zero .one]).2.2.2.1
  obtain ⟨totals, is⟩ := accepted.mpr (by decide)
  refine ⟨⟨totals, (order _ (List.reverse_perm _).symm totals).mpr is, ?_⟩, ?_, exchange⟩
  · exact Amount.ext (sums totals is).2
  · rw [beyond]
    decide

end Passbook.Ledger
