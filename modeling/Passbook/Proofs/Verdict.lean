/-
**Verdicts that a rule is kept.**

* `Verdict.bind_eq_ok` and its like: when a sequence of rules gives a result;
* `Verdict.FailsOnly`: whatever a sequence of rules fails for is allowed, part by part
  (`FailsOnly.bind`); `Tellable`: causes that can be put into words;
* `Amount.add_eq_ok`, `Amount.sub_eq_ok`: what unguarded arithmetic gives when it stays in range
  (`Amount.InRange`).
-/

import Passbook.Halt

namespace Passbook

namespace Verdict

variable {ε ε' α β : Type}

@[simp]
theorem bind_eq_ok {verdict : Except ε α} {next : α → Except ε β} {value : β} :
    (verdict >>= next) = .ok value ↔ ∃ result, verdict = .ok result ∧ next result = .ok value := by
  cases verdict <;> simp [bind, Except.bind]

@[simp]
theorem pure_eq_ok {value result : α} :
    (pure value : Except ε α) = .ok result ↔ value = result := by
  simp [pure, Except.pure]

@[simp]
theorem throw_eq_ok {cause : ε} {result : α} :
    (throw cause : Except ε α) = .ok result ↔ False := by
  simp [throw, throwThe, MonadExceptOf.throw]

@[simp]
theorem mapError_eq_ok {change : ε → ε'} {verdict : Except ε α} {value : α} :
    verdict.mapError change = .ok value ↔ verdict = .ok value := by
  cases verdict with
  | error cause =>
    show (Except.error (change cause) : Except ε' α) = _ ↔ _
    simp
  | ok result =>
    show (Except.ok result : Except ε' α) = _ ↔ _
    simp

@[simp]
theorem map_eq_ok {change : α → β} {verdict : Except ε α} {value : β} :
    verdict.map change = .ok value ↔ ∃ result, verdict = .ok result ∧ change result = value := by
  cases verdict <;> simp [Except.map]

@[simp]
theorem ruled_eq_ok {verdict : Except ε α} {value : α} :
    ruled verdict = .ok value ↔ verdict = .ok value := by
  cases verdict <;> simp [ruled]

@[simp]
theorem unguarded_eq_ok {result : Except Overflow α} {value : α} :
    (unguarded result : Except (Halt ε) α) = .ok value ↔ result = .ok value := by
  cases result <;> simp [unguarded]

/-! ### What rules fail for -/

/-- Whatever a verdict fails for is allowed. -/
def FailsOnly (allowed : ε → Prop) (verdict : Except ε α) : Prop :=
  ∀ cause, verdict = .error cause → allowed cause

namespace FailsOnly

variable {allowed : ε → Prop}

theorem ok (value : α) : FailsOnly allowed (.ok value : Except ε α) := fun _ failed => by
  cases failed

theorem error {cause : ε} (may : allowed cause) :
    FailsOnly allowed (.error cause : Except ε α) := fun _ failed => by
  cases failed
  exact may

theorem of_eq_ok {verdict : Except ε α} {value : α} (done : verdict = .ok value) :
    FailsOnly allowed verdict := by
  rw [done]
  exact ok value

/-- A verdict that fails for nothing gives a result. -/
theorem exists_ok {verdict : Except ε α} (fails : FailsOnly allowed verdict)
    (never : ∀ cause, ¬allowed cause) : ∃ value, verdict = .ok value := by
  cases verdict with
  | error cause => exact absurd (fails cause rfl) (never cause)
  | ok value => exact ⟨value, rfl⟩

theorem mono {other : ε → Prop} {verdict : Except ε α} (fails : FailsOnly allowed verdict)
    (weaker : ∀ cause, allowed cause → other cause) : FailsOnly other verdict :=
  fun cause failed => weaker cause (fails cause failed)

theorem bind {verdict : Except ε α} {next : α → Except ε β} (first : FailsOnly allowed verdict)
    (second : ∀ value, verdict = .ok value → FailsOnly allowed (next value)) :
    FailsOnly allowed (verdict >>= next) := by
  cases verdict with
  | error cause => exact error (first cause rfl)
  | ok value => exact second value rfl

theorem mapError {change : ε' → ε} {verdict : Except ε' α}
    (fails : FailsOnly (fun cause => allowed (change cause)) verdict) :
    FailsOnly allowed (verdict.mapError change) := by
  cases verdict with
  | error cause => exact error (fails cause rfl)
  | ok value => exact ok value

theorem map {change : α → β} {verdict : Except ε α} (fails : FailsOnly allowed verdict) :
    FailsOnly allowed (verdict.map change) := by
  cases verdict with
  | error cause => exact error (fails cause rfl)
  | ok value => exact ok (change value)

theorem ruled {allowed : Halt ε → Prop} {verdict : Except ε α}
    (fails : FailsOnly (fun cause => allowed (.refused cause)) verdict) :
    FailsOnly allowed (Passbook.ruled verdict) := by
  cases verdict with
  | error cause => exact error (fails cause rfl)
  | ok value => exact ok value

end FailsOnly

end Verdict

/-- A cause that can be put into words. -/
def Tellable {ε : Type} [Reportable ε] (cause : ε) : Prop :=
  ∃ report, Reportable.report cause = .ok report

namespace Amount

@[simp]
theorem add_eq_ok {first second sum : Amount} :
    first.add second = .ok sum ↔ sum.units = first.units + second.units := by
  unfold add
  rw [← add?_eq_some_iff]
  cases first.add? second <;> simp

@[simp]
theorem sub_eq_ok {first second difference : Amount} :
    first.sub second = .ok difference ↔ difference.units = first.units - second.units := by
  unfold sub
  rw [← sub?_eq_some_iff]
  cases first.sub? second <;> simp

/-- The range holds a figure. -/
def InRange (figure : Int) : Prop := least.units ≤ figure ∧ figure ≤ greatest.units

instance (figure : Int) : Decidable (InRange figure) := inferInstanceAs (Decidable (_ ∧ _))

theorem inRange (amount : Amount) : InRange amount.units := ⟨amount.atLeast, amount.atMost⟩

theorem exists_of_inRange {figure : Int} (within : InRange figure) :
    ∃ amount : Amount, amount.units = figure :=
  ⟨⟨figure, within.1, within.2⟩, rfl⟩

end Amount

end Passbook
