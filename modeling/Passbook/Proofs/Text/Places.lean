/-
**Digits in so many places are in the order of the numbers.**

* `places`: the last digits of a number in any base, the highest first, whatever stands for a digit;
  `places_add`: the first of them are the digits of what is left without the others;
* `append_lt_append_iff`: lists are compared by their fronts, and by what follows them if the fronts
  are the same;
* `places_lt_iff`, `places_inj`: where digits are in the order of their values (`Rising`), numbers
  that fit in so many places are in the order of their digits, and are told apart by them;
* `places_lt_places_iff`: in more places than another number a number is the greater one if it is at
  least the other without the digits that the other does not have.
-/

import Mathlib.Algebra.Group.Nat.Defs
import Mathlib.Data.List.Lex

namespace Passbook.Text

variable {α : Type}

/-- The last so many digits of a number, the highest first. -/
def places (base : Nat) (digit : Nat → α) : (width : Nat) → (number : Nat) → List α
  | 0, _ => []
  | width + 1, number => places base digit width (number / base) ++ [digit (number % base)]

/-- Digits for all values below a base, in the order of the values. -/
structure Rising [LT α] (base : Nat) (digit : Nat → α) : Prop where
  positive : 0 < base
  lt_iff : ∀ value < base, ∀ other < base, (digit value < digit other ↔ value < other)
  inj : ∀ value < base, ∀ other < base, digit value = digit other → value = other

section Places

variable {base width first second : Nat} {digit : Nat → α}

@[simp]
theorem length_places (width number : Nat) :
    (places base digit width number).length = width := by
  induction width generalizing number with
  | zero => rfl
  | succ width ih => rw [places, List.length_append, ih, List.length_singleton]

/-- The first places hold what is left of a number without the last ones. -/
theorem places_add (width more number : Nat) :
    places base digit (width + more) number =
      places base digit width (number / base ^ more) ++ places base digit more number := by
  induction more generalizing number with
  | zero => rw [Nat.pow_zero, Nat.div_one, places, List.append_nil, Nat.add_zero]
  | succ more ih =>
    rw [← Nat.add_assoc, places, ih, places, List.append_assoc, Nat.div_div_eq_div_mul,
      Nat.pow_succ']

/-- What is left without the last digit fits in one place less. -/
theorem div_fits (fits : first < base ^ (width + 1)) : first / base < base ^ width :=
  Nat.div_lt_of_lt_mul (Nat.pow_succ' ▸ fits)

/-- Numbers are compared without their last digits first. -/
theorem lt_iff_div_lt_or : first < second ↔
    first / base < second / base ∨
      first / base = second / base ∧ first % base < second % base := by
  have whole := Nat.div_add_mod first base
  have whole' := Nat.div_add_mod second base
  rcases Nat.lt_trichotomy (first / base) (second / base) with less | same | more
  · have : first < second := by
      by_contra above
      exact absurd (Nat.div_le_div_right (Nat.not_lt.mp above)) (Nat.not_le.mpr less)
    simp [less, this]
  · rw [same] at whole
    simp only [same, lt_irrefl, true_and, false_or]
    omega
  · have : ¬first < second := fun below =>
      absurd (Nat.div_le_div_right (Nat.le_of_lt below)) (Nat.not_le.mpr more)
    simp [Nat.not_lt.mpr (Nat.le_of_lt more), Nat.ne_of_gt more, this]

end Places

/-- **Lists are compared by their fronts first**, if these are equally long. -/
theorem append_lt_append_iff [LT α] {front front' back back' : List α}
    (same : front.length = front'.length) :
    front ++ back < front' ++ back' ↔ front < front' ∨ front = front' ∧ back < back' := by
  induction front generalizing front' with
  | nil =>
    obtain rfl : front' = [] := List.length_eq_zero_iff.mp same.symm
    simp
  | cons char rest ih =>
    obtain ⟨char', rest', rfl⟩ := List.exists_cons_of_length_eq_add_one same.symm
    have shorter : rest.length = rest'.length := Nat.succ.inj same
    rw [List.cons_append, List.cons_append, List.cons_lt_cons_iff, List.cons_lt_cons_iff,
      ih shorter, List.cons.injEq]
    tauto

section Rising

variable [LT α] {base width first second : Nat} {digit : Nat → α}

/-- **Numbers that fit in so many places are told apart by their digits.** -/
theorem places_inj (rising : Rising base digit) (fits : first < base ^ width)
    (fits' : second < base ^ width)
    (same : places base digit width first = places base digit width second) :
    first = second := by
  induction width generalizing first second with
  | zero =>
    rw [Nat.pow_zero] at fits fits'
    omega
  | succ width ih =>
    obtain ⟨front, last⟩ := List.append_inj' same rfl
    have high : first / base = second / base := ih (div_fits fits) (div_fits fits') front
    have low : first % base = second % base :=
      rising.inj _ (Nat.mod_lt _ rising.positive) _ (Nat.mod_lt _ rising.positive)
        (List.singleton_inj.mp last)
    rw [← Nat.div_add_mod first base, high, low, Nat.div_add_mod]

/-- **Numbers that fit in so many places are in the order of their digits.** -/
theorem places_lt_iff (rising : Rising base digit) (fits : first < base ^ width)
    (fits' : second < base ^ width) :
    places base digit width first < places base digit width second ↔ first < second := by
  induction width generalizing first second with
  | zero =>
    rw [Nat.pow_zero] at fits fits'
    obtain rfl : first = second := by omega
    simp [places]
  | succ width ih =>
    have front : places base digit width (first / base) = places base digit width (second / base) ↔
        first / base = second / base :=
      ⟨places_inj rising (div_fits fits) (div_fits fits'), fun same => by rw [same]⟩
    have last : [digit (first % base)] < [digit (second % base)] ↔
        first % base < second % base := by
      rw [List.cons_lt_cons_iff]
      simp [rising.lt_iff _ (Nat.mod_lt _ rising.positive) _ (Nat.mod_lt _ rising.positive)]
    rw [places, places, append_lt_append_iff (by simp), ih (div_fits fits) (div_fits fits'),
      front, last, ← lt_iff_div_lt_or]

/-- **Numbers of different widths.** Digits come before more digits exactly if the number is no
greater than what is left of the other without the digits that it has more. -/
theorem places_lt_places_iff (rising : Rising base digit) {more : Nat} (wider : 0 < more)
    (fits : first < base ^ width) (fits' : second < base ^ (width + more)) :
    places base digit width first < places base digit (width + more) second ↔
      first ≤ second / base ^ more := by
  have high : second / base ^ more < base ^ width := by
    refine Nat.div_lt_of_lt_mul ?_
    rwa [← Nat.pow_add, Nat.add_comm more]
  have longer : [] < places base digit more second := by
    obtain ⟨char, rest, split⟩ := List.exists_cons_of_length_pos
      (Nat.lt_of_lt_of_eq wider (length_places more second).symm)
    rw [split]
    exact List.nil_lt_cons char rest
  have front : places base digit width first = places base digit width (second / base ^ more) ↔
      first = second / base ^ more :=
    ⟨places_inj rising fits high, fun same => by rw [← same]⟩
  rw [places_add, ← List.append_nil (places base digit width first),
    append_lt_append_iff (by simp), places_lt_iff rising fits high, front]
  simp only [longer, and_true]
  exact Nat.le_iff_lt_or_eq.symm

end Rising

end Passbook.Text
