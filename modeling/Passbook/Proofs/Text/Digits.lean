/-
**Numbers are told apart, and put in order, by their digits.**

* `zeroFill_value`: a number is the value of its digits, whatever zeros are in front of them;
* `paddedDecimal_inj`: natural numbers filled up to one width are the same if their digits are;
* `hexadecimal_inj`: so are numbers that fit in a width of hexadecimal digits;
  `hexadecimal_lt_iff`: and they are in the order of these digits;
  `isBlank_hexadecimal`: none of which is blank;
* `zeroFill_lt_iff`: of two numbers filled up to a width the lesser one comes first in the order of
  texts exactly if it is no greater than what is left of the other without the digits that the other
  has more.
-/

import Passbook.Proofs.Text.Places
import Passbook.Text.Blank
import Passbook.Text.Digits

namespace Passbook.Text

/-- Zeros in front of digits do not count. -/
theorem zeroFill_value (width number : Nat) :
    Nat.ofDigitChars 10 (zeroFill width (digits number)) 0 = number := by
  unfold zeroFill digits
  rw [Nat.ofDigitChars_append, Nat.ofDigitChars_replicate_zero, Nat.mul_zero,
    Nat.ofDigitChars_ten_toDigits]

/-- Digits filled up to one width tell numbers apart, also where they need more than the width. -/
theorem zeroFill_inj {width first second : Nat}
    (same : zeroFill width (digits first) = zeroFill width (digits second)) : first = second := by
  rw [← zeroFill_value width first, same, zeroFill_value]

/-- **Numbers from nothing on are told apart by their digits** filled up to one width. -/
theorem paddedDecimal_inj {width : Nat} {first second : Int} (least : 0 ≤ first)
    (least' : 0 ≤ second) (same : paddedDecimal width first = paddedDecimal width second) :
    first = second := by
  obtain ⟨number, rfl⟩ := Int.eq_ofNat_of_zero_le least
  obtain ⟨other, rfl⟩ := Int.eq_ofNat_of_zero_le least'
  exact congrArg Int.ofNat (zeroFill_inj same)

/-! ### Hexadecimal digits -/

/-- Hexadecimal digits are in the order of their values. -/
theorem rising_hexDigit : Rising 16 hexDigit where
  positive := by decide
  lt_iff := by decide
  inj := by decide

theorem hexadecimal_eq_places (width number : Nat) :
    hexadecimal width number = places 16 hexDigit width number := by
  induction width generalizing number with
  | zero => rfl
  | succ width ih => rw [hexadecimal, places, ih]

theorem length_hexadecimal (width number : Nat) : (hexadecimal width number).length = width := by
  rw [hexadecimal_eq_places, length_places]

theorem isBlank_hexDigit : ∀ value < 16, isBlank (hexDigit value) = false := by decide

/-- No hexadecimal digit is blank. -/
theorem isBlank_hexadecimal {width number : Nat} :
    ∀ char ∈ hexadecimal width number, isBlank char = false := by
  induction width generalizing number with
  | zero => exact fun _ absent => nomatch absent
  | succ width ih =>
    intro char member
    rcases List.mem_append.mp member with earlier | last
    · exact ih char earlier
    · rw [List.mem_singleton.mp last]
      exact isBlank_hexDigit _ (Nat.mod_lt _ (by decide))

/-- **Numbers that fit in a width are told apart by so many hexadecimal digits.** -/
theorem hexadecimal_inj {width first second : Nat} (fits : first < 16 ^ width)
    (fits' : second < 16 ^ width) (same : hexadecimal width first = hexadecimal width second) :
    first = second := by
  rw [hexadecimal_eq_places, hexadecimal_eq_places] at same
  exact places_inj rising_hexDigit fits fits' same

/-- **Numbers that fit in a width are in the order of so many hexadecimal digits.** -/
theorem hexadecimal_lt_iff {width first second : Nat} (fits : first < 16 ^ width)
    (fits' : second < 16 ^ width) :
    hexadecimal width first < hexadecimal width second ↔ first < second := by
  rw [hexadecimal_eq_places, hexadecimal_eq_places, places_lt_iff rising_hexDigit fits fits']

/-! ### Decimal digits -/

/-- Decimal digits are in the order of their values. -/
theorem rising_digitChar : Rising 10 Nat.digitChar where
  positive := by decide
  lt_iff := by decide
  inj := by decide

/-- One more character at the end of digits takes one of the zeros in front of them. -/
theorem zeroFill_append_singleton (width : Nat) (chars : List Char) (char : Char) :
    zeroFill (width + 1) (chars ++ [char]) = zeroFill width chars ++ [char] := by
  unfold zeroFill
  rw [List.length_append, List.length_singleton, Nat.add_sub_add_right, List.append_assoc]

/-- Nothing is written with zeros alone. -/
theorem zeroFill_zero (width : Nat) : zeroFill (width + 1) (digits 0) = zeroFill (width + 1) [] := by
  change List.replicate width '0' ++ ['0'] = List.replicate (width + 1) '0' ++ []
  rw [List.append_nil, List.replicate_succ']

/-- A number that fits in so many places, filled up to them, place by place. -/
theorem zeroFill_eq_places {width number : Nat} (fits : number < 10 ^ (width + 1)) :
    zeroFill (width + 1) (digits number) = places 10 Nat.digitChar (width + 1) number := by
  induction width generalizing number with
  | zero =>
    have small : number < 10 := fits
    rw [digits, Nat.toDigits_of_lt_base small, places, places, Nat.mod_eq_of_lt small]
    rfl
  | succ width ih =>
    rw [places, ← ih (div_fits fits)]
    by_cases small : number < 10
    · rw [digits, Nat.toDigits_of_lt_base small, Nat.div_eq_of_lt small, Nat.mod_eq_of_lt small,
        zeroFill_zero]
      exact zeroFill_append_singleton (width + 1) [] _
    · rw [← zeroFill_append_singleton, digits, digits,
        ← Nat.toDigits_of_base_le (by decide) (Nat.not_lt.mp small)]

/-- A number fits in its digits, and in more of them. -/
theorem lt_pow_digits (width number : Nat) : number < 10 ^ max width (digits number).length := by
  have fits : number < 10 ^ (digits number).length :=
    (Nat.length_toDigits_le_iff (by decide) Nat.length_toDigits_pos).mp (Nat.le_refl _)
  exact Nat.lt_of_lt_of_le fits (Nat.pow_le_pow_right (by decide) (Nat.le_max_right ..))

/-- A number has no fewer digits than a lesser one. -/
theorem length_digits_le {first second : Nat} (least : first ≤ second) :
    (digits first).length ≤ (digits second).length := by
  have fits := lt_pow_digits 0 second
  rw [Nat.zero_max] at fits
  exact (Nat.length_toDigits_le_iff (by decide) Nat.length_toDigits_pos).mpr
    (Nat.lt_of_le_of_lt least fits)

/-- Filling up to a width leaves digits that are wider as they are. -/
theorem zeroFill_max (width : Nat) (chars : List Char) :
    zeroFill (max width chars.length) chars = zeroFill width chars := by
  unfold zeroFill
  rw [show max width chars.length - chars.length = width - chars.length by omega]

/-- **A number, filled up to a width or wider, place by place.** -/
theorem zeroFill_eq_places_max (width number : Nat) :
    zeroFill width (digits number) =
      places 10 Nat.digitChar (max width (digits number).length) number := by
  have some : 0 < (digits number).length := Nat.length_toDigits_pos
  obtain ⟨less, wide⟩ : ∃ less, max width (digits number).length = less + 1 :=
    Nat.exists_eq_add_one.mpr (by omega)
  have fits := lt_pow_digits width number
  rw [wide] at fits
  rw [← zeroFill_max, wide, zeroFill_eq_places fits]

/-- **Of two numbers filled up to a width the lesser one comes first** in the order of texts exactly
if it is no greater than what is left of the other without the digits that the other has more. -/
theorem zeroFill_lt_iff (width : Nat) {first second : Nat} (least : first < second) :
    zeroFill width (digits first) < zeroFill width (digits second) ↔
      first ≤ second / 10 ^ (max width (digits second).length - max width (digits first).length) := by
  have wider := length_digits_le (Nat.le_of_lt least)
  obtain ⟨more, wide⟩ : ∃ more,
      max width (digits second).length = max width (digits first).length + more :=
    Nat.exists_eq_add_of_le (by omega)
  have fits := lt_pow_digits width first
  have fits' := lt_pow_digits width second
  rw [wide] at fits'
  rw [zeroFill_eq_places_max, zeroFill_eq_places_max, wide, Nat.add_sub_cancel_left]
  rcases Nat.eq_zero_or_pos more with rfl | some
  · rw [Nat.pow_zero, Nat.div_one]
    exact iff_of_true ((places_lt_iff rising_digitChar fits fits').mpr least) (Nat.le_of_lt least)
  · exact places_lt_places_iff rising_digitChar some fits fits'

end Passbook.Text
