/-
**Amounts of money in minor units.**

An amount is an integer within the range of a signed 64-bit column. The bounds are part of the
type, so every stored figure carries them.

* `Amount.add?`, `Amount.sub?`: exact sums and differences, absent when they leave the range;
* `Amount.add`, `Amount.sub`: the same for code that has no answer to an overflow, which then
  stops with an `Overflow`;
* `Amount.ofNat`: a natural number as an amount, likewise;
* `Amount.subSaturating`: a difference held at the ends of the range.
-/

namespace Passbook

/-- An integer that a signed 64-bit column can hold. -/
@[ext]
structure Amount where
  /-- The figure itself. -/
  units : Int
  /-- It is not below the range. -/
  atLeast : -9223372036854775808 ≤ units
  /-- It is not above the range. -/
  atMost : units ≤ 9223372036854775807
deriving DecidableEq

/-- The way in which unguarded arithmetic left the range. -/
inductive Overflow where
  | addition
  | subtraction
  /-- An unsigned number was taken for an amount. -/
  | conversion
  /-- A deadline lies beyond what a clock can show. -/
  | clock
deriving DecidableEq

/-- Overflows of sums and differences are reported in these words. -/
def Overflow.message? : Overflow → Option String
  | .addition => some "attempt to add with overflow"
  | .subtraction => some "attempt to subtract with overflow"
  | .conversion => none
  | .clock => none

namespace Amount

/-- The amount of a given figure, if the range holds it. -/
def ofInt? (figure : Int) : Option Amount :=
  if bounds : -9223372036854775808 ≤ figure ∧ figure ≤ 9223372036854775807 then
    some ⟨figure, bounds.1, bounds.2⟩
  else
    none

/-- The least amount. -/
def least : Amount := ⟨-9223372036854775808, by decide, by decide⟩

/-- The greatest amount. -/
def greatest : Amount := ⟨9223372036854775807, by decide, by decide⟩

/-- Nothing. -/
def zero : Amount := ⟨0, by decide, by decide⟩

/-- One minor unit. -/
def one : Amount := ⟨1, by decide, by decide⟩

/-- Two minor units. -/
def two : Amount := ⟨2, by decide, by decide⟩

instance : Inhabited Amount := ⟨zero⟩

instance : LE Amount := ⟨fun first second => first.units ≤ second.units⟩

instance : LT Amount := ⟨fun first second => first.units < second.units⟩

instance (first second : Amount) : Decidable (first ≤ second) :=
  inferInstanceAs (Decidable (first.units ≤ second.units))

instance (first second : Amount) : Decidable (first < second) :=
  inferInstanceAs (Decidable (first.units < second.units))

theorem le_iff {first second : Amount} : first ≤ second ↔ first.units ≤ second.units := Iff.rfl

theorem lt_iff {first second : Amount} : first < second ↔ first.units < second.units := Iff.rfl

/-- The sum, if the range holds it. -/
def add? (first second : Amount) : Option Amount := ofInt? (first.units + second.units)

/-- The difference, if the range holds it. -/
def sub? (first second : Amount) : Option Amount := ofInt? (first.units - second.units)

/-- The sum, or the overflow of an addition. -/
def add (first second : Amount) : Except Overflow Amount :=
  match add? first second with
  | some sum => .ok sum
  | none => .error .addition

/-- The difference, or the overflow of a subtraction. -/
def sub (first second : Amount) : Except Overflow Amount :=
  match sub? first second with
  | some difference => .ok difference
  | none => .error .subtraction

/-- A natural number as an amount, or the overflow of a conversion. -/
def ofNat (figure : Nat) : Except Overflow Amount :=
  match ofInt? figure with
  | some amount => .ok amount
  | none => .error .conversion

/-- The nearest amount to a figure. -/
def clamp (figure : Int) : Amount :=
  if below : figure < -9223372036854775808 then least
  else if above : 9223372036854775807 < figure then greatest
  else ⟨figure, by omega, by omega⟩

/-- The difference, held at the ends of the range. -/
def subSaturating (first second : Amount) : Amount := clamp (first.units - second.units)

/-- The larger of two amounts. -/
def max (first second : Amount) : Amount := if first ≤ second then second else first

/-- More than nothing. -/
abbrev Positive (amount : Amount) : Prop := 0 < amount.units

/-! ### What the operations compute -/

theorem ofInt?_eq_some_iff {figure : Int} {amount : Amount} :
    ofInt? figure = some amount ↔ amount.units = figure := by
  unfold ofInt?
  constructor
  · intro found
    split at found
    · cases found; rfl
    · cases found
  · rintro rfl
    rw [dif_pos ⟨amount.atLeast, amount.atMost⟩]

theorem ofInt?_eq_none_iff {figure : Int} :
    ofInt? figure = none ↔ figure < -9223372036854775808 ∨ 9223372036854775807 < figure := by
  unfold ofInt?
  split <;> simp <;> omega

theorem add?_eq_some_iff {first second sum : Amount} :
    add? first second = some sum ↔ sum.units = first.units + second.units :=
  ofInt?_eq_some_iff

theorem sub?_eq_some_iff {first second difference : Amount} :
    sub? first second = some difference ↔ difference.units = first.units - second.units :=
  ofInt?_eq_some_iff

end Amount

end Passbook
