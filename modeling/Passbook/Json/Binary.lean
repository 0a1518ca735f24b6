/-
**Binary fractions with 53 digits.**

Numbers with a fraction or an exponent, and integers of more than 64 bits, are kept as the nearest
multiple of a power of two with at most 53 binary digits. A tie goes to the even one.

* `nearest`: the binary fraction nearest to a quotient of natural numbers;
* `ofDecimal?`: the digits as a whole number, rounded, then scaled by a rounded power of ten and
  rounded again;
* `shortest`: the fewest decimal digits that are read back as the same number.
-/

import Passbook.Text.Digits

namespace Passbook.Json

open Passbook.Text (tenTo)

/-- A natural number times a power of two. -/
structure Binary where
  significand : Nat
  exponent : Int
deriving DecidableEq

namespace Binary

/-- The quotient rounded to a whole number, a tie to the even one. -/
def roundQuotient (numerator denominator : Nat) : Nat :=
  let quotient := numerator / denominator
  let rest := 2 * (numerator % denominator)
  if rest < denominator then quotient
  else if denominator < rest then quotient + 1
  else quotient + quotient % 2

/-- A power of two. -/
def twoTo (exponent : Nat) : Nat := Nat.pow 2 exponent

/-- A quotient times a power of two, as a quotient. -/
def scale (numerator denominator : Nat) (exponent : Int) : Nat × Nat :=
  if 0 ≤ exponent then (numerator * twoTo exponent.toNat, denominator)
  else (numerator, denominator * twoTo (-exponent).toNat)

/-- The least exponent. -/
def leastExponent : Int := -1074

/-- The exponent under which a quotient has 53 binary digits, but not less than the least. -/
def exponentFor (numerator denominator : Nat) : Int :=
  let guess : Int := (Nat.log2 numerator : Int) - Nat.log2 denominator - 52
  let (top, bottom) := scale numerator denominator (-guess)
  let exact := if top < bottom * twoTo 52 then guess - 1 else guess
  max exact leastExponent

/-- The binary fraction nearest to a quotient. -/
def nearest (numerator denominator : Nat) : Binary :=
  if numerator = 0 then ⟨0, leastExponent⟩
  else
    let exponent := exponentFor numerator denominator
    let (top, bottom) := scale numerator denominator (-exponent)
    let significand := roundQuotient top bottom
    if significand = twoTo 53 then ⟨twoTo 52, exponent + 1⟩ else ⟨significand, exponent⟩

/-- Beyond the greatest finite number. -/
def isInfinite (number : Binary) : Bool := decide (971 < number.exponent)

/-- The number as a quotient. -/
def quotient (number : Binary) : Nat × Nat := scale number.significand 1 number.exponent

/-- The product, rounded. -/
def times (first second : Binary) : Binary :=
  let (top, bottom) := first.quotient
  let (top', bottom') := second.quotient
  nearest (top * top') (bottom * bottom')

/-- The quotient, rounded. -/
def dividedBy (first second : Binary) : Binary :=
  let (top, bottom) := first.quotient
  let (top', bottom') := second.quotient
  nearest (top * bottom') (bottom * top')

/-- The power of ten, rounded. -/
def powerOfTen (exponent : Nat) : Binary := nearest (tenTo exponent) 1

/-- The greatest power of ten in range. -/
def greatestPower : Nat := 308

/-- Divides by powers of ten no greater than the greatest, in at most so many steps. -/
def descend : (steps : Nat) → (number : Binary) → (exponent : Nat) → Binary
  | 0, number, _ => number
  | steps + 1, number, exponent =>
    if exponent ≤ greatestPower then number.dividedBy (powerOfTen exponent)
    else if number.significand = 0 then number
    else descend steps (number.dividedBy (powerOfTen greatestPower)) (exponent - greatestPower)

/-- A whole number times a power of ten, unless that is infinite. -/
def ofDecimal? (whole : Nat) (exponent : Int) : Option Binary :=
  let start := nearest whole 1
  if exponent < 0 then
    some (descend 8 start (min exponent.natAbs (8 * greatestPower)))
  else if exponent.natAbs ≤ greatestPower then
    let result := start.times (powerOfTen exponent.natAbs)
    if result.isInfinite then none else some result
  else if whole = 0 then some start
  else none

/-! ### Writing -/

/-- The whole number that the quotient of a number and a power of ten rounds to. -/
def scaledDown (number : Binary) (exponent : Int) : Nat :=
  let (top, bottom) := number.quotient
  if 0 ≤ exponent then roundQuotient top (bottom * tenTo exponent.toNat)
  else roundQuotient (top * tenTo (-exponent).toNat) bottom

/-- A whole number times a power of ten as the nearest binary fraction. -/
def ofScaled (whole : Nat) (exponent : Int) : Binary :=
  if 0 ≤ exponent then nearest (whole * tenTo exponent.toNat) 1
  else nearest whole (tenTo (-exponent).toNat)

/-- The least power of ten above a number, found from a power below it. -/
def decimalPoint (number : Binary) : (steps : Nat) → (guess : Int) → Int
  | 0, guess => guess
  | steps + 1, guess =>
    let (top, bottom) := number.quotient
    let reached :=
      if 0 ≤ guess then decide (top < bottom * tenTo guess.toNat)
      else decide (top * tenTo (-guess).toNat < bottom)
    if reached then guess else decimalPoint number steps (guess + 1)

/-- The first count of digits, of at most so many more, that is read back as the number. -/
def firstExact (number : Binary) (point : Int) : (more : Nat) → (count : Nat) → Nat × Int
  | 0, count => (number.scaledDown (point - count), point - count)
  | more + 1, count =>
    let whole := number.scaledDown (point - count)
    if ofScaled whole (point - count) = number then (whole, point - count)
    else firstExact number point more (count + 1)

/-- Takes zeros off the end of a whole number in at most so many steps. -/
def dropZeros : (steps : Nat) → (whole : Nat) → (exponent : Int) → Nat × Int
  | 0, whole, exponent => (whole, exponent)
  | steps + 1, whole, exponent =>
    if whole ≠ 0 ∧ whole % 10 = 0 then dropZeros steps (whole / 10) (exponent + 1)
    else (whole, exponent)

/-- The digits and the power of ten of the shortest decimal that is read back as the number. -/
def shortest (number : Binary) : Nat × Int :=
  let binaryDigits : Int := Nat.log2 number.significand + number.exponent
  let guess := binaryDigits * 30103 / 100000 - 1
  let point := decimalPoint number 4 guess
  let (whole, exponent) := firstExact number point 16 1
  dropZeros 20 whole exponent

/-- The written form: positional between 1e-5 and 1e16, else with an exponent. -/
def chars (number : Binary) : List Char :=
  if number.significand = 0 then ['0', '.', '0']
  else
    let (whole, exponent) := number.shortest
    let run := Text.digits whole
    let count : Int := run.length
    let point := count + exponent
    if 0 ≤ exponent ∧ point ≤ 16 then
      run ++ List.replicate exponent.toNat '0' ++ ['.', '0']
    else if 0 < point ∧ point ≤ 16 then
      run.take point.toNat ++ '.' :: run.drop point.toNat
    else if -5 < point ∧ point ≤ 0 then
      ['0', '.'] ++ List.replicate (-point).toNat '0' ++ run
    else
      let mantissa := if run.length = 1 then run else run.take 1 ++ '.' :: run.drop 1
      mantissa ++ 'e' :: Text.decimalChars (point - 1)

end Binary

end Passbook.Json
