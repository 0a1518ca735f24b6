/-
**What single places of the storage hold.**

A column holds integers, fractions and texts side by side, whatever kind of value is meant to stand
there. Every kind has a usual form, the one in which the operations of the domain write it, and
perhaps other forms that are understood when a row is read.

* `Cell.settled`: a value as a column of a kind keeps it. A column of figures takes a text that is a
  number for that number, any other column takes a number for its digits;
* `Cell.isUsual`, `Cell.isLegible`: the usual form, and what can be read;
* `Cell.isAtMost`: numbers by their size, and every number before every text.
-/

import Passbook.Calendar.Kept
import Passbook.Json.Reader
import Passbook.Schema

namespace Passbook.Store

open Passbook.Calendar (Instant)
open Passbook.Json (Binary)
open Passbook.Text (isDigit readDecimal? tenTo)

/-- What a place holds. -/
inductive Cell where
  | integer (figure : Amount)
  | fraction (negative : Bool) (size : Binary)
  | text (content : String)
deriving DecidableEq

/-- A column of figures. -/
def isFigure : ColumnKind → Bool
  | .amount => true
  | .lineNumber => true
  | _ => false

/-! ### Texts that are numbers -/

/-- A number in writing: a whole number times a power of ten. -/
structure Numeral where
  negative : Bool
  whole : Nat
  exponent : Int
  /-- There is neither a point nor an exponent. -/
  isWhole : Bool

/-- The blanks that may stand around a number. -/
def isSpace (char : Char) : Bool := char == ' ' || (9 ≤ char.toNat && char.toNat ≤ 13)

/-- The digits of a fraction after its point, if there is one. -/
def fractionDigits : List Char → Option (List Char) × List Char
  | '.' :: rest => (some (rest.takeWhile isDigit), rest.dropWhile isDigit)
  | chars => (none, chars)

/-- An exponent behind its letter, and nothing after it. -/
def readPower? : List Char → Option Int
  | '+' :: rest => (readDecimal? rest).map Int.ofNat
  | '-' :: rest => (readDecimal? rest).map fun size => -Int.ofNat size
  | chars => (readDecimal? chars).map Int.ofNat

/-- The greatest power of ten that is told from a greater one. -/
def greatestPower : Int := 10000

/-- A number without a sign or blanks around it. -/
def readUnsigned? (negative : Bool) (chars : List Char) : Option Numeral :=
  let front := chars.takeWhile isDigit
  let (part, rest) := fractionDigits (chars.dropWhile isDigit)
  let digits := front ++ part.getD []
  let places : Int := (part.getD []).length
  match readDecimal? digits, rest with
  | none, _ => none
  | some whole, [] => some ⟨negative, whole, -places, part.isNone⟩
  | some whole, letter :: power =>
    if letter = 'e' ∨ letter = 'E' then
      (readPower? power).map fun power =>
        ⟨negative, whole, max (-greatestPower) (min greatestPower power) - places, false⟩
    else none

/-- A number with blanks around it. -/
def readNumeral? (text : String) : Option Numeral :=
  let chars := ((text.toList.dropWhile isSpace).reverse.dropWhile isSpace).reverse
  match chars with
  | '+' :: rest => readUnsigned? false rest
  | '-' :: rest => readUnsigned? true rest
  | _ => readUnsigned? false chars

namespace Numeral

/-- The nearest fraction. -/
def size (numeral : Numeral) : Binary :=
  if 0 ≤ numeral.exponent then .nearest (numeral.whole * tenTo numeral.exponent.toNat) 1
  else .nearest numeral.whole (tenTo (-numeral.exponent).toNat)

/-- The whole number that a fraction is, short of the ends of the range. -/
def figure? (negative : Bool) (size : Binary) : Option Amount :=
  let (top, bottom) := size.quotient
  if top % bottom = 0 ∧ top / bottom < 9223372036854775807 then
    Amount.ofInt? (if negative then -((top / bottom : Nat) : Int) else (top / bottom : Nat))
  else none

/-- The number as a column of figures keeps it: an integer where it is one. -/
def cell (numeral : Numeral) : Cell :=
  let exact : Int := if numeral.negative then -(numeral.whole : Int) else numeral.whole
  match if numeral.isWhole then Amount.ofInt? exact else none with
  | some figure => .integer figure
  | none =>
    match figure? numeral.negative numeral.size with
    | some figure => .integer figure
    | none => .fraction numeral.negative numeral.size

end Numeral

namespace Cell

/-! ### Forms -/

/-- A value as a column of a kind keeps it. -/
def settled (kind : ColumnKind) (cell : Cell) : Cell :=
  match cell with
  | integer figure => if isFigure kind then cell else .text (Text.decimal figure.units)
  | fraction _ _ => cell
  | text content =>
    if isFigure kind then ((readNumeral? content).map Numeral.cell).getD cell else cell

/-- The value as an amount. -/
def amount? : Cell → Option Amount
  | integer figure => some figure
  | _ => none

/-- The value as the place of a line, which has 32 bits. -/
def place? : Cell → Option Int
  | integer figure =>
    if -2147483648 ≤ figure.units ∧ figure.units ≤ 2147483647 then some figure.units else none
  | _ => none

/-- The value as a text. -/
def text? : Cell → Option String
  | text content => some content
  | _ => none

/-- The value as a moment. -/
def moment? (cell : Cell) : Option Instant := cell.text?.bind Instant.readKept?

/-- The value as one of a finite choice. -/
def choice? {α : Type} [Named α] (cell : Cell) : Option α := cell.text?.bind Named.ofName?

/-- The value as a document in writing. -/
def document? (cell : Cell) : Option String :=
  cell.text?.filter fun content => (Json.Value.read? content).isSome

/-- The value as an identifier: the number that the sixteen bytes of a text are. -/
def id? {kind : IdKind} (cell : Cell) : Option (Id kind) := do
  let bytes := (← cell.text?).toUTF8
  if bytes.size = 16 then
    (Uuid.ofNat? (bytes.toList.foldl (fun number byte => 256 * number + byte.toNat) 0)).map .mk
  else none

/-- The value is in the usual form of its kind. No text is the usual form of an identifier. -/
def isUsual (kind : ColumnKind) (cell : Cell) : Bool :=
  match kind with
  | .id => false
  | .text => cell.text?.isSome
  | .amount => cell.amount?.isSome
  | .lineNumber => cell.place?.isSome
  | .moment => cell.moment?.any fun moment => cell == .text moment.storedText
  | .choice names => cell.text?.any names.contains
  | .document => cell.document?.isSome

/-- The value can be read. -/
def isLegible (kind : ColumnKind) (cell : Cell) : Bool :=
  match kind with
  | .id => (cell.id? : Option UserId).isSome
  | .moment => cell.moment?.isSome
  | _ => cell.isUsual kind

/-! ### Order -/

/-- A number as a quotient, or a text. -/
def measure : Cell → (Int × Nat) ⊕ String
  | integer figure => .inl (figure.units, 1)
  | fraction negative size =>
    let (top, bottom) := size.quotient
    .inl (if negative then -(top : Int) else top, bottom)
  | text content => .inr content

/-- Numbers go by their size and stand before texts. -/
def isAtMost (first second : Cell) : Bool :=
  match first.measure, second.measure with
  | .inl (top, bottom), .inl (top', bottom') => decide (top * bottom' ≤ top' * bottom)
  | .inl _, .inr _ => true
  | .inr _, .inl _ => false
  | .inr content, .inr content' => !decide (content' < content)

/-- Nothing at all. -/
def zero : Cell := .integer .zero

/-- A value after zero in the order. -/
def isPositive (cell : Cell) : Bool := !cell.isAtMost zero

theorem isAtMost_integer (first second : Amount) :
    isAtMost (.integer first) (.integer second) = decide (first.units ≤ second.units) := by
  simp [isAtMost, measure]

theorem isPositive_integer (amount : Amount) :
    isPositive (.integer amount) = decide (0 < amount.units) := by
  by_cases positive : 0 < amount.units
  · simp [isPositive, zero, isAtMost_integer, Amount.zero, positive, Int.not_le.mpr positive]
  · simp [isPositive, zero, isAtMost_integer, Amount.zero, positive, Int.not_lt.mp positive]

end Cell

end Passbook.Store
