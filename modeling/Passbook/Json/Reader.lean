/-
**Reading a document.**

* `readNumber?`: an integer when it has neither fraction nor exponent and fits 64 bits, signed or
  unsigned; minus zero and all else are binary fractions;
* `readQuoted?`: a text with its escapes, surrogates only in pairs, no bare control characters;
* `read?`: a whole document with nothing but blanks around it, nested less than 128 deep.
-/

import Passbook.Json.Value

namespace Passbook.Json

open Passbook.Text (digitValue? hexValue? isDigit)

/-- The blanks between the parts of a document. -/
def skipBlanks (chars : List Char) : List Char :=
  chars.dropWhile fun char => char == ' ' || char == '\n' || char == '\t' || char == '\r'

/-! ### Numbers -/

/-- The greatest whole number that digits are gathered into. -/
def greatestWhole : Nat := 18446744073709551615

/-- Digits gathered into a whole number as long as they fit: the number, how many digits it took,
and the rest of the characters. -/
def gather : (whole taken : Nat) → List Char → Nat × Nat × List Char
  | whole, taken, char :: rest =>
    match digitValue? char with
    | some digit =>
      if whole * 10 + digit ≤ greatestWhole then gather (whole * 10 + digit) (taken + 1) rest
      else (whole, taken, char :: rest)
    | none => (whole, taken, char :: rest)
  | whole, taken, [] => (whole, taken, [])

/-- The run of digits at the front and the rest. -/
def digitRun (chars : List Char) : List Char × List Char :=
  (chars.takeWhile isDigit, chars.dropWhile isDigit)

/-- A binary fraction in the place of a number. -/
def fraction? (negative : Bool) (whole : Nat) (exponent : Int) : Option Number :=
  (Binary.ofDecimal? whole exponent).map fun size => .fraction negative size

/-- The greatest exponent that is told from a greater one. -/
def greatestExponent : Nat := 2147483647

/-- The number after the letter of its exponent. -/
def readExponent? (negative : Bool) (whole : Nat) (start : Int) (chars : List Char) :
    Option (Number × List Char) :=
  let (below, chars) : Bool × List Char :=
    match chars with
    | '+' :: rest => (false, rest)
    | '-' :: rest => (true, rest)
    | _ => (false, chars)
  let (run, rest) := digitRun chars
  match Text.readDecimal? run with
  | none => none
  | some size =>
    if greatestExponent < size then
      if whole ≠ 0 ∧ !below then none else some (.fraction negative (Binary.nearest 0 1), rest)
    else
      let exponent := if below then start - size else start + size
      (fraction? negative whole exponent).map fun number => (number, rest)

/-- The number from the mark of its exponent, or without one. -/
def finishNumber? (negative : Bool) (whole : Nat) (exponent : Int) (chars : List Char) :
    Option (Number × List Char) :=
  match chars with
  | 'e' :: rest => readExponent? negative whole exponent rest
  | 'E' :: rest => readExponent? negative whole exponent rest
  | _ => (fraction? negative whole exponent).map fun number => (number, chars)

/-- The number from the point of its fraction. Digits that no longer fit are left out. -/
def readFraction? (negative : Bool) (whole : Nat) (exponent : Int) (chars : List Char) :
    Option (Number × List Char) :=
  if (digitRun chars).1.isEmpty then none
  else
    let (whole, taken, rest) := gather whole 0 chars
    finishNumber? negative whole (exponent - taken) (digitRun rest).2

/-- The number after its sign. -/
def readUnsigned? (negative : Bool) (chars : List Char) : Option (Number × List Char) :=
  let (whole, taken, rest) := gather 0 0 chars
  let (beyond, after) := digitRun rest
  let leadingZero : Bool := match chars with
    | '0' :: next :: _ => isDigit next
    | _ => false
  if taken == 0 || leadingZero then none
  else
    match after with
    | '.' :: tail => readFraction? negative whole beyond.length tail
    | 'e' :: tail => readExponent? negative whole beyond.length tail
    | 'E' :: tail => readExponent? negative whole beyond.length tail
    | _ =>
      if beyond.isEmpty ∧ !negative then some (.integer whole, after)
      else if beyond.isEmpty ∧ whole ≠ 0 ∧ whole ≤ 9223372036854775808 then
        some (.integer (-(whole : Int)), after)
      else (fraction? negative whole beyond.length).map fun number => (number, after)

/-- A number. -/
def readNumber? : List Char → Option (Number × List Char)
  | '-' :: rest => readUnsigned? true rest
  | chars => readUnsigned? false chars

/-! ### Texts -/

/-- The value of four hexadecimal digits. -/
def readUnit? : List Char → Option (Nat × List Char)
  | first :: second :: third :: fourth :: rest =>
    (Text.readHexadecimal? [first, second, third, fourth]).map fun unit => (unit, rest)
  | _ => none

/-- The character of an escape that names a code unit, a pair of surrogates being one character. -/
def readUnitEscape? (chars : List Char) : Option (Char × List Char) :=
  match readUnit? chars with
  | none => none
  | some (unit, rest) =>
    if 0xDC00 ≤ unit ∧ unit ≤ 0xDFFF then none
    else if 0xD800 ≤ unit ∧ unit ≤ 0xDBFF then
      match rest with
      | '\\' :: 'u' :: more =>
        match readUnit? more with
        | some (low, after) =>
          if 0xDC00 ≤ low ∧ low ≤ 0xDFFF then
            some (Char.ofNat (0x10000 + (unit - 0xD800) * 0x400 + (low - 0xDC00)), after)
          else none
        | none => none
      | _ => none
    else some (Char.ofNat unit, rest)

/-- The character of an escape after its backslash. -/
def readEscape? : List Char → Option (Char × List Char)
  | '"' :: rest => some ('"', rest)
  | '\\' :: rest => some ('\\', rest)
  | '/' :: rest => some ('/', rest)
  | 'b' :: rest => some (Char.ofNat 8, rest)
  | 'f' :: rest => some (Char.ofNat 12, rest)
  | 'n' :: rest => some ('\n', rest)
  | 'r' :: rest => some ('\r', rest)
  | 't' :: rest => some ('\t', rest)
  | 'u' :: rest => readUnitEscape? rest
  | _ => none

/-- The text up to the closing mark, its characters gathered in reverse. The fuel bounds the
number of characters. -/
def readQuoted? : (fuel : Nat) → (gathered : List Char) → List Char → Option (String × List Char)
  | 0, _, _ => none
  | _ + 1, gathered, '"' :: rest => some (String.ofList gathered.reverse, rest)
  | fuel + 1, gathered, '\\' :: rest =>
    match readEscape? rest with
    | some (char, after) => readQuoted? fuel (char :: gathered) after
    | none => none
  | fuel + 1, gathered, char :: rest =>
    if char.toNat < 32 then none else readQuoted? fuel (char :: gathered) rest
  | _ + 1, _, [] => none

/-! ### Documents -/

/-- The deepest nesting. -/
def deepest : Nat := 127

mutual

/-- A value after any blanks. The fuel bounds the number of values and marks, and the depth the
nesting that is left. -/
def readValue? : (fuel depth : Nat) → List Char → Option (Value × List Char)
  | 0, _, _ => none
  | fuel + 1, depth, chars =>
    match skipBlanks chars with
    | 'n' :: 'u' :: 'l' :: 'l' :: rest => some (.null, rest)
    | 't' :: 'r' :: 'u' :: 'e' :: rest => some (.bool true, rest)
    | 'f' :: 'a' :: 'l' :: 's' :: 'e' :: rest => some (.bool false, rest)
    | '"' :: rest => (readQuoted? (rest.length + 1) [] rest).map fun (content, after) =>
        (.text content, after)
    | '[' :: rest =>
      match depth with
      | 0 => none
      | depth + 1 =>
        match skipBlanks rest with
        | ']' :: after => some (.list [], after)
        | _ => (readItems? fuel depth [] rest).map fun (items, after) => (.list items, after)
    | '\x7b' :: rest =>
      match depth with
      | 0 => none
      | depth + 1 =>
        match skipBlanks rest with
        | '\x7d' :: after => some (.record [], after)
        | _ => (readFields? fuel depth [] rest).map fun (fields, after) => (.record fields, after)
    | chars => (readNumber? chars).map fun (number, after) => (.number number, after)

/-- The items of a list up to its closing mark, gathered in reverse. -/
def readItems? : (fuel depth : Nat) → (gathered : List Value) → List Char →
    Option (List Value × List Char)
  | 0, _, _, _ => none
  | fuel + 1, depth, gathered, chars =>
    match readValue? fuel depth chars with
    | none => none
    | some (item, rest) =>
      match skipBlanks rest with
      | ',' :: after => readItems? fuel depth (item :: gathered) after
      | ']' :: after => some ((item :: gathered).reverse, after)
      | _ => none

/-- The fields of a record up to its closing mark. -/
def readFields? : (fuel depth : Nat) → (gathered : List (String × Value)) → List Char →
    Option (List (String × Value) × List Char)
  | 0, _, _, _ => none
  | fuel + 1, depth, gathered, chars =>
    match skipBlanks chars with
    | '"' :: rest =>
      match readQuoted? (rest.length + 1) [] rest with
      | none => none
      | some (name, rest) =>
        match skipBlanks rest with
        | ':' :: rest =>
          match readValue? fuel depth rest with
          | none => none
          | some (value, rest) =>
            match skipBlanks rest with
            | ',' :: after => readFields? fuel depth (Value.set gathered name value) after
            | '\x7d' :: after => some (Value.set gathered name value, after)
            | _ => none
        | _ => none
    | _ => none

end

/-- A whole document. -/
def Value.read? (text : String) : Option Value :=
  let chars := text.toList
  match readValue? (2 * chars.length + 2) deepest chars with
  | some (value, rest) => if (skipBlanks rest).isEmpty then some value else none
  | none => none

end Passbook.Json
