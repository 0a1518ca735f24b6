/-
**Numbers in decimal and hexadecimal digits.**

* `decimal`: an integer in as few digits as it needs, a minus sign in front of a negative one;
* `paddedDecimal`: the same filled up with zeros after the sign, which counts towards the width;
* `hexadecimal`: a fixed number of lower case digits;
* `readDecimal?`, `readHexadecimal?`: the value of a run of digits.
-/

namespace Passbook.Text

/-- The digits of a natural number. -/
def digits (number : Nat) : List Char := Nat.toDigits 10 number

/-- As many zeros in front as the width asks for. -/
def zeroFill (width : Nat) (chars : List Char) : List Char :=
  List.replicate (width - chars.length) '0' ++ chars

/-- An integer in digits. -/
def decimalChars : Int → List Char
  | .ofNat number => digits number
  | .negSucc number => '-' :: digits (number + 1)

/-- An integer in digits. -/
def decimal (number : Int) : String := String.ofList (decimalChars number)

/-- An integer in at least so many characters. -/
def paddedDecimal (width : Nat) : Int → List Char
  | .ofNat number => zeroFill width (digits number)
  | .negSucc number => '-' :: zeroFill (width - 1) (digits (number + 1))

/-- The digit of a value below sixteen. -/
def hexDigit (value : Nat) : Char :=
  if value < 10 then Char.ofNat (48 + value) else Char.ofNat (87 + value)

/-- The last so many hexadecimal digits of a number. -/
def hexadecimal : (width : Nat) → (number : Nat) → List Char
  | 0, _ => []
  | width + 1, number => hexadecimal width (number / 16) ++ [hexDigit (number % 16)]

/-- A one and so many zeros. -/
def tenTo (places : Nat) : Nat := Nat.pow 10 places

/-- The value of a decimal digit. -/
def digitValue? (char : Char) : Option Nat :=
  let code := char.toNat
  if 48 ≤ code && code ≤ 57 then some (code - 48) else none

/-- The value of a hexadecimal digit of either case. -/
def hexValue? (char : Char) : Option Nat :=
  let code := char.toNat
  if 48 ≤ code && code ≤ 57 then some (code - 48)
  else if 65 ≤ code && code ≤ 70 then some (code - 55)
  else if 97 ≤ code && code ≤ 102 then some (code - 87)
  else none

/-- A decimal digit. -/
def isDigit (char : Char) : Bool := (digitValue? char).isSome

/-- The value of digits read after those of a value. -/
def readDigits? (valueOf : Char → Option Nat) (base : Nat) : (value : Nat) → List Char → Option Nat
  | value, [] => some value
  | value, char :: rest =>
    match valueOf char with
    | some digit => readDigits? valueOf base (base * value + digit) rest
    | none => none

/-- The value of a run of decimal digits with at least one. -/
def readDecimal? (chars : List Char) : Option Nat :=
  if chars.isEmpty then none else readDigits? digitValue? 10 0 chars

/-- The value of a run of hexadecimal digits with at least one. -/
def readHexadecimal? (chars : List Char) : Option Nat :=
  if chars.isEmpty then none else readDigits? hexValue? 16 0 chars

/-- An integer written in digits, with or without a sign. -/
def readInteger? : List Char → Option Int
  | '-' :: rest => (readDecimal? rest).map fun value => -(value : Int)
  | '+' :: rest => (readDecimal? rest).map fun value => (value : Int)
  | chars => (readDecimal? chars).map fun value => (value : Int)

end Passbook.Text
