/-
**Blank characters and trimming.**

A character is blank when it has the White_Space property. Trimming removes blanks from both ends
and nothing else.
-/

namespace Passbook.Text

/-- The characters with the White_Space property. -/
def isBlank (char : Char) : Bool :=
  let code := char.toNat
  (9 ≤ code && code ≤ 13) || code == 0x20 || code == 0x85 || code == 0xA0 || code == 0x1680 ||
    (0x2000 ≤ code && code ≤ 0x200A) || code == 0x2028 || code == 0x2029 || code == 0x202F ||
    code == 0x205F || code == 0x3000

/-- The characters from the first that is not blank. -/
def trimStart (chars : List Char) : List Char := chars.dropWhile isBlank

/-- The characters up to the last that is not blank. -/
def trimEnd (chars : List Char) : List Char := (chars.reverse.dropWhile isBlank).reverse

/-- A text without the blanks at its ends. -/
def trim (text : String) : String := String.ofList (trimEnd (trimStart text.toList))

end Passbook.Text
