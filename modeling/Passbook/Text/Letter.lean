/-
**Matching words of basic Latin letters in any case.**

Words are compared after changing their case by the full mappings of the character set. For a word
in the letters A to Z only the characters that map onto such a letter can match: the letters
themselves, dotless i and long s towards the capitals, and the Kelvin sign towards the small ones.
Every other character maps outside the basic letters, so it is left as it is.
-/

namespace Passbook.Text

/-- The basic capital that a character has as its upper case, or the character itself. -/
def capital (char : Char) : Char :=
  let code := char.toNat
  if 97 ≤ code && code ≤ 122 then Char.ofNat (code - 32)
  else if code == 0x131 then 'I'
  else if code == 0x17F then 'S'
  else char

/-- The basic small letter that a character has as its lower case, or the character itself. -/
def small (char : Char) : Char :=
  let code := char.toNat
  if 65 ≤ code && code ≤ 90 then Char.ofNat (code + 32)
  else if code == 0x212A then 'k'
  else char

/-- A text in capitals. -/
def capitals (text : String) : String := String.ofList (text.toList.map capital)

/-- A text in small letters. -/
def smalls (text : String) : String := String.ofList (text.toList.map small)

end Passbook.Text
