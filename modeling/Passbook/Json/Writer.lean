/-
**The written form of a document.**

There are no blanks between the parts. In a text the quotation mark, the backslash and the control
characters are escaped and all else stands for itself.
-/

import Passbook.Json.Value

namespace Passbook.Json

/-- A character inside a quoted text. -/
def escape (char : Char) : List Char :=
  if char = '"' then ['\\', '"']
  else if char = '\\' then ['\\', '\\']
  else if char = '\n' then ['\\', 'n']
  else if char = '\r' then ['\\', 'r']
  else if char = '\t' then ['\\', 't']
  else if char.toNat = 8 then ['\\', 'b']
  else if char.toNat = 12 then ['\\', 'f']
  else if char.toNat < 32 then '\\' :: 'u' :: Text.hexadecimal 4 char.toNat
  else [char]

/-- A quoted text. -/
def quoted (content : String) : List Char :=
  '"' :: (content.toList.flatMap escape ++ ['"'])

/-- A number. -/
def Number.chars : Number → List Char
  | integer figure => Text.decimalChars figure
  | fraction negative size => (if negative then ['-'] else []) ++ size.chars

mutual

/-- A document. -/
def Value.chars : Value → List Char
  | .null => ['n', 'u', 'l', 'l']
  | .bool true => ['t', 'r', 'u', 'e']
  | .bool false => ['f', 'a', 'l', 's', 'e']
  | .number number => number.chars
  | .text content => quoted content
  | .list items => '[' :: (itemChars items ++ [']'])
  | .record fields => '\x7b' :: (fieldChars fields ++ ['\x7d'])

/-- The items of a list with commas between them. -/
def itemChars : List Value → List Char
  | [] => []
  | [item] => item.chars
  | item :: rest => item.chars ++ ',' :: itemChars rest

/-- The fields of a record with commas between them. -/
def fieldChars : List (String × Value) → List Char
  | [] => []
  | [(name, value)] => quoted name ++ ':' :: value.chars
  | (name, value) :: rest => quoted name ++ ':' :: (value.chars ++ ',' :: fieldChars rest)

end

/-- A document in writing. -/
def Value.write (value : Value) : String := String.ofList value.chars

end Passbook.Json
