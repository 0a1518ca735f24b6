/-
**Moments as columns keep them.**

A column keeps a moment as a text. The text that is written is `Instant.storedText`; what is read
goes further.

* `Instant.readKept?`: a date and a time after the letter T or blanks, with or without seconds, a
  fraction and an offset; a text without an offset is in UTC, and so is one whose offset is a day
  or more.
-/

import Passbook.Calendar.Stamp

namespace Passbook.Calendar

open Passbook.Text

/-- One given character. -/
def readExact? (mark : Char) : List Char → Option (List Char)
  | char :: rest => if char = mark then some rest else none
  | [] => none

/-! ### The strict form -/

/-- The places of digits and marks in a date and a time of day. -/
def strictShape : List Char :=
  ['d', 'd', 'd', 'd', '-', 'd', 'd', '-', 'd', 'd', 's', 'd', 'd', ':', 'd', 'd', ':', 'd', 'd']

/-- A character that may stand in a place. -/
def fits (place char : Char) : Bool :=
  if place = 'd' then isDigit char
  else if place = 's' then char == 'T' || char == 't' || char == ' '
  else char == place

/-- The end of the strict form after its seconds. -/
def isStrictEnd (chars : List Char) : Bool :=
  let zone := match chars with
    | '.' :: rest => rest.dropWhile isDigit
    | _ => chars
  match zone with
  | ['Z'] => true
  | ['z'] => true
  | [sign, first, second, ':', third, fourth] =>
    (sign == '+' || sign == '-' || sign == '−') && [first, second, third, fourth].all isDigit
  | _ => false

/-- A moment with every part in full, as times are exchanged. -/
def readStrict? (chars : List Char) : Option Instant :=
  if chars.length ≤ strictShape.length then none
  else if (strictShape.zip chars).all (fun (place, char) => fits place char) &&
      isStrictEnd (chars.drop strictShape.length) then
    (Stamp.readChars? chars).map Stamp.instant
  else none

/-! ### The wider forms -/

/-- Year, month and day. Blanks may stand before each number only. -/
def readKeptDate? (chars : List Char) : Option (Date × List Char) := do
  let (year, rest) ← readYear? chars
  let rest ← readExact? '-' rest
  let (month, rest) ← readWithin? 1 12 2 rest
  let rest ← readExact? '-' rest
  let (day, rest) ← readWithin? 1 31 2 rest
  pure (⟨year, month, day⟩, rest)

/-- The second of a day and the part of it in nanoseconds. Seconds may be left out. -/
def readKeptTime? (chars : List Char) : Option (Nat × Nat × List Char) := do
  let (hour, rest) ← readWithin? 0 23 2 chars
  let rest ← readExact? ':' rest
  let (minute, rest) ← readWithin? 0 59 2 rest
  let start := hour * 3600 + minute * 60
  match rest with
  | ':' :: rest =>
    let (second, rest) ← readWithin? 0 60 2 rest
    let (nano, rest) ← readFraction? rest
    if second = 60 then pure (start + 59, 1000000000 + nano, rest)
    else pure (start + second, nano, rest)
  | _ => pure (start, 0, rest)

/-- The minutes ahead of UTC: nothing, the letter Z, or a signed offset. -/
def readKeptOffset? (chars : List Char) : Option Int :=
  match chars with
  | [] => some 0
  | ['Z'] => some 0
  | _ =>
    match trimStart chars with
    | '+' :: rest => (readOffsetSize? rest).bind fun (size, after) =>
        if after.isEmpty then some (size : Int) else none
    | '-' :: rest => (readOffsetSize? rest).bind fun (size, after) =>
        if after.isEmpty then some (-(size : Int)) else none
    | '−' :: rest => (readOffsetSize? rest).bind fun (size, after) =>
        if after.isEmpty then some (-(size : Int)) else none
    | _ => none

/-- A moment in one of the wider forms. -/
def readWide? (chars : List Char) : Option Instant := do
  let (date, rest) ← readKeptDate? chars
  let rest := match rest with
    | 'T' :: after => after
    | _ => trimStart rest
  let (secondOfDay, nano, rest) ← readKeptTime? rest
  let offset ← readKeptOffset? rest
  if !date.isValid then none
  else
    let own := date.dayNumber * 86400 + secondOfDay
    let naive ← Instant.of? own nano
    if 1440 ≤ offset.natAbs then pure naive
    else pure ((Instant.of? (own - offset * 60) nano).getD naive)

/-- Reads the text of a column as a moment. -/
def Instant.readKept? (text : String) : Option Instant :=
  readStrict? text.toList <|> readWide? text.toList

end Passbook.Calendar
