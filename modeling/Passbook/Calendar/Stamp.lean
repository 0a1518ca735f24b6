/-
**The written form of instants.**

A time is written as year, month and day, the letter T, hour, minute and second, the fraction of
the second where there is one, and the offset from UTC. Years outside 0 to 9999 carry a sign.

* `Instant.text`: the form in UTC, ending in Z;
* `Instant.storedText`: the form kept in a column, ending in a zero offset; columns sort by it;
* `Stamp`: an instant together with the offset it was written with;
* `Stamp.read?`: reads every form above and the relaxed ones: fewer digits, blanks between the
  parts, a blank in place of the T, an offset with a colon, a blank or nothing in its middle.
-/

import Passbook.Calendar.Instant
import Passbook.Text.Blank
import Passbook.Text.Digits

namespace Passbook.Calendar

open Passbook.Text

/-- An instant and the minutes by which the clock that told it was ahead of UTC. -/
structure Stamp where
  instant : Instant
  offsetMinutes : Int

/-! ### Writing -/

/-- A year in four digits, or with a sign and at least four. -/
def yearChars (year : Int) : List Char :=
  if 0 ≤ year ∧ year ≤ 9999 then paddedDecimal 4 year
  else if 0 ≤ year then '+' :: paddedDecimal 4 year
  else paddedDecimal 5 year

/-- A number in two digits. -/
def twoDigits (number : Nat) : List Char := zeroFill 2 (digits number)

/-- The fraction of a second in 3, 6 or 9 digits, the fewest that are exact. -/
def fractionChars (nano : Nat) : List Char :=
  if nano = 0 then []
  else if nano % 1000000 = 0 then '.' :: zeroFill 3 (digits (nano / 1000000))
  else if nano % 1000 = 0 then '.' :: zeroFill 6 (digits (nano / 1000))
  else '.' :: zeroFill 9 (digits nano)

/-- A date in the calendar. -/
def dateChars (date : Date) : List Char :=
  yearChars date.year ++ '-' :: (twoDigits date.month ++ '-' :: twoDigits date.day)

/-- A time of day and its part in nanoseconds. A part of a full second and more is told by the
second of a minute after its last. -/
def timeChars (secondOfDay nano : Nat) : List Char :=
  let leap := if nano < 1000000000 then 0 else 1
  twoDigits (secondOfDay / 3600) ++ ':' :: (twoDigits (secondOfDay / 60 % 60) ++
    ':' :: (twoDigits (secondOfDay % 60 + leap) ++ fractionChars (nano - leap * 1000000000)))

/-- Date and time that a clock ahead of UTC by some seconds shows at an instant. -/
def localChars (instant : Instant) (ahead : Int) : List Char :=
  let second := instant.second + ahead
  dateChars (Date.ofDayNumber (second / 86400)) ++
    'T' :: timeChars (second % 86400).toNat instant.nano

/-- An offset in hours and minutes. -/
def offsetChars (minutes : Int) : List Char :=
  let size := minutes.natAbs
  (if minutes < 0 then '-' else '+') :: (twoDigits (size / 60) ++ ':' :: twoDigits (size % 60))

/-- An instant in UTC. -/
def Instant.text (instant : Instant) : String :=
  String.ofList (localChars instant 0 ++ ['Z'])

/-- An instant as a column keeps it. -/
def Instant.storedText (instant : Instant) : String :=
  String.ofList (localChars instant 0 ++ offsetChars 0)

/-- An instant with the offset it came with. -/
def Stamp.text (stamp : Stamp) : String :=
  String.ofList (localChars stamp.instant (stamp.offsetMinutes * 60) ++
    (if stamp.offsetMinutes = 0 then ['Z'] else offsetChars stamp.offsetMinutes))

/-! ### Reading -/

/-- The longest run of digits at the front, of at most so many, and what follows it. -/
def takeDigits : (most : Nat) → List Char → List Char × List Char
  | most + 1, char :: rest =>
    if isDigit char then
      let (run, after) := takeDigits most rest
      (char :: run, after)
    else ([], char :: rest)
  | _, chars => ([], chars)

/-- A number of at least one and at most so many digits, after any blanks. -/
def readNumber? (most : Nat) (chars : List Char) : Option (Nat × List Char) :=
  let (run, after) := takeDigits most (trimStart chars)
  (readDecimal? run).map fun value => (value, after)

/-- A number within bounds. -/
def readWithin? (low high most : Nat) (chars : List Char) : Option (Nat × List Char) :=
  match readNumber? most chars with
  | some (value, after) => if low ≤ value ∧ value ≤ high then some (value, after) else none
  | none => none

/-- A signed number of any length. -/
def readSigned? (chars : List Char) : Option (Nat × List Char) :=
  let (run, after) := takeDigits chars.length chars
  (readDecimal? run).map fun value => (value, after)

/-- A year of at most four digits, or with a sign and of any length. -/
def readYear? (chars : List Char) : Option (Int × List Char) :=
  match trimStart chars with
  | '-' :: rest => (readSigned? rest).map fun (value, after) => (-(value : Int), after)
  | '+' :: rest => (readSigned? rest).map fun (value, after) => ((value : Int), after)
  | rest => (readNumber? 4 rest).map fun (value, after) => ((value : Int), after)

/-- One given character after any blanks. -/
def readMark? (mark : Char) (chars : List Char) : Option (List Char) :=
  match trimStart chars with
  | char :: rest => if char = mark then some rest else none
  | [] => none

/-- Year, month and day. -/
def readDate? (chars : List Char) : Option (Date × List Char) := do
  let (year, rest) ← readYear? chars
  let rest ← readMark? '-' rest
  let (month, rest) ← readWithin? 1 12 2 rest
  let rest ← readMark? '-' rest
  let (day, rest) ← readWithin? 1 31 2 rest
  pure (⟨year, month, day⟩, rest)

/-- The nanoseconds of a fraction. Digits after the ninth are left out. -/
def readFraction? (chars : List Char) : Option (Nat × List Char) :=
  match chars with
  | '.' :: rest =>
    let (run, after) := takeDigits 9 rest
    (readDecimal? run).map fun value =>
      (value * tenTo (9 - run.length), after.dropWhile isDigit)
  | _ => some (0, chars)

/-- The second of a day and the part of it in nanoseconds. The second 60 prolongs the one before
it. -/
def readTime? (chars : List Char) : Option (Nat × Nat × List Char) := do
  let (hour, rest) ← readWithin? 0 23 2 chars
  let rest ← readMark? ':' rest
  let (minute, rest) ← readWithin? 0 59 2 rest
  let rest ← readMark? ':' rest
  let (second, rest) ← readWithin? 0 60 2 rest
  let (nano, rest) ← readFraction? rest
  let start := hour * 3600 + minute * 60
  if second = 60 then pure (start + 59, 1000000000 + nano, trimStart rest)
  else pure (start + second, nano, trimStart rest)

/-- Two digits. -/
def readPair? (high : Nat) : List Char → Option (Nat × List Char)
  | first :: second :: rest =>
    match readDecimal? [first, second] with
    | some value => if value ≤ high then some (value, rest) else none
    | none => none
  | _ => none

/-- The minutes of an offset after its sign: hours, then minutes, with colons or blanks or nothing
between them. -/
def readOffsetSize? (chars : List Char) : Option (Nat × List Char) := do
  let (hours, rest) ← readPair? 99 chars
  let (minutes, rest) ← readPair? 59 (rest.dropWhile fun char => char == ':' || isBlank char)
  pure (hours * 60 + minutes, rest)

/-- The minutes ahead of UTC: the letter Z, the letters UTC, or a signed offset. -/
def readOffset? (chars : List Char) : Option (Int × List Char) :=
  match chars with
  | first :: second :: third :: rest =>
    if capital3 first second third then some (0, rest) else single chars
  | _ => single chars
where
  /-- The letters UTC in any case. -/
  capital3 (first second third : Char) : Bool :=
    (first == 'U' || first == 'u') && (second == 'T' || second == 't') &&
      (third == 'C' || third == 'c')
  /-- The letter Z or a signed offset. -/
  single : List Char → Option (Int × List Char)
    | 'Z' :: rest => some (0, rest)
    | 'z' :: rest => some (0, rest)
    | '+' :: rest => (readOffsetSize? rest).map fun (size, after) => ((size : Int), after)
    | '-' :: rest => (readOffsetSize? rest).map fun (size, after) => (-(size : Int), after)
    | '−' :: rest => (readOffsetSize? rest).map fun (size, after) => (-(size : Int), after)
    | _ => none

/-- Date and time from the letter T or a blank between them. -/
def readSeparator? : List Char → Option (List Char)
  | 'T' :: rest => some rest
  | 't' :: rest => some rest
  | ' ' :: rest => some rest
  | _ => none

/-- Reads a time with its offset. The date has to exist, and the time has to be in range both by
its own clock and in UTC. -/
def Stamp.readChars? (chars : List Char) : Option Stamp := do
  let (date, rest) ← readDate? chars
  let rest ← readSeparator? rest
  let (secondOfDay, nano, rest) ← readTime? rest
  let (offset, rest) ← readOffset? rest
  if !rest.all isBlank || !date.isValid || 1440 ≤ offset.natAbs then none
  else
    let own := date.dayNumber * 86400 + secondOfDay
    let _ ← Instant.of? own nano
    let instant ← Instant.of? (own - offset * 60) nano
    pure ⟨instant, offset⟩

/-- Reads a time with its offset. -/
def Stamp.read? (text : String) : Option Stamp := Stamp.readChars? text.toList

/-- Reads a time as an instant. -/
def Instant.read? (text : String) : Option Instant := (Stamp.read? text).map Stamp.instant

end Passbook.Calendar
