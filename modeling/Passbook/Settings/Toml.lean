/-
**Settings in a file.**

A file consists of statements, one a line: the name of a section in brackets, or a key and its
value. A value is an integer, a truth value, or a text: in double marks with escapes or in single
marks as it stands, and over several lines in three marks of a kind. Blanks and a comment after a
sharp sign do not count.

* `readStatement?`: what the next line says;
* `Outline.open?`, `Outline.add?`: sections and values by their paths. Nothing may be said twice;
* `Toml.read?`: the document of a file.
-/

import Passbook.Settings.Place

namespace Passbook.Toml

open Passbook.Json (Value)
open Passbook.Settings (alter fieldsOf isBare)
open Passbook.Text (hexValue? isDigit readDigits? readHexadecimal?)

/-- Blanks within a line. -/
def isBlank (char : Char) : Bool := char == ' ' || char == '\t'

/-- The characters after blanks within a line. -/
def skipBlanks (chars : List Char) : List Char := chars.dropWhile isBlank

/-- A character that may stand for itself in a text or a comment. -/
def isPlain (char : Char) : Bool := char == '\t' || (32 ≤ char.toNat && char.toNat != 127)

/-- The characters after the end of a line. -/
def readBreak? : List Char → Option (List Char)
  | '\n' :: rest => some rest
  | '\r' :: '\n' :: rest => some rest
  | _ => none

/-- The characters after a line of which nothing but blanks and a comment is left. -/
def finishLine? (chars : List Char) : Option (List Char) :=
  let rest := match skipBlanks chars with
    | '#' :: comment => comment.dropWhile isPlain
    | others => others
  if rest.isEmpty then some [] else readBreak? rest

/-! ### Texts -/

/-- The character of a number that may stand for one. -/
def charOf? (number : Nat) : Option Char :=
  if number < 55296 ∨ (57343 < number ∧ number < 1114112) then some (Char.ofNat number) else none

/-- The character of so many hexadecimal digits. -/
def readCode? (count : Nat) (chars : List Char) : Option (Char × List Char) :=
  if (chars.take count).length = count then
    ((readHexadecimal? (chars.take count)).bind charOf?).map fun char => (char, chars.drop count)
  else none

/-- The character of an escape after its backslash. -/
def readEscape? : List Char → Option (Char × List Char)
  | 'b' :: rest => some (Char.ofNat 8, rest)
  | 't' :: rest => some ('\t', rest)
  | 'n' :: rest => some ('\n', rest)
  | 'f' :: rest => some (Char.ofNat 12, rest)
  | 'r' :: rest => some ('\r', rest)
  | 'e' :: rest => some (Char.ofNat 27, rest)
  | '"' :: rest => some ('"', rest)
  | '\\' :: rest => some ('\\', rest)
  | 'x' :: rest => readCode? 2 rest
  | 'u' :: rest => readCode? 4 rest
  | 'U' :: rest => readCode? 8 rest
  | _ => none

/-- A text up to its double mark, its characters gathered in reverse. The fuel bounds their
number. -/
def readBasic? : (fuel : Nat) → (gathered : List Char) → List Char → Option (String × List Char)
  | 0, _, _ => none
  | _ + 1, gathered, '"' :: rest => some (String.ofList gathered.reverse, rest)
  | fuel + 1, gathered, '\\' :: rest =>
    match readEscape? rest with
    | some (char, after) => readBasic? fuel (char :: gathered) after
    | none => none
  | fuel + 1, gathered, char :: rest =>
    if isPlain char then readBasic? fuel (char :: gathered) rest else none
  | _ + 1, _, [] => none

/-- A text up to its single mark. -/
def readLiteral? (chars : List Char) : Option (String × List Char) :=
  let content := chars.takeWhile (· != '\'')
  match chars.dropWhile (· != '\'') with
  | _ :: rest => if content.all isPlain then some (String.ofList content, rest) else none
  | [] => none

/-- The characters after a break of lines that a backslash takes away together with the blanks and
breaks around it. -/
def readJoin? (chars : List Char) : Option (List Char) :=
  (readBreak? (skipBlanks chars)).map fun rest =>
    rest.dropWhile fun char => isBlank char || char == '\n' || char == '\r'

/-- A text over several lines up to three marks, its characters gathered in reverse. Up to two
marks before the last three belong to the text, and only double marks have escapes. The fuel bounds
the number of characters. -/
def readLong? (mark : Char) : (fuel : Nat) → (gathered : List Char) → List Char →
    Option (String × List Char)
  | 0, _, _ => none
  | fuel + 1, gathered, chars =>
    let run := (chars.takeWhile (· == mark)).length
    if 3 ≤ run then
      let kept := min (run - 3) 2
      some (String.ofList (gathered.reverse ++ List.replicate kept mark), chars.drop (kept + 3))
    else
      match chars with
      | [] => none
      | '\n' :: rest => readLong? mark fuel ('\n' :: gathered) rest
      | '\r' :: '\n' :: rest => readLong? mark fuel ('\n' :: '\r' :: gathered) rest
      | char :: rest =>
        if char = '\\' ∧ mark = '"' then
          match readJoin? rest with
          | some after => readLong? mark fuel gathered after
          | none =>
            match readEscape? rest with
            | some (char, after) => readLong? mark fuel (char :: gathered) after
            | none => none
        else if isPlain char then readLong? mark fuel (char :: gathered) rest
        else none

/-- A text over several lines after its first three marks. A break right after them is left
out. -/
def readLines? (mark : Char) (chars : List Char) : Option (String × List Char) :=
  readLong? mark (chars.length + 1) [] ((readBreak? chars).getD chars)

/-! ### Numbers -/

/-- Digits without the separators, which may only stand between digits. -/
def withoutSeparators? : List Char → Option (List Char)
  | [] => some []
  | ['_'] => none
  | '_' :: '_' :: _ => none
  | '_' :: rest => withoutSeparators? rest
  | char :: rest => (withoutSeparators? rest).map (char :: ·)

/-- Digits of a base with separators between them. -/
def readBase? (valueOf : Char → Option Nat) (base : Nat) (chars : List Char) : Option Nat :=
  match chars with
  | [] => none
  | '_' :: _ => none
  | _ => (withoutSeparators? chars).bind (readDigits? valueOf base 0)

/-- A decimal number without needless zeros in front. -/
def readWhole? (chars : List Char) : Option Nat :=
  match chars with
  | ['0'] => some 0
  | '0' :: _ => none
  | _ => readBase? Text.digitValue? 10 chars

/-- The value of a digit below a base. -/
def digitBelow? (base : Nat) (char : Char) : Option Nat :=
  (Text.digitValue? char).filter fun digit => decide (digit < base)

/-- An integer with a sign in base ten, or without one in base sixteen, eight or two. -/
def readFigure? : List Char → Option Int
  | '+' :: rest => (readWhole? rest).map Int.ofNat
  | '-' :: rest => (readWhole? rest).map fun size => -Int.ofNat size
  | '0' :: 'x' :: rest => (readBase? hexValue? 16 rest).map Int.ofNat
  | '0' :: 'o' :: rest => (readBase? (digitBelow? 8) 8 rest).map Int.ofNat
  | '0' :: 'b' :: rest => (readBase? (digitBelow? 2) 2 rest).map Int.ofNat
  | chars => (readWhole? chars).map Int.ofNat

/-! ### Statements -/

/-- A bare or quoted word. -/
def readWord? : List Char → Option (String × List Char)
  | '"' :: rest => readBasic? (rest.length + 1) [] rest
  | '\'' :: rest => readLiteral? rest
  | chars =>
    match chars.takeWhile isBare with
    | [] => none
    | word => some (String.ofList word, chars.dropWhile isBare)

/-- Words with points between them. The fuel bounds their number. -/
def readPath? : (fuel : Nat) → List Char → Option (List String × List Char)
  | 0, _ => none
  | fuel + 1, chars =>
    match readWord? (skipBlanks chars) with
    | none => none
    | some (word, rest) =>
      match skipBlanks rest with
      | '.' :: after => (readPath? fuel after).map fun (words, rest) => (word :: words, rest)
      | rest => some ([word], rest)

/-- A text. -/
def readText? : List Char → Option (String × List Char)
  | '"' :: '"' :: '"' :: rest => readLines? '"' rest
  | '\'' :: '\'' :: '\'' :: rest => readLines? '\'' rest
  | '"' :: rest => readBasic? (rest.length + 1) [] rest
  | '\'' :: rest => readLiteral? rest
  | _ => none

/-- A truth value or an integer. -/
def readPlain? (word : List Char) : Option Value :=
  if word = ['t', 'r', 'u', 'e'] then some (.bool true)
  else if word = ['f', 'a', 'l', 's', 'e'] then some (.bool false)
  else ((readFigure? word).bind Amount.ofInt?).map .ofAmount

/-- A value. -/
def readValue? (chars : List Char) : Option (Value × List Char) :=
  match readText? chars with
  | some (content, rest) => some (.text content, rest)
  | none =>
    let isPart (char : Char) : Bool := isBare char || char == '+'
    (readPlain? (chars.takeWhile isPart)).map fun value => (value, chars.dropWhile isPart)

/-- What a line says. -/
inductive Statement where
  | blank
  | section (path : List String)
  | value (path : List String) (value : Value)

/-- What the next line says, and the characters after it. -/
def readStatement? (chars : List Char) : Option (Statement × List Char) :=
  match finishLine? chars with
  | some rest => some (.blank, rest)
  | none =>
    match skipBlanks chars with
    | '[' :: rest =>
      match readPath? (rest.length + 1) rest with
      | some (path, ']' :: after) => (finishLine? after).map fun rest => (.section path, rest)
      | _ => none
    | chars =>
      match readPath? (chars.length + 1) chars with
      | some (path, '=' :: after) =>
        match readValue? (skipBlanks after) with
        | some (value, after) => (finishLine? after).map fun rest => (.value path value, rest)
        | none => none
      | _ => none

/-- What the lines say. The fuel bounds their number. -/
def readStatements? : (fuel : Nat) → List Char → Option (List Statement)
  | _, [] => some []
  | 0, _ => none
  | fuel + 1, chars =>
    match readStatement? chars with
    | some (statement, rest) => (readStatements? fuel rest).map (statement :: ·)
    | none => none

/-! ### Files -/

/-- What stands at a path of a file. -/
inductive Entry where
  | value (value : Value)
  /-- A section. It is `implied` until a line names it by itself, and `dotted` when it came about
  by the key of a value. -/
  | section (implied dotted : Bool)

/-- The paths of a file with what stands there, each after those on the way to it. -/
abbrev Outline := List (List String × Entry)

namespace Outline

/-- What stands at a path. -/
def at? (outline : Outline) (path : List String) : Option Entry :=
  (outline.find? fun known => known.1 == path).map Prod.snd

/-- Sees to it that the sections along some words are there. A key may not lead through a section
that a line has named. -/
def descend? (dotted : Bool) : (inside words : List String) → Outline → Option Outline
  | _, [], outline => some outline
  | inside, word :: rest, outline =>
    let path := inside ++ [word]
    match outline.at? path with
    | none => descend? dotted path rest (outline ++ [(path, .section true dotted)])
    | some (.section implied _) =>
      if dotted && !implied then none else descend? dotted path rest outline
    | some (.value _) => none

/-- A line names a section. No other line may have named it, nor a key have led through it. -/
def open? (outline : Outline) (path : List String) : Option Outline := do
  let outline ← descend? false [] path.dropLast outline
  match outline.at? path with
  | none => some (outline ++ [(path, .section false false)])
  | some (.section true false) =>
    some (outline.map fun known => if known.1 == path then (path, .section false false) else known)
  | _ => none

/-- The section at a path came about by keys only. -/
def isDotted (outline : Outline) (path : List String) : Bool :=
  match outline.at? path with
  | some (.section _ dotted) => dotted
  | _ => false

/-- A line gives a key of a section its value. Nothing may stand there yet, and a key of several
words has to end in a section of keys. -/
def add? (outline : Outline) (inside path : List String) (value : Value) : Option Outline := do
  let outline ← descend? true inside path.dropLast outline
  let whole := inside ++ path
  if (1 < path.length && !outline.isDotted whole.dropLast) || (outline.at? whole).isSome then none
  else some (outline ++ [(whole, .value value)])

/-- The outline of lines, `inside` being the section in force. -/
def extend? : (inside : List String) → List Statement → Outline → Option Outline
  | _, [], outline => some outline
  | inside, .blank :: rest, outline => extend? inside rest outline
  | _, .section path :: rest, outline => (outline.open? path).bind (extend? path rest)
  | inside, .value path value :: rest, outline =>
    (outline.add? inside path value).bind (extend? inside rest)

/-- The document of an outline. -/
def document (outline : Outline) : Value :=
  outline.foldl (fun document (path, entry) =>
    alter (fun before =>
        match entry with
        | .value value => value
        | .section _ _ => .record (fieldsOf before))
      (path.map .field) document) (.record [])

end Outline

/-- The document of a file. A byte order mark in front does not count. -/
def read? (text : String) : Option Value := do
  let chars := match text.toList with
    | '\ufeff' :: rest => rest
    | chars => chars
  let statements ← readStatements? (chars.length + 1) chars
  (Outline.extend? [] statements []).map Outline.document

end Passbook.Toml
