/-
**Places in a document.**

A place is reached from the whole document by steps: to a field of a record by its name, or to an
item of a list by its number, a negative one being counted from the end.

* `readPlace?`: a place in writing: a word, then words after points and numbers in brackets;
* `alter`: a document after a change in one place. What stands in the way of a step makes room;
* `overlay`: a value laid over another, records field by field.
-/

import Passbook.Json.Value
import Passbook.Text.Digits

namespace Passbook.Settings

open Passbook.Json (Value)
open Passbook.Text (isDigit readDecimal?)

/-- A step from a value to a part of it. -/
inductive Step where
  | field (name : String)
  | item (number : Int)

/-! ### Places in writing -/

/-- The characters of a bare word. -/
def isBare (char : Char) : Bool :=
  isDigit char || ('a' ≤ char && char ≤ 'z') || ('A' ≤ char && char ≤ 'Z') || char == '_' ||
    char == '-'

/-- The greatest number of an item. -/
def greatestItem : Nat := 9223372036854775807

/-- The number of an item up to its bracket, after any blanks. -/
def readItem? (chars : List Char) : Option (Int × List Char) :=
  let chars := chars.dropWhile fun char => char == ' ' || char == '\t'
  let (below, chars) : Bool × List Char := match chars with
    | '-' :: rest => (true, rest)
    | _ => (false, chars)
  match readDecimal? (chars.takeWhile isDigit), chars.dropWhile isDigit with
  | some size, ']' :: rest =>
    if size ≤ greatestItem then some (if below then -(size : Int) else size, rest) else none
  | _, _ => none

/-- Steps one after another. The fuel bounds their number. -/
def readSteps? : (fuel : Nat) → List Char → Option (List Step)
  | _, [] => some []
  | fuel + 1, '.' :: rest =>
    match rest.takeWhile isBare with
    | [] => none
    | word => (readSteps? fuel (rest.dropWhile isBare)).map (.field (String.ofList word) :: ·)
  | fuel + 1, '[' :: rest =>
    match readItem? rest with
    | some (number, after) => (readSteps? fuel after).map (.item number :: ·)
    | none => none
  | _, _ => none

/-- A place in writing. -/
def readPlace? (text : String) : Option (List Step) :=
  readSteps? (text.length + 1) ('.' :: text.toList)

/-! ### Changing a document -/

/-- The fields of a record, or none. -/
def fieldsOf : Value → List (String × Value)
  | .record fields => fields
  | _ => []

/-- The items of a list, or none. -/
def itemsOf : Value → List Value
  | .list items => items
  | _ => []

/-- The value of a name, or null. -/
def valueOf (fields : List (String × Value)) (name : String) : Value :=
  ((fields.find? fun field => field.1 == name).map Prod.snd).getD .null

/-- Items among which there is one of a number, and where it stands. Room is made with nulls. -/
def makeRoom (items : List Value) (number : Int) : List Value × Nat :=
  if 0 ≤ number then
    (items ++ List.replicate (number.toNat + 1 - items.length) .null, number.toNat)
  else if number.natAbs ≤ items.length then (items, items.length - number.natAbs)
  else (List.replicate (number.natAbs - items.length) .null ++ items, 0)

/-- A document after a change in one place. -/
def alter (change : Value → Value) : List Step → Value → Value
  | [], document => change document
  | .field name :: rest, document =>
    let fields := fieldsOf document
    .record (Value.set fields name (alter change rest (valueOf fields name)))
  | .item number :: rest, document =>
    let (items, position) := makeRoom (itemsOf document) number
    .list (items.set position (alter change rest (items.getD position .null)))

mutual

/-- A value laid over another. A record keeps what it does not name, any other value nothing. -/
def overlay : Value → Value → Value
  | .record fields, below => .record (overlayFields fields (fieldsOf below))
  | value, _ => value

/-- Fields laid over others. -/
def overlayFields : List (String × Value) → List (String × Value) → List (String × Value)
  | [], below => below
  | (name, value) :: rest, below =>
    overlayFields rest (Value.set below name (overlay value (valueOf below name)))

end

/-- A document in which a name, read as a place, has a value laid over it. A name that is no place
stands for itself. -/
def lay (document : Value) (name : String) (value : Value) : Value :=
  alter (overlay value) ((readPlace? name).getD [.field name]) document

end Passbook.Settings
