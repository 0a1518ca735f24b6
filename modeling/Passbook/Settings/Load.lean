/-
**Settings from files and variables.**

The usual file comes first, then the file of the run mode, then the variables; for each value the
last word holds. The names at the top of a file and the names of variables are read as places, so
that they may lead further in.

* `variablePlace?`: the place of a variable among the settings;
* `Reading.lenient`: texts, numbers and truth values are read for one another;
* `Settings.load?`: the settings in force.
-/

import Passbook.Settings.Basic
import Passbook.Settings.Files
import Passbook.Settings.Toml
import Passbook.Text.Letter

namespace Passbook

open Passbook.Json (Value)

namespace Reading

/-- A text as a truth value. -/
def wordTruth? (word : String) : Option Bool :=
  let word := Text.smalls word
  if ["1", "true", "on", "yes"].contains word then some true
  else if ["0", "false", "off", "no"].contains word then some false
  else none

/-- A text as an integer. -/
def wordInteger? (word : String) : Option Int :=
  let small := Text.smalls word
  if ["true", "on", "yes"].contains small then some 1
  else if ["false", "off", "no"].contains small then some 0
  else Text.readInteger? word.toList

/-- A text as an integer without a minus sign. -/
def wordNatural? (word : String) : Option Int :=
  if word.toList.head? = some '-' then none else wordInteger? word

/-- A text, or a number or truth value in writing. -/
def lenientText? : Value → Option String
  | .text content => some content
  | .bool truth => some (if truth then "true" else "false")
  | .number (.integer figure) => some (Text.decimal figure)
  | _ => none

/-- A truth value, a number that may be zero, or a text. -/
def lenientTruth? : Value → Option Bool
  | .bool truth => some truth
  | .number (.integer figure) => some (figure != 0)
  | .text word => wordTruth? word
  | _ => none

/-- An integer, a truth value that counts as one or zero, or a text. -/
def lenientInteger? (ofWord : String → Option Int) : Value → Option Int
  | .number (.integer figure) => some figure
  | .bool truth => some (if truth then 1 else 0)
  | .text word => ofWord word
  | _ => none

/-- A natural number up to a bound. -/
def lenientNatural? (greatest : Nat) (value : Value) : Option Nat :=
  match lenientInteger? wordNatural? value with
  | some (.ofNat figure) => if figure ≤ greatest then some figure else none
  | _ => none

/-- The fields of a record, or of a list that may go on after them. -/
def lenientFields? (names : List String) : Value → Option Json.Fields
  | .list items => Value.fields? names (.list (items.take names.length))
  | value => value.fields? names

/-- Texts, numbers and truth values are read for one another. -/
def lenient : Reading where
  text? := lenientText?
  truth? := lenientTruth?
  amount? value := (lenientInteger? wordInteger? value).bind Amount.ofInt?
  unsigned64? := lenientNatural? greatestUnsigned
  unsigned32? := lenientNatural? 4294967295
  fields? := lenientFields?

end Reading

namespace Settings

/-! ### Variables -/

/-- Two low lines stand for a point. -/
def pointed : List Char → List Char
  | '_' :: '_' :: rest => '.' :: pointed rest
  | char :: rest => char :: pointed rest
  | [] => []

/-- What the names of variables start with. -/
def variableStart : List Char := ['t', 'i', 'j', 'o', 'r', 'i', '_', '_']

/-- The place of a variable among the settings in writing, for a name in any case. -/
def variablePlace? (name : String) : Option String :=
  let name := (Text.smalls name).toList
  if variableStart.isPrefixOf name then
    some (String.ofList (pointed (name.drop variableStart.length)))
  else none

/-- The values that variables set. -/
def variableFields (environment : List (String × String)) : List (String × Value) :=
  environment.filterMap fun (name, content) =>
    (variablePlace? name).map fun place => (place, .text content)

/-- The run mode in force. -/
def runMode (environment : List (String × String)) : String :=
  ((environment.find? fun given => given.1 == "RUN_MODE").map Prod.snd).getD "development"

/-- The values in a file, if there is such a file. -/
def fileFields? (files : String → Option String) (path : String) :
    Option (List (String × Value)) :=
  match findFile? files path with
  | some text => (Toml.read? text).map fieldsOf
  | none => some []

/-- The settings of files and variables. -/
def load? (files : String → Option String) (environment : List (String × String)) :
    Option Settings := do
  let usual ← fileFields? files "default"
  let special ← fileFields? files (runMode environment)
  let fields := usual ++ special ++ variableFields environment
  read? .lenient (fields.foldl (fun document (name, value) => lay document name value)
    (.record []))

end Settings

end Passbook
