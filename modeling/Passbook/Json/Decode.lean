/-
**Taking values out of documents.**

Each reader accepts exactly the documents of its type. A record may also be given as the list of
its fields in order; fields that it does not have are left out of account. A choice among names may
also be given as a record of that one name with the value null.

* `Value.fields?`: access to the fields of a record by name or by position;
* `Fields.required?`, `Fields.optional?`, `Fields.orDefault?`: one field.
-/

import Passbook.Json.Value
import Passbook.Page

namespace Passbook.Json

namespace Value

/-- An integer. -/
def int? : Value → Option Int
  | number (.integer figure) => some figure
  | _ => none

/-- An amount. -/
def amount? (value : Value) : Option Amount := value.int?.bind Amount.ofInt?

/-- A natural number up to a bound. -/
def nat? (greatest : Nat) (value : Value) : Option Nat :=
  match value.int? with
  | some (.ofNat figure) => if figure ≤ greatest then some figure else none
  | _ => none

/-- An unsigned 64-bit number. -/
def unsigned64? (value : Value) : Option Nat := value.nat? greatestUnsigned

/-- An unsigned 32-bit number. -/
def unsigned32? (value : Value) : Option Nat := value.nat? 4294967295

/-- A signed 32-bit number. -/
def signed32? (value : Value) : Option Int :=
  match value.int? with
  | some figure => if -2147483648 ≤ figure ∧ figure ≤ 2147483647 then some figure else none
  | none => none

/-- A text. -/
def text? : Value → Option String
  | text content => some content
  | _ => none

/-- A truth value. -/
def bool? : Value → Option Bool
  | bool truth => some truth
  | _ => none

/-- A list of things. -/
def list? {α : Type} (read : Value → Option α) : Value → Option (List α)
  | list items => items.mapM read
  | _ => none

/-- Null or a thing. -/
def nullable? {α : Type} (read : Value → Option α) : Value → Option (Option α)
  | null => some none
  | value => (read value).map some

/-- A name of a choice. -/
def choice? {α : Type} (ofName : String → Option α) : Value → Option α
  | text name => ofName name
  | record [(name, null)] => ofName name
  | _ => none

end Value

/-- The fields of a record as they were given. -/
structure Fields where
  /-- The value of a field. -/
  find : String → Option Value
  /-- The fields were given by name, so that one may be left out. -/
  named : Bool

/-- The fields of a record with the given names, in the order in which a list has to hold them. -/
def Value.fields? (names : List String) : Value → Option Fields
  | .record given =>
    some ⟨fun name => (given.find? fun field => field.1 == name).map Prod.snd, true⟩
  | .list items =>
    if items.length ≤ names.length then
      some ⟨fun name => ((names.zip items).find? fun field => field.1 == name).map Prod.snd, false⟩
    else none
  | _ => none

namespace Fields

variable {α : Type}

/-- A field that has to be there. -/
def required? (fields : Fields) (name : String) (read : Value → Option α) : Option α :=
  (fields.find name).bind read

/-- A field that may be null or, among named fields, left out. -/
def optional? (fields : Fields) (name : String) (read : Value → Option α) : Option (Option α) :=
  match fields.find name with
  | some value => value.nullable? read
  | none => if fields.named then some none else none

/-- A field with a value for when it is left out. -/
def orDefault? (fields : Fields) (name : String) (default : α) (read : Value → Option α) :
    Option α :=
  match fields.find name with
  | some value => read value
  | none => some default

end Fields

end Passbook.Json
