/-
**Types with a form as documents.**

* `Coded`: writing a value as a document and reading it back;
* the forms of texts, numbers, identifiers, moments, and of finite choices by their names.
-/

import Passbook.Calendar.Stamp
import Passbook.Identifier
import Passbook.Json.Decode
import Passbook.Named

namespace Passbook.Wire

open Passbook.Calendar (Instant)
open Passbook.Json (Value Fields)

/-- A type with a form as documents. -/
class Coded (α : Type) where
  /-- The document of a value. -/
  write : α → Value
  /-- The value of a document. -/
  read? : Value → Option α

export Coded (write read?)

variable {α : Type}

instance : Coded String := ⟨Value.text, Value.text?⟩

instance : Coded Bool := ⟨Value.bool, Value.bool?⟩

instance : Coded Amount := ⟨Value.ofAmount, Value.amount?⟩

instance : Coded Value := ⟨id, some⟩

instance : Coded Uuid :=
  ⟨fun uuid => .text uuid.text, fun value => value.text?.bind Uuid.read?⟩

instance {kind : IdKind} : Coded (Id kind) :=
  ⟨fun id => write id.uuid, fun value => (read? value).map Id.mk⟩

instance : Coded Instant :=
  ⟨fun instant => .text instant.text, fun value => value.text?.bind Instant.read?⟩

/-- A finite choice goes by its names. -/
instance [Named α] : Coded α :=
  ⟨fun value => .text (Named.name value), Value.choice? Named.ofName?⟩

instance [Coded α] : Coded (List α) := ⟨Value.ofList write, Value.list? read?⟩

/-- What there may be, or null. -/
instance [Coded α] : Coded (Option α) := ⟨Value.ofOption write, Value.nullable? read?⟩

/-- A field of a record. -/
def field [Coded α] (name : String) (value : α) : String × Value := (name, write value)

/-- A field of a record that is left out where there is nothing. -/
def optionalField [Coded α] (name : String) : Option α → List (String × Value)
  | some value => [field name value]
  | none => []

/-- A field that has to be there. -/
def required [Coded α] (fields : Fields) (name : String) : Option α := fields.required? name read?

/-- A field that may be null or left out. -/
def optional [Coded α] (fields : Fields) (name : String) : Option (Option α) :=
  fields.optional? name read?

end Passbook.Wire
