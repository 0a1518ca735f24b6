/-
**Documents of null, truth values, numbers, texts, lists and records.**

* `Number`: an integer of 64 bits, signed or not, or a binary fraction;
* `Value`: a document;
* `Value.record`: the record of some fields, a later one replacing an earlier of its name.
-/

import Passbook.Amount
import Passbook.Json.Binary

namespace Passbook.Json

/-- A number. -/
inductive Number where
  | integer (figure : Int)
  | fraction (negative : Bool) (size : Binary)

/-- A document. -/
inductive Value where
  | null
  | bool (truth : Bool)
  | number (number : Number)
  | text (content : String)
  | list (items : List Value)
  | record (fields : List (String × Value))

namespace Value

instance : Inhabited Value := ⟨null⟩

/-- An integer. -/
def ofInt (figure : Int) : Value := number (.integer figure)

/-- A natural number. -/
def ofNat (figure : Nat) : Value := number (.integer figure)

/-- An amount. -/
def ofAmount (amount : Amount) : Value := ofInt amount.units

/-- What there may be, or null. -/
def ofOption {α : Type} (write : α → Value) : Option α → Value
  | some value => write value
  | none => null

/-- A list of things. -/
def ofList {α : Type} (write : α → Value) (items : List α) : Value := list (items.map write)

/-- Sets a field, replacing one of its name. -/
def set (fields : List (String × Value)) (name : String) (value : Value) :
    List (String × Value) :=
  fields.filter (fun field => field.1 != name) ++ [(name, value)]

/-- The value of a field of a record. -/
def field? (name : String) : Value → Option Value
  | record fields => (fields.find? fun field => field.1 == name).map Prod.snd
  | _ => none

end Value

end Passbook.Json
