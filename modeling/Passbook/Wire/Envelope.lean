/-
**Envelopes and reports as documents.**

Data, errors and details are left out where there are none.
-/

import Passbook.Envelope
import Passbook.Wire.Coded

namespace Passbook.Wire

open Passbook.Json (Value Fields)

variable {α : Type}

/-- A field that may be null or left out at any place. -/
def omissible [Coded α] (fields : Fields) (name : String) : Option (Option α) :=
  fields.orDefault? name none read?

/-- Details that are null are no details. -/
def readDetails? (fields : Fields) : Option (Option Value) :=
  fields.orDefault? "details" none fun value =>
    match value with
    | .null => some none
    | details => some (some details)

instance : Coded ErrorBody where
  write error :=
    .record ([field "code" error.code, field "message" error.message] ++
      optionalField "details" error.details)
  read? value := do
    let fields ← value.fields? ["code", "message", "details"]
    some ⟨← required fields "code", ← required fields "message", ← readDetails? fields⟩

instance [Coded α] : Coded (Envelope α) where
  write envelope :=
    .record (field "success" envelope.success :: (optionalField "data" envelope.data ++
      optionalField "error" envelope.error))
  read? value := do
    let fields ← value.fields? ["success", "data", "error"]
    some ⟨← required fields "success", ← omissible fields "data", ← omissible fields "error"⟩

/-- The document of a report: its code, rule and status, and its words where it has any. -/
def writeReport (report : Report) : Value :=
  .record ([field "error" report.category.code, field "rule" report.rule,
    ("status", .ofNat report.category.status), field "retryable" report.category.isRetryable] ++
    match report.words with
    | some (message, text) => [field "message" message, field "app" text]
    | none => [])

/-- A problem of a category given by its name. -/
def readProblem? (value : Value) : Option Problem := do
  let fields ← value.fields? ["kind", "message"]
  some ⟨← fields.required? "kind" (Value.choice? Category.ofName?), ← required fields "message"⟩

end Passbook.Wire
