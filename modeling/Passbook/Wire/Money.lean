/-
**Money and pages as documents.**

A currency goes by its code in capitals. The limit and the offset of a request for a page may be
left out; the limit is kept as it was given.
-/

import Passbook.Money
import Passbook.Wire.Coded

namespace Passbook.Wire

open Passbook.Json (Value)

variable {α : Type}

instance : Coded Currency :=
  ⟨fun currency => .text currency.code, Value.choice? Currency.ofCode?⟩

instance : Coded Money where
  write money := .record [field "amount" money.amount, field "currency" money.currency]
  read? value := do
    let fields ← value.fields? ["amount", "currency"]
    some ⟨← required fields "amount", ← required fields "currency"⟩

instance : Coded PageRequest where
  write request :=
    .record [("limit", .ofNat request.limit), ("offset", .ofNat request.offset)]
  read? value := do
    let fields ← value.fields? ["limit", "offset"]
    some ⟨← fields.orDefault? "limit" PageRequest.defaultLimit Value.unsigned64?,
      ← fields.orDefault? "offset" 0 Value.unsigned64?⟩

instance : Coded PageMeta where
  write info :=
    .record
      [("limit", .ofNat info.limit), ("offset", .ofNat info.offset), ("total", .ofNat info.total)]
  read? value := do
    let fields ← value.fields? ["limit", "offset", "total"]
    some ⟨← fields.required? "limit" Value.unsigned64?,
      ← fields.required? "offset" Value.unsigned64?,
      ← fields.required? "total" Value.unsigned64?⟩

instance [Coded α] : Coded (Page α) where
  write page := .record [field "data" page.data, field "meta" page.info]
  read? value := do
    let fields ← value.fields? ["data", "meta"]
    some ⟨← required fields "data", ← required fields "meta"⟩

end Passbook.Wire
