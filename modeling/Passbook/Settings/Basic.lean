/-
**Settings.**

* `Settings`: the storage, the limits of new wallets, the time that a movement of money may take,
  and the log;
* `Settings.read?`: the settings in a document, each of them left out where its usual value will
  do. Only the address of the storage has to be there. How a section, a figure, a text or a truth
  value is read is up to the `Reading`.
-/

import Passbook.Json.Decode
import Passbook.Limits.State

namespace Passbook

open Passbook.Json (Fields Value)
open Passbook.Limits (SpendLimits)

/-- Where the storage is and how many connections to it there may be. -/
structure DatabaseSettings where
  url : String
  maxConnections : Nat
  minConnections : Nat

/-- What is logged and how. -/
structure LoggingSettings where
  filter : String
  json : Bool

/-- All settings. -/
structure Settings where
  database : DatabaseSettings
  /-- The limits of new wallets. They are taken as they are given. -/
  limits : SpendLimits
  /-- The milliseconds that a movement of money may take. -/
  operationTimeout : Nat
  logging : LoggingSettings

/-- How single values are read. -/
structure Reading where
  text? : Value → Option String
  truth? : Value → Option Bool
  amount? : Value → Option Amount
  unsigned64? : Value → Option Nat
  unsigned32? : Value → Option Nat
  fields? : List String → Value → Option Fields

/-- Every value has to be of its own type. -/
def Reading.exact : Reading :=
  ⟨Value.text?, Value.bool?, Value.amount?, Value.unsigned64?, Value.unsigned32?, Value.fields?⟩

namespace Settings

/-- The usual limit of a day. -/
def usualDaily : Amount := .clamp 1000000

/-- The usual limit of a month. -/
def usualMonthly : Amount := .clamp 10000000

/-- The usual limits. -/
def usualLimits : SpendLimits := ⟨usualDaily, usualMonthly⟩

/-- The usual time for a movement of money. -/
def usualTimeout : Nat := 5000

/-- What is usually logged. -/
def usualLogging : LoggingSettings := ⟨"tijori=debug,sea_orm=info", false⟩

/-- The settings of the storage. -/
def readDatabase? (reading : Reading) (value : Value) : Option DatabaseSettings := do
  let fields ← reading.fields? ["url", "max_connections", "min_connections"] value
  some ⟨← fields.required? "url" reading.text?,
    ← fields.orDefault? "max_connections" 10 reading.unsigned32?,
    ← fields.orDefault? "min_connections" 1 reading.unsigned32?⟩

/-- The limits of new wallets. -/
def readLimits? (reading : Reading) (value : Value) : Option SpendLimits := do
  let fields ← reading.fields? ["daily_limit", "monthly_limit"] value
  some ⟨← fields.orDefault? "daily_limit" usualDaily reading.amount?,
    ← fields.orDefault? "monthly_limit" usualMonthly reading.amount?⟩

/-- The time for a movement of money. -/
def readTimeout? (reading : Reading) (value : Value) : Option Nat := do
  let fields ← reading.fields? ["operation_timeout_ms"] value
  fields.orDefault? "operation_timeout_ms" usualTimeout reading.unsigned64?

/-- The settings of the log. -/
def readLogging? (reading : Reading) (value : Value) : Option LoggingSettings := do
  let fields ← reading.fields? ["filter", "json"] value
  some ⟨← fields.orDefault? "filter" usualLogging.filter reading.text?,
    ← fields.orDefault? "json" usualLogging.json reading.truth?⟩

/-- The settings in a document. -/
def read? (reading : Reading) (value : Value) : Option Settings := do
  let fields ← reading.fields? ["database", "limits", "processing", "logging"] value
  some ⟨← fields.required? "database" (readDatabase? reading),
    ← fields.orDefault? "limits" usualLimits (readLimits? reading),
    ← fields.orDefault? "processing" usualTimeout (readTimeout? reading),
    ← fields.orDefault? "logging" usualLogging (readLogging? reading)⟩

/-- The document of settings. -/
def write (settings : Settings) : Value :=
  .record
    [("database", .record [("url", .text settings.database.url),
        ("max_connections", .ofNat settings.database.maxConnections),
        ("min_connections", .ofNat settings.database.minConnections)]),
      ("limits", .record [("daily_limit", .ofAmount settings.limits.daily),
        ("monthly_limit", .ofAmount settings.limits.monthly)]),
      ("processing", .record [("operation_timeout_ms", .ofNat settings.operationTimeout)]),
      ("logging", .record [("filter", .text settings.logging.filter),
        ("json", .bool settings.logging.json)])]

end Settings

end Passbook
