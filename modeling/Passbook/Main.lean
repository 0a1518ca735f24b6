/-
**The command line.**

`passbook MOMENT` bootstraps fresh books at a moment, under the settings of the variables, and
prints them. The exit code tells whether all went well.
-/

import Passbook.Bootstrap
import Passbook.Json.Writer
import Passbook.Wire.Row

namespace Passbook

open Passbook.Calendar (Instant)
open Passbook.Store (World)

/-- The variables that settings are taken from. -/
def variableNames : List String :=
  ["RUN_MODE", "TIJORI__DATABASE__URL", "TIJORI__DATABASE__MAX_CONNECTIONS",
    "TIJORI__DATABASE__MIN_CONNECTIONS", "TIJORI__LIMITS__DAILY_LIMIT",
    "TIJORI__LIMITS__MONTHLY_LIMIT", "TIJORI__PROCESSING__OPERATION_TIMEOUT_MS",
    "TIJORI__LOGGING__FILTER", "TIJORI__LOGGING__JSON"]

/-- The variables that are set. -/
def readVariables : IO (List (String × String)) :=
  variableNames.filterMapM fun name => do
    return (← IO.getEnv name).map fun content => (name, content)

/-- The moment named on the command line, or the epoch. -/
def momentOf (arguments : List String) : Option Instant :=
  match arguments with
  | [] => some .epoch
  | text :: _ => Instant.read? text

/-- What is printed, and the exit code. -/
def report (arguments : List String) (environment : List (String × String)) : String × UInt32 :=
  match momentOf arguments with
  | none => ("the moment is not a time", 1)
  | some now =>
    let (success, world) := Bootstrap.start now (fun _ => none) environment .fresh
    ((Wire.writeBooks world.books).write, if success then 0 else 1)

end Passbook

/-- Bootstraps fresh books and prints them. -/
def main (arguments : List String) : IO UInt32 := do
  let (text, code) := Passbook.report arguments (← Passbook.readVariables)
  IO.println text
  return code
