/-
**The envelope of a response.**

A response tells whether it succeeded and carries either data or an error.

* `Envelope.ofResult`: the envelope of an outcome;
* `ErrorBody.ofProblem`: the error of a problem, its category named by its code.
-/

import Passbook.Json.Value
import Passbook.Problem

namespace Passbook

/-- The error in an envelope. -/
structure ErrorBody where
  code : String
  message : String
  details : Option Json.Value

/-- The error of a problem. -/
def ErrorBody.ofProblem (problem : Problem) : ErrorBody :=
  ⟨problem.category.code, problem.message, none⟩

/-- A response. -/
structure Envelope (α : Type) where
  success : Bool
  data : Option α
  error : Option ErrorBody

namespace Envelope

variable {α : Type}

/-- Data, and no error. -/
def ofData (data : α) : Envelope α := ⟨true, some data, none⟩

/-- An error, and no data. -/
def ofProblem (problem : Problem) : Envelope α := ⟨false, none, some (.ofProblem problem)⟩

/-- The envelope of an outcome. -/
def ofResult : Except Problem α → Envelope α
  | .ok data => ofData data
  | .error problem => ofProblem problem

end Envelope

end Passbook
