/-
**Two ways in which an operation ends without a result.**

An operation is refused for a cause of its domain, or it stops because unguarded arithmetic left
the range. In both cases nothing it did is kept.

* `Halt`: either end;
* `Reportable`: causes with a report. Putting a cause into words may itself leave the range.
-/

import Passbook.Amount
import Passbook.Problem

namespace Passbook

/-- The end of an operation without a result. -/
inductive Halt (ε : Type) where
  /-- A rule refused the operation. -/
  | refused (cause : ε)
  /-- Unguarded arithmetic left the range. -/
  | overflowed (fault : Overflow)
deriving DecidableEq

namespace Halt

/-- The same end under another kind of cause. -/
def map {ε ε' : Type} (change : ε → ε') : Halt ε → Halt ε'
  | refused cause => .refused (change cause)
  | overflowed fault => .overflowed fault

end Halt

/-- Causes with a report. -/
class Reportable (ε : Type) where
  /-- The report of a cause. -/
  report : ε → Except Overflow Report

instance : Reportable Problem := ⟨fun problem => .ok (.ofProblem problem)⟩

instance {ε : Type} [Reportable ε] : Reportable (Halt ε) where
  report
    | .refused cause => Reportable.report cause
    | .overflowed fault => .error fault

/-- The result of unguarded arithmetic inside an operation. -/
def unguarded {ε α : Type} : Except Overflow α → Except (Halt ε) α
  | .ok value => .ok value
  | .error fault => .error (.overflowed fault)

/-- The verdict of a rule inside an operation. -/
def ruled {ε α : Type} : Except ε α → Except (Halt ε) α
  | .ok value => .ok value
  | .error cause => .error (.refused cause)

end Passbook
