/-
**How failures are told to a caller.**

A problem is a category and a message. The category alone decides the code, the status and whether
trying again makes sense.

* `Problem.text`: the message after the words for its category;
* `Report`: a problem together with the rule that found it and the rule's own words.
-/

namespace Passbook

/-- The categories of problems. -/
inductive Category where
  | validation
  | notFound
  | conflict
  | badRequest
  | forbidden
  | timeout
  | database
  | internal
deriving DecidableEq

namespace Category

/-- All of them. -/
def all : List Category :=
  [validation, notFound, conflict, badRequest, forbidden, timeout, database, internal]

/-- The name of a category in small letters. -/
def name : Category → String
  | validation => "validation"
  | notFound => "not_found"
  | conflict => "conflict"
  | badRequest => "bad_request"
  | forbidden => "forbidden"
  | timeout => "timeout"
  | database => "database"
  | internal => "internal"

/-- The code for callers. -/
def code : Category → String
  | validation => "VALIDATION_ERROR"
  | notFound => "NOT_FOUND"
  | conflict => "CONFLICT"
  | badRequest => "BAD_REQUEST"
  | forbidden => "FORBIDDEN"
  | timeout => "TIMEOUT"
  | database => "DATABASE_ERROR"
  | internal => "INTERNAL_ERROR"

/-- The status of a response. -/
def status : Category → Nat
  | validation => 400
  | notFound => 404
  | conflict => 409
  | badRequest => 400
  | forbidden => 403
  | timeout => 503
  | database => 500
  | internal => 500

/-- The words in front of a message. -/
def label : Category → String
  | validation => "Validation error: "
  | notFound => "Not found: "
  | conflict => "Conflict: "
  | badRequest => "Bad request: "
  | forbidden => "Access denied: "
  | timeout => "Timeout: "
  | database => "Database error: "
  | internal => "Internal error: "

/-- Only what ran out of time may succeed when tried again. -/
def isRetryable (category : Category) : Bool := category == timeout

/-- The category of a name. -/
def ofName? (text : String) : Option Category := all.find? fun category => category.name == text

end Category

/-- A failure as a caller sees it. -/
structure Problem where
  category : Category
  message : String
deriving DecidableEq

namespace Problem

/-- The message after the words for its category. -/
def text (problem : Problem) : String := problem.category.label ++ problem.message

end Problem

/-- A problem, the rule that found it, and the rule's words for it. A failure inside the storage
has no words of its own. -/
structure Report where
  category : Category
  rule : String
  words : Option (String × String)

namespace Report

/-- A rule's own message is the problem's message. -/
def plain (category : Category) (rule message : String) : Report :=
  ⟨category, rule, some (message, Problem.text ⟨category, message⟩)⟩

/-- A problem passed on under a rule with other words for it. Words from the storage are held
back. -/
def wrapped (problem : Problem) (rule message : String) : Report :=
  match problem.category with
  | .database => ⟨.database, rule, none⟩
  | category => ⟨category, rule, some (message, problem.text)⟩

/-- A bare problem. -/
def ofProblem (problem : Problem) : Report := wrapped problem "APP" problem.message

end Report

end Passbook
