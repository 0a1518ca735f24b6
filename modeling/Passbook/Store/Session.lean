/-
**Operations on the books.**

An operation runs under a session: the time, the storage's condition, the settings in force, and the
clock on which deadlines are set. It is made of units of work. A unit that ends without a result
leaves the books as they were; one that ends with a result is committed, and what follows it sees
the books it left.

* `Action.atomically`: commits a unit of work or leaves everything as it was;
* `Action.lookUp`, `Work.lookUp`: read a row, by itself or within a unit of work;
* `Action.publish`: makes a committed change known;
* `Work.fresh`: hands out the next identifier.
-/

import Passbook.Calendar.Timer
import Passbook.Event
import Passbook.Store.Lookup

namespace Passbook.Store

open Passbook.Calendar (Instant Timer)

/-- What an operation finds around it. -/
structure Session where
  /-- The time throughout the operation. -/
  now : Instant
  /-- The condition of the storage. -/
  faults : Faults
  /-- The limits of new wallets. -/
  newLimits : Limits.SpendLimits
  /-- The time that a movement of money may take, and the clock that tells when it is over. -/
  timer : Timer

/-- The books and what has been made known of them. -/
structure World where
  books : Books
  published : List Event

/-- Nothing booked and nothing made known. -/
def World.fresh (supply : Supply := .ascending) : World := ⟨.fresh supply, []⟩

/-- An operation: it ends with a result or an error, and leaves a world either way. -/
abbrev Action (ε α : Type) := ExceptT ε (StateM World) α

/-- Errors that a failing statement may turn into. -/
class StorageCause (ε : Type) where
  ofFault : StorageFault → ε

instance : StorageCause StorageFault := ⟨id⟩

instance : Reportable StorageFault := ⟨fun fault => .ok fault.report⟩

instance {ε : Type} [StorageCause ε] : StorageCause (Halt ε) :=
  ⟨fun fault => .refused (StorageCause.ofFault fault)⟩

namespace Work

variable {ε ε' α : Type}

/-- The same unit of work with other errors. -/
def mapError (change : ε → ε') (work : Work ε α) : Work ε' α := fun books =>
  (work books).mapError change

/-- A statement within a unit of work. -/
def stored [StorageCause ε] (work : Work StorageFault α) : Work ε α :=
  mapError StorageCause.ofFault work

/-- Reads the row chosen, if there is one. -/
def lookUp {ρ : Type} [StorageCause ε] (sheet : Sheet ρ) (choose : Books → Option ρ) :
    Work ε (Option ρ) :=
  stored (readRow sheet choose)

/-- Reads the rows chosen. -/
def gather {ρ : Type} [StorageCause ε] (sheet : Sheet ρ) (choose : Books → List ρ) :
    Work ε (List ρ) :=
  stored (readRows sheet choose)

/-- The verdict of a rule within a unit of work. -/
def verdict (result : Except ε α) : Work ε α := fun books => result.map fun value => (value, books)

/-- A row that has to be there. -/
def found (cause : ε) : Option α → Work ε α
  | some value => pure value
  | none => throw cause

/-- The outcome of a unit of work, whichever way it ends. One that ends in an error leaves nothing
behind. -/
def attempt (work : Work ε α) : Work ε' (Except ε α) := fun books =>
  match work books with
  | .ok (value, books) => .ok (.ok value, books)
  | .error error => .ok (.error error, books)

/-- The next identifier. The storage refuses when none is left. -/
def fresh [StorageCause ε] : Work ε Uuid := fun books =>
  match books.next? with
  | some uuid => .ok (uuid, { books with issued := books.issued + 1 })
  | none => .error (StorageCause.ofFault .refused)

end Work

namespace Action

variable {ε ε' α : Type}

/-- Commits a unit of work, or leaves the world as it was. -/
def atomically [StorageCause ε] (session : Session) (work : Work ε α) : Action ε α := fun world =>
  if session.faults.blocked then (.error (StorageCause.ofFault .unreachable), world)
  else
    match work world.books with
    | .ok (value, books) => (.ok value, { world with books := books })
    | .error error => (.error error, world)

/-- The result of a unit of work that is given up in the end. -/
def rehearse [StorageCause ε] (session : Session) (work : Work ε α) : Action ε α := fun world =>
  ((atomically session work world).1, world)

/-- Reads the row chosen, if there is one. -/
def lookUp {ρ : Type} [StorageCause ε] (session : Session) (sheet : Sheet ρ)
    (choose : Books → Option ρ) : Action ε (Option ρ) :=
  atomically session (Work.lookUp sheet choose)

/-- Reads the rows chosen. -/
def gather {ρ : Type} [StorageCause ε] (session : Session) (sheet : Sheet ρ)
    (choose : Books → List ρ) : Action ε (List ρ) :=
  atomically session (Work.gather sheet choose)

/-- Reads a page of a listing. -/
def gatherPage {ρ : Type} [StorageCause ε] (session : Session) (sheet : Sheet ρ)
    (choose : Books → List ρ) (request : PageRequest) : Action (Halt ε) (Page ρ) :=
  atomically session
    (Work.mapError (Halt.map StorageCause.ofFault) (readPage sheet choose request))

/-- Makes a committed change known. -/
def publish (event : Event) : Action ε Unit := fun world =>
  (.ok (), { world with published := world.published ++ [event] })

/-- The verdict of a rule. -/
def verdict (result : Except ε α) : Action ε α := fun world => (result, world)

/-- A thing that has to be there. -/
def found (cause : ε) : Option α → Action ε α
  | some value => pure value
  | none => throw cause

/-- The same operation with other errors. -/
def mapError (change : ε → ε') (action : Action ε α) : Action ε' α := fun world =>
  let (result, world) := action world
  (result.mapError change, world)

/-- The outcome of an operation, whichever way it ends. -/
def attempt (action : Action ε α) : Action ε' (Except ε α) := fun world =>
  let (result, world) := action world
  (.ok result, world)

end Action

end Passbook.Store
