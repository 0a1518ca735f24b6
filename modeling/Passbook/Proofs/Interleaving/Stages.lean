/-
**External deposits whose units of work take turns with others.**

Completing a confirmed deposit takes up to three units of work. Between them anything may happen:
other deposits under the same key, changes of the status of a wallet, or nothing ever again.

* `Scene`: the world, the deposits on their way and, for the record, the terms of every credit that
  was committed and every receipt that was given;
* `Move`: one unit of work of a deposit, a plain deposit, or any operation apart from deposits;
* `advance`, `run`: what moves leave, by the units of work of the payments themselves;
* `completeInStages_eq`, `advance_inStages`: an external deposit that is not interrupted is its
  three moves one after another.
-/

import Passbook.Proofs.Operation.Once

namespace Passbook.Interleaving

open Passbook.Operation
open Passbook.Payments
open Passbook.Store
open Passbook.Transfer (Receipt TransactionKey)

/-! ### The units of work -/

/-- The first unit of work of an external deposit, with what comes before it. -/
def announce (session : Session) (request : MovementRequest) :
    Action (Halt PaymentError) (TransactionKey × Confirmation) := do
  let key ← readKey request.key
  .verdict ((Transfer.ensurePositive request.amount).mapError fun cause =>
    Halt.refused (PaymentError.transfer cause))
  let _ ← setDeadline session request.deadline
  let confirmation ← withinDeadline session .deposit request.deadline
    (confirmDeposit session request key)
  pure (key, confirmation)

/-- The second unit of work of an external deposit, with what comes after it. -/
def complete (session : Session) (request : MovementRequest) (key : TransactionKey) :
    Action (Halt PaymentError) Receipt := do
  if ← withinDeadline session .deposit request.deadline (creditConfirmed session request key) then
    settle (replay .deposit key request.amount)
  else
    settle (done .deposit key request.amount (depositEvent session request key))

/-- The third unit of work of an external deposit. That it is refused is no matter. -/
def takeBack (session : Session) (key : TransactionKey) (world : World) : World :=
  (Action.atomically session (rollbackConfirmation session key) world).2

/-- The credit, and the confirmation taken back where it fails. -/
theorem creditOrRollback_eq (crediting undoing : Session) (request : MovementRequest)
    (key : TransactionKey) (world : World) :
    creditOrRollback crediting undoing request key world =
      match withinDeadline crediting .deposit request.deadline
        (creditConfirmed crediting request key) world with
      | (.ok earlier, world) => (.ok earlier, world)
      | (.error cause, world) => (.error cause, takeBack undoing key world) := by
  unfold creditOrRollback
  cases credited : withinDeadline crediting .deposit request.deadline
      (creditConfirmed crediting request key) world with
  | mk result world =>
  cases result with
  | error cause =>
    rw [Action.bind_of_ok (Action.attempt_of_error credited)]
    exact Action.attempt_throw _ _ _
  | ok earlier =>
    rw [Action.bind_of_ok (Action.attempt_of_ok credited)]
    rfl

/-- An external deposit is its units of work one after another. -/
theorem completeInStages_eq (confirming crediting undoing : Session) (request : MovementRequest)
    (world : World) :
    completeInStages confirming crediting undoing request world =
      match announce confirming request world with
      | (.error cause, world) => (.error cause, world)
      | (.ok (key, .completed amount), world) => (.ok ⟨.deposit, key, amount, true⟩, world)
      | (.ok (key, .pending), world) =>
        match complete crediting request key world with
        | (.ok receipt, world) => (.ok receipt, world)
        | (.error cause, world) => (.error cause, takeBack undoing key world) := by
  unfold completeInStages announce
  cases read : readKey request.key world with
  | mk result world =>
  cases result with
  | error cause => rw [Action.bind_of_error read, Action.bind_of_error read]
  | ok key =>
  rw [Action.bind_of_ok read, Action.bind_of_ok read]
  cases judged : (Action.verdict ((Transfer.ensurePositive request.amount).mapError fun cause =>
      Halt.refused (PaymentError.transfer cause)) : Action (Halt PaymentError) Unit) world with
  | mk result world =>
  cases result with
  | error cause => rw [Action.bind_of_error judged, Action.bind_of_error judged]
  | ok positive =>
  rw [Action.bind_of_ok judged, Action.bind_of_ok judged]
  cases timed : setDeadline confirming request.deadline world with
  | mk result world =>
  cases result with
  | error cause => rw [Action.bind_of_error timed, Action.bind_of_error timed]
  | ok deadline =>
  rw [Action.bind_of_ok timed, Action.bind_of_ok timed]
  cases confirmed : withinDeadline confirming .deposit request.deadline
      (confirmDeposit confirming request key) world with
  | mk result world =>
  cases result with
  | error cause => rw [Action.bind_of_error confirmed, Action.bind_of_error confirmed]
  | ok confirmation =>
  rw [Action.bind_of_ok confirmed, Action.bind_of_ok confirmed]
  cases confirmation with
  | completed amount =>
    show settle (replay .deposit key amount) world = (.ok ⟨.deposit, key, amount, true⟩, world)
    rw [settle_run, replay, Option.toList_none, List.append_nil]
  | pending =>
    show (creditOrRollback crediting undoing request key >>= _) world =
      match complete crediting request key world with
      | (.ok receipt, world) => (.ok receipt, world)
      | (.error cause, world) => (.error cause, takeBack undoing key world)
    have tried := creditOrRollback_eq crediting undoing request key world
    unfold complete
    cases credited : withinDeadline crediting .deposit request.deadline
        (creditConfirmed crediting request key) world with
    | mk result world =>
    rw [credited] at tried
    cases result with
    | error cause =>
      rw [Action.bind_of_error tried, Action.bind_of_error credited]
    | ok earlier =>
      rw [Action.bind_of_ok tried, Action.bind_of_ok credited]
      cases earlier <;> simp [settle_run]

/-! ### Scenes -/

/-- How far an external deposit has come. -/
inductive Progress where
  /-- It is confirmed and its credit is owed. -/
  | owed
  /-- Its credit has failed, and its confirmation is to be taken back. -/
  | failed
  | ended
deriving DecidableEq

/-- An external deposit on its way. -/
structure Flight where
  request : MovementRequest
  key : TransactionKey
  progress : Progress

/-- What is deposited under a key. -/
structure Terms where
  key : String
  wallet : WalletId
  amount : Amount
deriving DecidableEq

/-- The terms of a deposit that is asked for under a key. -/
def termsOf (request : MovementRequest) (key : TransactionKey) : Terms :=
  ⟨key.text, request.wallet, request.amount⟩

/-- The world, the deposits on their way, and what became of those before. -/
structure Scene where
  world : World
  flights : List Flight
  credits : List Terms
  receipts : List Receipt

namespace Scene

/-- Nothing has happened. -/
def fresh (supply : Supply := .ascending) : Scene := ⟨.fresh supply, [], [], []⟩

/-- What is in the books. -/
abbrev books (scene : Scene) : Books := scene.world.books

/-- A receipt is given. One that is no replay is for a credit. -/
def receive (scene : Scene) (request : MovementRequest) (receipt : Receipt) (world : World) :
    Scene :=
  { scene with
    world := world
    credits := scene.credits ++
      if receipt.replayed then [] else [termsOf request receipt.key]
    receipts := scene.receipts ++ [receipt] }

/-- A deposit has come so far. -/
def reach (scene : Scene) (place : Nat) (flight : Flight) (progress : Progress) : Scene :=
  { scene with flights := scene.flights.set place { flight with progress := progress } }

/-- The deposit in a place, if it has come so far. -/
def due (scene : Scene) (place : Nat) (progress : Progress) : Option Flight :=
  scene.flights[place]?.filter fun flight => flight.progress == progress

/-- A deposit is confirmed. Its credit is owed then, unless it was made before. -/
def confirm (scene : Scene) (session : Session) (request : MovementRequest) : Scene :=
  match announce session request scene.world with
  | (.error _, world) => { scene with world := world }
  | (.ok (key, .completed amount), world) =>
    scene.receive request ⟨.deposit, key, amount, true⟩ world
  | (.ok (key, .pending), world) =>
    { scene with world := world, flights := scene.flights ++ [⟨request, key, .owed⟩] }

/-- A credit that is owed is made, or fails. -/
def credit (scene : Scene) (place : Nat) (session : Session) : Scene :=
  match scene.due place .owed with
  | none => scene
  | some flight =>
    match complete session flight.request flight.key scene.world with
    | (.error _, world) => { scene with world := world }.reach place flight .failed
    | (.ok receipt, world) => (scene.receive flight.request receipt world).reach place flight .ended

/-- After its credit has failed, the confirmation of a deposit is taken back. -/
def undo (scene : Scene) (place : Nat) (session : Session) : Scene :=
  match scene.due place .failed with
  | none => scene
  | some flight =>
    { scene with world := takeBack session flight.key scene.world }.reach place flight .ended

/-- A plain deposit is made in one unit of work. -/
def deposit (scene : Scene) (session : Session) (request : MovementRequest) : Scene :=
  match processDeposit session request scene.world with
  | (.error _, world) => { scene with world := world }
  | (.ok receipt, world) => scene.receive request receipt world

end Scene

/-- The kinds of deeds that make, announce or take back deposits. -/
def depositKinds : List DeedKind := [.deposited, .confirmed, .credited, .undone]

/-- An operation makes, announces or takes back no deposit. -/
def isApart (call : Call) : Bool := call.kinds.all fun kind => !depositKinds.contains kind

/-- What may happen next. Deposits on their way are told by their place. -/
inductive Move where
  | confirm (session : Session) (request : MovementRequest)
  | credit (place : Nat) (session : Session)
  | undo (place : Nat) (session : Session)
  | deposit (session : Session) (request : MovementRequest)
  /-- Any operation apart from deposits. -/
  | other (call : Call) (apart : isApart call = true)

/-- What a move leaves. -/
def advance (scene : Scene) : Move → Scene
  | .confirm session request => scene.confirm session request
  | .credit place session => scene.credit place session
  | .undo place session => scene.undo place session
  | .deposit session request => scene.deposit session request
  | .other call _ => { scene with world := (call.run scene.world).2 }

/-- What moves leave, one after another. -/
def run : List Move → Scene → Scene
  | [], scene => scene
  | move :: rest, scene => run rest (advance scene move)

theorem run_append (moves later : List Move) (scene : Scene) :
    run (moves ++ later) scene = run later (run moves scene) := by
  induction moves generalizing scene with
  | nil => rfl
  | cons move rest ih => exact ih _

/-- **An external deposit that is not interrupted** is its three moves one after another. -/
theorem advance_inStages (scene : Scene) (confirming crediting undoing : Session)
    (request : MovementRequest) :
    let ended := completeInStages confirming crediting undoing request scene.world
    let after := run [.confirm confirming request, .credit scene.flights.length crediting,
      .undo scene.flights.length undoing] scene
    after.world = ended.2 ∧ after.receipts = scene.receipts ++ ended.1.toOption.toList := by
  simp only [completeInStages_eq, run, advance, Scene.confirm]
  cases announced : announce confirming request scene.world with
  | mk result world =>
  cases result with
  | error cause => simp [Scene.credit, Scene.undo, Scene.due, Except.toOption]
  | ok confirmed =>
  obtain ⟨key, confirmation⟩ := confirmed
  cases confirmation with
  | completed amount => simp [Scene.credit, Scene.undo, Scene.due, Scene.receive, Except.toOption]
  | pending =>
  -- the deposit that is now on its way is the last one
  cases credited : complete crediting request key world with
  | mk result later =>
  cases result with
  | error cause =>
    simp [Scene.credit, Scene.undo, Scene.due, Option.filter, credited, Scene.reach,
      Except.toOption]
  | ok receipt =>
    simp [Scene.credit, Scene.undo, Scene.due, Option.filter, credited, Scene.reach,
      Scene.receive, Except.toOption]

end Passbook.Interleaving
