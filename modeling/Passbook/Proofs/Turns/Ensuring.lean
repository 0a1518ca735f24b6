/-
**Finding or opening an account in turns with others.**

Whoever asks for the account of a code looks it up, looks it up again before opening it, looks up
its parent, adds its row, and finds the row of someone else where that one was first. Each of these
is a step of its own, between which others may do the same.

* `createAccount_eq`: opening an account is its steps one after another;
* `Errand`: a call for the account of a code; `ensuring`: its steps, each a part of finding or
  opening an account;
* `go_ensuring`, `run_ensuring`: a call that is not interrupted finds or opens the account;
* `run_errand_ends`: every call has ended after five steps, whatever happens in between.
-/

import Passbook.Proofs.Chart.Port
import Passbook.Proofs.Turns.Course

namespace Passbook.Turns

open Passbook.Chart
open Passbook.Ledger (LedgerAccount NewAccount)
open Passbook.Store

/-! ### The steps of opening an account -/

/-- The rules for an account, and the look at its code before it is opened. -/
def ensureUncoded (session : Session) (input : NewAccount) : Action AccountError Unit := do
  .verdict (input.validate.mapError .ledger)
  if (← findByCode session (Text.trim input.code)).isSome then
    throw (.duplicateCode (Text.trim input.code))

/-- The row of an account is added. -/
def addAccount (session : Session) (input : NewAccount) : Action AccountError AccountRow :=
  .atomically session (insertAccount session input)

/-- **Opening an account** is its steps one after another. -/
theorem createAccount_eq (session : Session) (input : NewAccount) :
    createAccount session input = (do
      ensureUncoded session input
      ensureParent session input.parent
      addAccount session input) := by
  unfold createAccount ensureUncoded addAccount
  simp only [bind_assoc]
  congr 1
  funext _
  congr 1
  funext row
  cases row.isSome <;> rfl

/-! ### Errands -/

/-- How far a call for the account of a code has come. -/
inductive Errand.Stage where
  /-- The code is to be looked up. -/
  | asking
  /-- No account has the code, which is to be looked at again before one is opened. -/
  | absent
  /-- Still no account has it. The parent is to be looked up. -/
  | uncoded
  /-- The row is to be added. -/
  | rooted
  /-- Someone else was first, whose account is to be found. -/
  | beaten
  | ended (result : Except Problem LedgerAccount)

/-- A call for the account of a code. -/
structure Errand where
  input : NewAccount
  stage : Errand.Stage

namespace Errand

/-- After a step of opening an account. A conflict is another's account, any other error is the
end. -/
def Stage.heed {α : Type} (onward : α → Stage) : Except AccountError α → Stage
  | .ok value => onward value
  | .error cause =>
    if cause.problem.category = .conflict then .beaten else .ended (.error cause.problem)

/-- After the first look at the code. -/
def Stage.seen : Except Problem (Option LedgerAccount) → Stage
  | .ok none => .absent
  | .ok (some account) => .ended (.ok account)
  | .error problem => .ended (.error problem)

/-- The next step. -/
def Stage.next (session : Session) (input : NewAccount) (world : World) : Stage → Stage × World
  | .asking =>
    let looked := (port session).find input.code world
    (seen looked.1, looked.2)
  | .absent =>
    let looked := ensureUncoded session input world
    (heed (fun _ => .uncoded) looked.1, looked.2)
  | .uncoded =>
    let looked := ensureParent session input.parent world
    (heed (fun _ => .rooted) looked.1, looked.2)
  | .rooted =>
    let added := addAccount session input world
    (heed (fun row => .ended (.ok row.shown)) added.1, added.2)
  | .beaten =>
    let looked := (port session).find input.code world
    (.ended (settleConflict input.code looked.1), looked.2)
  | .ended result => (.ended result, world)

/-- The most steps that are left. -/
def Stage.left : Stage → Nat
  | .asking => 5
  | .absent => 4
  | .uncoded => 3
  | .rooted => 2
  | .beaten => 1
  | .ended _ => 0

end Errand

/-- Finding or opening an account step by step. -/
def ensuring : Course NewAccount Errand where
  start input := ⟨input, .asking⟩
  next session errand world :=
    let went := errand.stage.next session errand.input world
    (⟨errand.input, went.1⟩, went.2)

section

variable {session : Session} {input : NewAccount} {world : World}

/-! ### Errands that are not interrupted -/

/-- A call that has ended takes no more steps. -/
theorem go_ended (count : Nat) (result : Except Problem LedgerAccount) :
    ensuring.go session count (⟨input, .ended result⟩, world) =
      (⟨input, .ended result⟩, world) := by
  induction count with
  | zero => rfl
  | succ count ih => exact ih

/-- After a step of opening an account that fails, a conflict is looked into. -/
theorem go_heed_error {α : Type} (onward : α → Errand.Stage) (cause : AccountError) (count : Nat) :
    ensuring.go session (count + 1) (⟨input, .heed onward (.error cause)⟩, world) =
      if cause.problem.category = .conflict then
        (⟨input, .ended (settleConflict input.code ((port session).find input.code world).1)⟩,
          ((port session).find input.code world).2)
      else (⟨input, .ended (.error cause.problem)⟩, world) := by
  by_cases conflict : cause.problem.category = .conflict
  · rw [if_pos conflict, show Errand.Stage.heed onward (.error cause) = .beaten from
      if_pos conflict, Course.go]
    exact go_ended count _
  · rw [if_neg conflict, show Errand.Stage.heed onward (.error cause) =
      .ended (.error cause.problem) from if_neg conflict]
    exact go_ended (count + 1) _

/-- Where no account has the code, the steps that follow open one. -/
theorem go_absent (session : Session) (input : NewAccount) (world : World) :
    ensuring.go session 4 (⟨input, .absent⟩, world) =
      match createAccount session input world with
      | (.ok row, after) => (⟨input, .ended (.ok row.shown)⟩, after)
      | (.error cause, after) =>
        if cause.problem.category = .conflict then
          (⟨input, .ended (settleConflict input.code ((port session).find input.code after).1)⟩,
            ((port session).find input.code after).2)
        else (⟨input, .ended (.error cause.problem)⟩, after) := by
  have looksUp : ensuring.next session ⟨input, .absent⟩ world =
      (⟨input, .heed (fun _ => .uncoded) (ensureUncoded session input world).1⟩,
        (ensureUncoded session input world).2) := by
    simp only [ensuring, Errand.Stage.next]
  rw [createAccount_eq, Course.go, looksUp]
  cases looked : ensureUncoded session input world with
  | mk result world =>
  cases result with
  | error cause =>
    rw [Action.bind_of_error looked]
    exact go_heed_error _ cause 2
  | ok uncoded =>
  have looksUp : ensuring.next session ⟨input, .uncoded⟩ world =
      (⟨input, .heed (fun _ => .rooted) (ensureParent session input.parent world).1⟩,
        (ensureParent session input.parent world).2) := by
    simp only [ensuring, Errand.Stage.next]
  rw [Action.bind_of_ok looked, Errand.Stage.heed, Course.go, looksUp]
  cases looked : ensureParent session input.parent world with
  | mk result world =>
  cases result with
  | error cause =>
    rw [Action.bind_of_error looked]
    exact go_heed_error _ cause 1
  | ok rooted =>
  have adds : ensuring.next session ⟨input, .rooted⟩ world =
      (⟨input, .heed (fun row => .ended (.ok row.shown)) (addAccount session input world).1⟩,
        (addAccount session input world).2) := by
    simp only [ensuring, Errand.Stage.next]
  rw [Action.bind_of_ok looked, Errand.Stage.heed, Course.go, adds]
  cases addAccount session input world with
  | mk result world =>
  cases result with
  | error cause => exact go_heed_error _ cause 0
  | ok row => exact go_ended 1 _

/-- **A call that is not interrupted** finds or opens the account. -/
theorem go_ensuring (session : Session) (input : NewAccount) (world : World) :
    ensuring.go session 5 (ensuring.start input, world) =
      (⟨input, .ended (ensureAccount (port session) input world).1⟩,
        (ensureAccount (port session) input world).2) := by
  have looksUp : ensuring.next session (ensuring.start input) world =
      (⟨input, .seen ((port session).find input.code world).1⟩,
        ((port session).find input.code world).2) := by
    simp only [ensuring, Errand.Stage.next]
  rw [Course.go, looksUp, ensureAccount_run]
  rcases (port session).find input.code world with ⟨problem | found, world⟩
  · exact go_ended 4 _
  cases found with
  | some account => exact go_ended 4 _
  | none =>
  have creates : (port session).create input =
      shown AccountRow.shown (createAccount session input) := rfl
  simp only [Errand.Stage.seen, go_absent, creates, shown]
  rcases createAccount session input world with ⟨cause | row, after⟩
  · by_cases conflict : cause.problem.category = .conflict
    · simp [conflict, Except.map, Except.mapError]
    · simp [conflict, Except.map, Except.mapError]
  · rfl

/-- The same of its turns in a scene. -/
theorem run_ensuring (scene : Scene Errand) (session : Session) (input : NewAccount) :
    run ensuring (.arrive input :: List.replicate 5 (.step scene.callers.length session)) scene =
      ⟨(ensureAccount (port session) input scene.world).2, scene.callers ++
        [⟨input, .ended (ensureAccount (port session) input scene.world).1⟩]⟩ := by
  have arrived : advance ensuring scene (.arrive input) =
      ⟨scene.world, scene.callers ++ [ensuring.start input]⟩ := rfl
  rw [run, arrived, run_replicate, go_ensuring]

/-! ### Errands that come to an end -/

theorem heed_left_le {α : Type} {onward : α → Errand.Stage} {bound : Nat}
    (next : ∀ value, (onward value).left ≤ bound) (more : 1 ≤ bound)
    (result : Except AccountError α) : (Errand.Stage.heed onward result).left ≤ bound := by
  cases result with
  | ok value => exact next value
  | error cause =>
    rw [Errand.Stage.heed]
    by_cases conflict : cause.problem.category = .conflict
    · rw [if_pos conflict]
      exact more
    · rw [if_neg conflict]
      exact Nat.zero_le _

/-- Every step leaves one less. -/
theorem next_left_le (session : Session) (errand : Errand) (world : World) :
    (ensuring.next session errand world).1.stage.left ≤ errand.stage.left - 1 := by
  obtain ⟨input, stage⟩ := errand
  simp only [ensuring]
  cases stage with
  | asking =>
    show (Errand.Stage.seen ((port session).find input.code world).1).left ≤ 4
    rcases ((port session).find input.code world).1 with problem | account | account
    · exact Nat.zero_le _
    · exact Nat.le_refl _
    · exact Nat.zero_le _
  | absent =>
    simp only [Errand.Stage.next]
    exact heed_left_le (fun _ => Nat.le_refl 3) (Nat.succ_pos 2) _
  | uncoded =>
    simp only [Errand.Stage.next]
    exact heed_left_le (fun _ => Nat.le_refl 2) (Nat.succ_pos 1) _
  | rooted =>
    simp only [Errand.Stage.next]
    exact heed_left_le (fun _ => Nat.zero_le 1) (Nat.succ_pos 0) _
  | beaten => exact Nat.le_refl 0
  | ended result => exact Nat.le_refl 0

/-- **Every call has ended after five steps**, whatever happens in between. -/
theorem run_errand_ends (turns : List (Turn NewAccount)) {scene : Scene Errand} {place : Nat}
    {errand : Errand} (there : scene.callers[place]? = some errand)
    (enough : 5 ≤ turns.countP (Turn.isStepOf place)) :
    ∃ input result, (run ensuring turns scene).callers[place]? = some ⟨input, .ended result⟩ := by
  have most : errand.stage.left ≤ 5 := by
    cases errand.stage <;> simp [Errand.Stage.left]
  obtain ⟨⟨input, stage⟩, found, spent⟩ := run_over (fun errand : Errand => errand.stage.left)
    next_left_le turns there (most.trans enough)
  cases stage with
  | ended result => exact ⟨input, result, found⟩
  | _ => cases spent

end

end Passbook.Turns
