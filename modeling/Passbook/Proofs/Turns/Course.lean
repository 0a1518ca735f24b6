/-
**Calls that take turns.**

A call is made of steps, each of them a unit of work or a look at the books. Between two steps of a
call anything may happen: steps of other calls, any operation from beginning to end, or nothing ever
again.

* `Course`: how a call starts, and what its next step does from wherever it has come;
* `Scene`, `Turn`: the world with the callers in it, and what may happen next;
* `advance`, `run`: what turns leave; `run_replicate`: the steps of a call that is not interrupted;
* `Granted`: every turn is one that is allowed when it is taken; `run_preserves`: what every such
  turn preserves is preserved by all of them;
* `advance_happened`: a turn changes the books by deeds, if the steps of calls do;
* `run_rank`, `run_over`: a call whose steps bring it nearer to its end is as much nearer after a run
  as it took steps, and has come to its end when it took enough.
-/

import Passbook.Proofs.Operation.Run

namespace Passbook.Turns

open Passbook.Operation (Call Happened)
open Passbook.Store

/-- A call in steps. -/
structure Course (ι σ : Type) where
  start : ι → σ
  next : Session → σ → World → σ × World

/-- The world, and how far each caller has come. -/
structure Scene (σ : Type) where
  world : World
  callers : List σ

/-- What is in the books. -/
abbrev Scene.books {σ : Type} (scene : Scene σ) : Books := scene.world.books

/-- What operations leave, before anyone calls. -/
def quiet (supply : Supply) {σ : Type} (calls : List Call) : Scene σ :=
  ⟨Operation.play calls (.fresh supply), []⟩

/-- What may happen next. Callers are told by their place. -/
inductive Turn (ι : Type) where
  | arrive (input : ι)
  | step (place : Nat) (session : Session)
  /-- Any operation from beginning to end. -/
  | other (call : Call)

variable {ι σ : Type} {course : Course ι σ}

/-- What a turn leaves. -/
def advance (course : Course ι σ) (scene : Scene σ) : Turn ι → Scene σ
  | .arrive input => { scene with callers := scene.callers ++ [course.start input] }
  | .step place session =>
    match scene.callers[place]? with
    | none => scene
    | some caller =>
      let (caller, world) := course.next session caller scene.world
      ⟨world, scene.callers.set place caller⟩
  | .other call => { scene with world := (call.run scene.world).2 }

theorem advance_step {scene : Scene σ} {place : Nat} {caller : σ} (session : Session)
    (there : scene.callers[place]? = some caller) :
    advance course scene (.step place session) =
      ⟨(course.next session caller scene.world).2,
        scene.callers.set place (course.next session caller scene.world).1⟩ := by
  simp only [advance, there]

/-- A step of no caller is none. -/
theorem advance_of_none {scene : Scene σ} {place : Nat} (session : Session)
    (none : scene.callers[place]? = none) :
    advance course scene (.step place session) = scene := by
  simp only [advance, none]

/-- What turns leave, one after another. -/
def run (course : Course ι σ) : List (Turn ι) → Scene σ → Scene σ
  | [], scene => scene
  | turn :: rest, scene => run course rest (advance course scene turn)

theorem run_append (turns later : List (Turn ι)) (scene : Scene σ) :
    run course (turns ++ later) scene = run course later (run course turns scene) := by
  induction turns generalizing scene with
  | nil => rfl
  | cons turn rest ih => exact ih _

/-- A turn is one of a caller, and not an operation from beginning to end. -/
def Turn.isCallers : Turn ι → Bool
  | .other _ => false
  | _ => true

/-! ### Calls that are not interrupted -/

/-- Some steps of a call, one after another. -/
def Course.go (course : Course ι σ) (session : Session) : Nat → σ × World → σ × World
  | 0, reached => reached
  | count + 1, reached => course.go session count (course.next session reached.1 reached.2)

/-- **The steps of a call that is not interrupted** are those of the call by itself. -/
theorem run_replicate (session : Session) (count : Nat) (callers : List σ) (caller : σ)
    (world : World) :
    run course (List.replicate count (.step callers.length session)) ⟨world, callers ++ [caller]⟩ =
      ⟨(course.go session count (caller, world)).2,
        callers ++ [(course.go session count (caller, world)).1]⟩ := by
  induction count generalizing caller world with
  | zero => rfl
  | succ count ih =>
    have stepped : advance course ⟨world, callers ++ [caller]⟩ (.step callers.length session) =
        ⟨(course.next session caller world).2,
          callers ++ [(course.next session caller world).1]⟩ := by
      simp [advance]
    rw [List.replicate_succ, run, stepped]
    exact ih _ _

/-! ### Turns that are allowed -/

/-- Every turn is one that is allowed in the world in which it is taken. -/
def Granted (course : Course ι σ) (allows : World → Turn ι → Prop) :
    List (Turn ι) → Scene σ → Prop
  | [], _ => True
  | turn :: rest, scene =>
    allows scene.world turn ∧ Granted course allows rest (advance course scene turn)

instance decideGranted (course : Course ι σ) (allows : World → Turn ι → Prop)
    [∀ world turn, Decidable (allows world turn)] :
    ∀ turns scene, Decidable (Granted course allows turns scene)
  | [], _ => inferInstanceAs (Decidable True)
  | turn :: rest, scene =>
    have := decideGranted course allows rest (advance course scene turn)
    inferInstanceAs (Decidable (allows scene.world turn ∧ _))

/-- Where every turn is allowed, all of them are. -/
theorem Granted.always {allows : World → Turn ι → Prop} (all : ∀ world turn, allows world turn)
    (turns : List (Turn ι)) (scene : Scene σ) : Granted course allows turns scene := by
  induction turns generalizing scene with
  | nil => trivial
  | cons turn rest ih => exact ⟨all scene.world turn, ih _⟩

/-- **What every allowed turn preserves is preserved by all of them.** -/
theorem run_preserves {allows : World → Turn ι → Prop} {holds : Scene σ → Prop}
    (step : ∀ scene turn, allows scene.world turn → holds scene →
      holds (advance course scene turn))
    (turns : List (Turn ι)) {scene : Scene σ} (granted : Granted course allows turns scene)
    (start : holds scene) : holds (run course turns scene) := by
  induction turns generalizing scene with
  | nil => exact start
  | cons turn rest ih => exact ih granted.2 (step scene turn granted.1 start)

/-- A caller after a turn is there for the first time, has taken a step, or was there before. -/
theorem mem_advance {scene : Scene σ} {turn : Turn ι} {caller : σ}
    (member : caller ∈ (advance course scene turn).callers) :
    (∃ input, turn = .arrive input ∧ caller = course.start input) ∨
      (∃ place session, ∃ was ∈ scene.callers, turn = .step place session ∧
        caller = (course.next session was scene.world).1 ∧
        (advance course scene turn).world = (course.next session was scene.world).2) ∨
      caller ∈ scene.callers := by
  cases turn with
  | arrive input =>
    rcases List.mem_append.mp member with old | new
    · exact .inr (.inr old)
    · exact .inl ⟨input, rfl, List.mem_singleton.mp new⟩
  | step place session =>
    cases there : scene.callers[place]? with
    | none =>
      rw [advance_of_none session there] at member
      exact .inr (.inr member)
    | some was =>
      rw [advance_step session there] at member ⊢
      rcases List.mem_or_eq_of_mem_set member with old | new
      · exact .inr (.inr old)
      · exact .inr (.inl ⟨place, session, was, List.mem_of_getElem? there, rfl, new, rfl⟩)
  | other call => exact .inr (.inr member)

/-- A turn changes the books by deeds, if at all, where steps do. -/
theorem advance_happened {scene : Scene σ} {turn : Turn ι} (sound : Sound scene.books)
    (steps : ∀ place session caller, turn = .step place session →
      scene.callers[place]? = some caller →
        ∃ kinds, Happened kinds scene.books (course.next session caller scene.world).2.books) :
    ∃ kinds, Happened kinds scene.books (advance course scene turn).books := by
  cases turn with
  | arrive input => exact ⟨[], .nothing⟩
  | other call => exact ⟨call.kinds, call.happened sound⟩
  | step place session =>
    cases there : scene.callers[place]? with
    | none =>
      rw [advance_of_none session there]
      exact ⟨[], .nothing⟩
    | some caller =>
      rw [advance_step session there]
      exact steps place session caller rfl there

/-! ### Calls that come to an end -/

/-- A turn is a step of the caller in a place. -/
def Turn.isStepOf (place : Nat) : Turn ι → Bool
  | .step taken _ => taken == place
  | _ => false

/-- **A call comes nearer to its end by every step it takes**, whatever happens in between. -/
theorem run_rank (rank : σ → Nat)
    (nearer : ∀ session caller world, rank (course.next session caller world).1 ≤ rank caller - 1)
    (turns : List (Turn ι)) {scene : Scene σ} {place : Nat} {caller : σ}
    (there : scene.callers[place]? = some caller) :
    ∃ later, (run course turns scene).callers[place]? = some later ∧
      rank later ≤ rank caller - turns.countP (Turn.isStepOf place) := by
  induction turns generalizing scene caller with
  | nil => exact ⟨caller, there, Nat.le_refl _⟩
  | cons turn rest ih =>
    have inside : place < scene.callers.length := (List.getElem?_eq_some_iff.mp there).1
    cases turn with
    | arrive input =>
      have still : (advance course scene (.arrive input)).callers[place]? = some caller := by
        rw [advance, List.getElem?_append_left inside]
        exact there
      simpa [Turn.isStepOf, run] using ih still
    | other call =>
      have still : (advance course scene (.other call)).callers[place]? = some caller := there
      simpa [Turn.isStepOf, run] using ih still
    | step other session =>
      by_cases same : other = place
      · subst same
        have moved : (advance course scene (.step other session)).callers[other]? =
            some (course.next session caller scene.world).1 := by
          rw [advance_step session there]
          exact List.getElem?_set_self inside
        obtain ⟨later, found, bound⟩ := ih moved
        refine ⟨later, found, bound.trans ?_⟩
        have less := nearer session caller scene.world
        rw [List.countP_cons_of_pos (by simp [Turn.isStepOf])]
        omega
      · have still : (advance course scene (.step other session)).callers[place]? =
            some caller := by
          cases its : scene.callers[other]? with
          | none =>
            rw [advance_of_none session its]
            exact there
          | some was =>
            rw [advance_step session its]
            exact (List.getElem?_set_ne same).trans there
        simpa [Turn.isStepOf, same, run] using ih still

/-- It has come to its end when it took as many as were left. -/
theorem run_over (rank : σ → Nat)
    (nearer : ∀ session caller world, rank (course.next session caller world).1 ≤ rank caller - 1)
    (turns : List (Turn ι)) {scene : Scene σ} {place : Nat} {caller : σ}
    (there : scene.callers[place]? = some caller)
    (enough : rank caller ≤ turns.countP (Turn.isStepOf place)) :
    ∃ later, (run course turns scene).callers[place]? = some later ∧ rank later = 0 := by
  obtain ⟨later, found, bound⟩ := run_rank rank nearer turns there
  exact ⟨later, found, by omega⟩

end Passbook.Turns
