/-
**How units of work and operations end.**

* `Work.bind_eq_ok` and its like: when a unit of work ends with a result, and what it leaves then;
* `Action.Ends`: an operation that is refused leaves the world as it was; one that is not has done
  its part. `Ends.atomically` holds of every unit of work, and the rules after it carry the
  property through a sequence: reading comes first (`Ends.after`), making known comes last
  (`Ends.andThen`);
* `Action.Ends.unchanged`: what all of this is for, nothing is left of a refused operation.
-/

import Passbook.Proofs.Verdict
import Passbook.Store.Session

namespace Passbook.Store

namespace Work

variable {ε ε' α β : Type} {before after : Books}

/-! ### Sequences of units of work -/

theorem bind_of_error {work : Work ε α} {next : α → Work ε β} {cause : ε}
    (failed : work before = .error cause) : (work >>= next) before = .error cause := by
  show (StateT.bind work next) before = _
  simp only [StateT.bind, bind, Except.bind, failed]

theorem bind_of_ok {work : Work ε α} {next : α → Work ε β} {value : α}
    (done : work before = .ok (value, after)) : (work >>= next) before = next value after := by
  show (StateT.bind work next) before = _
  simp only [StateT.bind, bind, Except.bind, done]

/-! ### Units of work that end with a result -/

@[simp]
theorem bind_eq_ok {work : Work ε α} {next : α → Work ε β} {value : β} :
    (work >>= next) before = .ok (value, after) ↔
      ∃ result middle, work before = .ok (result, middle) ∧
        next result middle = .ok (value, after) := by
  show (StateT.bind work next) before = _ ↔ _
  unfold StateT.bind
  cases work before with
  | error cause => simp [bind, Except.bind]
  | ok outcome =>
    obtain ⟨result, middle⟩ := outcome
    simp only [bind, Except.bind, Except.ok.injEq, Prod.mk.injEq]
    constructor
    · exact fun ran => ⟨result, middle, ⟨rfl, rfl⟩, ran⟩
    · rintro ⟨_, _, ⟨rfl, rfl⟩, ran⟩
      exact ran

@[simp]
theorem pure_eq_ok {value result : α} :
    (pure value : Work ε α) before = .ok (result, after) ↔ value = result ∧ before = after := by
  show Except.ok (value, before) = _ ↔ _
  simp

@[simp]
theorem throw_eq_ok {cause : ε} {result : α} :
    (throw cause : Work ε α) before = .ok (result, after) ↔ False := by
  show Except.error cause = _ ↔ _
  simp

@[simp]
theorem get_eq_ok {books : Books} :
    (get : Work ε Books) before = .ok (books, after) ↔ before = books ∧ before = after := by
  show Except.ok (before, before) = _ ↔ _
  simp

@[simp]
theorem map_eq_ok {work : Work ε α} {change : α → β} {value : β} :
    (change <$> work) before = .ok (value, after) ↔
      ∃ result, work before = .ok (result, after) ∧ change result = value := by
  rw [← bind_pure_comp, bind_eq_ok]
  simp only [pure_eq_ok]
  constructor
  · rintro ⟨result, _, ran, same, rfl⟩
    exact ⟨result, ran, same⟩
  · rintro ⟨result, ran, same⟩
    exact ⟨result, after, ran, same, rfl⟩

@[simp]
theorem mapError_eq_ok {change : ε → ε'} {work : Work ε α} {value : α} :
    mapError change work before = .ok (value, after) ↔ work before = .ok (value, after) := by
  unfold mapError
  exact Verdict.mapError_eq_ok

@[simp]
theorem stored_eq_ok [StorageCause ε] {work : Work StorageFault α} {value : α} :
    (stored work : Work ε α) before = .ok (value, after) ↔ work before = .ok (value, after) :=
  mapError_eq_ok

@[simp]
theorem verdict_eq_ok {result : Except ε α} {value : α} :
    verdict result before = .ok (value, after) ↔ result = .ok value ∧ before = after := by
  cases result <;> simp [verdict, Except.map]

@[simp]
theorem found_eq_ok {cause : ε} {row : Option α} {value : α} :
    found cause row before = .ok (value, after) ↔ row = some value ∧ before = after := by
  cases row <;> simp [found]

@[simp]
theorem fresh_eq_ok [StorageCause ε] {uuid : Uuid} :
    (fresh : Work ε Uuid) before = .ok (uuid, after) ↔
      before.next? = some uuid ∧
        { before with issued := before.issued + 1 } = after := by
  unfold fresh
  split <;> simp_all

/-- A row that is looked up was chosen, and nothing else happened. -/
theorem of_lookUp [StorageCause ε] {ρ : Type} {sheet : Sheet ρ} {choose : Books → Option ρ}
    {row : Option ρ} (ran : (lookUp sheet choose : Work ε (Option ρ)) before = .ok (row, after)) :
    choose before = row ∧ before = after := by
  rw [lookUp, stored_eq_ok, readRow] at ran
  split at ran
  · simpa using ran
  · simp at ran

/-- Rows that are looked up were chosen, and nothing else happened. -/
theorem of_gather [StorageCause ε] {ρ : Type} {sheet : Sheet ρ} {choose : Books → List ρ}
    {rows : List ρ} (ran : (gather sheet choose : Work ε (List ρ)) before = .ok (rows, after)) :
    choose before = rows ∧ before = after := by
  rw [gather, stored_eq_ok, readRows] at ran
  split at ran
  · simpa using ran
  · simp at ran

end Work

namespace Action

variable {ε ε' α β : Type}

/-! ### Sequences of operations -/

theorem bind_of_error {action : Action ε α} {next : α → Action ε β} {world after : World}
    {cause : ε} (failed : action world = (.error cause, after)) :
    (action >>= next) world = (.error cause, after) := by
  show (ExceptT.bind action next) world = _
  simp only [ExceptT.bind, ExceptT.mk, bind, StateT.bind]
  rw [show action world = _ from failed]
  rfl

theorem bind_of_ok {action : Action ε α} {next : α → Action ε β} {world after : World}
    {value : α} (done : action world = (.ok value, after)) :
    (action >>= next) world = next value after := by
  show (ExceptT.bind action next) world = _
  simp only [ExceptT.bind, ExceptT.mk, bind, StateT.bind]
  rw [show action world = _ from done]
  rfl

/-- Errors may be changed after a sequence of operations or within it. -/
theorem mapError_bind (change : ε → ε') (action : Action ε α) (next : α → Action ε β) :
    mapError change (action >>= next) =
      mapError change action >>= fun value => mapError change (next value) := by
  funext world
  cases ended : action world with
  | mk result after =>
  have changed : mapError change action world = (result.mapError change, after) := by
    unfold mapError
    rw [ended]
  cases result with
  | error cause =>
    rw [bind_of_error changed]
    unfold mapError
    rw [bind_of_error ended]
    rfl
  | ok value =>
    rw [bind_of_ok changed]
    unfold mapError
    rw [bind_of_ok ended]

/-- What is told with an error may be left out again. -/
theorem mapError_undone {change : ε → ε'} {undo : ε' → ε}
    (undone : ∀ cause, undo (change cause) = cause) (action : Action ε α) :
    mapError undo (mapError change action) = action := by
  funext world
  unfold mapError
  cases action world with
  | mk result after =>
    cases result with
    | error cause => exact congrArg (fun cause => (Except.error cause, after)) (undone cause)
    | ok value => rfl

theorem attempt_of_error {action : Action ε α} {world after : World} {cause : ε}
    (failed : action world = (.error cause, after)) :
    (attempt action : Action ε' (Except ε α)) world = (.ok (.error cause), after) := by
  unfold attempt
  rw [failed]

theorem attempt_of_ok {action : Action ε α} {world after : World} {value : α}
    (done : action world = (.ok value, after)) :
    (attempt action : Action ε' (Except ε α)) world = (.ok (.ok value), after) := by
  unfold attempt
  rw [done]

/-- What is tried before failing for another cause is left, whether it is refused or not. -/
theorem attempt_throw (action : Action ε α) (cause : ε') (world : World) :
    ((attempt action : Action ε' (Except ε α)) >>= fun _ => (throw cause : Action ε' β)) world =
      (.error cause, (action world).2) := by
  cases ended : action world with
  | mk result after =>
    cases result with
    | error other =>
      rw [bind_of_ok (attempt_of_error ended)]
      rfl
    | ok value =>
      rw [bind_of_ok (attempt_of_ok ended)]
      rfl

/-- **A unit of work ends in one of two ways**: refused, the world being as before, or committed. -/
theorem atomically_cases [StorageCause ε] (session : Session) (work : Work ε α) (world : World) :
    (∃ cause, atomically session work world = (.error cause, world)) ∨
      ∃ value books, atomically session work world = (.ok value, { world with books := books }) ∧
        work world.books = .ok (value, books) := by
  unfold atomically
  split
  · exact .inl ⟨_, rfl⟩
  · split
    · rename_i value books ran
      exact .inr ⟨value, books, rfl, ran⟩
    · exact .inl ⟨_, rfl⟩

/-- A unit of work that can be done is committed, unless the storage cannot be reached. -/
theorem atomically_of_ok [StorageCause ε] {session : Session} {work : Work ε α} {world : World}
    {value : α} {books : Books} (reached : session.faults.blocked = false)
    (ran : work world.books = .ok (value, books)) :
    atomically session work world = (.ok value, { world with books := books }) := by
  unfold atomically
  rw [reached, ran]
  rfl

theorem atomically_of_error [StorageCause ε] {session : Session} {work : Work ε α} {world : World}
    {cause : ε} (reached : session.faults.blocked = false)
    (failed : work world.books = .error cause) :
    atomically session work world = (.error cause, world) := by
  unfold atomically
  rw [reached, failed]
  rfl

theorem atomically_of_blocked [StorageCause ε] {session : Session} {work : Work ε α}
    {world : World} (blocked : session.faults.blocked = true) :
    atomically session work world = (.error (StorageCause.ofFault .unreachable), world) := by
  unfold atomically
  rw [if_pos blocked]

/-- A unit of work that is refused where the storage can be reached is refused by itself. -/
theorem error_of_atomically [StorageCause ε] {session : Session} {work : Work ε α}
    {world after : World} {cause : ε} (reached : session.faults.blocked = false)
    (failed : atomically session work world = (.error cause, after)) :
    work world.books = .error cause := by
  unfold atomically at failed
  rw [reached] at failed
  cases ran : work world.books with
  | error fault =>
    simp only [ran, Bool.false_eq_true, if_false] at failed
    cases failed
    rfl
  | ok outcome =>
    simp only [ran, Bool.false_eq_true, if_false] at failed
    cases failed

/-! ### All or nothing -/

/-- An operation that is refused and leaves the world as it was, or else has done its part. -/
def Ends (action : Action ε α) (part : World → α → World → Prop) : Prop :=
  ∀ world, (∃ cause, action world = (.error cause, world)) ∨
    ∃ value after, action world = (.ok value, after) ∧ part world value after

namespace Ends

variable {action : Action ε α} {part : World → α → World → Prop}

/-- Nothing is left of a refused operation. -/
theorem unchanged (ends : Ends action part) {world : World} {cause : ε}
    (failed : (action world).1 = .error cause) : (action world).2 = world := by
  rcases ends world with ⟨_, same⟩ | ⟨value, after, same, _⟩
  · rw [same]
  · rw [same] at failed
    cases failed

/-- An operation that is not refused has done its part. -/
theorem part_of_ok (ends : Ends action part) {world : World} {value : α}
    (done : (action world).1 = .ok value) : part world value (action world).2 := by
  rcases ends world with ⟨_, same⟩ | ⟨result, after, same, did⟩
  · rw [same] at done
    cases done
  · rw [same] at done ⊢
    cases done
    exact did

theorem mono {other : World → α → World → Prop} (ends : Ends action part)
    (weaker : ∀ world value after, part world value after → other world value after) :
    Ends action other := fun world =>
  (ends world).imp id fun ⟨value, after, same, did⟩ =>
    ⟨value, after, same, weaker world value after did⟩

theorem pure (value : α) :
    Ends (Pure.pure value : Action ε α) fun world result after => result = value ∧ after = world :=
  fun world => .inr ⟨value, world, rfl, rfl, rfl⟩

theorem throw (cause : ε) : Ends (MonadExcept.throw cause : Action ε α) part :=
  fun _ => .inl ⟨cause, rfl⟩

/-- An operation that is refused on a condition goes on without it. -/
theorem without {condition : Prop} [Decidable condition] (cause : ε) {next : Unit → Action ε α}
    (rest : ¬condition → Ends (next ()) part) :
    Ends (if condition then (MonadExcept.throw cause : Action ε Unit) >>= next else next ())
      part := by
  intro world
  by_cases holds : condition
  · rw [if_pos holds]
    exact .inl ⟨cause, rfl⟩
  · rw [if_neg holds]
    exact rest holds world

theorem verdict (result : Except ε α) :
    Ends (Action.verdict result) fun world value after => result = .ok value ∧ after = world := by
  intro world
  cases result with
  | error cause => exact .inl ⟨cause, rfl⟩
  | ok value => exact .inr ⟨value, world, rfl, rfl, rfl⟩

theorem found (cause : ε) (row : Option α) :
    Ends (Action.found cause row) fun world value after => row = some value ∧ after = world := by
  intro world
  cases row with
  | none => exact .inl ⟨cause, rfl⟩
  | some value => exact .inr ⟨value, world, rfl, rfl, rfl⟩

theorem atomically [StorageCause ε] (session : Session) (work : Work ε α) :
    Ends (Action.atomically session work) fun world value after =>
      ∃ books, work world.books = .ok (value, books) ∧ after = { world with books := books } :=
  fun world => (atomically_cases session work world).imp id fun ⟨value, books, same, ran⟩ =>
    ⟨value, _, same, books, ran, rfl⟩

theorem rehearse [StorageCause ε] (session : Session) (work : Work ε α) :
    Ends (Action.rehearse session work) fun world _ after => after = world := by
  intro world
  unfold Action.rehearse
  cases (Action.atomically session work world).1 with
  | error cause => exact .inl ⟨cause, rfl⟩
  | ok value => exact .inr ⟨value, world, rfl, rfl⟩

theorem lookUp [StorageCause ε] {ρ : Type} (session : Session) (sheet : Sheet ρ)
    (choose : Books → Option ρ) :
    Ends (Action.lookUp session sheet choose : Action ε (Option ρ)) fun world row after =>
      choose world.books = row ∧ after = world :=
  (atomically session _).mono fun world row after ⟨books, ran, same⟩ => by
    obtain ⟨chosen, rfl⟩ := Work.of_lookUp ran
    exact ⟨chosen, same⟩

theorem gather [StorageCause ε] {ρ : Type} (session : Session) (sheet : Sheet ρ)
    (choose : Books → List ρ) :
    Ends (Action.gather session sheet choose : Action ε (List ρ)) fun world rows after =>
      choose world.books = rows ∧ after = world :=
  (atomically session _).mono fun world rows after ⟨books, ran, same⟩ => by
    obtain ⟨chosen, rfl⟩ := Work.of_gather ran
    exact ⟨chosen, same⟩

theorem gatherPage [StorageCause ε] {ρ : Type} (session : Session) (sheet : Sheet ρ)
    (choose : Books → List ρ) (request : PageRequest) :
    Ends (Action.gatherPage session sheet choose request : Action (Halt ε) (Page ρ))
      fun world _ after => after = world :=
  (atomically session _).mono fun world page after ⟨books, ran, same⟩ => by
    rw [Work.mapError_eq_ok, readPage] at ran
    split at ran
    · cases ran
    · simp only at ran
      split at ran
      · cases ran
        exact same
      · cases ran

/-- An operation whose result is seen otherwise. -/
theorem map (change : α → β) (ends : Ends action part) :
    Ends (change <$> action) fun world value after =>
      ∃ result, part world result after ∧ value = change result := by
  intro world
  rw [← bind_pure_comp]
  rcases ends world with ⟨cause, same⟩ | ⟨value, after, same, did⟩
  · exact .inl ⟨cause, bind_of_error same⟩
  · exact .inr ⟨change value, after, bind_of_ok same, value, did, rfl⟩

theorem mapError (change : ε → ε') (ends : Ends action part) :
    Ends (Action.mapError change action) part := by
  intro world
  unfold Action.mapError
  rcases ends world with ⟨cause, same⟩ | ⟨value, after, same, did⟩
  · rw [same]
    exact .inl ⟨change cause, rfl⟩
  · rw [same]
    exact .inr ⟨value, after, rfl, did⟩

/-- **Reading first.** An operation that comes after one that changes nothing. -/
theorem after {seen : World → α → Prop} {next : α → Action ε β}
    {rest : α → World → β → World → Prop}
    (first : Ends action fun world value after => seen world value ∧ after = world)
    (second : ∀ value, Ends (next value) (rest value)) :
    Ends (action >>= next) fun world result after =>
      ∃ value, seen world value ∧ rest value world result after := by
  intro world
  rcases first world with ⟨cause, same⟩ | ⟨value, middle, same, did, rfl⟩
  · exact .inl ⟨cause, bind_of_error same⟩
  · rw [bind_of_ok same]
    exact (second value middle).imp id fun ⟨result, last, ran, finished⟩ =>
      ⟨result, last, ran, value, did, finished⟩

/-- What an operation that only looks leaves. -/
theorem left {seen : World → α → Prop}
    (looks : Ends action fun world value after => seen world value ∧ after = world)
    (world : World) : (action world).2 = world := by
  rcases looks world with ⟨cause, same⟩ | ⟨value, after, same, _, rfl⟩
  · rw [same]
  · rw [same]

/-- **Making known last.** An operation that comes before one that cannot be refused. -/
theorem andThen {next : α → Action ε β} (tell : α → World → World) (answer : α → β)
    (first : Ends action part)
    (second : ∀ value world, next value world = (.ok (answer value), tell value world)) :
    Ends (action >>= next) fun world result after =>
      ∃ value middle, part world value middle ∧ result = answer value ∧
        after = tell value middle := by
  intro world
  rcases first world with ⟨cause, same⟩ | ⟨value, middle, same, did⟩
  · exact .inl ⟨cause, bind_of_error same⟩
  · rw [bind_of_ok same, second]
    exact .inr ⟨_, _, rfl, value, middle, did, rfl, rfl⟩

end Ends

end Action

end Passbook.Store
