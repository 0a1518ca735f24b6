/-
**Operations that keep to some of the places.**

* `Contained`: among the rows of its places alone an operation ends as it does among all rows, and
  it leaves the rows of other places, also when it is refused;
* `Contained.bind` and its like: operations that are made of such operations and units of work;
* `Contained.undisturbed`: where an operation keeps to other places, one that follows it ends as it
  would have without it;
* `Contained.commute`: operations whose places are apart may be done in either order.
-/

import Passbook.Proofs.Store.Confined

namespace Passbook.Store

variable {ε ε' α β : Type} {scope scope' : Scope}

/-- Among the rows of its places alone an operation ends as it does among all rows, and it leaves
the rows of other places. -/
structure Contained (scope : Scope) (action : Action ε α) : Prop where
  within : ∀ {world world'}, Sound world.books → world'.books = world.books.within scope →
    (action world').1 = (action world).1 ∧
      (action world').2.books = (action world).2.books.within scope
  beyond : ∀ {world}, Sound world.books → Sound (action world).2.books ∧
    (action world).2.books.within scope.others = world.books.within scope.others

namespace Contained

/-- An operation that leaves the world and ends the same whatever the books are. -/
theorem steady {action : Action ε α} (result : Except ε α)
    (ends : ∀ world, ((action world).1 = result ∧ (action world).2.books = world.books)) :
    Contained scope action where
  within := fun {world world'} _ same => by
    rw [(ends world).1, (ends world).2, (ends world').1, (ends world').2, same]
    exact ⟨rfl, rfl⟩
  beyond := fun {world} sound => by
    rw [(ends world).2]
    exact ⟨sound, rfl⟩

theorem verdict (result : Except ε α) : Contained scope (Action.verdict result) :=
  steady result fun _ => ⟨rfl, rfl⟩

theorem pure (value : α) : Contained scope (Pure.pure value : Action ε α) :=
  steady (.ok value) fun _ => ⟨rfl, rfl⟩

theorem throw (cause : ε) : Contained scope (MonadExcept.throw cause : Action ε α) :=
  steady (.error cause) fun _ => ⟨rfl, rfl⟩

theorem atomically [StorageCause ε] (session : Session) {work : Work ε α}
    (confined : Confined scope work) : Contained scope (Action.atomically session work) where
  within := fun {world world'} sound same => by
    have ran := confined.within sound
    rw [← same] at ran
    unfold Action.atomically
    by_cases blocked : session.faults.blocked = true
    · rw [if_pos blocked, if_pos blocked]
      exact ⟨rfl, same⟩
    · rw [if_neg blocked, if_neg blocked, ran]
      cases work world.books with
      | error cause => exact ⟨rfl, same⟩
      | ok done => exact ⟨rfl, rfl⟩
  beyond := fun {world} sound => by
    rcases Action.atomically_cases session work world with ⟨cause, same⟩ | ⟨value, after, same, ran⟩
    · rw [same]
      exact ⟨sound, rfl⟩
    · rw [same]
      exact confined.beyond sound ran

theorem mapError {action : Action ε α} (change : ε → ε') (contained : Contained scope action) :
    Contained scope (Action.mapError change action) where
  within := fun {world world'} sound same => by
    obtain ⟨ends, left⟩ := contained.within sound same
    exact ⟨congrArg (Except.mapError change) ends, left⟩
  beyond sound := contained.beyond sound

theorem attempt {action : Action ε α} (contained : Contained scope action) :
    Contained scope (Action.attempt action : Action ε' (Except ε α)) where
  within := fun {world world'} sound same => by
    obtain ⟨ends, left⟩ := contained.within sound same
    exact ⟨congrArg Except.ok ends, left⟩
  beyond sound := contained.beyond sound

/-- An operation that is followed by others, of which no more has to be known than what it may end
with. -/
theorem bind {action : Action ε α} {next : α → Action ε β} (first : Contained scope action)
    (rest : ∀ {value world after}, action world = (.ok value, after) →
      Contained scope (next value)) : Contained scope (action >>= next) where
  within := fun {world world'} sound same => by
    obtain ⟨ends, left⟩ := first.within sound same
    obtain ⟨sound', -⟩ := first.beyond sound
    cases ran : action world with
    | mk result after =>
    cases ran' : action world' with
    | mk result' after' =>
    rw [ran, ran'] at ends left
    rw [ran] at sound'
    obtain rfl : result' = result := ends
    cases result' with
    | error cause =>
      rw [Action.bind_of_error ran, Action.bind_of_error ran']
      exact ⟨rfl, left⟩
    | ok value =>
      rw [Action.bind_of_ok ran, Action.bind_of_ok ran']
      exact (rest ran).within sound' left
  beyond := fun {world} sound => by
    obtain ⟨sound', same⟩ := first.beyond sound
    cases ran : action world with
    | mk result after =>
    rw [ran] at sound' same
    cases result with
    | error cause =>
      rw [Action.bind_of_error ran]
      exact ⟨sound', same⟩
    | ok value =>
      rw [Action.bind_of_ok ran]
      obtain ⟨sound'', same'⟩ := (rest ran).beyond sound'
      exact ⟨sound'', same'.trans same⟩

/-- A verdict that is followed by an operation. -/
theorem verdict_bind {result : Except ε α} {next : α → Action ε β}
    (rest : ∀ value, result = .ok value → Contained scope (next value)) :
    Contained scope (Action.verdict result >>= next) :=
  (verdict result).bind fun ended => rest _ (congrArg Prod.fst ended)

/-! ### Places that are apart -/

variable {first : Action ε α} {second : Action ε' β} {world : World}

/-- **Where an operation keeps to other places**, one that follows it ends as it would have without
it. -/
theorem undisturbed (one : Contained scope first) (two : Contained scope' second)
    (apart : scope.Apart scope') (sound : Sound world.books) :
    (second (first world).2).1 = (second world).1 ∧
      (second (first world).2).2.books.within scope' = (second world).2.books.within scope' := by
  obtain ⟨sound', same⟩ := one.beyond sound
  let part : World := ⟨world.books.within scope', []⟩
  have before : part.books = (first world).2.books.within scope' := (apart.within_eq same).symm
  obtain ⟨ends, left⟩ := two.within sound (rfl : part.books = world.books.within scope')
  obtain ⟨ends', left'⟩ := two.within sound' before
  exact ⟨ends'.symm.trans ends, left'.symm.trans left⟩

/-- Beyond the places of both, operations that are done one after another leave the rows. -/
theorem beyond_both (one : Contained scope first) (two : Contained scope' second)
    (sound : Sound world.books) :
    (second (first world).2).2.books.within (scope'.others.and scope.others) =
      world.books.within (scope'.others.and scope.others) := by
  obtain ⟨sound', same⟩ := one.beyond sound
  obtain ⟨-, same'⟩ := two.beyond sound'
  rw [Scope.and_comm, ← within_within, same', within_within, Scope.and_comm, ← within_within, same,
    within_within]

/-- **Operations whose places are apart may be done in either order.** Each ends as it would have
alone, and both orders leave the same rows. -/
theorem commute (one : Contained scope first) (two : Contained scope' second)
    (apart : scope.Apart scope') (sound : Sound world.books) :
    (second (first world).2).1 = (second world).1 ∧
      (first (second world).2).1 = (first world).1 ∧
      SameRows (second (first world).2).2.books (first (second world).2).2.books := by
  obtain ⟨ends, left⟩ := one.undisturbed two apart sound
  obtain ⟨ends', left'⟩ := two.undisturbed one apart.symm sound
  obtain ⟨sound₁, -⟩ := one.beyond sound
  obtain ⟨sound₂, -⟩ := two.beyond sound
  have rows : (second (first world).2).2.books.within scope =
      (first (second world).2).2.books.within scope :=
    (apart.symm.within_eq (two.beyond sound₁).2).trans left'.symm
  have rows' : (second (first world).2).2.books.within scope' =
      (first (second world).2).2.books.within scope' :=
    left.trans (apart.within_eq (one.beyond sound₂).2).symm
  refine ⟨ends, ends', sameRows_of_within rows rows' ?_⟩
  rw [one.beyond_both two sound, Scope.and_comm, two.beyond_both one sound]

end Contained

end Passbook.Store
