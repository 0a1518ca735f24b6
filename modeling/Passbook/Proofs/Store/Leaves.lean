/-
**What operations on sound books leave.**

* `Leaves`: sound books are changed as told, and what is told of the change is published after
  what was published before;
* `Ends.leaves`: a unit of work by itself; `Ends.leavesAndTells`: one whose change is made known
  after it; `Ends.looks`: looking without changing.
-/

import Passbook.Proofs.Store.Sound

namespace Passbook.Store

/-- Books stay as they are. -/
def Unchanged {α : Type} (before : Books) (_ : α) (after : Books) : Prop := after = before

namespace Action

variable {ε ε' α β : Type}

/-- Sound books are changed as told, and what is to be made known of it is published. -/
structure Leaves (change : Books → α → Books → Prop) (news : α → List Event) (world : World)
    (value : α) (after : World) : Prop where
  changed : Sound world.books → change world.books value after.books
  published : after.published = world.published ++ news value

namespace Ends

variable {change : Books → α → Books → Prop} {news : α → List Event}

/-- A unit of work by itself. -/
theorem leaves [StorageCause ε] (session : Session) {work : Work ε α}
    (changed : ∀ {before value after}, Sound before → work before = .ok (value, after) →
      change before value after) :
    Ends (Action.atomically session work) (Leaves change fun _ => []) :=
  (atomically session work).mono fun world value after ⟨books, ran, same⟩ => by
    subst same
    exact ⟨fun sound => changed sound ran, (List.append_nil _).symm⟩

/-- A unit of work whose change is made known after it. -/
theorem leavesAndTells {action : Action ε α} (event : α → Event)
    (ends : Ends action (Leaves change fun _ => [])) :
    Ends (action >>= fun value => Action.publish (event value) >>= fun _ => Pure.pure value)
      (Leaves change fun value => [event value]) :=
  (ends.andThen (fun value world =>
      { world with published := world.published ++ [event value] }) id fun _ _ => rfl).mono
    fun world value after ⟨_, middle, did, same, told⟩ => by
      subst same told
      refine ⟨did.changed, ?_⟩
      show middle.published ++ [event _] = _
      rw [did.published, List.append_nil]

/-- Looking before an operation. -/
theorem leavesAfter {seen : World → β → Prop} {look : Action ε β} {next : β → Action ε α}
    (change' : β → Books → α → Books → Prop)
    (first : Ends look fun world value after => seen world value ∧ after = world)
    (second : ∀ value, Ends (next value) (Leaves (change' value) news))
    (changed : ∀ {world value before result after}, seen world value → before = world.books →
      Sound before → change' value before result after → change before result after) :
    Ends (look >>= next) (Leaves change news) :=
  (first.after second).mono fun _ _ _ ⟨_, saw, did⟩ =>
    ⟨fun sound => changed saw rfl sound (did.changed sound), did.published⟩

/-- Looking without changing. -/
theorem looks {action : Action ε α}
    (ends : Ends action fun world _ after => after = world) :
    Ends action (Leaves Unchanged fun _ => []) :=
  ends.mono fun world value after same => by
    subst same
    exact ⟨fun _ => rfl, (List.append_nil _).symm⟩

end Ends

end Action

end Passbook.Store
