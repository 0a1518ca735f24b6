/-
**Operations that may be done again.**

* `Again`: done once more where it was done, an operation ends as it ended and changes nothing;
* `Plays`: an operation leaves what operations that are asked for one after another leave;
  `Keeps`: it keeps a property of sound books, as it does when deeds of its kinds do (`Plays.keeps`);
* `Settles`: an operation fails, and fails the same way from then on, or leaves a mark, and where
  its mark stands it changes nothing;
* `Settles.bind`: such an operation and others after it may be done again together, if the others
  may and keep the mark; `Repeats.after`: this is so when deeds of their kinds keep it.
-/

import Passbook.Proofs.Operation.Run

namespace Passbook.Bootstrap

open Passbook.Operation (Answer Call Deed DeedKind Failure answering answering_run play)
open Passbook.Store

variable {ε ε' α β γ : Type}

/-- Where it was done, an operation that is done again ends as it ended and changes nothing. -/
def Again (holds : Books → Prop) (action : Action ε α) : Prop :=
  ∀ world, Sound world.books → holds world.books → action (action world).2 = action world

/-! ### What operations leave -/

/-- An operation leaves what operations that are asked for one after another leave, which do deeds
of some kinds only. -/
def Plays (kinds : List DeedKind) (action : Action ε α) : Prop :=
  ∀ world, ∃ calls : List Call, (∀ call ∈ calls, ∀ kind ∈ call.kinds, kind ∈ kinds) ∧
    (action world).2 = play calls world

/-- Deeds of some kinds keep a property of sound books. -/
def Lasts (kinds : List DeedKind) (holds : Books → Prop) : Prop :=
  ∀ {session kind before after}, kind ∈ kinds → Sound before → Deed session kind before after →
    holds before → holds after

namespace Plays

variable {kinds more : List DeedKind} {action : Action ε α}

theorem of_left (left : ∀ world, (action world).2 = world) : Plays kinds action :=
  fun world => ⟨[], fun _ none => absurd none List.not_mem_nil, left world⟩

theorem of_call {fail : ε → Failure} {answer : α → Answer} (call : Call)
    (is : call.run = answering fail answer action) (within : ∀ kind ∈ call.kinds, kind ∈ kinds) :
    Plays kinds action := by
  refine fun world => ⟨[call], fun other member => by rwa [List.mem_singleton.mp member], ?_⟩
  rw [play, play, is, answering_run]

theorem mono (plays : Plays kinds action) (within : ∀ kind ∈ kinds, kind ∈ more) :
    Plays more action := by
  intro world
  obtain ⟨calls, only, left⟩ := plays world
  exact ⟨calls, fun call member kind its => within kind (only call member kind its), left⟩

theorem mapError (change : ε → ε') (plays : Plays kinds action) :
    Plays kinds (Action.mapError change action) :=
  plays

theorem bind {next : α → Action ε β} (plays : Plays kinds action)
    (rest : ∀ value, Plays kinds (next value)) : Plays kinds (action >>= next) := by
  intro world
  obtain ⟨calls, only, left⟩ := plays world
  cases ended : action world with
  | mk result middle =>
  rw [ended] at left
  cases result with
  | error cause =>
    rw [Action.bind_of_error ended]
    exact ⟨calls, only, left⟩
  | ok value =>
    rw [Action.bind_of_ok ended]
    obtain ⟨later, only', left'⟩ := rest value middle
    refine ⟨calls ++ later, fun call member => ?_, ?_⟩
    · exact (List.mem_append.mp member).elim (only call) (only' call)
    · rw [left', Operation.play_append, ← left]

end Plays

/-- An operation leaves sound books sound, and keeps a property of them. -/
def Keeps (holds : Books → Prop) (action : Action ε α) : Prop :=
  ∀ ⦃world⦄, Sound world.books → holds world.books →
    Sound (action world).2.books ∧ holds (action world).2.books

section

variable {kinds : List DeedKind} {holds : Books → Prop} {action : Action ε α}

/-- **What deeds of its kinds keep an operation keeps.** -/
theorem Plays.keeps (plays : Plays kinds action) (lasts : Lasts kinds holds) :
    Keeps holds action := by
  intro world sound held
  obtain ⟨calls, only, left⟩ := plays world
  rw [left]
  clear left
  induction calls generalizing world with
  | nil => exact ⟨sound, held⟩
  | cons call rest ih =>
    obtain ⟨sound, held⟩ := (call.happened sound).preserves holds
      (fun member => lasts (only call List.mem_cons_self _ member)) sound held
    exact ih sound held fun other member => only other (List.mem_cons_of_mem _ member)

theorem Plays.sound (plays : Plays kinds action) : Keeps (fun _ => True) action :=
  plays.keeps fun _ _ _ _ => trivial

theorem Keeps.bind {next : α → Action ε β} (first : Keeps holds action)
    (second : ∀ value, Keeps holds (next value)) : Keeps holds (action >>= next) := by
  intro world sound held
  obtain ⟨sound, held⟩ := first sound held
  cases ended : action world with
  | mk result middle =>
  rw [ended] at sound held
  cases result with
  | error cause =>
    rw [Action.bind_of_error ended]
    exact ⟨sound, held⟩
  | ok value =>
    rw [Action.bind_of_ok ended]
    exact second value sound held

theorem Keeps.mapError (change : ε → ε') (keeps : Keeps holds action) :
    Keeps holds (Action.mapError change action) :=
  keeps

end

/-! ### Marks -/

/-- An operation that fails, and then fails the same way and changes nothing any more, or leaves a
mark. Where the mark stands it changes nothing and gives what it gave, as far as that is looked
at. -/
structure Settles (action : Action ε α) (view : α → γ) (mark : γ → Books → Prop) : Prop where
  marks : ∀ {world}, Sound world.books →
    (∃ cause after, action world = (.error cause, after) ∧ action after = (.error cause, after)) ∨
      ∃ value after, action world = (.ok value, after) ∧ mark (view value) after.books
  stands : ∀ {world told}, Sound world.books → mark told world.books →
    ∃ value, action world = (.ok value, world) ∧ view value = told

namespace Settles

variable {action : Action ε α} {view : α → γ} {mark : γ → Books → Prop}

theorem mapError (settles : Settles action view mark) (change : ε → ε') :
    Settles (Action.mapError change action) view mark where
  marks := fun {world} sound => by
    unfold Action.mapError
    rcases settles.marks sound with ⟨cause, after, failed, again⟩ | ⟨value, after, done, marked⟩
    · rw [failed]
      refine .inl ⟨change cause, after, rfl, ?_⟩
      rw [again]
      rfl
    · rw [done]
      exact .inr ⟨value, after, rfl, marked⟩
  stands := fun {world told} sound marked => by
    obtain ⟨value, done, is⟩ := settles.stands sound marked
    refine ⟨value, ?_, is⟩
    unfold Action.mapError
    rw [done]
    rfl

/-- **An operation that leaves a mark may be done again together with what follows it**, if that may
be done again and keeps the mark. -/
theorem bind {holds : Books → Prop} {next : γ → Action ε β} (settles : Settles action view mark)
    (stays : Keeps holds action) (keeps : ∀ told, Keeps (mark told) (next told))
    (rest : ∀ told, Again (fun books => holds books ∧ mark told books) (next told)) :
    Again holds (action >>= fun value => next (view value)) := by
  intro world sound held
  obtain ⟨sound', held'⟩ := stays sound held
  rcases settles.marks sound with ⟨cause, after, failed, again⟩ | ⟨value, middle, done, marked⟩
  · have once : (action >>= fun value => next (view value)) world = (.error cause, after) :=
      Action.bind_of_error failed
    rw [once]
    exact Action.bind_of_error again
  · rw [done] at sound' held'
    obtain ⟨soundEnd, markedEnd⟩ := keeps _ sound' marked
    have same : (action >>= fun value => next (view value)) world = next (view value) middle :=
      Action.bind_of_ok done
    obtain ⟨value', again, is⟩ := settles.stands soundEnd markedEnd
    rw [same, Action.bind_of_ok again, is]
    exact rest (view value) middle sound' ⟨held', marked⟩

/-- The same where all of what came of it is looked at. -/
theorem bindAll {holds : Books → Prop} {mark : α → Books → Prop} {next : α → Action ε β}
    (settles : Settles action id mark) (stays : Keeps holds action)
    (keeps : ∀ told, Keeps (mark told) (next told))
    (rest : ∀ told, Again (fun books => holds books ∧ mark told books) (next told)) :
    Again holds (action >>= next) :=
  settles.bind stays keeps rest

/-- The same where nothing of it is looked at. -/
theorem bindNone {holds mark : Books → Prop} {next : Action ε β}
    (settles : Settles action (fun _ => ()) fun _ => mark) (stays : Keeps holds action)
    (keeps : Keeps mark next) (rest : Again (fun books => holds books ∧ mark books) next) :
    Again holds (action >>= fun _ => next) :=
  settles.bind stays (fun _ => keeps) fun _ => rest

end Settles

/-- An operation may be done again, and leaves what operations leave that do deeds of some kinds. -/
structure Repeats (kinds : List DeedKind) (action : Action ε α) : Prop where
  again : Again (fun _ => True) action
  plays : Plays kinds action

namespace Repeats

variable {kinds more : List DeedKind} {action : Action ε α}

theorem mapError (change : ε → ε') (repeats : Repeats kinds action) :
    Repeats kinds (Action.mapError change action) where
  again := fun world sound held => by
    have same : action (action world).2 = action world := repeats.again world sound held
    show Action.mapError change action (action world).2 = Action.mapError change action world
    unfold Action.mapError
    rw [same]
  plays := repeats.plays.mapError change

/-- **Before what may be done again an operation may be done that leaves a mark**, if deeds of the
kinds of what follows keep the mark. -/
theorem after {mark : Books → Prop} {next : Action ε β}
    (settles : Settles action (fun _ => ()) fun _ => mark) (plays : Plays more action)
    (lasts : Lasts kinds mark) (rest : Repeats kinds next)
    (within : ∀ kind ∈ kinds, kind ∈ more) : Repeats more (action >>= fun _ => next) where
  again := settles.bindNone plays.sound (rest.plays.keeps lasts)
    fun world sound _ => rest.again world sound trivial
  plays := plays.bind fun _ => rest.plays.mono within

end Repeats

end Passbook.Bootstrap
