/-
**Numbers of entries are given out in turn and never clash.**

* `EnteringFails`: why no entry is entered, by the operation that was asked to;
* `EnteringFails.rivalled`: a key is taken only if a rival takes it first, since no entry has the
  number that the sequence gives next;
* `EnteringFails.atLast`: no sum leaves the range before the sequence is at its last value;
  `failed_of_atLast`: then no entry is entered any more;
* `play_numbers`: all this in every run from fresh books, for the operations that enter an entry
  together.
-/

import Passbook.Proofs.Bookkeeping.Kept

namespace Passbook.Bookkeeping

open Passbook.Journal
open Passbook.Operation
open Passbook.Store
open Passbook.Verdict (FailsOnly)

/-! ### Why no entry is entered -/

/-- Why no entry is entered, by the operation that was asked to. -/
inductive EnteringFails (books : Books) : Call → Halt JournalError → Prop
  | creating {session : Session} {input : NewEntry} {cause : Halt JournalError}
      (fails : CreationFails session input books cause) :
      EnteringFails books (.command session (.createEntry input)) cause
  | reversing {session : Session} {id : EntryId} {user : UserId} {reason : String}
      {cause : Halt JournalError} (fails : ReversalFails session id reason books cause) :
      EnteringFails books (.command session (.reverseEntry id user reason)) cause

/-- A rival takes the key of a row that an operation inserts to enter an entry. -/
def Rivalled : Call → Prop
  | .command session _ =>
    ∃ table, (table, .insert) ∈ enteringStatements ∧ session.faults.rivals table = true
  | _ => False

/-- An operation that enters an entry is refused before it asks the sequence for a value. -/
inductive RefusedEarly (books : Books) : Call → Prop
  | unreachable {session : Session} {wanted : Command} (blocked : session.faults.blocked = true) :
      RefusedEarly books (.command session wanted)
  | invalid {session : Session} {input : NewEntry} {cause : Ledger.LedgerError}
      (is : Ledger.validateLines input.lines = .error cause) :
      RefusedEarly books (.command session (.createEntry input))
  | missing {session : Session} {input : NewEntry} {line : Ledger.Line}
      (member : line ∈ input.lines) (absent : line.account ∉ books.accounts.map AccountRow.id) :
      RefusedEarly books (.command session (.createEntry input))
  | absent {session : Session} {id : EntryId} {user : UserId} {reason : String}
      (none : id ∉ books.entries.map EntryRow.id) :
      RefusedEarly books (.command session (.reverseEntry id user reason))
  | unposted {session : Session} {entry : EntryRow} {user : UserId} {reason : String}
      (member : entry ∈ books.entries) (status : entry.status ≠ .posted) :
      RefusedEarly books (.command session (.reverseEntry entry.id user reason))
  | short {session : Session} {id : EntryId} {user : UserId} {reason : String}
      (few : (Text.trim reason).length < 10) :
      RefusedEarly books (.command session (.reverseEntry id user reason))

namespace EnteringFails

variable {books : Books} {call : Call}

/-- A key is taken only if a rival takes it first. -/
theorem rivalled (fails : EnteringFails books call (.refused (.storage .notUnique))) :
    Rivalled call := by
  cases fails with
  | creating fails =>
    cases fails with
    | hindered _ is =>
      cases is with
      | rival issued rivals => exact ⟨_, issued, rivals⟩
  | reversing fails =>
    cases fails with
    | hindered _ is =>
      cases is with
      | rival issued rivals =>
        -- no row is inserted to add lines to accounts
        have entering := (List.mem_append.mp issued).resolve_right (by simp [bookingStatements])
        exact ⟨_, entering, rivals⟩

/-- Only the sequence leaves the range. -/
theorem atLast {fault : Overflow} (fails : EnteringFails books call (.overflowed fault)) :
    AtLast books := by
  cases fails with
  | creating fails =>
    cases fails with
    | last atLast => exact atLast
  | reversing fails =>
    cases fails with
    | last atLast => exact atLast

/-- At the last value the sequence leaves the range, unless it is not asked. -/
theorem overflowed {cause : Halt JournalError} (fails : EnteringFails books call cause)
    (atLast : AtLast books) : cause = .overflowed .addition ∨ RefusedEarly books call := by
  cases fails with
  | creating fails =>
    cases fails with
    | invalid is => exact .inr (.invalid is)
    | unreachable blocked => exact .inr (.unreachable blocked)
    | missing member absent => exact .inr (.missing member absent)
    | last _ => exact .inl rfl
    | exhausted room _ => exact absurd atLast room
    | hindered room _ => exact absurd atLast room
  | reversing fails =>
    cases fails with
    | unreachable blocked => exact .inr (.unreachable blocked)
    | absent none => exact .inr (.absent none)
    | unposted member named status =>
      subst named
      exact .inr (.unposted member status)
    | short few => exact .inr (.short few)
    | last _ => exact .inl rfl
    | unbookable room _ => exact absurd atLast room
    | exhausted room _ => exact absurd atLast room
    | hindered room _ => exact absurd atLast room

end EnteringFails

/-! ### One operation -/

variable {world : World} {call : Call}

/-- An operation of the journal fails for a caller for what it fails for by itself. -/
theorem ofJournal_failsOnly {α : Type} {answer : α → Answer} {action : Action (Halt JournalError) α}
    {allowed : Halt JournalError → Prop} (fails : FailsOnly allowed (action world).1) :
    FailsOnly (fun failure => ∃ cause, failure = .journal cause ∧ allowed cause)
      (ofJournal answer action world).1 := by
  rw [ofJournal, answering_run]
  exact FailsOnly.mapError (fails.map.mono fun cause is => ⟨cause, rfl, is⟩)

theorem entering_failsOnly (enter : enters call) (kept : Kept world.books) :
    FailsOnly (fun failure => ∃ cause, failure = .journal cause ∧
      EnteringFails world.books call cause) (call.run world).1 := by
  cases call with
  | command session wanted =>
    cases wanted with
    | createEntry input =>
      exact (ofJournal_failsOnly (createEntry_failsOnly session input kept)).mono
        fun _ ⟨cause, same, fails⟩ => ⟨cause, same, .creating fails⟩
    | reverseEntry id user reason =>
      exact (ofJournal_failsOnly (reverseEntry_failsOnly session id user reason kept)).mono
        fun _ ⟨cause, same, fails⟩ => ⟨cause, same, .reversing fails⟩
    | _ => cases enter
  | _ => cases enter

/-- **No entry is entered once the sequence is at its last value.** -/
theorem failed_of_atLast {before after : Books} {result : Except Failure Answer}
    (did : Journaled before call result after) (enter : enters call) (atLast : AtLast before) :
    ∃ failure, result = .error failure := by
  cases did with
  | apart _ _ _ _ idle => exact idle enter
  | drafted _ did =>
    obtain ⟨_, _, draws, _⟩ := did.draws
    exact absurd atLast (not_atLast_of_draws draws)
  | reversed did =>
    obtain ⟨_, _, _, draws, _⟩ := did.entered
    exact absurd atLast (not_atLast_of_draws draws)
  | _ => cases enter

/-- An operation that enters an entry leaves nothing when it fails. -/
theorem unchanged_of_enters (enter : enters call) {failure : Failure}
    (failed : (call.run world).1 = .error failure) : (call.run world).2 = world := by
  cases call with
  | command session wanted =>
    cases wanted with
    | createEntry input => exact (Command.does session (.createEntry input) rfl).unchanged failed
    | reverseEntry id user reason =>
      exact (Command.does session (.reverseEntry id user reason) rfl).unchanged failed
    | _ => cases enter
  | _ => cases enter

/-! ### Runs -/

/-- **Entries are numbered in turn**, in every run from fresh books. The answer of the n-th
operation that entered an entry, be it created or a reversal, tells of an entry under the n-th
number, which is in the books when the operation is over. The sequence stands at the number after
those of all of them, whatever else was asked for or refused, and every entry has one that was
given. An entry that was there at any time shares its number with no other that is there at the same
time or later. An operation that enters an entry finds a key taken only if a rival takes it first.
As long as the sequence is not at the last value that there is, its sums stay in range; once it is,
such an operation fails, its sum leaving the range unless it is refused before, and leaves the world
as it was. -/
theorem play_numbers (supply : Supply) (calls later : List Call) :
    (∀ n answer left, (entering calls (.fresh supply))[n]? = some (answer, left) →
        NumberedAs (n + 1) answer left) ∧
      Numbered (play calls (.fresh supply)).books (entryCount supply calls) ∧
      (∀ old ∈ (play calls (.fresh supply)).books.entries,
        ∀ row ∈ (play (calls ++ later) (.fresh supply)).books.entries,
          (row.number = old.number ↔ row.id = old.id)) ∧
      ∀ next : Call, enters next →
        ((next.run (play calls (.fresh supply))).1 =
          .error (.journal (.refused (.storage .notUnique))) →
            Rivalled next) ∧
          (∀ fault, (next.run (play calls (.fresh supply))).1 =
            .error (.journal (.overflowed fault)) →
            AtLast (play calls (.fresh supply)).books) ∧
          (AtLast (play calls (.fresh supply)).books →
            (next.run (play calls (.fresh supply))).2 = play calls (.fresh supply) ∧
              ((next.run (play calls (.fresh supply))).1 =
                .error (.journal (.overflowed .addition)) ∨
                (∃ failure, (next.run (play calls (.fresh supply))).1 = .error failure) ∧
                  RefusedEarly (play calls (.fresh supply)).books next)) := by
  have start : Sound (World.fresh supply).books := Sound.fresh
  have kept := play_kept supply calls
  refine ⟨fun n answer left at_n => ?_, play_numbered supply calls,
    fun _ member _ member' => play_apart supply calls later member member', fun next enter => ?_⟩
  · have numbered := (numbered_of_play calls start Numbered.fresh).2 n answer left at_n
    rwa [Nat.zero_add] at numbered
  have fails := entering_failsOnly enter kept
  refine ⟨fun failed => ?_, fun fault failed => ?_, fun atLast => ?_⟩
  · obtain ⟨_, same, is⟩ := fails _ failed
    cases same
    exact is.rivalled
  · obtain ⟨_, same, is⟩ := fails _ failed
    cases same
    exact is.atLast
  · obtain ⟨failure, failed⟩ := failed_of_atLast (call_journaled next kept.sound) enter atLast
    obtain ⟨cause, rfl, is⟩ := fails failure failed
    refine ⟨unchanged_of_enters enter failed, ?_⟩
    rcases is.overflowed atLast with rfl | early
    · exact .inl failed
    · exact .inr ⟨⟨_, failed⟩, early⟩

/-- The sale that is entered last has the second number: the first was that of the draft that is
gone, and the sale that was refused has none. The sequence is far from its last value. -/
theorem play_numbers_sale :
    (∃ answer left,
        (entering (sampleDropped ++ [sampleDraft]) .fresh)[1]? = some (answer, left) ∧
          NumberedAs 2 answer left) ∧
      ∀ fault, (sampleDraft.run (play sampleDropped .fresh)).1 ≠
        .error (.journal (.overflowed fault)) := by
  obtain ⟨numbers, _⟩ := play_numbers .ascending (sampleDropped ++ [sampleDraft]) []
  obtain ⟨_, _, _, ends⟩ := play_numbers .ascending sampleDropped []
  have entered : ((entering (sampleDropped ++ [sampleDraft]) .fresh)[1]?).isSome := by
    decide +kernel
  have room : ¬AtLast (play sampleDropped .fresh).books := by
    have next : (play sampleDropped .fresh).books.sequences.map (fun row => row.next.units) =
        [2] := by decide +kernel
    intro atLast
    rw [atLast] at next
    cases next
  obtain ⟨⟨answer, left⟩, is⟩ := Option.isSome_iff_exists.mp entered
  exact ⟨⟨answer, left, is, numbers 1 answer left is⟩, fun fault failed =>
    room ((ends sampleDraft rfl).2.1 fault failed)⟩

end Passbook.Bookkeeping
