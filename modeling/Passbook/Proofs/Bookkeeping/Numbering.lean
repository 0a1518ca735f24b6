/-
**Entries are numbered in the order in which they are entered.**

* `entryNumber_inj`: a number tells its place in the sequence, however many digits it takes;
* `Numbered`: the sequence has given so many values, and every entry has one of them;
* `Journaled.numbered`: an operation that enters an entry gives it the next value, any other gives
  none and takes none back;
* `numbered_of_play`: the entries of a run are numbered one after another;
* `play_apart`: two entries of a run share a number only if they are the same, whether they are
  still there or not.
-/

import Mathlib.Data.List.Perm.Subperm
import Passbook.Proofs.Bookkeeping.Lifecycle
import Passbook.Proofs.Text.Digits

namespace Passbook.Bookkeeping

open Passbook.Journal
open Passbook.Operation
open Passbook.Store

/-! ### Numbers and the sequence -/

/-- A number tells its place in the sequence. -/
theorem entryNumber_inj {first second : Amount} (least : 0 ≤ first.units)
    (least' : 0 ≤ second.units)
    (same : Ledger.entryNumber first = Ledger.entryNumber second) : first = second := by
  have letters := String.ofList_injective same
  have digits := List.cons.inj (List.cons.inj (List.cons.inj letters).2).2
  exact Amount.ext (Text.paddedDecimal_inj least least' digits.2)

/-- The sequence of entry numbers has given so many values, which are the numbers of entries. -/
structure Numbered (books : Books) (count : Nat) : Prop where
  stands : ∃ next : Amount, next.units = count + 1 ∧ books.sequences = [⟨entrySequence, next⟩]
  numbers : ∀ row ∈ books.entries, ∃ place : Amount, 1 ≤ place.units ∧ place.units ≤ count ∧
    row.number = Ledger.entryNumber place

theorem Numbered.fresh {supply : Supply} : Numbered (.fresh supply) 0 :=
  ⟨⟨.one, rfl, rfl⟩, fun _ none => absurd none List.not_mem_nil⟩

/-- **There are no more entries than the sequence has given values**, and these are fewer than a
column holds. -/
theorem Numbered.length_lt {books : Books} {count : Nat} (numbered : Numbered books count)
    (sound : Sound books) : (books.entries.length : Int) < Amount.greatest.units := by
  obtain ⟨next, units, _⟩ := numbered.stands
  have given : books.entries.map EntryRow.number ⊆
      (List.range count).map fun n : Nat =>
        Ledger.entryNumber ((Amount.ofInt? (n + 1)).getD .zero) := by
    intro number member
    obtain ⟨row, present, rfl⟩ := List.mem_map.mp member
    obtain ⟨place, least, most, is⟩ := numbered.numbers row present
    have whole : ((place.units.toNat - 1 : Nat) : Int) + 1 = place.units := by omega
    refine List.mem_map.mpr ⟨place.units.toNat - 1, List.mem_range.mpr (by omega), ?_⟩
    rw [is, whole, Amount.ofInt?_eq_some_iff.mpr rfl, Option.getD_some]
  have few := (List.subperm_of_subset sound.numbers given).length_le
  rw [List.length_map, List.length_map, List.length_range] at few
  have fits := next.atMost
  have greatest : Amount.greatest.units = 9223372036854775807 := rfl
  omega

variable {before after : Books} {call : Call} {result : Except Failure Answer} {count : Nat}

/-- A value that the sequence gives is the next one, and it stands at the one after it. -/
theorem Numbered.draws (numbered : Numbered before count) {value : Amount}
    {later : List SequenceRow} (draws : Draws before.sequences value later) :
    value.units = count + 1 ∧
      ∃ next : Amount, next.units = count + 1 + 1 ∧ later = [⟨entrySequence, next⟩] := by
  obtain ⟨next, units, stands⟩ := numbered.stands
  rw [stands] at draws
  obtain ⟨rfl, following, step, left⟩ := draws_single draws
  exact ⟨units, following, by rw [step, units], left⟩

/-! ### What operations do to numbers -/

/-- The entry that an answer says was entered. -/
def enteredIn : Answer → Option EntryRow
  | .fullEntry full => some full.entry
  | .reversal outcome => some outcome.reversal.entry
  | _ => none

/-- What an operation has answered, if it has entered an entry. -/
def entering? : Call × Except Failure Answer → Option Answer
  | (call, .ok answer) => if enters call then some answer else none
  | (_, .error _) => none

/-- The answer tells of an entry under the number of a place in the sequence, and the entry is in
the books that the operation left. -/
def NumberedAs (place : Nat) (answer : Answer) (left : Books) : Prop :=
  ∃ value : Amount, value.units = place ∧
    ∃ entry, enteredIn answer = some entry ∧ entry.number = Ledger.entryNumber value ∧
      entry ∈ left.entries

/-- An entry more under the next number. -/
theorem Numbered.enter (numbered : Numbered before count) {value : Amount}
    {later : List SequenceRow} (draws : Draws before.sequences value later)
    (sequences : after.sequences = later)
    (numbers : ∀ row ∈ after.entries, row.number ∈ before.entries.map EntryRow.number ∨
      row.number = Ledger.entryNumber value) : Numbered after (count + 1) := by
  obtain ⟨units, next, step, left⟩ := numbered.draws draws
  refine ⟨⟨next, by rw [step]; rfl, sequences.trans left⟩, fun row member => ?_⟩
  rcases numbers row member with old | new
  · obtain ⟨other, present, same⟩ := List.mem_map.mp old
    obtain ⟨place, least, most, number⟩ := numbered.numbers other present
    exact ⟨place, least, by omega, same ▸ number⟩
  · exact ⟨value, by omega, by omega, new⟩

/-- No entry more. -/
theorem Numbered.stay (numbered : Numbered before count)
    (sequences : after.sequences = before.sequences)
    (numbers : ∀ row ∈ after.entries, row.number ∈ before.entries.map EntryRow.number) :
    Numbered after count := by
  obtain ⟨next, units, stands⟩ := numbered.stands
  refine ⟨⟨next, units, sequences.trans stands⟩, fun row member => ?_⟩
  obtain ⟨other, present, same⟩ := List.mem_map.mp (numbers row member)
  rw [← same]
  exact numbered.numbers other present

theorem numbers_of_altered {entries : List EntryRow} {id : EntryId} {alter : EntryRow → EntryRow}
    (keeps : ∀ row, (alter row).number = row.number) {row : EntryRow}
    (member : row ∈ altered EntryRow.id id alter entries) :
    row.number ∈ entries.map EntryRow.number := by
  have same : (altered EntryRow.id id alter entries).map EntryRow.number =
      entries.map EntryRow.number := map_altered EntryRow.number keeps
  rw [← same]
  exact List.mem_map_of_mem member

/-- **An operation that enters an entry gives it the next number**; any other gives none and takes
none back. -/
theorem Journaled.numbered (did : Journaled before call result after)
    (numbered : Numbered before count) :
    match entering? (call, result) with
    | some answer => Numbered after (count + 1) ∧ NumberedAs (count + 1) answer after
    | none => Numbered after count := by
  cases did with
  | apart entries _ sequences _ idle =>
    have still : Numbered after count := numbered.stay sequences fun row member => by
      rw [entries] at member
      exact List.mem_map_of_mem member
    cases result with
    | error failure => exact still
    | ok answer =>
      by_cases enter : enters call
      · obtain ⟨_, failed⟩ := idle enter
        cases failed
      · simp only [entering?, if_neg enter]
        exact still
  | drafted _ did =>
    obtain ⟨value, later, draws, _, _, is, entered⟩ := did.draws
    refine ⟨numbered.enter draws (by rw [entered.left]) fun row member => ?_, value,
      (numbered.draws draws).1, _, rfl, by rw [is]; rfl, ?_⟩
    · rw [entered.left] at member
      rcases List.mem_append.mp member with present | single
      · exact .inl (List.mem_map_of_mem present)
      · rw [List.mem_singleton.mp single, is]
        exact .inr rfl
    · rw [entered.left]
      exact List.mem_append_right _ List.mem_cons_self
  | posted did =>
    refine numbered.stay (by rw [did.left]) fun row member => ?_
    rw [did.left] at member
    exact numbers_of_altered (fun _ => stepped_number) member
  | voided did =>
    refine numbered.stay (by rw [did.left]) fun row member => ?_
    rw [did.left] at member
    exact numbers_of_altered (fun _ => stepped_number) member
  | reversed did =>
    obtain ⟨value, later, middle, draws, ⟨_, _, is⟩, entered, left⟩ := did.entered
    refine ⟨numbered.enter draws (by rw [left, entered.left]) fun row member => ?_, value,
      (numbered.draws draws).1, _, rfl, by rw [is]; rfl, ?_⟩
    · rw [(reversal_entries did).2] at member
      rcases List.mem_append.mp member with present | single
      · exact .inl (numbers_of_altered (fun _ => reversedBy_number) present)
      · rw [List.mem_singleton.mp single, is]
        exact .inr rfl
    · rw [(reversal_entries did).2]
      exact List.mem_append_right _ List.mem_cons_self
  | dropped did =>
    refine numbered.stay (by rw [did.left]) fun row member => ?_
    rw [did.left] at member
    exact List.mem_map_of_mem (List.mem_filter.mp member).1

/-! ### Runs -/

/-- What the operations of a run that entered an entry have answered, one after another, each with
the books that it left. -/
def entering : List Call → World → List (Answer × Books)
  | [], _ => []
  | call :: rest, world =>
    ((entering? (call, (call.run world).1)).map fun answer =>
      (answer, (call.run world).2.books)).toList ++ entering rest (call.run world).2

/-- **The entries of a run are numbered one after another**, and the sequence has given as many
values as entries were entered. -/
theorem numbered_of_play (calls : List Call) {world : World} (sound : Sound world.books)
    (numbered : Numbered world.books count) :
    Numbered (play calls world).books (count + (entering calls world).length) ∧
      ∀ n answer left, (entering calls world)[n]? = some (answer, left) →
        NumberedAs (count + n + 1) answer left := by
  induction calls generalizing world count with
  | nil => exact ⟨numbered, fun n answer left at_n => by simp [entering] at at_n⟩
  | cons call rest ih =>
    have sound' := (call.happened sound).sound sound
    have first := (call_journaled call sound).numbered numbered
    rw [play, entering]
    cases entered : entering? (call, (call.run world).1) with
    | none =>
      rw [entered] at first
      exact ih sound' first
    | some answer =>
      rw [entered] at first
      obtain ⟨stands, later⟩ := ih sound' first.1
      refine ⟨?_, fun n other left at_n => ?_⟩
      · show Numbered _ (count + (_ :: entering rest (call.run world).2).length)
        rw [List.length_cons, Nat.add_comm _ 1, ← Nat.add_assoc]
        exact stands
      · cases n with
        | zero =>
          obtain ⟨rfl, rfl⟩ := Prod.mk.inj (Option.some.inj at_n)
          exact first.2
        | succ n =>
          have := later n other left at_n
          rwa [Nat.add_right_comm count 1 n] at this

/-- The number of operations of a run that entered an entry. -/
def entryCount (supply : Supply) (calls : List Call) : Nat :=
  (entering calls (.fresh supply)).length

theorem play_numbered (supply : Supply) (calls : List Call) :
    Numbered (play calls (.fresh supply)).books (entryCount supply calls) := by
  have sound : Sound (World.fresh supply).books := Sound.fresh
  have numbered := (numbered_of_play calls sound Numbered.fresh).1
  rwa [Nat.zero_add] at numbered

/-! ### Entries that share a number -/

theorem Born.number {row : EntryRow} {rows : List LineRow} (born : Born before call row rows) :
    ∃ value later, Draws before.sequences value later ∧
      row.number = Ledger.entryNumber value := by
  cases born with
  | drafted _ _ draws => exact ⟨_, _, draws, rfl⟩
  | reversing _ _ _ _ draws => exact ⟨_, _, draws, rfl⟩

/-- The number of an entry was given and its identifier handed out, and of the entries that are
there no other has one of them. -/
structure Apart (books : Books) (old : EntryRow) : Prop where
  given : ∃ count, Numbered books count ∧ ∃ place : Amount, 1 ≤ place.units ∧
    place.units ≤ count ∧ old.number = Ledger.entryNumber place
  issued : old.id.uuid.Before books.supply books.issued
  same : ∀ row ∈ books.entries, row.number = old.number ↔ row.id = old.id

/-- **An entry stays apart from others** whatever operation comes, also when it is gone. -/
theorem Apart.andThen {old : EntryRow} (apart : Apart before old)
    (did : Journaled before call result after) (sound : Sound before) (sound' : Sound after) :
    Apart after old := by
  obtain ⟨count, numbered, place, least, most, number⟩ := apart.given
  refine ⟨?_, did.onward.handedOut apart.issued, fun row member => ?_⟩
  · have later := did.numbered numbered
    cases entered : entering? (call, result) with
    | none =>
      rw [entered] at later
      exact ⟨count, later, place, least, most, number⟩
    | some answer =>
      rw [entered] at later
      exact ⟨count + 1, later.1, place, least, by omega, number⟩
  · rcases did.source sound sound' member with ⟨other, present, goes, _⟩ | born
    · have continues := continues_of_reflGen goes
      rw [continues.number, continues.id]
      exact apart.same other present
    · -- a new entry has a number that was not given and an identifier that was not handed out
      obtain ⟨value, _, draws, fresh⟩ := born.number
      have next := (numbered.draws draws).1
      refine iff_of_false (fun shared => ?_) fun shared => ?_
      · rw [fresh, number] at shared
        have := entryNumber_inj (by omega) (by omega) shared
        rw [this] at next
        omega
      · exact apart.issued.ne born.issued (Nat.le_refl _) (congrArg Id.uuid shared.symm)

/-- **Two entries of a run share a number only if they are the same**, whether the first is still
there when the second comes or not. -/
theorem play_apart (supply : Supply) (calls later : List Call) {old row : EntryRow}
    (member : old ∈ (play calls (.fresh supply)).books.entries)
    (member' : row ∈ (play (calls ++ later) (.fresh supply)).books.entries) :
    row.number = old.number ↔ row.id = old.id := by
  have sound : Sound (play calls (.fresh supply)).books := play_sound calls Sound.fresh
  have numbered := play_numbered supply calls
  have start : Apart (play calls (.fresh supply)).books old :=
    { given := ⟨_, numbered, numbered.numbers old member⟩
      issued := (play_issued supply calls).entries old member
      same := fun other present =>
        ⟨fun shared => congrArg EntryRow.id (eq_of_key sound.numbers present member shared),
          fun shared => congrArg EntryRow.number (eq_of_key sound.entryIds present member shared)⟩ }
  rw [play_append] at member'
  have apart := play_keeps (fun books => Apart books old)
    (fun sound sound' did apart => apart.andThen did sound sound') later sound start
  exact apart.same row member'

end Passbook.Bookkeeping
