/-
**Entries live from draft to posted to voided or reversed.**

* `Lasts`: an entry is there later in its life with the lines it had, or it was a draft that is
  gone; `Lasts.andThen`: so it stays whatever operation comes, an identifier never being used again;
* `Steps`: one operation moves an entry on by one step at most, and an entry that it brings is the
  draft that was asked for or the posted reversal of another (`Journaled.steps`);
* `Journaled.audited`: every step is on record exactly as the status tells;
* `play_lifecycle`: so it is in every run from fresh books.
-/

import Passbook.Proofs.Bookkeeping.Journaled

namespace Passbook.Bookkeeping

open Passbook.Journal
open Passbook.Operation
open Passbook.Store

variable {start before after : Books} {call : Call} {result : Except Failure Answer}

/-! ### What lasts -/

/-- An entry is there later in its life with the lines it had, or it was a draft that is gone. -/
inductive Lasts (before after : Books) (old : EntryRow) : Prop
  | gone (draft : old.status = .draft) (none : ∀ row ∈ after.entries, row.id ≠ old.id)
  | there {row : EntryRow} (member : row ∈ after.entries) (continues : Continues old row)
      (lines : after.linesOf old.id = before.linesOf old.id)

/-- No entry comes under an identifier that was handed out before. -/
theorem Journaled.none_of_none (did : Journaled before call result after) (sound : Sound before)
    (sound' : Sound after) {id : EntryId} (issued : id.uuid.Before before.supply before.issued)
    (none : ∀ row ∈ before.entries, row.id ≠ id) : ∀ row ∈ after.entries, row.id ≠ id := by
  intro row member same
  rcases did.source sound sound' member with ⟨old, present, goes, _⟩ | born
  · exact none old present ((continues_of_reflGen goes).id.symm.trans same)
  · exact issued.ne born.issued (Nat.le_refl _) (congrArg Id.uuid same.symm)

/-- **An entry lasts** whatever operation comes. -/
theorem Lasts.andThen {old : EntryRow} (lasts : Lasts start before old)
    (did : Journaled before call result after) (sound : Sound before) (sound' : Sound after)
    (issued : old.id.uuid.Before before.supply before.issued) : Lasts start after old := by
  cases lasts with
  | gone draft none => exact .gone draft (did.none_of_none sound sound' issued none)
  | @there row member continues lines =>
    cases did.fate sound sound' member with
    | gone draft none =>
      -- no step leads to a draft, so it was one all along
      have draft' : old.status = .draft := by
        by_contra other
        exact ne_draft_of_moves other continues.moved draft
      exact .gone draft' fun row' present => by
        rw [← continues.id]
        exact none row' present
    | there present goes lines' =>
      rw [continues.id] at lines'
      exact .there present (continues.trans (continues_of_reflGen goes)) (lines'.trans lines)

/-! ### One operation -/

/-- An entry that an operation brings is the draft that was asked for, or the reversal of another,
which is posted at once. -/
inductive Began : Call → EntryRow → Prop
  | drafted {session : Session} {input : NewEntry} {row : EntryRow} (status : row.status = .draft)
      (reverses : row.reverses = none) : Began (.command session (.createEntry input)) row
  | reversing {session : Session} {id : EntryId} {user : UserId} {reason : String} {row : EntryRow}
      (status : row.status = .posted) (reverses : row.reverses = some id) :
      Began (.command session (.reverseEntry id user reason)) row

/-- One operation moves an entry on by one step at most, or removes it if it is a draft, and brings
drafts and posted reversals only. -/
structure Steps (before : Books) (call : Call) (after : Books) : Prop where
  onward : ∀ old ∈ before.entries,
    (old.status = .draft ∧ ∀ row ∈ after.entries, row.id ≠ old.id) ∨
      ∃ row ∈ after.entries, Continues old row ∧ (row = old ∨ Moves old.status row.status)
  origin : ∀ row ∈ after.entries, (∃ old ∈ before.entries, old.id = row.id) ∨ Began call row

section Born

variable {row : EntryRow} {rows : List LineRow}

theorem Born.began (born : Born before call row rows) : Began call row := by
  cases born with
  | drafted => exact .drafted rfl rfl
  | reversing _ named => exact .reversing rfl (congrArg some named)

theorem Born.audited (born : Born before call row rows) : Audited row := by
  cases born with
  | drafted => exact draftRow_audited _ _ _ _
  | reversing => exact reversalRow_audited _ _ _ _ _ _

end Born

/-- **An operation moves entries on by one step at most.** -/
theorem Journaled.steps (did : Journaled before call result after) (sound : Sound before)
    (sound' : Sound after) : Steps before call after where
  onward old member := by
    cases did.fate sound sound' member with
    | gone draft none => exact .inl ⟨draft, none⟩
    | there present goes _ =>
      refine .inr ⟨_, present, continues_of_reflGen goes, ?_⟩
      cases goes with
      | refl => exact .inl rfl
      | single step => exact .inr step.moves
  origin row member := by
    rcases did.source sound sound' member with ⟨old, present, goes, _⟩ | born
    · exact .inl ⟨old, present, (continues_of_reflGen goes).id.symm⟩
    · exact .inr born.began

/-- **Every step is put on record.** -/
theorem Journaled.audited (did : Journaled before call result after) (sound : Sound before)
    (sound' : Sound after) (audited : ∀ row ∈ before.entries, Audited row) :
    ∀ row ∈ after.entries, Audited row := by
  intro row member
  rcases did.source sound sound' member with ⟨old, present, goes, _⟩ | born
  · cases goes with
    | refl => exact audited row present
    | single step => exact step.audited (audited old present)
  · exact born.audited

/-! ### Runs -/

theorem play_audited (supply : Supply) (calls : List Call) :
    ∀ row ∈ (play calls (.fresh supply)).books.entries, Audited row :=
  play_keeps (fun books => ∀ row ∈ books.entries, Audited row)
    (fun sound sound' did audited => did.audited sound sound' audited) calls Sound.fresh
    fun _ none => absurd none List.not_mem_nil

/-- After every run from fresh books an entry lasts whatever operations come. -/
theorem play_lasts (supply : Supply) (calls later : List Call) {old : EntryRow}
    (member : old ∈ (play calls (.fresh supply)).books.entries) :
    Lasts (play calls (.fresh supply)).books (play (calls ++ later) (.fresh supply)).books old := by
  have sound : Sound (play calls (.fresh supply)).books := play_sound calls Sound.fresh
  rw [play_append]
  exact (play_keeps
    (fun books => old.id.uuid.Before books.supply books.issued ∧
      Lasts (play calls (.fresh supply)).books books old)
    (fun sound sound' did ⟨issued, lasts⟩ =>
      ⟨did.onward.handedOut issued, lasts.andThen did sound sound' issued⟩)
    later sound ⟨(play_issued supply calls).entries old member, .there member (.refl old) rfl⟩).2

/-- **The life of journal entries**, in every run from fresh books. Who posted, voided or reversed
an entry, when and why is on record exactly as its status tells, the reasons without blanks around
them and long enough. Whatever operations come later, an entry is there with the lines it had, and
all that was settled when it was entered; its status has moved from draft to posted to voided or
reversed, and a voided or reversed entry is as it was; or it was a draft and is gone for good. One
operation moves an entry on by one step at most, and brings drafts and posted reversals only. -/
theorem play_lifecycle (supply : Supply) (calls later : List Call) (next : Call) :
    (∀ row ∈ (play calls (.fresh supply)).books.entries, Audited row) ∧
      (∀ old ∈ (play calls (.fresh supply)).books.entries,
        Lasts (play calls (.fresh supply)).books
          (play (calls ++ later) (.fresh supply)).books old) ∧
      Steps (play calls (.fresh supply)).books next
        (play (calls ++ [next]) (.fresh supply)).books := by
  have sound : Sound (play calls (.fresh supply)).books := play_sound calls Sound.fresh
  refine ⟨play_audited supply calls, fun _ member => play_lasts supply calls later member, ?_⟩
  rw [play_append]
  exact (call_journaled next sound).steps sound ((next.happened sound).sound sound)

end Passbook.Bookkeeping
