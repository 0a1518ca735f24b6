/-
**Entries are well formed.**

* `Formed`: the lines of an entry may make one up, and are numbered from one without gaps;
* `Journaled.formed`, `play_formed`: every entry is well formed after every run from fresh books,
  since no line changes and a reversal has lines as valid as those that it reverses;
* `play_created`: an entry has the lines that were asked for in their order as long as it
  lasts.
-/

import Passbook.Proofs.Bookkeeping.Lifecycle

namespace Passbook.Bookkeeping

open Passbook.Journal
open Passbook.Ledger (Line)
open Passbook.Operation
open Passbook.Store

/-- The lines of an entry may make one up, and are numbered from one without gaps. -/
structure Formed (books : Books) (entry : EntryId) : Prop where
  valid : Ledger.Valid ((books.linesOf entry).map LineRow.line)
  places : (books.linesOf entry).map LineRow.place =
    (List.range' 1 (books.linesOf entry).length).map Int.ofNat

variable {before after : Books} {call : Call} {result : Except Failure Answer}

/-- Lines that are written for an entry make one up. -/
theorem formed_of_written {supply : Supply} {uuid : Uuid} {lines : List Line} {issued : Nat}
    {entry : EntryId} (written : Written supply ⟨uuid⟩ 1 issued lines (before.linesOf entry))
    (valid : ∃ totals, Ledger.validateLines lines = .ok totals) : Formed before entry where
  valid := by
    rw [written.lines_eq]
    exact Ledger.valid_iff.mp valid
  places := written.places

/-- **An operation leaves every entry well formed.** -/
theorem Journaled.formed (did : Journaled before call result after) (sound : Sound before)
    (sound' : Sound after) (formed : ∀ row ∈ before.entries, Formed before row.id) :
    ∀ row ∈ after.entries, Formed after row.id := by
  intro row member
  rcases did.source sound sound' member with ⟨old, present, goes, lines⟩ | born
  · have kept := formed old present
    rw [← (continues_of_reflGen goes).id] at kept
    exact ⟨lines ▸ kept.valid, lines ▸ kept.places⟩
  · generalize rows : after.linesOf row.id = written at born
    cases born with
    | drafted valid _ _ written =>
      rw [← rows] at written
      exact formed_of_written written valid
    | reversing _ _ valid _ _ written =>
      rw [← rows] at written
      exact formed_of_written written valid

/-- Every entry is well formed after every run from fresh books. -/
theorem play_formed (supply : Supply) (calls : List Call) :
    ∀ row ∈ (play calls (.fresh supply)).books.entries,
      Formed (play calls (.fresh supply)).books row.id :=
  play_keeps (fun books => ∀ row ∈ books.entries, Formed books row.id)
    (fun sound sound' did formed => did.formed sound sound' formed) calls Sound.fresh
    fun _ none => absurd none List.not_mem_nil

/-- An entry that was created has the lines that were asked for. -/
theorem lines_of_created {session : Session} {input : NewEntry} {full : FullEntry}
    (did : Journaled before (.command session (.createEntry input)) (.ok (.fullEntry full)) after)
    (sound : Sound before) : full.entry ∈ after.entries ∧
      (after.linesOf full.entry.id).map LineRow.line = input.lines := by
  cases did with
  | apart _ _ _ _ idle =>
    obtain ⟨_, failed⟩ := idle rfl
    cases failed
  | drafted _ did =>
    obtain ⟨_, sequences, _, _, _, _, entered⟩ := did.draws
    have lines := entered.linesOf (sound.drawn sequences)
    refine ⟨?_, ?_⟩
    · rw [entered.left]
      exact List.mem_append_right _ List.mem_cons_self
    · rw [lines, entered.written.lines_eq]

/-- **An entry has the lines that were asked for in their order** as long as it lasts. -/
theorem play_created (supply : Supply) (calls later : List Call) {session : Session}
    {input : NewEntry} {full : FullEntry}
    (created : ((Call.command session (.createEntry input)).run (play calls (.fresh supply))).1 =
      .ok (.fullEntry full)) :
    ∀ row ∈ (play (calls ++ .command session (.createEntry input) :: later)
      (.fresh supply)).books.entries,
      row.id = full.entry.id →
        ((play (calls ++ .command session (.createEntry input) :: later)
          (.fresh supply)).books.linesOf
          row.id).map LineRow.line = input.lines := by
  intro row member same
  have sound : Sound (play calls (.fresh supply)).books := play_sound calls Sound.fresh
  have did := call_journaled (.command session (.createEntry input)) sound
  rw [created] at did
  obtain ⟨present, lines⟩ := lines_of_created did sound
  have split : calls ++ .command session (.createEntry input) :: later =
      (calls ++ [.command session (.createEntry input)]) ++ later := by simp
  have middle : (play (calls ++ [.command session (.createEntry input)]) (.fresh supply)).books =
      ((Call.command session (.createEntry input)).run (play calls (.fresh supply))).2.books := by
    rw [play_append]
    rfl
  rw [split] at member ⊢
  rw [← middle] at present lines
  cases play_lasts supply (calls ++ [.command session (.createEntry input)]) later present with
  | gone _ none => exact absurd same (none row member)
  | there _ _ kept => rw [same, kept, lines]

end Passbook.Bookkeeping
