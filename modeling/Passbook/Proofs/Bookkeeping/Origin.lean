/-
**Where an entry comes from, and its type with it.**

* `Generated`: an operation of the run reversed a posted entry and answered with this one as the
  reversal; `Requested`: an operation of the run created this one, and under which type;
* `play_stems`: every entry was generated or requested;
* `Generated.tells`, `Requested.tells`: the type of an entry and whether it reverses another are
  settled by that for good;
* `play_typed`: so the entries that reverse another are those that were generated. Of the type of
  reversals are these, and the drafts that somebody requested under that type, which reverse
  nothing (`sampleFeigned_unlinked`).
-/

import Passbook.Proofs.Bookkeeping.Kept

namespace Passbook.Bookkeeping

open Passbook.Journal
open Passbook.Ledger (EntryType)
open Passbook.Operation
open Passbook.Store

/-- An operation of a run reversed a posted entry and answered with the entry under an identifier as
the reversal. -/
inductive Generated (supply : Supply) (calls : List Call) (id : EntryId) : Prop
  | reversing {earlier later : List Call} {session : Session} {entry : EntryRow} {user : UserId}
      {reason : String} {outcome : Reversal}
      (split : calls = earlier ++ .command session (.reverseEntry entry.id user reason) :: later)
      (member : entry ∈ (play earlier (.fresh supply)).books.entries)
      (posted : entry.status = .posted)
      (answered : ((Call.command session (.reverseEntry entry.id user reason)).run
        (play earlier (.fresh supply))).1 = .ok (.reversal outcome))
      (named : outcome.reversal.entry.id = id)

/-- An operation of a run was asked for an entry of a type and answered with the one under an
identifier. -/
inductive Requested (supply : Supply) (calls : List Call) (entryType : EntryType) (id : EntryId) :
    Prop
  | creating {earlier later : List Call} {session : Session} {input : NewEntry} {full : FullEntry}
      (split : calls = earlier ++ .command session (.createEntry input) :: later)
      (wanted : input.entryType = entryType)
      (answered :
        ((Call.command session (.createEntry input)).run (play earlier (.fresh supply))).1 =
        .ok (.fullEntry full))
      (named : full.entry.id = id)

/-! ### One operation -/

section Step

variable {before after : Books} {session : Session}

/-- An entry that was created is there under the type that was asked for and reverses nothing. -/
theorem created_entry {input : NewEntry} {full : FullEntry}
    (did : Journaled before (.command session (.createEntry input)) (.ok (.fullEntry full)) after) :
    after.entries = before.entries ++ [full.entry] ∧ full.entry.entryType = input.entryType ∧
      full.entry.reverses = none := by
  cases did with
  | apart _ _ _ _ idle =>
    obtain ⟨_, failed⟩ := idle rfl
    cases failed
  | drafted _ did =>
    obtain ⟨_, _, _, _, _, is, entered⟩ := did.draws
    refine ⟨by rw [entered.left], ?_, ?_⟩ <;> rw [is] <;> rfl

/-- The entry that a reversal adds is there under the type of reversals and reverses the other,
which was posted. -/
theorem reversal_entry {id : EntryId} {user : UserId} {reason : String} {outcome : Reversal}
    (did : Journaled before (.command session (.reverseEntry id user reason))
      (.ok (.reversal outcome)) after) :
    outcome.reversal.entry ∈ after.entries ∧ outcome.reversal.entry.entryType = .reversing ∧
      outcome.reversal.entry.reverses = some id := by
  cases did with
  | apart _ _ _ _ idle =>
    obtain ⟨_, failed⟩ := idle rfl
    cases failed
  | reversed did =>
    obtain ⟨_, _, _, _, ⟨_, _, is⟩, _⟩ := did.entered
    refine ⟨?_, ?_, ?_⟩
    · rw [(reversal_entries did).2]
      exact List.mem_append_right _ List.mem_cons_self
    · rw [is]
      rfl
    · rw [is, ← did.named]
      rfl

end Step

/-! ### What is settled stays so -/

/-- What an operation does to the journal after a run from fresh books. -/
theorem journaled_after (supply : Supply) (earlier : List Call) (call : Call) :
    Journaled (play earlier (.fresh supply)).books call (call.run (play earlier (.fresh supply))).1
      (call.run (play earlier (.fresh supply))).2.books :=
  call_journaled call (play_sound earlier Sound.fresh)

/-- An entry that an operation of a run left continues to the end of the run. -/
theorem continues_of_left (supply : Supply) {earlier later : List Call} {call : Call}
    {old row : EntryRow} (present : old ∈ (call.run (play earlier (.fresh supply))).2.books.entries)
    (member : row ∈ (play (earlier ++ call :: later) (.fresh supply)).books.entries)
    (same : row.id = old.id) : Continues old row := by
  have sound : Sound (play (earlier ++ call :: later) (.fresh supply)).books :=
    play_sound (earlier ++ call :: later) Sound.fresh
  have there : old ∈ (play (earlier ++ [call]) (.fresh supply)).books.entries := by
    rw [play_append]
    exact present
  have lasts := play_lasts supply (earlier ++ [call]) later there
  rw [List.append_assoc, List.singleton_append] at lasts
  cases lasts with
  | gone _ none => exact absurd same (none row member)
  | there member' continues _ =>
    obtain rfl := eq_of_key sound.entryIds member member' (same.trans continues.id.symm)
    exact continues

section Tells

variable {calls : List Call} {row : EntryRow}

/-- **An entry that was generated** is of the type of reversals and reverses another. -/
theorem Generated.tells {supply : Supply} (generated : Generated supply calls row.id)
    (member : row ∈ (play calls (.fresh supply)).books.entries) :
    row.reverses.isSome ∧ row.entryType = .reversing := by
  obtain @⟨earlier, _, session, entry, user, reason, _, rfl, _, _, answered, named⟩ := generated
  have did := journaled_after supply earlier (.command session (.reverseEntry entry.id user reason))
  rw [answered] at did
  obtain ⟨present, entryType, reverses⟩ := reversal_entry did
  have continues := continues_of_left supply present member named.symm
  rw [continues.reverses, continues.entryType, reverses]
  exact ⟨rfl, entryType⟩

/-- **An entry that was requested** is of the type that was asked for and reverses nothing. -/
theorem Requested.tells {supply : Supply} {entryType : EntryType}
    (requested : Requested supply calls entryType row.id)
    (member : row ∈ (play calls (.fresh supply)).books.entries) :
    row.reverses = none ∧ row.entryType = entryType := by
  obtain @⟨earlier, _, session, input, full, rfl, rfl, answered, named⟩ := requested
  have did := journaled_after supply earlier (.command session (.createEntry input))
  rw [answered] at did
  obtain ⟨left, asked, reverses⟩ := created_entry did
  have present : full.entry ∈
      ((Call.command session (.createEntry input)).run
        (play earlier (.fresh supply))).2.books.entries := by
    rw [left]
    exact List.mem_append_right _ List.mem_cons_self
  have continues := continues_of_left supply present member named.symm
  exact ⟨continues.reverses.trans reverses, continues.entryType.trans asked⟩

end Tells

/-! ### Runs -/

section Longer

variable {calls : List Call} {id : EntryId} {entryType : EntryType}

theorem Generated.longer (generated : Generated supply calls id) (call : Call) :
    Generated supply (calls ++ [call]) id := by
  obtain ⟨rfl, member, posted, answered, named⟩ := generated
  exact .reversing (List.append_assoc _ _ _) member posted answered named

theorem Requested.longer (requested : Requested supply calls entryType id) (call : Call) :
    Requested supply (calls ++ [call]) entryType id := by
  obtain ⟨rfl, wanted, answered, named⟩ := requested
  exact .creating (List.append_assoc _ _ _) wanted answered named

end Longer

/-- An entry that an operation leaves stood before, or is what the operation generated or was
requested for. -/
theorem stood_or_brought (supply : Supply) (earlier : List Call) (call : Call) {row : EntryRow}
    (member : row ∈ (call.run (play earlier (.fresh supply))).2.books.entries) :
    (∃ old ∈ (play earlier (.fresh supply)).books.entries, old.id = row.id) ∨
      Generated supply (earlier ++ [call]) row.id ∨
        ∃ entryType, Requested supply (earlier ++ [call]) entryType row.id := by
  have sound : Sound (play earlier (.fresh supply)).books := play_sound earlier Sound.fresh
  have did := journaled_after supply earlier call
  have source := did.source sound ((call.happened sound).sound sound) member
  generalize answered : (call.run (play earlier (.fresh supply))).1 = result at did
  cases did with
  | apart entries => exact .inl ⟨row, entries ▸ member, rfl⟩
  | drafted valid did =>
    rw [(created_entry (.drafted valid did)).1] at member
    rcases List.mem_append.mp member with present | single
    · exact .inl ⟨row, present, rfl⟩
    · rw [List.mem_singleton.mp single]
      exact .inr (.inr ⟨_, .creating rfl rfl answered rfl⟩)
  | @reversed session _ user reason entry _ outcome _ did =>
    obtain rfl := did.named
    rw [(reversal_entries did).2] at member
    rcases List.mem_append.mp member with present | single
    · obtain ⟨old, there, rfl⟩ := mem_altered.mp present
      refine .inl ⟨old, there, ?_⟩
      by_cases chosen : old.id = entry.id
      · rw [if_pos chosen, reversedBy_id]
      · rw [if_neg chosen]
    · rw [List.mem_singleton.mp single]
      exact .inr (.inl (.reversing rfl did.member did.status answered rfl))
  | _ =>
    rcases source with ⟨old, present, goes, _⟩ | born
    · exact .inl ⟨old, present, (continues_of_reflGen goes).id.symm⟩
    · cases born

/-- **Every entry was generated or requested** by an operation of the run. -/
theorem play_stems (supply : Supply) (calls : List Call) :
    ∀ row ∈ (play calls (.fresh supply)).books.entries,
      Generated supply calls row.id ∨ ∃ entryType, Requested supply calls entryType row.id := by
  induction calls using List.reverseRecOn with
  | nil => exact fun _ none => absurd none List.not_mem_nil
  | append_singleton earlier call ih =>
    intro row member
    rw [play_append] at member
    rcases stood_or_brought supply earlier call member with ⟨old, present, same⟩ | brought
    · rw [← same]
      rcases ih old present with generated | ⟨entryType, requested⟩
      · exact .inl (generated.longer call)
      · exact .inr ⟨entryType, requested.longer call⟩
    · exact brought

/-- **The type of an entry tells whether it is a reversal, unless somebody requested it**, in every
run from fresh books. An entry reverses another exactly if an operation generated it by reversing a
posted entry. It is of the type of reversals exactly if it was so generated, or an operation that
creates drafts was asked for one under this type; the latter reverse nothing. -/
theorem play_typed (supply : Supply) (calls : List Call) :
    ∀ row ∈ (play calls (.fresh supply)).books.entries,
      (row.reverses.isSome ↔ Generated supply calls row.id) ∧
        (row.entryType = .reversing ↔
          Generated supply calls row.id ∨ Requested supply calls .reversing row.id) ∧
        (Requested supply calls .reversing row.id → row.reverses = none) := by
  intro row member
  have stems := play_stems supply calls row member
  refine ⟨⟨fun linked => ?_, fun generated => (generated.tells member).1⟩,
    ⟨fun typed => ?_, fun brought => ?_⟩, fun requested => (requested.tells member).1⟩
  · refine stems.resolve_right fun ⟨_, requested⟩ => ?_
    rw [(requested.tells member).1] at linked
    cases linked
  · rcases stems with generated | ⟨entryType, requested⟩
    · exact .inl generated
    · obtain rfl : entryType = .reversing := (requested.tells member).2.symm.trans typed
      exact .inr requested
  · rcases brought with generated | requested
    · exact (generated.tells member).2
    · exact (requested.tells member).2

/-- Two accounts are opened, and a draft on them is requested under the type of reversals. -/
def sampleFeigned : List Call :=
  sampleEntered.take 2 ++
    [.command sampleSession (.createEntry { sampleSale 100 with entryType := .reversing })]

/-- The sale that was posted is reversed by an entry that was generated, and the draft that feigns
to be a reversal was requested. -/
theorem play_typed_samples :
    (∃ row ∈ (play (sampleEntered ++ [samplePosting] ++ [sampleReversing]) .fresh).books.entries,
        row.reverses.isSome ∧ row.entryType = .reversing ∧
          Generated .ascending (sampleEntered ++ [samplePosting] ++ [sampleReversing]) row.id) ∧
      ∃ row ∈ (play sampleFeigned .fresh).books.entries,
        row.entryType = .reversing ∧ Requested .ascending sampleFeigned .reversing row.id := by
  constructor
  · obtain ⟨outcome, _, answered, did⟩ := sampleEntered_reversed
    have did' := journaled_after .ascending (sampleEntered ++ [samplePosting]) sampleReversing
    rw [answered] at did'
    obtain ⟨present, _, reverses⟩ := reversal_entry did'
    have member : outcome.reversal.entry ∈
        (play (sampleEntered ++ [samplePosting] ++ [sampleReversing]) .fresh).books.entries := by
      rw [play_append]
      exact present
    obtain ⟨linked, typed, _⟩ := play_typed .ascending _ _ member
    have generated := linked.mp (Option.isSome_iff_exists.mpr ⟨_, reverses⟩)
    exact ⟨_, member, linked.mpr generated, typed.mpr (.inl generated), generated⟩
  · have there : ∃ row ∈ (play sampleFeigned .fresh).books.entries,
        row.entryType = .reversing ∧ row.reverses = none := by
      decide +kernel
    obtain ⟨row, member, entryType, unlinked⟩ := there
    obtain ⟨linked, typed, _⟩ := play_typed .ascending sampleFeigned row member
    refine ⟨row, member, entryType, (typed.mp entryType).resolve_left fun generated => ?_⟩
    have reverses := linked.mpr generated
    rw [unlinked] at reverses
    cases reverses

/-- **An entry of the type of reversals need not reverse anything**: whoever creates a draft may
give it any type. -/
theorem sampleFeigned_unlinked :
    ¬ ∀ row ∈ (play sampleFeigned .fresh).books.entries,
      (row.entryType = .reversing ↔ row.reverses.isSome) := by
  decide +kernel

end Passbook.Bookkeeping
