/-
**A reversal and the entry that it reverses mirror each other.**

* `Pair`: an entry and its reversal, linked to each other, with the same lines on exchanged sides;
* `pair_of_reversed`: reversing an entry pairs it; `Pair.onward`: a pair stays one whatever
  operation comes, since the reversed entry is final and the reversal no draft;
* `linked_of_journaled`: every link of an entry was there before, or an operation has just paired
  it;
* `Mirrored`: every link is one of a pair, as `Journaled.mirrored` keeps it; then links are inverse
  to each other (`Mirrored.inverse`) and an entry has one reversal at most (`Mirrored.unique`);
* `play_mirrored`: so in every state that a run reaches the links are inverse to each other, and the
  reversed entries are those that have a reversal, which is one alone.
-/

import Passbook.Proofs.Bookkeeping.Formed

namespace Passbook.Bookkeeping

open Passbook.Journal
open Passbook.Ledger (EntryStatus)
open Passbook.Operation
open Passbook.Store

/-- An entry and its reversal. -/
structure Pair (books : Books) (entry reversal : EntryRow) : Prop where
  entryMem : entry ∈ books.entries
  reversalMem : reversal ∈ books.entries
  forth : entry.reversal = some reversal.id
  back : reversal.reverses = some entry.id
  entryType : reversal.entryType = .reversing
  booked : reversal.status ≠ .draft
  reference : reversal.reference = entry.reference
  lines : (books.linesOf reversal.id).map (fun row =>
      (row.place, row.line.account, row.line.debit, row.line.credit)) =
    (books.linesOf entry.id).map fun row =>
      (row.place, row.line.account, row.line.credit, row.line.debit)

/-- Every link between entries is one of a pair. -/
structure Mirrored (books : Books) : Prop where
  forth : ∀ entry ∈ books.entries, ∀ id ∈ entry.reversal,
    ∃ reversal, reversal.id = id ∧ Pair books entry reversal
  back : ∀ reversal ∈ books.entries, ∀ id ∈ reversal.reverses,
    ∃ entry, entry.id = id ∧ Pair books entry reversal

variable {before after : Books} {call : Call} {result : Except Failure Answer}

/-! ### Pairs that stay -/

/-- **A pair stays one** whatever operation comes. -/
theorem Pair.onward {entry reversal : EntryRow} (pair : Pair before entry reversal)
    (did : Journaled before call result after) (sound : Sound before) (sound' : Sound after)
    (audited : Audited entry) :
    ∃ entry' reversal', entry'.id = entry.id ∧ reversal'.id = reversal.id ∧
      Pair after entry' reversal' := by
  have reversed : entry.status = .reversed :=
    audited.reversal.mp (Option.isSome_iff_exists.mpr ⟨_, pair.forth⟩)
  cases did.fate sound sound' pair.entryMem with
  | gone draft _ =>
    rw [reversed] at draft
    cases draft
  | there member goes lines =>
    obtain rfl := (continues_of_reflGen goes).final (.inr reversed)
    cases did.fate sound sound' pair.reversalMem with
    | gone draft _ => exact absurd draft pair.booked
    | @there reversal' member' goes' lines' =>
      have continues := continues_of_reflGen goes'
      refine ⟨_, reversal', rfl, continues.id, {
        entryMem := member
        reversalMem := member'
        forth := by rw [continues.id, pair.forth]
        back := by rw [continues.reverses, pair.back]
        entryType := by rw [continues.entryType, pair.entryType]
        booked := ne_draft_of_moves pair.booked continues.moved
        reference := by rw [continues.reference, pair.reference]
        lines := ?_ }⟩
      rw [continues.id, lines', lines, pair.lines]

/-! ### Pairs that are made -/

/-- Lines of the same places, of which some are the others with their sides exchanged. -/
theorem mirrored_lines {rows others : List LineRow}
    (places : rows.map LineRow.place = others.map LineRow.place)
    (lines : rows.map LineRow.line = Ledger.reversing (others.map LineRow.line)) :
    rows.map (fun row => (row.place, row.line.account, row.line.debit, row.line.credit)) =
      others.map fun row => (row.place, row.line.account, row.line.credit, row.line.debit) := by
  have first : (rows.map LineRow.place).zip
      (rows.map fun row => (row.line.account, row.line.debit, row.line.credit)) = _ :=
    List.zip_map'
  have second : (others.map LineRow.place).zip
      (others.map fun row => (row.line.account, row.line.credit, row.line.debit)) = _ :=
    List.zip_map'
  rw [← first, ← second, places]
  congr 1
  have sides := congrArg (List.map fun line : Ledger.Line =>
    (line.account, line.debit, line.credit)) lines
  rw [Ledger.reversing, List.map_map, List.map_map, List.map_map] at sides
  exact sides

/-- **Reversing an entry pairs it** with its reversal. -/
theorem pair_of_reversed {session : Session} {id : EntryId} {user : UserId} {reason : String}
    {entry : EntryRow} {lines : List Ledger.Line} {outcome : Reversal}
    (did : Reversed session id user reason entry lines before outcome after)
    (sound : Sound before) (formed : Formed before entry.id) :
    Pair after (reversedBy session.now user reason outcome.reversal.entry.id entry)
      outcome.reversal.entry := by
  obtain ⟨apart, entries⟩ := reversal_entries did
  obtain ⟨_, sequences, middle, _, ⟨_, _, is⟩, entered, left⟩ := did.entered
  have sound' := sound.drawn sequences
  have own : after.linesOf outcome.reversal.entry.id = outcome.reversal.lines := by
    rw [left]
    exact entered.linesOf sound'
  have old : after.linesOf entry.id = before.linesOf entry.id := by
    rw [left]
    exact entered.linesOf_of_ne sound' apart.symm
  have same : outcome.reversal.lines.map LineRow.line =
      Ledger.reversing ((before.linesOf entry.id).map LineRow.line) := by
    rw [entered.written.lines_eq, did.loaded, did.named]
  have count : outcome.reversal.lines.length = (before.linesOf entry.id).length := by
    simpa [Ledger.reversing] using congrArg List.length same
  refine {
    entryMem := ?_
    reversalMem := ?_
    forth := rfl
    back := ?_
    entryType := ?_
    booked := ?_
    reference := ?_
    lines := ?_ }
  · rw [entries]
    exact List.mem_append_left _ (alter_mem_altered did.member rfl)
  · rw [entries]
    exact List.mem_append_right _ List.mem_cons_self
  · rw [is]
    rfl
  · rw [is]
    rfl
  · rw [is]
    exact EntryStatus.noConfusion
  · rw [is]
    rfl
  · show (after.linesOf _).map _ = (after.linesOf entry.id).map _
    rw [own, old]
    refine mirrored_lines ?_ same
    rw [entered.written.places, formed.places, count]

/-! ### Links -/

/-- The links of an entry were there before, or it has none, or an operation has just paired it, in
which case the other link of a reversed entry was there before. -/
inductive Linked (before after : Books) (row : EntryRow) : Prop
  | before {old : EntryRow} (member : old ∈ before.entries) (same : old.id = row.id)
      (reversal : old.reversal = row.reversal) (reverses : old.reverses = row.reverses)
  | none (reversal : row.reversal = none) (reverses : row.reverses = none)
  | reversed {old reversal : EntryRow} (member : old ∈ before.entries) (same : old.id = row.id)
      (reverses : old.reverses = row.reverses) (pair : Pair after row reversal)
  | reversal {entry : EntryRow} (unreversed : row.reversal = none) (pair : Pair after entry row)

/-- An entry that is stepped keeps its links. -/
theorem linked_of_stepped {id : EntryId} {step : Ledger.Step} {row : EntryRow}
    (member : row ∈ altered EntryRow.id id (stepped step) before.entries) :
    Linked before after row := by
  obtain ⟨old, present, rfl⟩ := mem_altered.mp member
  by_cases chosen : old.id = id
  · rw [if_pos chosen]
    cases step <;> exact .before present rfl rfl rfl
  · rw [if_neg chosen]
    exact .before present rfl rfl rfl

/-- **Where the links of an entry come from.** -/
theorem linked_of_journaled (did : Journaled before call result after) (sound : Sound before)
    (formed : ∀ row ∈ before.entries, Formed before row.id) {row : EntryRow}
    (member : row ∈ after.entries) : Linked before after row := by
  cases did with
  | apart entries =>
    rw [entries] at member
    exact .before member rfl rfl rfl
  | drafted _ did =>
    obtain ⟨_, _, _, _, _, is, entered⟩ := did.draws
    rw [entered.left] at member
    rcases List.mem_append.mp member with present | single
    · exact .before present rfl rfl rfl
    · rw [List.mem_singleton.mp single, is]
      exact .none rfl rfl
  | posted did =>
    rw [did.left] at member
    exact linked_of_stepped member
  | voided did =>
    rw [did.left] at member
    exact linked_of_stepped member
  | @reversed session id user reason entry lines outcome _ did =>
    have pair := pair_of_reversed did sound (formed entry did.member)
    rw [(reversal_entries did).2] at member
    rcases List.mem_append.mp member with present | single
    · obtain ⟨old, there, rfl⟩ := mem_altered.mp present
      by_cases chosen : old.id = entry.id
      · obtain rfl := eq_of_key sound.entryIds there did.member chosen
        rw [if_pos rfl]
        exact .reversed there rfl rfl pair
      · rw [if_neg chosen]
        exact .before there rfl rfl rfl
    · obtain ⟨_, _, _, _, ⟨_, _, is⟩, _⟩ := did.entered
      rw [List.mem_singleton.mp single]
      refine .reversal ?_ pair
      rw [is]
      rfl
  | dropped did =>
    rw [did.left] at member
    exact .before (List.mem_filter.mp member).1 rfl rfl rfl

/-- **Every link stays one of a pair** whatever operation comes. -/
theorem Journaled.mirrored (did : Journaled before call result after) (sound : Sound before)
    (sound' : Sound after) (audited : ∀ row ∈ before.entries, Audited row)
    (formed : ∀ row ∈ before.entries, Formed before row.id) (mirrored : Mirrored before) :
    Mirrored after := by
  -- links that were there before are those of pairs, which stay
  have forth : ∀ old ∈ before.entries, ∀ row ∈ after.entries, old.id = row.id →
      ∀ id ∈ old.reversal, ∃ reversal, reversal.id = id ∧ Pair after row reversal := by
    intro old present row member same id linked
    obtain ⟨reversal, named, pair⟩ := mirrored.forth old present id linked
    obtain ⟨entry', reversal', sameId, sameId', pair'⟩ :=
      pair.onward did sound sound' (audited old present)
    obtain rfl := eq_of_key sound'.entryIds pair'.entryMem member (sameId.trans same)
    exact ⟨reversal', sameId'.trans named, pair'⟩
  have back : ∀ old ∈ before.entries, ∀ row ∈ after.entries, old.id = row.id →
      ∀ id ∈ old.reverses, ∃ entry, entry.id = id ∧ Pair after entry row := by
    intro old present row member same id linked
    obtain ⟨entry, named, pair⟩ := mirrored.back old present id linked
    obtain ⟨entry', reversal', sameId, sameId', pair'⟩ :=
      pair.onward did sound sound' (audited entry pair.entryMem)
    obtain rfl := eq_of_key sound'.entryIds pair'.reversalMem member (sameId'.trans same)
    exact ⟨entry', sameId.trans named, pair'⟩
  refine ⟨fun row member id linked => ?_, fun row member id linked => ?_⟩
  · cases linked_of_journaled did sound formed member with
    | before present same reversal _ =>
      exact forth _ present row member same id (reversal ▸ linked)
    | none reversal _ =>
      rw [reversal] at linked
      cases linked
    | reversed _ _ _ pair => exact ⟨_, Option.some.inj (pair.forth.symm.trans linked), pair⟩
    | reversal unreversed _ =>
      rw [unreversed] at linked
      cases linked
  · cases linked_of_journaled did sound formed member with
    | before present same _ reverses =>
      exact back _ present row member same id (reverses ▸ linked)
    | none _ reverses =>
      rw [reverses] at linked
      cases linked
    | reversed present same reverses _ =>
      exact back _ present row member same id (reverses ▸ linked)
    | reversal _ pair => exact ⟨_, Option.some.inj (pair.back.symm.trans linked), pair⟩

/-- The links of entries are inverse to each other. -/
theorem Mirrored.inverse (mirrored : Mirrored before) (sound : Sound before)
    {entry reversal : EntryRow} (member : entry ∈ before.entries)
    (member' : reversal ∈ before.entries) :
    entry.reversal = some reversal.id ↔ reversal.reverses = some entry.id := by
  constructor
  · intro linked
    obtain ⟨other, same, pair⟩ := mirrored.forth entry member reversal.id linked
    obtain rfl := eq_of_key sound.entryIds pair.reversalMem member' same
    exact pair.back
  · intro linked
    obtain ⟨other, same, pair⟩ := mirrored.back reversal member' entry.id linked
    obtain rfl := eq_of_key sound.entryIds pair.entryMem member same
    exact pair.forth

/-- The reversed entries are those that have a reversal. -/
theorem Mirrored.reversed_iff (mirrored : Mirrored before) (sound : Sound before) {entry : EntryRow}
    (member : entry ∈ before.entries) (audited : Audited entry) :
    entry.status = .reversed ↔ ∃ reversal ∈ before.entries, reversal.reverses = some entry.id := by
  rw [← audited.reversal, Option.isSome_iff_exists]
  constructor
  · rintro ⟨id, linked⟩
    obtain ⟨reversal, _, pair⟩ := mirrored.forth entry member id linked
    exact ⟨reversal, pair.reversalMem, pair.back⟩
  · rintro ⟨reversal, member', linked⟩
    exact ⟨reversal.id, (mirrored.inverse sound member member').mpr linked⟩

/-- An entry has one reversal at most. -/
theorem Mirrored.unique (mirrored : Mirrored before) (sound : Sound before)
    {entry reversal other : EntryRow} (member : entry ∈ before.entries)
    (member' : reversal ∈ before.entries) (linked : reversal.reverses = some entry.id)
    (present : other ∈ before.entries) (linked' : other.reverses = some entry.id) :
    other = reversal := by
  have first := (mirrored.inverse sound member member').mpr linked
  have second := (mirrored.inverse sound member present).mpr linked'
  exact eq_of_key sound.entryIds present member' (Option.some.inj (second.symm.trans first))

/-! ### Runs -/

theorem Mirrored.fresh {supply : Supply} : Mirrored (.fresh supply) := by
  constructor <;> simp [Books.fresh]

/-- Every link is one of a pair after every run from fresh books. -/
theorem play_pairs (supply : Supply) (calls : List Call) :
    Mirrored (play calls (.fresh supply)).books :=
  (play_keeps
    (fun books => (∀ row ∈ books.entries, Audited row) ∧
      (∀ row ∈ books.entries, Formed books row.id) ∧ Mirrored books)
    (fun sound sound' did ⟨audited, formed, mirrored⟩ =>
      ⟨did.audited sound sound' audited, did.formed sound sound' formed,
        did.mirrored sound sound' audited formed mirrored⟩)
    calls Sound.fresh
    ⟨fun _ none => absurd none List.not_mem_nil, fun _ none => absurd none List.not_mem_nil,
      Mirrored.fresh⟩).2.2

/-- **Reversals mirror what they reverse**, in every state that a run from fresh books reaches. An
entry names another as its reversal exactly if the other names it as what it reverses; an entry is
reversed exactly if some entry reverses it, and then one alone does. Every link leads to an entry:
the reversal is of the type of reversals and no draft, has the reference of the entry that it
reverses, and in the order of their places the same lines on the same accounts with their sides
exchanged. -/
theorem play_mirrored (supply : Supply) (calls : List Call) :
    (∀ entry ∈ (play calls (.fresh supply)).books.entries,
      ∀ reversal ∈ (play calls (.fresh supply)).books.entries,
        (entry.reversal = some reversal.id ↔ reversal.reverses = some entry.id)) ∧
      (∀ entry ∈ (play calls (.fresh supply)).books.entries,
        (entry.status = .reversed ↔
          ∃ reversal ∈ (play calls (.fresh supply)).books.entries,
            reversal.reverses = some entry.id) ∧
        (entry.status = .reversed →
          ∃! reversal, reversal ∈ (play calls (.fresh supply)).books.entries ∧
            reversal.reverses = some entry.id)) ∧
      Mirrored (play calls (.fresh supply)).books := by
  have sound : Sound (play calls (.fresh supply)).books := play_sound calls Sound.fresh
  have mirrored := play_pairs supply calls
  refine ⟨fun entry member reversal member' => mirrored.inverse sound member member',
    fun entry member => ?_, mirrored⟩
  have reversed := mirrored.reversed_iff sound member (play_audited supply calls entry member)
  refine ⟨reversed, fun status => ?_⟩
  obtain ⟨reversal, member', linked⟩ := reversed.mp status
  exact ⟨reversal, ⟨member', linked⟩, fun other ⟨present, linked'⟩ =>
    mirrored.unique sound member member' linked present linked'⟩

end Passbook.Bookkeeping
