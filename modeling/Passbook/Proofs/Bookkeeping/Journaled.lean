/-
**What operations do to the journal.**

* `Journaled`: an operation leaves the journal as it was, or it is one of five and answers with what
  it did there; `call_journaled`: this is true of every operation;
* `Journaled.fate`: an entry stays or takes one step, its lines being as they were, or it was a
  draft that is gone;
* `Journaled.source`: every entry was there before, up to a step, or is born of the operation
  (`Born`);
* `play_keeps`: what every operation keeps of the journal is kept by every run; `play_issued`:
  so entries and lines bear identifiers that have been handed out.
-/

import Passbook.Proofs.Journal.Life
import Passbook.Proofs.Journal.Lines
import Passbook.Proofs.Operation.Frame
import Passbook.Proofs.Operation.Run

namespace Passbook.Bookkeeping

open Passbook.Journal
open Passbook.Ledger (Line)
open Passbook.Operation
open Passbook.Store
open Passbook.Store.Action (Ends Leaves)
open Relation (ReflGen)

/-! ### What an operation does -/

/-- The operations that enter an entry. -/
def enters : Call → Bool
  | .command _ (.createEntry _) => true
  | .command _ (.reverseEntry _ _ _) => true
  | _ => false

/-- What an operation does to the journal, by what is asked for and what is answered. -/
inductive Journaled (before : Books) : Call → Except Failure Answer → Books → Prop
  | apart {call : Call} {result : Except Failure Answer} {after : Books}
      (entries : after.entries = before.entries) (lines : after.lines = before.lines)
      (sequences : after.sequences = before.sequences) (onward : before.Onward after)
      (idle : enters call → ∃ failure, result = .error failure) :
      Journaled before call result after
  | drafted {session : Session} {input : NewEntry} {entered : FullEntry} {after : Books}
      (valid : ∃ totals, Ledger.validateLines input.lines = .ok totals)
      (did : Drafted session input before entered after) :
      Journaled before (.command session (.createEntry input)) (.ok (.fullEntry entered)) after
  | posted {session : Session} {id : EntryId} {user : UserId} {entry row : EntryRow}
      {lines : List Line} {after : Books}
      (did : Posted session id user entry lines before row after) :
      Journaled before (.command session (.postEntry id user)) (.ok (.entry row)) after
  | voided {session : Session} {id : EntryId} {user : UserId} {reason : String}
      {entry row : EntryRow} {after : Books}
      (did : Voided session id user (Text.trim reason) entry before row after) :
      Journaled before (.command session (.voidEntry id user reason)) (.ok (.entry row)) after
  | reversed {session : Session} {id : EntryId} {user : UserId} {reason : String}
      {entry : EntryRow} {lines : List Line} {outcome : Reversal} {after : Books}
      (did : Reversed session id user (Text.trim reason) entry lines before outcome after) :
      Journaled before (.command session (.reverseEntry id user reason)) (.ok (.reversal outcome))
        after
  | dropped {session : Session} {id : EntryId} {entry : EntryRow} {after : Books}
      (did : Dropped id entry before after) :
      Journaled before (.command session (.deleteDraft id)) (.ok .nothing) after

variable {before after : Books} {call : Call} {result : Except Failure Answer}

/-! ### Every operation does so -/

/-- No deed takes identifiers back. -/
theorem onward_of_deed {session : Session} {kind : DeedKind}
    (deed : Deed session kind before after) : before.Onward after := by
  have revised : ∀ {id alter old}, Holdings.Revised id alter old before after →
      before.Onward after := by
    intro id alter old did
    rw [did.left]
    exact ⟨rfl, Nat.le_refl _⟩
  have restated : ∀ {wallet old state}, Holdings.Restated session wallet old state before after →
      before.Onward after := by
    intro wallet old state did
    rw [did.left]
    exact ⟨rfl, Nat.le_refl _⟩
  cases deed with
  | accountOpened _ did =>
    rw [did.left]
    exact ⟨rfl, Nat.le_succ _⟩
  | drafted _ did =>
    obtain ⟨_, _, _, _, _, _, entered⟩ := did.draws
    rw [entered.left]
    exact ⟨rfl, Nat.le_trans (Nat.le_succ _) (Nat.le_add_right _ _)⟩
  | reversed did =>
    obtain ⟨_, _, _, _, _, entered, left⟩ := did.entered
    rw [left, entered.left]
    exact ⟨rfl, Nat.le_trans (Nat.le_succ _) (Nat.le_add_right _ _)⟩
  | walletOpened did =>
    rw [did.left]
    exact ⟨rfl, Nat.le_succ _⟩
  | statusSet _ _ _ did => exact revised did
  | closed did =>
    obtain ⟨_, _, _, _, did⟩ := did.revised
    exact revised did
  | held did =>
    obtain ⟨_, _, _, did⟩ := did.revised
    exact revised did
  | released did =>
    obtain ⟨_, _, did⟩ := did.revised
    exact revised did
  | linked did =>
    obtain ⟨_, did⟩ := did.revised
    exact revised did
  | limitsSet did =>
    obtain ⟨_, _, did⟩ := did.written
    exact restated did
  | spent did =>
    obtain ⟨_, _, did⟩ := did.written
    exact restated did
  | credited _ _ did =>
    rw [did.left]
    exact ⟨rfl, Nat.le_refl _⟩
  | _ did =>
    rw [did.left]
    exact ⟨rfl, Nat.le_refl _⟩

/-- Deeds that write no table of the journal leave it as it was. -/
theorem apart_of_happened {kinds : List DeedKind} (happened : Happened kinds before after)
    (others : ∀ table ∈ [Table.journalEntries, .ledgerLines, .ledgerSequences],
      ∀ kind ∈ kinds, table ∉ kind.writes)
    (idle : enters call → ∃ failure, result = .error failure) :
    Journaled before call result after := by
  refine .apart (happened.untouched (others .journalEntries (by simp)))
    (happened.untouched (others .ledgerLines (by simp)))
    (happened.untouched (others .ledgerSequences (by simp))) ?_ idle
  induction happened with
  | refl => exact .refl _
  | tail _ deed ih =>
    obtain ⟨_, _, _, did⟩ := deed
    exact ih.trans (onward_of_deed did)

/-- An operation of the journal that is refused leaves it as it was. -/
theorem journaled_of_ends {α : Type} (answer : α → Answer) {action : Action (Halt JournalError) α}
    {change : Books → α → Books → Prop} {news : α → List Event} {world : World}
    (ends : Ends action (Leaves change news)) (sound : Sound world.books)
    (did : ∀ value after, change world.books value after →
      Journaled world.books call (.ok (answer value)) after) :
    Journaled world.books call (ofJournal answer action world).1
      (ofJournal answer action world).2.books := by
  rw [ofJournal, answering_run]
  rcases ends world with ⟨cause, same⟩ | ⟨value, after, same, left⟩
  · rw [same]
    exact .apart rfl rfl rfl (.refl _) fun _ => ⟨_, rfl⟩
  · rw [same]
    exact did value after.books (left.changed sound)

/-- An operation of the journal that answers has changed it as told. -/
theorem changed_of_answered {α : Type} {answer : α → Answer} {action : Action (Halt JournalError) α}
    {change : Books → α → Books → Prop} {news : α → List Event} {world : World} {told : Answer}
    (ends : Ends action (Leaves change news)) (sound : Sound world.books)
    (answered : (ofJournal answer action world).1 = .ok told) :
    ∃ value, answer value = told ∧
      change world.books value (ofJournal answer action world).2.books := by
  rw [ofJournal, answering_run] at answered ⊢
  rcases ends world with ⟨cause, same⟩ | ⟨value, after, same, left⟩
  · rw [same] at answered
    cases answered
  · rw [same] at answered ⊢
    exact ⟨value, Except.ok.inj answered, left.changed sound⟩

/-- **What an operation does to the journal.** -/
theorem call_journaled (call : Call) {world : World} (sound : Sound world.books) :
    Journaled world.books call (call.run world).1 (call.run world).2.books := by
  have happened := call.happened sound
  cases call with
  | command session wanted =>
    cases wanted with
    | createEntry input =>
      exact journaled_of_ends .fullEntry (createEntry_ends session input) sound fun _ _ did =>
        .drafted did.1 did.2
    | postEntry entry user =>
      exact journaled_of_ends .entry (postEntry_ends session entry user) sound
        fun _ _ ⟨_, _, did⟩ => .posted did
    | voidEntry entry user reason =>
      exact journaled_of_ends .entry (voidEntry_ends session entry user reason) sound
        fun _ _ ⟨_, did⟩ => .voided did
    | reverseEntry entry user reason =>
      exact journaled_of_ends .reversal (reverseEntry_ends session entry user reason) sound
        fun _ _ ⟨_, _, did⟩ => .reversed did
    | deleteDraft entry =>
      exact journaled_of_ends (fun _ => .nothing) (deleteDraft_ends session entry) sound
        fun _ _ ⟨_, did⟩ => .dropped did
    | _ =>
      exact apart_of_happened happened
        (by simp [Call.kinds, Command.kinds, DeedKind.writes]) (by simp [enters])
  | query session wanted =>
    exact apart_of_happened happened (by simp [Call.kinds]) (by simp [enters])
  | provisionInStages reading opening linking wallet =>
    exact apart_of_happened happened (by simp [Call.kinds, DeedKind.writes]) (by simp [enters])
  | provisionElsewhere reading linking find create wallet =>
    exact apart_of_happened happened (by simp [Call.kinds, DeedKind.writes]) (by simp [enters])
  | depositInStages confirming crediting undoing request =>
    exact apart_of_happened happened (by simp [Call.kinds, DeedKind.writes]) (by simp [enters])

/-- **What every operation keeps of the journal every run keeps.** -/
theorem play_keeps (holds : Books → Prop)
    (step : ∀ {before call result after}, Sound before → Sound after →
      Journaled before call result after → holds before → holds after)
    {world : World} (calls : List Call) (sound : Sound world.books) (start : holds world.books) :
    holds (play calls world).books := by
  induction calls generalizing world with
  | nil => exact start
  | cons call rest ih =>
    have sound' := (call.happened sound).sound sound
    exact ih sound' (step sound sound' (call_journaled call sound) start)

/-! ### What becomes of entries and where they come from -/

/-- An entry that is born of an operation with its lines, under the next identifier and the next
number. -/
inductive Born (before : Books) : Call → EntryRow → List LineRow → Prop
  | drafted {session : Session} {input : NewEntry} {uuid : Uuid} {value : Amount}
      {later : List SequenceRow} {rows : List LineRow}
      (valid : ∃ totals, Ledger.validateLines input.lines = .ok totals)
      (issued : before.next? = some uuid)
      (draws : Draws before.sequences value later)
      (written : Written before.supply ⟨uuid⟩ 1 (before.issued + 1) input.lines rows) :
      Born before (.command session (.createEntry input))
        (draftRow ⟨uuid⟩ (Ledger.entryNumber value) input session.now) rows
  | reversing {session : Session} {id : EntryId} {user : UserId} {reason : String} {uuid : Uuid}
      {value : Amount} {later : List SequenceRow} {entry : EntryRow} {rows : List LineRow}
      (member : entry ∈ before.entries) (named : entry.id = id)
      (valid : ∃ totals, Ledger.validateLines
        (Ledger.reversing ((before.linesOf id).map LineRow.line)) = .ok totals)
      (issued : before.next? = some uuid)
      (draws : Draws before.sequences value later)
      (written : Written before.supply ⟨uuid⟩ 1 (before.issued + 1)
        (Ledger.reversing ((before.linesOf id).map LineRow.line)) rows) :
      Born before (.command session (.reverseEntry id user reason))
        (reversalRow ⟨uuid⟩ (Ledger.entryNumber value) entry user (Text.trim reason) session.now)
        rows

/-- What becomes of an entry. -/
inductive Fate (before after : Books) (old : EntryRow) : Prop
  | gone (draft : old.status = .draft) (none : ∀ row ∈ after.entries, row.id ≠ old.id)
  | there {row : EntryRow} (member : row ∈ after.entries) (goes : ReflGen Goes old row)
      (lines : after.linesOf old.id = before.linesOf old.id)

section Altered

variable {entries : List EntryRow} {entry : EntryRow} (alter : EntryRow → EntryRow)

/-- Altering the one entry under an identifier by a step is a step of it and leaves the others. -/
theorem goes_of_altered (unique : (entries.map EntryRow.id).Nodup) (member : entry ∈ entries)
    (goes : Goes entry (alter entry)) {old : EntryRow} (present : old ∈ entries) :
    ReflGen Goes old (if old.id = entry.id then alter old else old) := by
  by_cases chosen : old.id = entry.id
  · obtain rfl := eq_of_key unique present member chosen
    rw [if_pos rfl]
    exact .single goes
  · rw [if_neg chosen]

theorem fate_of_altered (unique : (entries.map EntryRow.id).Nodup) (member : entry ∈ entries)
    (goes : Goes entry (alter entry)) {old : EntryRow} (present : old ∈ entries) :
    ∃ row ∈ altered EntryRow.id entry.id alter entries, ReflGen Goes old row :=
  ⟨_, mem_altered.mpr ⟨old, present, rfl⟩, goes_of_altered alter unique member goes present⟩

theorem source_of_altered (unique : (entries.map EntryRow.id).Nodup) (member : entry ∈ entries)
    (goes : Goes entry (alter entry)) {row : EntryRow}
    (present : row ∈ altered EntryRow.id entry.id alter entries) :
    ∃ old ∈ entries, ReflGen Goes old row := by
  obtain ⟨old, there, rfl⟩ := mem_altered.mp present
  exact ⟨old, there, goes_of_altered alter unique member goes there⟩

end Altered

/-- The entry that a reversal adds is not the one that it reverses. -/
theorem reversal_entries {session : Session} {id : EntryId} {user : UserId} {reason : String}
    {entry : EntryRow} {lines : List Line} {outcome : Reversal}
    (did : Reversed session id user reason entry lines before outcome after) :
    outcome.reversal.entry.id ≠ entry.id ∧
      after.entries = altered EntryRow.id entry.id
        (reversedBy session.now user reason outcome.reversal.entry.id) before.entries ++
          [outcome.reversal.entry] := by
  obtain ⟨_, _, middle, _, _, entered, left⟩ := did.entered
  have apart : outcome.reversal.entry.id ≠ entry.id := (entered.newId entry did.member).symm
  have entries : middle.entries = before.entries ++ [outcome.reversal.entry] := by rw [entered.left]
  refine ⟨apart, ?_⟩
  rw [left, did.named]
  show altered EntryRow.id id _ middle.entries = _
  rw [entries, altered, List.map_append, List.map_cons, List.map_nil, if_neg (did.named ▸ apart)]
  rfl

/-- **What becomes of an entry**: it stays or takes one step, or it was a draft that is gone. -/
theorem Journaled.fate (did : Journaled before call result after) (sound : Sound before)
    (sound' : Sound after) {old : EntryRow} (member : old ∈ before.entries) :
    Fate before after old := by
  have still : after.lines = before.lines → after.linesOf old.id = before.linesOf old.id := by
    intro same
    exact linesOf_congr sound.plain sound'.plain (by rw [same])
  cases did with
  | apart entries lines =>
    exact .there (entries ▸ member) .refl (still lines)
  | drafted _ did =>
    obtain ⟨_, sequences, _, _, _, _, entered⟩ := did.draws
    have present : old ∈ after.entries := by
      rw [entered.left]
      exact List.mem_append_left _ member
    exact .there present .refl
      (entered.linesOf_of_ne (sound.drawn sequences) (entered.newId old member))
  | posted did =>
    obtain ⟨row, present, goes⟩ := fate_of_altered (stepped _) sound.entryIds did.member
      (.posted did.draft) member
    refine .there ?_ goes (still ?_)
    · rw [did.left, ← did.named]
      exact present
    · rw [did.left]
  | voided did =>
    obtain ⟨row, present, goes⟩ := fate_of_altered (stepped _) sound.entryIds did.member
      (.voided did.status (reasoned_of_void did.reasoned)) member
    refine .there ?_ goes (still ?_)
    · rw [did.left, ← did.named]
      exact present
    · rw [did.left]
  | reversed did =>
    obtain ⟨row, present, goes⟩ := fate_of_altered (reversedBy _ _ _ _) sound.entryIds
      did.member (.reversed did.status (reasoned_of_reverse did.reasoned)) member
    obtain ⟨_, sequences, middle, _, _, entered, left⟩ := did.entered
    have there : row ∈ after.entries := by
      rw [(reversal_entries did).2]
      exact List.mem_append_left _ present
    refine .there there goes ?_
    rw [left]
    exact entered.linesOf_of_ne (sound.drawn sequences) (entered.newId old member)
  | @dropped session id entry _ did =>
    have entries : after.entries = before.entries.filter fun row => !(row.id == id) := by
      rw [did.left]
    by_cases chosen : old.id = id
    · obtain rfl := eq_of_key sound.entryIds member did.member (chosen.trans did.named.symm)
      refine .gone did.draft fun row present same => ?_
      rw [entries] at present
      simpa [same, chosen] using (List.mem_filter.mp present).2
    · have present : old ∈ after.entries := by
        rw [entries]
        exact List.mem_filter.mpr ⟨member, by simpa using chosen⟩
      exact .there present .refl (did.linesOf_of_ne sound chosen)

theorem continues_of_reflGen {old row : EntryRow} (goes : ReflGen Goes old row) :
    Continues old row := by
  cases goes with
  | refl => exact .refl old
  | single step => exact step.continues

/-- **Where an entry comes from**: it was there with its lines, up to a step, or is born of the
operation. -/
theorem Journaled.source (did : Journaled before call result after) (sound : Sound before)
    (sound' : Sound after) {row : EntryRow} (member : row ∈ after.entries) :
    (∃ old ∈ before.entries, ReflGen Goes old row ∧
        after.linesOf row.id = before.linesOf row.id) ∨
      Born before call row (after.linesOf row.id) := by
  have stays : (∃ old ∈ before.entries, ReflGen Goes old row) → ∃ old ∈ before.entries,
      ReflGen Goes old row ∧ after.linesOf row.id = before.linesOf row.id := by
    rintro ⟨old, present, goes⟩
    have same := (continues_of_reflGen goes).id
    refine ⟨old, present, goes, ?_⟩
    cases did.fate sound sound' present with
    | gone _ none => exact absurd same (none row member)
    | there _ _ lines => rw [same, lines]
  cases did with
  | apart entries => exact .inl (stays ⟨row, entries ▸ member, .refl⟩)
  | drafted valid did =>
    obtain ⟨_, sequences, draws, uuid, issued, is, entered⟩ := did.draws
    have lines := entered.linesOf (sound.drawn sequences)
    have written := entered.written
    rw [entered.left] at member
    rcases List.mem_append.mp member with present | single
    · exact .inl (stays ⟨row, present, .refl⟩)
    · rw [List.mem_singleton.mp single, lines]
      rw [is] at written ⊢
      exact .inr (.drafted valid issued draws written)
  | posted did =>
    rw [did.left, ← did.named] at member
    exact .inl (stays (source_of_altered _ sound.entryIds did.member (.posted did.draft) member))
  | voided did =>
    rw [did.left, ← did.named] at member
    exact .inl (stays (source_of_altered _ sound.entryIds did.member
      (.voided did.status (reasoned_of_void did.reasoned)) member))
  | @reversed _ _ _ _ _ _ outcome _ did =>
    rw [(reversal_entries did).2] at member
    rcases List.mem_append.mp member with present | single
    · exact .inl (stays (source_of_altered _ sound.entryIds did.member
        (.reversed did.status (reasoned_of_reverse did.reasoned)) present))
    · obtain ⟨_, sequences, middle, draws, ⟨uuid, issued, is⟩, entered, left⟩ := did.entered
      have lines : after.linesOf outcome.reversal.entry.id = outcome.reversal.lines := by
        rw [left]
        exact entered.linesOf (sound.drawn sequences)
      have written := entered.written
      have valid := did.valid
      rw [List.mem_singleton.mp single, lines]
      rw [did.loaded] at written valid
      rw [is] at written ⊢
      exact .inr (.reversing did.member did.named valid issued draws written)
  | dropped did =>
    rw [did.left] at member
    exact .inl (stays ⟨row, (List.mem_filter.mp member).1, .refl⟩)

/-! ### Identifiers -/

/-- An entry that is born bears the next identifier. -/
theorem Born.issued {row : EntryRow} {rows : List LineRow} (born : Born before call row rows) :
    before.next? = some row.id.uuid := by
  cases born with
  | drafted _ issued _ _ => exact issued
  | reversing _ _ _ issued _ _ => exact issued

/-- No operation takes identifiers back. -/
theorem Journaled.onward (did : Journaled before call result after) :
    before.Onward after := by
  cases did with
  | apart _ _ _ onward => exact onward
  | drafted valid did => exact onward_of_deed (.drafted valid did)
  | posted did => exact onward_of_deed (.posted did)
  | voided did => exact onward_of_deed (.voided did)
  | reversed did => exact onward_of_deed (.reversed did)
  | dropped did =>
    rw [did.left]
    exact ⟨rfl, Nat.le_refl _⟩

/-- **Entries and lines bear identifiers that have been handed out**, whatever operation comes. -/
theorem Journaled.issued (did : Journaled before call result after) (issued : Issued before) :
    Issued after := by
  cases did with
  | apart entries lines _ onward =>
    refine issued.mono ?_ ?_ onward
    · rw [entries]
      exact List.Subset.refl _
    · rw [lines]
      exact List.Subset.refl _
  | drafted _ did =>
    obtain ⟨_, _, _, uuid, is, row, entered⟩ := did.draws
    refine entered.issued (issued.mono (List.Subset.refl _) (List.Subset.refl _)
      ⟨rfl, Nat.le_succ _⟩) ?_
    rw [row]
    exact Uuid.before_of_issued? is
  | posted did =>
    exact issued.alterEntries (fun _ => stepped_id) (by rw [did.left]) (by rw [did.left])
      (onward_of_deed (.posted did))
  | voided did =>
    exact issued.alterEntries (fun _ => stepped_id) (by rw [did.left]) (by rw [did.left])
      (onward_of_deed (.voided did))
  | reversed did =>
    obtain ⟨_, _, middle, _, ⟨uuid, is, row⟩, entered, left⟩ := did.entered
    have between : Issued middle := by
      refine entered.issued (issued.mono (List.Subset.refl _) (List.Subset.refl _)
        ⟨rfl, Nat.le_succ _⟩) ?_
      rw [row]
      exact Uuid.before_of_issued? is
    exact between.alterEntries (fun _ => reversedBy_id) (by rw [left]) (by rw [left])
      (by rw [left]; exact ⟨rfl, Nat.le_refl _⟩)
  | dropped did =>
    rw [did.left]
    exact issued.mono (List.map_subset _ (List.filter_subset_self _)) (List.filter_subset_self _)
      ⟨rfl, Nat.le_refl _⟩

/-- After every run from fresh books entries and lines bear identifiers that have been handed
out. -/
theorem play_issued (supply : Supply) (calls : List Call) :
    Issued (play calls (.fresh supply)).books :=
  play_keeps Issued (fun _ _ did issued => did.issued issued) calls Sound.fresh Issued.fresh

/-! ### A run that can be followed -/

/-- What is opened or entered after so many identifiers. -/
def sampleId {kind : IdKind} (issued : Nat) : Id kind :=
  ⟨(Supply.ascending.issued? issued).getD sampleWallet.uuid⟩

/-- A sale for so many minor units. -/
def sampleSale (units : Int) : NewEntry :=
  ⟨.standard, "Sale", none, [⟨sampleId 0, sampleUnits units, .zero, none⟩,
    ⟨sampleId 1, .zero, sampleUnits units, none⟩], sampleOwner 1⟩

/-- Two accounts are opened and a sale is entered. Its draft goes away, and a sale for nothing is
refused. -/
def sampleDropped : List Call :=
  [.command sampleSession (.createAccount ⟨"1000", "Cash", .asset, "USD", none⟩),
    .command sampleSession (.createAccount ⟨"4000", "Sales", .revenue, "USD", none⟩),
    .command sampleSession (.createEntry (sampleSale 100)),
    .command sampleSession (.deleteDraft (sampleId 2)),
    .command sampleSession (.createEntry (sampleSale 0))]

/-- A sale is entered after them. -/
def sampleDraft : Call := .command sampleSession (.createEntry (sampleSale 250))

end Passbook.Bookkeeping
