/-
**What the operations of the journal leave.**

* `Draws`: the sequence gives a value and stands at the one after it;
* `Written`: lines under an entry, numbered from a place on;
* `Entered`: an entry with its lines, under the next number; `Drafted` and `Reversed` enter one;
* `Posted`, `Voided`, `Reversed`, `Dropped`: what a step in the life of an entry leaves;
* `createEntry_ends` and its like: the operations do one of these or nothing, and make known what
  was posted or reversed.
-/

import Passbook.Proofs.Journal.Posting

namespace Passbook.Journal

open Passbook.Calendar (Instant)
open Passbook.Ledger (EntryStatus Line Step)
open Passbook.Store
open Passbook.Store.Action (Ends Leaves)

/-! ### What is left -/

/-- The sequence of entries with another value to give. -/
def advanced (next : Amount) (row : SequenceRow) : SequenceRow := { row with next := next }

/-- The sequence of entries gives a value and stands at the one after it. -/
inductive Draws (rows : List SequenceRow) : Amount → List SequenceRow → Prop
  | next {row : SequenceRow} {next : Amount} (member : row ∈ rows)
      (named : row.name = entrySequence)
      (step : next.units = row.next.units + 1) :
      Draws rows row.next (altered SequenceRow.name entrySequence (advanced next) rows)
  | first (none : ∀ row ∈ rows, row.name ≠ entrySequence) :
      Draws rows .one (rows ++ [⟨entrySequence, .two⟩])

/-- Lines written under an entry from a place on, so many identifiers of a supply being handed out
before. -/
inductive Written (supply : Supply) (entry : EntryId) : Nat → Nat → List Line → List LineRow → Prop
  | none {place issued : Nat} : Written supply entry place issued [] []
  | line {place issued : Nat} {line : Line} {rest : List Line} {uuid : Uuid} {rows : List LineRow}
      (is : supply.issued? issued = some uuid)
      (others : Written supply entry (place + 1) (issued + 1) rest rows) :
      Written supply entry place issued (line :: rest)
        (⟨⟨uuid⟩, entry, line, place⟩ :: rows)

/-- An entry was entered with its lines. -/
structure Entered (lines : List Line) (before : Books) (entered : FullEntry)
    (after : Books) : Prop where
  newId : ∀ other ∈ before.entries, other.id ≠ entered.entry.id
  newNumber : ∀ other ∈ before.entries, other.number ≠ entered.entry.number
  written : Written before.supply entered.entry.id 1 before.issued lines entered.lines
  accounts : ∀ line ∈ entered.lines, ∃ account ∈ before.accounts, account.id = line.line.account
  left : after = { before with
    entries := before.entries ++ [entered.entry]
    lines := before.lines ++ entered.lines
    issued := before.issued + lines.length }

/-- A draft was entered under the next number. -/
structure Drafted (session : Session) (input : NewEntry) (before : Books) (entered : FullEntry)
    (after : Books) : Prop where
  draws : ∃ value sequences, Draws before.sequences value sequences ∧
    ∃ uuid, before.next? = some uuid ∧
      entered.entry = draftRow ⟨uuid⟩ (Ledger.entryNumber value) input session.now ∧
        Entered input.lines
          { before with sequences := sequences, issued := before.issued + 1 } entered after

/-- A draft was posted. -/
structure Posted (session : Session) (id : EntryId) (user : UserId) (entry : EntryRow)
    (lines : List Line) (before : Books) (row : EntryRow) (after : Books) : Prop where
  member : entry ∈ before.entries
  named : entry.id = id
  draft : entry.status = .draft
  loaded : lines = (before.linesOf id).map LineRow.line
  valid : ∃ totals, Ledger.validateLines lines = .ok totals
  bookable : Bookable before.accounts lines
  found : after.header? id = some row
  left : after = { before with
    accounts := before.accounts.map (posted session.now lines)
    entries := altered EntryRow.id id (stepped (.post user session.now)) before.entries }

/-- A posted entry was voided. -/
structure Voided (session : Session) (id : EntryId) (user : UserId) (reason : String)
    (entry : EntryRow) (before : Books) (row : EntryRow) (after : Books) : Prop where
  member : entry ∈ before.entries
  named : entry.id = id
  status : entry.status = .posted
  reasoned : Ledger.validateVoidReason reason = .ok ()
  found : after.header? id = some row
  left : after = { before with
    entries := altered EntryRow.id id (stepped (.void user session.now reason)) before.entries }

/-- A header that is reversed by another. -/
def reversedBy (now : Instant) (user : UserId) (reason : String) (reversal : EntryId)
    (row : EntryRow) : EntryRow :=
  { stepped (.reverse user now reason) row with reversal := some reversal }

/-- A posted entry was reversed by another with the sides of its lines exchanged. -/
structure Reversed (session : Session) (id : EntryId) (user : UserId) (reason : String)
    (entry : EntryRow) (lines : List Line) (before : Books) (outcome : Reversal)
    (after : Books) : Prop where
  member : entry ∈ before.entries
  named : entry.id = id
  status : entry.status = .posted
  reasoned : Ledger.validateReversalReason reason = .ok ()
  loaded : lines = Ledger.reversing ((before.linesOf id).map LineRow.line)
  valid : ∃ totals, Ledger.validateLines lines = .ok totals
  bookable : Bookable before.accounts lines
  entered : ∃ value sequences middle, Draws before.sequences value sequences ∧
    (∃ uuid, before.next? = some uuid ∧ outcome.reversal.entry =
      reversalRow ⟨uuid⟩ (Ledger.entryNumber value) entry user reason session.now) ∧
      Entered lines { before with sequences := sequences, issued := before.issued + 1 }
        outcome.reversal middle ∧
        after = { middle with
          accounts := middle.accounts.map (posted session.now lines)
          entries := altered EntryRow.id id
            (reversedBy session.now user reason outcome.reversal.entry.id) middle.entries }
  found : after.header? id = some outcome.reversed

/-- A draft was removed with its lines. -/
structure Dropped (id : EntryId) (entry : EntryRow) (before after : Books) : Prop where
  member : entry ∈ before.entries
  named : entry.id = id
  draft : entry.status = .draft
  left : after = { before with
    entries := before.entries.filter fun row => !(row.id == id)
    lines := before.lines.filter fun row => !(row.entry == id) }

variable {session : Session} {before after : Books}

/-! ### The sequence -/

/-- The one sequence gives the value that it stands at. -/
theorem draws_single {next value : Amount} {later : List SequenceRow}
    (draws : Draws [⟨entrySequence, next⟩] value later) :
    value = next ∧ ∃ following : Amount, following.units = next.units + 1 ∧
      later = [⟨entrySequence, following⟩] := by
  generalize rows : ([⟨entrySequence, next⟩] : List SequenceRow) = sequences at draws
  cases draws with
  | next member _ step =>
    subst rows
    obtain rfl := List.mem_singleton.mp member
    exact ⟨rfl, _, step, rfl⟩
  | first none =>
    subst rows
    exact absurd rfl (none _ List.mem_cons_self)

/-! ### Lines -/

theorem Written.lines_eq {supply : Supply} {entry : EntryId} {place issued : Nat}
    {lines : List Line}
    {rows : List LineRow} (written : Written supply entry place issued lines rows) :
    rows.map LineRow.line = lines := by
  induction written with
  | none => rfl
  | line _ _ ih => rw [List.map_cons, ih]

theorem Written.entry_eq {supply : Supply} {entry : EntryId} {place issued : Nat}
    {lines : List Line}
    {rows : List LineRow} (written : Written supply entry place issued lines rows) :
    ∀ row ∈ rows, row.entry = entry := by
  induction written with
  | none => simp
  | line _ _ ih =>
    intro row member
    rcases List.mem_cons.mp member with rfl | later
    · rfl
    · exact ih row later

theorem Entered.sound {lines : List Line} {entered : FullEntry}
    (did : Entered lines before entered after) (sound : Sound before) : Sound after := by
  rw [did.left]
  refine ((sound.addEntry did.newId did.newNumber).addLines (fun line member => ?_)
    did.accounts).reissued _
  exact ⟨entered.entry, List.mem_append_right _ List.mem_cons_self,
    (did.written.entry_eq line member).symm⟩

/-- Lines of an entry by their place are its lines in some order. -/
theorem linesOf_perm (plain : before.strays = []) (id : EntryId) :
    (before.linesOf id).Perm (before.lines.filter fun row => row.entry == id) := by
  have same : (before.lines.filter fun row => row.entry == id) =
      before.lines.filter (isLineOf before id) := by
    refine List.filter_congr fun row _ => ?_
    rw [isLineOf, Books.isUsual_eq_true plain, Bool.and_true]
  rw [same]
  exact List.mergeSort_perm _ _

/-! ### Units of work -/

section Parts

variable {α : Type}

@[simp]
theorem judged_eq_ok {verdict : Except Ledger.LedgerError α} {value : α} :
    judged verdict before = .ok (value, after) ↔ verdict = .ok value ∧ before = after := by
  rw [judged, Work.verdict_eq_ok, Verdict.mapError_eq_ok]

theorem refuse_eq_ok {cause : JournalError} {value : α} :
    (refuse cause : JournalWork α) before = .ok (value, after) ↔ False :=
  Work.throw_eq_ok

end Parts

theorem of_ensureAccounts {ids : List AccountId} {done : Unit}
    (ran : ensureAccounts ids before = .ok (done, after)) : before = after := by
  induction ids with
  | nil => exact (Work.pure_eq_ok.mp ran).2
  | cons id rest ih =>
    simp only [ensureAccounts, Work.bind_eq_ok, Work.found_eq_ok] at ran
    obtain ⟨_, _, looked, _, _, ⟨_, rfl⟩, others⟩ := ran
    obtain ⟨_, rfl⟩ := Work.of_lookUp looked
    exact ih others

theorem of_nextValue {value : Amount} (ran : nextValue session before = .ok (value, after)) :
    ∃ sequences, Draws before.sequences value sequences ∧
      after = { before with sequences := sequences } := by
  obtain ⟨row?, _, looked, rest⟩ := Work.bind_eq_ok.mp ran
  obtain ⟨chosen, rfl⟩ := Work.of_lookUp looked
  cases row? with
  | some row =>
    obtain ⟨member, named⟩ := mem_of_sequence? chosen
    simp only [Work.bind_eq_ok, Work.verdict_eq_ok, Verdict.unguarded_eq_ok, Amount.add_eq_ok,
      Work.stored_eq_ok, Work.pure_eq_ok] at rest
    obtain ⟨next, _, ⟨step, rfl⟩, _, _, changed, rfl, rfl⟩ := rest
    have left := (of_changeOne changed).2
    rw [named] at left
    exact ⟨_, .next member named step, left⟩
  | none =>
    simp only [Work.bind_eq_ok, Work.stored_eq_ok, Work.pure_eq_ok] at rest
    obtain ⟨_, _, inserted, rfl, rfl⟩ := rest
    obtain ⟨_, _, _, _, _, rfl⟩ := insert_eq_ok.mp inserted
    exact ⟨_, .first (ne_of_sequence? chosen), rfl⟩

theorem of_nextNumber {number : String} (ran : nextNumber session before = .ok (number, after)) :
    ∃ value sequences, number = Ledger.entryNumber value ∧ Draws before.sequences value sequences ∧
      after = { before with sequences := sequences } := by
  obtain ⟨value, drawn, rfl⟩ := Work.map_eq_ok.mp ran
  obtain ⟨sequences, draws, left⟩ := of_nextValue drawn
  exact ⟨value, sequences, rfl, draws, left⟩

theorem of_insertLines {entry : EntryId} {lines : List Line} {place : Nat} {rows : List LineRow}
    (plain : before.strays = [])
    (ran : insertLines session entry place lines before = .ok (rows, after)) :
    Written before.supply entry place before.issued lines rows ∧
      (∀ line ∈ rows, ∃ account ∈ before.accounts, account.id = line.line.account) ∧
        after = { before with
          lines := before.lines ++ rows, issued := before.issued + lines.length } := by
  induction lines generalizing before place rows with
  | nil =>
    obtain ⟨rfl, rfl⟩ := Work.pure_eq_ok.mp ran
    refine ⟨.none, by simp, ?_⟩
    rw [List.append_nil]
    rfl
  | cons line rest ih =>
    simp only [insertLines, Work.bind_eq_ok, Work.fresh_eq_ok, Work.stored_eq_ok,
      Work.pure_eq_ok] at ran
    obtain ⟨uuid, _, ⟨issued, rfl⟩, _, _, inserted, rows, _, others, rfl, rfl⟩ := ran
    obtain ⟨_, _, _, _, linked, rfl⟩ := insert_eq_ok.mp inserted
    obtain ⟨written, accounts, left⟩ := ih (by exact plain) others
    have account := ((lineSheet_isLinked (by exact plain)).mp linked).2
    refine ⟨.line issued written, fun other member => ?_, ?_⟩
    · rcases List.mem_cons.mp member with rfl | later
      · exact account
      · exact accounts other later
    · rw [left]
      simp [lineSheet, Nat.add_assoc, Nat.add_comm 1]

theorem of_insertEntry {row : EntryRow} {lines : List Line} {entered : FullEntry}
    (plain : before.strays = [])
    (ran : insertEntry session row lines before = .ok (entered, after)) :
    entered.entry = row ∧ Entered lines before entered after := by
  simp only [insertEntry, Work.bind_eq_ok, Work.stored_eq_ok, Work.pure_eq_ok] at ran
  obtain ⟨_, _, inserted, rows, _, wrote, rfl, rfl⟩ := ran
  obtain ⟨_, _, _, alone, _, rfl⟩ := insert_eq_ok.mp inserted
  obtain ⟨written, accounts, left⟩ := of_insertLines (by exact plain) wrote
  have apart := fun other member => (entrySheet_clashes plain).mp (alone other member)
  exact ⟨rfl, {
    newId := fun other member => (apart other member).1.symm
    newNumber := fun other member => (apart other member).2.symm
    written := written
    accounts := accounts
    left := left }⟩

theorem of_bookDraft {input : NewEntry} {entered : FullEntry} (sound : Sound before)
    (ran : bookDraft session input before = .ok (entered, after)) :
    Drafted session input before entered after := by
  simp only [bookDraft, Work.bind_eq_ok, Work.fresh_eq_ok] at ran
  obtain ⟨_, _, ensured, number, _, drawn, uuid, _, ⟨issued, rfl⟩, inserted⟩ := ran
  obtain rfl := of_ensureAccounts ensured
  obtain ⟨value, sequences, rfl, draws, rfl⟩ := of_nextNumber drawn
  obtain ⟨same, entered⟩ := of_insertEntry (by exact sound.plain) inserted
  exact ⟨value, sequences, draws, uuid, issued, same, entered⟩

theorem of_lockEntry {id : EntryId} {row : EntryRow}
    (ran : lockEntry id before = .ok (row, after)) :
    row ∈ before.entries ∧ row.id = id ∧ before = after := by
  obtain ⟨found, same⟩ := Work.of_found_lookUp ran
  obtain ⟨member, named⟩ := mem_of_header? found
  exact ⟨member, named, same⟩

theorem of_loadLines {id : EntryId} {lines : List Line}
    (ran : loadLines id before = .ok (lines, after)) :
    lines = (before.linesOf id).map LineRow.line ∧ before = after := by
  simp only [loadLines, Work.bind_eq_ok, Work.pure_eq_ok] at ran
  obtain ⟨rows, _, gathered, rfl, rfl⟩ := ran
  obtain ⟨chosen, same⟩ := Work.of_gather gathered
  exact ⟨by rw [chosen], same⟩

theorem of_writeEntry {id : EntryId} {alter : EntryRow → EntryRow} {row : EntryRow}
    (ran : writeEntry session id alter before = .ok (row, after)) :
    after = { before with entries := altered EntryRow.id id alter before.entries } ∧
      after.header? id = some row := by
  simp only [writeEntry, Work.bind_eq_ok, Work.stored_eq_ok] at ran
  obtain ⟨_, _, changed, rest⟩ := ran
  obtain ⟨found, rfl⟩ := Work.of_found_lookUp (Work.bind_eq_ok.mpr rest)
  exact ⟨(of_changeOne changed).2, found⟩

theorem of_post {current : EntryStatus} {user : UserId} {now : Instant} {step : Step}
    (allowed : Ledger.post current user now = .ok step) :
    current = .draft ∧ step = .post user now := by
  unfold Ledger.post at allowed
  split at allowed
  · cases allowed
    exact ⟨rfl, rfl⟩
  · cases allowed

theorem of_void {current : EntryStatus} {user : UserId} {reason : String} {now : Instant}
    {step : Step} (allowed : Ledger.void current user reason now = .ok step) :
    current = .posted ∧ Ledger.validateVoidReason reason = .ok () ∧
      step = .void user now reason := by
  unfold Ledger.void at allowed
  split at allowed
  · obtain ⟨_, reasoned, same⟩ := Verdict.map_eq_ok.mp allowed
    exact ⟨rfl, reasoned, same.symm⟩
  · cases allowed

theorem of_reverse {current : EntryStatus} {user : UserId} {reason : String} {now : Instant}
    {step : Step} (allowed : Ledger.reverse current user reason now = .ok step) :
    current = .posted ∧ Ledger.validateReversalReason reason = .ok () ∧
      step = .reverse user now reason := by
  unfold Ledger.reverse at allowed
  split at allowed
  · obtain ⟨_, reasoned, same⟩ := Verdict.map_eq_ok.mp allowed
    exact ⟨rfl, reasoned, same.symm⟩
  · cases allowed

theorem of_bookPosting {id : EntryId} {user : UserId} {row : EntryRow} (sound : Sound before)
    (ran : bookPosting session id user before = .ok (row, after)) :
    ∃ entry lines, Posted session id user entry lines before row after := by
  simp only [bookPosting, Work.bind_eq_ok, judged_eq_ok] at ran
  obtain ⟨entry, _, locked, step, _, ⟨allowed, rfl⟩, lines, _, loaded, totals, _, ⟨valid, rfl⟩,
    _, _, applied, wrote⟩ := ran
  obtain ⟨member, named, rfl⟩ := of_lockEntry locked
  obtain ⟨draft, rfl⟩ := of_post allowed
  obtain ⟨rfl, rfl⟩ := of_loadLines loaded
  obtain ⟨bookable, rfl⟩ := of_applyLines sound applied
  obtain ⟨left, found⟩ := of_writeEntry wrote
  subst named
  exact ⟨entry, _, {
    member := member
    named := rfl
    draft := draft
    loaded := rfl
    valid := ⟨totals, valid⟩
    bookable := bookable
    found := found
    left := left }⟩

theorem of_bookVoid {id : EntryId} {user : UserId} {reason : String} {row : EntryRow}
    (ran : bookVoid session id user reason before = .ok (row, after)) :
    ∃ entry, Voided session id user (Text.trim reason) entry before row after := by
  simp only [bookVoid, Work.bind_eq_ok, judged_eq_ok] at ran
  obtain ⟨entry, _, locked, step, _, ⟨allowed, rfl⟩, wrote⟩ := ran
  obtain ⟨member, named, rfl⟩ := of_lockEntry locked
  obtain ⟨status, reasoned, rfl⟩ := of_void allowed
  obtain ⟨left, found⟩ := of_writeEntry wrote
  rw [named] at left found
  exact ⟨entry, member, named, status, reasoned, found, left⟩

theorem of_bookReversal {id : EntryId} {user : UserId} {reason : String} {outcome : Reversal}
    (sound : Sound before)
    (ran : bookReversal session id user reason before = .ok (outcome, after)) :
    ∃ entry lines, Reversed session id user reason entry lines before outcome after := by
  simp only [bookReversal, Work.bind_eq_ok, judged_eq_ok, Work.map_eq_ok, Work.fresh_eq_ok,
    Work.pure_eq_ok] at ran
  obtain ⟨entry, _, locked, step, _, ⟨allowed, rfl⟩, lines, _, ⟨_, loaded, rfl⟩, rest⟩ := ran
  obtain ⟨totals, _, ⟨valid, rfl⟩, number, _, drawn, uuid, _, ⟨issued, rfl⟩, rest⟩ := rest
  obtain ⟨entered, middle, inserted, _, _, applied, row, _, wrote, rfl, rfl⟩ := rest
  obtain ⟨member, named, rfl⟩ := of_lockEntry locked
  obtain ⟨status, reasoned, rfl⟩ := of_reverse allowed
  obtain ⟨rfl, rfl⟩ := of_loadLines loaded
  obtain ⟨value, sequences, rfl, draws, rfl⟩ := of_nextNumber drawn
  obtain ⟨same, entered⟩ := of_insertEntry (by exact sound.plain) inserted
  have soundMiddle := entered.sound ((sound.numbered sequences).reissued (before.issued + 1))
  obtain ⟨bookable, rfl⟩ := of_applyLines soundMiddle applied
  obtain ⟨left, found⟩ := of_writeEntry wrote
  have accounts : middle.accounts = before.accounts := by rw [entered.left]
  rw [accounts] at bookable
  subst named
  exact ⟨entry, _, {
    member := member
    named := rfl
    status := status
    reasoned := reasoned
    loaded := rfl
    valid := ⟨totals, valid⟩
    bookable := bookable
    entered := ⟨value, sequences, middle, draws, ⟨uuid, issued, same⟩, entered, left⟩
    found := found }⟩

theorem of_removeLines {faults : Faults} {id : EntryId} {count : Nat} (plain : before.strays = [])
    (ran : remove faults lineSheet unreferred (isLineOf before id) before = .ok (count, after)) :
    after = { before with lines := before.lines.filter fun row => !(row.entry == id) } := by
  have chosen : (fun row => !isLineOf before id row) = fun row : LineRow => !(row.entry == id) := by
    funext row
    rw [isLineOf, Books.isUsual_eq_true plain, Bool.and_true]
  rw [← chosen]
  obtain ⟨_, ⟨none, rfl⟩ | ⟨_, _, _, rfl⟩⟩ := (remove_eq_ok plain).mp ran
  · have kept : (before.lines.filter fun row => !isLineOf before id row) = before.lines :=
      filter_not_of_none none
    rw [kept]
  · rw [← plain]
    rfl

theorem of_removeEntry {faults : Faults} {id : EntryId} {count : Nat} (plain : before.strays = [])
    (ran : removeEntry faults id before = .ok (count, after)) :
    after = { before with
      entries := before.entries.filter fun row => !(row.id == id)
      lines := before.lines.filter fun row => !(row.entry == id) } := by
  obtain ⟨_, middle, removed, ran⟩ := Work.bind_eq_ok.mp ran
  have left := of_removeLines plain removed
  subst left
  have chosen : (fun row : EntryRow => row.id == id && before.isUsual (row.spot "id")) =
      fun row => row.id == id := by
    funext row
    rw [Books.isUsual_eq_true plain, Bool.and_true]
  rw [chosen] at ran
  obtain ⟨_, ⟨none, rfl⟩ | ⟨_, _, _, rfl⟩⟩ := (remove_eq_ok (by exact plain)).mp ran
  · have kept : (before.entries.filter fun row => !(row.id == id)) = before.entries :=
      filter_not_of_none none
    rw [kept]
  · rw [← plain]
    rfl

theorem of_dropDraft {id : EntryId} {done : Unit} (sound : Sound before)
    (ran : dropDraft session id before = .ok (done, after)) :
    ∃ entry, Dropped id entry before after := by
  obtain ⟨entry, _, locked, rest⟩ := Work.bind_eq_ok.mp ran
  obtain ⟨member, named, rfl⟩ := of_lockEntry locked
  by_cases other : entry.status ≠ .draft
  · rw [if_pos other] at rest
    obtain ⟨_, _, refused, _⟩ := Work.bind_eq_ok.mp rest
    exact (refuse_eq_ok.mp refused).elim
  · rw [if_neg other] at rest
    simp only [Work.bind_eq_ok, Work.stored_eq_ok, Work.pure_eq_ok] at rest
    obtain ⟨_, _, removed, _, rfl⟩ := rest
    subst named
    exact ⟨entry, member, rfl, not_not.mp other, of_removeEntry sound.plain removed⟩

/-! ### Soundness -/

theorem Drafted.sound {input : NewEntry} {entered : FullEntry}
    (did : Drafted session input before entered after) (sound : Sound before) : Sound after := by
  obtain ⟨_, sequences, _, _, _, _, entered⟩ := did.draws
  exact entered.sound ((sound.numbered sequences).reissued (before.issued + 1))

theorem stepped_id {step : Step} {row : EntryRow} : (stepped step row).id = row.id := by
  cases step <;> rfl

theorem stepped_number {step : Step} {row : EntryRow} :
    (stepped step row).number = row.number := by
  cases step <;> rfl

theorem Posted.sound {id : EntryId} {user : UserId} {entry row : EntryRow} {lines : List Line}
    (did : Posted session id user entry lines before row after) (sound : Sound before) :
    Sound after := by
  rw [did.left]
  exact (sound.mapAccounts (fun _ => posted_id) fun _ => posted_code).alterEntries
    (fun _ => stepped_id) fun _ => stepped_number

theorem Voided.sound {id : EntryId} {user : UserId} {reason : String} {entry row : EntryRow}
    (did : Voided session id user reason entry before row after) (sound : Sound before) :
    Sound after := by
  rw [did.left]
  exact sound.alterEntries (fun _ => stepped_id) fun _ => stepped_number

theorem Reversed.sound {id : EntryId} {user : UserId} {reason : String} {entry : EntryRow}
    {lines : List Line} {outcome : Reversal}
    (did : Reversed session id user reason entry lines before outcome after)
    (sound : Sound before) : Sound after := by
  obtain ⟨_, sequences, middle, _, _, entered, left⟩ := did.entered
  have soundMiddle := entered.sound ((sound.numbered sequences).reissued (before.issued + 1))
  rw [left]
  exact (soundMiddle.mapAccounts (fun _ => posted_id) fun _ => posted_code).alterEntries
    (fun _ => stepped_id) fun _ => stepped_number

theorem Dropped.sound {id : EntryId} {entry : EntryRow} (did : Dropped id entry before after)
    (sound : Sound before) : Sound after := by
  rw [did.left]
  exact sound.dropEntry id

/-! ### Accounts -/

theorem Posted.accounts_eq {id : EntryId} {user : UserId} {entry row : EntryRow}
    {lines : List Line} (did : Posted session id user entry lines before row after) :
    after.accounts = before.accounts.map (posted session.now lines) := by
  rw [did.left]

theorem Reversed.accounts_eq {id : EntryId} {user : UserId} {reason : String} {entry : EntryRow}
    {lines : List Line} {outcome : Reversal}
    (did : Reversed session id user reason entry lines before outcome after) :
    after.accounts = before.accounts.map (posted session.now lines) := by
  obtain ⟨_, _, _, _, _, entered, left⟩ := did.entered
  rw [left, entered.left]

/-! ### Operations -/

/-- **Creating an entry** leaves a draft or nothing. -/
theorem createEntry_ends (session : Session) (input : NewEntry) :
    Ends (createEntry session input)
      (Leaves (fun before entered after =>
          (∃ totals, Ledger.validateLines input.lines = .ok totals) ∧
            Drafted session input before entered after) fun _ => []) :=
  Ends.leavesAfter _ (Ends.verdict _) (fun _ => Ends.leaves session of_bookDraft)
    fun valid _ _ did => ⟨⟨_, Verdict.mapError_eq_ok.mp valid⟩, did⟩

/-- **Posting an entry** leaves it posted or nothing, and makes it known. -/
theorem postEntry_ends (session : Session) (id : EntryId) (user : UserId) :
    Ends (postEntry session id user)
      (Leaves (fun before row after => ∃ entry lines,
        Posted session id user entry lines before row after)
        fun row => [.entryPosted id row.number]) :=
  (Ends.leaves session of_bookPosting).leavesAndTells _

/-- **Voiding an entry** leaves it voided or nothing. -/
theorem voidEntry_ends (session : Session) (id : EntryId) (user : UserId) (reason : String) :
    Ends (voidEntry session id user reason)
      (Leaves (fun before row after => ∃ entry,
        Voided session id user (Text.trim reason) entry before row after) fun _ => []) :=
  Ends.leaves session fun _ => of_bookVoid

/-- **Reversing an entry** leaves it reversed by another or nothing, and makes both known. -/
theorem reverseEntry_ends (session : Session) (id : EntryId) (user : UserId) (reason : String) :
    Ends (reverseEntry session id user reason)
      (Leaves (fun before outcome after => ∃ entry lines,
        Reversed session id user (Text.trim reason) entry lines before outcome after)
        fun outcome => [.entryReversed id outcome.reversal.entry.id]) :=
  (Ends.leaves session of_bookReversal).leavesAndTells _

/-- **Deleting a draft** removes it with its lines or leaves everything. -/
theorem deleteDraft_ends (session : Session) (id : EntryId) :
    Ends (deleteDraft session id)
      (Leaves (fun before _ after => ∃ entry, Dropped id entry before after) fun _ => []) :=
  Ends.leaves session of_dropDraft

theorem getEntry_looks (id : EntryId) :
    Ends (getEntry session id) fun world _ after => after = world := by
  refine ((Ends.lookUp session entrySheet _).after fun row =>
    (Ends.found (Halt.refused (JournalError.notFound id)) row).after fun entry =>
      (Ends.gather session lineSheet _).after fun lines => Ends.pure _).mono ?_
  rintro world full after ⟨_, _, _, _, _, _, _, same⟩
  exact same

end Passbook.Journal
