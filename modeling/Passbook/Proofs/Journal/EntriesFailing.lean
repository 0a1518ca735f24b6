/-
**What the operations of the journal fail for.**

* `Kept`: books as the operations of the journal leave and find them. Every entry may have been made
  up of its lines, every link leads to an entry, the sequence stands at a number that no entry has,
  and no identifier that has not been handed out is borne by an entry or a line;
* `Hindered`: the storage refuses a statement, or a rival takes a key first;
* `createEntry_failsOnly`, `postEntry_failsOnly`, `reverseEntry_failsOnly`: from such books an
  operation fails only for the causes of `CreationFails`, `PostingFails` or `ReversalFails`. No rule
  of a table is among them, nor are the lines of an entry that is posted or reversed.
-/

import Passbook.Proofs.Journal.Entries
import Passbook.Proofs.Journal.Lines
import Passbook.Proofs.Journal.PostingFailing
import Passbook.Proofs.Text.Blank

namespace Passbook.Journal

open Passbook.Calendar (Instant)
open Passbook.Ledger (EntryStatus Line)
open Passbook.Store
open Passbook.Store.Action (Ends)
open Passbook.Verdict (FailsOnly)

/-- Books as the operations of the journal leave and find them. -/
structure Kept (books : Books) : Prop where
  sound : Sound books
  issued : Issued books
  charted : Charted books.accounts
  numbers : ∃ next : Amount, books.sequences = [⟨entrySequence, next⟩] ∧
    ∀ row ∈ books.entries, row.number ≠ Ledger.entryNumber next
  reverses : ∀ row ∈ books.entries, ∀ id ∈ row.reverses, id ∈ books.entries.map EntryRow.id
  reversals : ∀ row ∈ books.entries, ∀ id ∈ row.reversal, id ∈ books.entries.map EntryRow.id
  valid : ∀ row ∈ books.entries, Ledger.Valid ((books.linesOf row.id).map LineRow.line)

/-! ### Causes -/

/-- The storage refuses one of the statements, or a rival inserts the key of one first. -/
inductive Hindered (faults : Faults) (statements : List (Table × Statement)) : StorageFault → Prop
  | refused {table : Table} {statement : Statement} (issued : (table, statement) ∈ statements)
      (refuses : faults.refuses table statement = true) : Hindered faults statements .refused
  | rival {table : Table} (issued : (table, .insert) ∈ statements)
      (rivals : faults.rivals table = true) : Hindered faults statements .notUnique

/-- The statements that entering an entry issues. -/
def enteringStatements : List (Table × Statement) :=
  [(.ledgerSequences, .update), (.journalEntries, .insert), (.ledgerLines, .insert)]

/-- The statements that adding lines to accounts under an entry issues. -/
def bookingStatements : List (Table × Statement) :=
  [(.accounts, .update), (.journalEntries, .update)]

/-- The sequence stands at its last value, after which there is no other. -/
def AtLast (books : Books) : Prop := books.sequences = [⟨entrySequence, .greatest⟩]

/-- Why an entry is not created. -/
inductive CreationFails (session : Session) (input : NewEntry) (books : Books) :
    Halt JournalError → Prop
  | invalid {cause : Ledger.LedgerError} (is : Ledger.validateLines input.lines = .error cause) :
      CreationFails session input books (.refused (.ledger cause))
  | unreachable (blocked : session.faults.blocked = true) :
      CreationFails session input books (.refused (.storage .unreachable))
  | missing {line : Line} (member : line ∈ input.lines)
      (absent : line.account ∉ books.accounts.map AccountRow.id) :
      CreationFails session input books (.refused (.accountNotFound line.account))
  | last (atLast : AtLast books) : CreationFails session input books (.overflowed .addition)
  | exhausted (room : ¬AtLast books)
      (spent : books.supply.issued? (books.issued + input.lines.length) = none) :
      CreationFails session input books (.refused (.storage .refused))
  | hindered {fault : StorageFault} (room : ¬AtLast books)
      (is : Hindered session.faults enteringStatements fault) :
      CreationFails session input books (.refused (.storage fault))

/-- Why an entry is not posted. -/
inductive PostingFails (session : Session) (id : EntryId) (books : Books) : Halt JournalError → Prop
  | unreachable (blocked : session.faults.blocked = true) :
      PostingFails session id books (.refused (.storage .unreachable))
  | absent (none : id ∉ books.entries.map EntryRow.id) :
      PostingFails session id books (.refused (.notFound id))
  | undrafted {entry : EntryRow} (member : entry ∈ books.entries) (named : entry.id = id)
      (status : entry.status ≠ .draft) :
      PostingFails session id books (.refused (.ledger (.notDraft entry.status)))
  | unbookable {cause : Ledger.LedgerError}
      (is : Unbookable books.accounts ((books.linesOf id).map LineRow.line) cause) :
      PostingFails session id books (.refused (.ledger cause))
  | hindered {fault : StorageFault} (is : Hindered session.faults bookingStatements fault) :
      PostingFails session id books (.refused (.storage fault))

/-- Why an entry is not reversed. -/
inductive ReversalFails (session : Session) (id : EntryId) (reason : String) (books : Books) :
    Halt JournalError → Prop
  | unreachable (blocked : session.faults.blocked = true) :
      ReversalFails session id reason books (.refused (.storage .unreachable))
  | absent (none : id ∉ books.entries.map EntryRow.id) :
      ReversalFails session id reason books (.refused (.notFound id))
  | unposted {entry : EntryRow} (member : entry ∈ books.entries) (named : entry.id = id)
      (status : entry.status ≠ .posted) :
      ReversalFails session id reason books (.refused (.ledger (.notPosted entry.status)))
  | short (few : (Text.trim reason).length < 10) :
      ReversalFails session id reason books
        (.refused (.ledger (.reasonTooShort 10 (Text.trim reason).length)))
  | last (atLast : AtLast books) : ReversalFails session id reason books (.overflowed .addition)
  | unbookable {cause : Ledger.LedgerError} (room : ¬AtLast books)
      (is : Unbookable books.accounts
        (Ledger.reversing ((books.linesOf id).map LineRow.line)) cause) :
      ReversalFails session id reason books (.refused (.ledger cause))
  | exhausted (room : ¬AtLast books)
      (spent : books.supply.issued? (books.issued + (books.linesOf id).length) = none) :
      ReversalFails session id reason books (.refused (.storage .refused))
  | hindered {fault : StorageFault} (room : ¬AtLast books)
      (is : Hindered session.faults (enteringStatements ++ bookingStatements) fault) :
      ReversalFails session id reason books (.refused (.storage fault))

variable {allowed : Halt JournalError → Prop} {books : Books} {session : Session}

/-! ### Entering entries -/

theorem judged_failsOnly {α : Type} {verdict : Except Ledger.LedgerError α}
    (fails : FailsOnly (fun cause => allowed (.refused (.ledger cause))) verdict) :
    FailsOnly allowed (judged verdict books) :=
  Work.failsOnly_verdict fails.mapError

theorem ensureAccounts_failsOnly (plain : books.strays = []) {ids : List AccountId}
    (missing : ∀ id ∈ ids, id ∉ books.accounts.map AccountRow.id →
      allowed (.refused (.accountNotFound id))) :
    FailsOnly allowed (ensureAccounts ids books) := by
  induction ids with
  | nil => exact Work.failsOnly_pure ()
  | cons id rest ih =>
    refine Work.failsOnly_bind (Work.failsOnly_lookUp plain) fun row? _ looked => ?_
    obtain ⟨chosen, rfl⟩ := Work.of_lookUp looked
    refine Work.failsOnly_bind (Work.failsOnly_found fun none =>
      missing id List.mem_cons_self fun there => ?_) fun row _ found => ?_
    · obtain ⟨row, member, named⟩ := List.mem_map.mp there
      exact ne_of_account? plain (chosen.trans none) row member named
    · obtain ⟨_, rfl⟩ := Work.found_eq_ok.mp found
      exact ih fun other member => missing other (List.mem_cons_of_mem _ member)

/-- The one sequence gives the value that it stands at, if there is another after it and the storage
does not refuse. -/
theorem nextValue_failsOnly (plain : books.strays = []) {next : Amount}
    (stands : books.sequences = [⟨entrySequence, next⟩])
    (last : AtLast books → allowed (.overflowed .addition))
    (refused : ¬AtLast books → session.faults.refuses .ledgerSequences .update = true →
      allowed (.refused (.storage .refused))) :
    FailsOnly allowed (nextValue session books) := by
  have found : books.sequence? entrySequence = some ⟨entrySequence, next⟩ := by
    rw [Books.sequence?, stands]
    rfl
  refine Work.failsOnly_bind (Work.failsOnly_lookUp plain) fun row? _ looked => ?_
  obtain ⟨chosen, rfl⟩ := Work.of_lookUp looked
  obtain rfl := chosen.symm.trans found
  refine Work.failsOnly_bind (Work.failsOnly_verdict ?_) fun following _ added => ?_
  · cases sum : next.add .one with
    | ok value => exact .ok value
    | error fault =>
      unfold Amount.add at sum
      split at sum
      · cases sum
      · rename_i beyond
        cases sum
        have most := next.atMost
        have least := next.atLeast
        have one : Amount.one.units = 1 := rfl
        have units : next.units = 9223372036854775807 := by
          have := Amount.ofInt?_eq_none_iff.mp beyond
          omega
        refine .error (last ?_)
        rw [AtLast, stands, Amount.ext (show next.units = Amount.greatest.units from units)]
  · obtain ⟨is, rfl⟩ := Work.verdict_eq_ok.mp added
    have step : following.units = next.units + 1 :=
      Amount.add_eq_ok.mp (Verdict.unguarded_eq_ok.mp is)
    have room : ¬AtLast books := by
      intro atLast
      rw [AtLast, stands] at atLast
      obtain rfl := congrArg SequenceRow.next (List.cons.inj atLast).1
      have most := following.atMost
      change following.units = 9223372036854775807 + 1 at step
      omega
    have changes : FailsOnly
        (fun fault => fault = .refused ∧ session.faults.refuses .ledgerSequences .update = true)
        (changeOne session.faults sequenceSheet (fun other => other.name == entrySequence)
          (fun other => { other with next := following }) books) := by
      refine changeOne_failsOnly ⟨⟨entrySequence, next⟩, ?_, beq_self_eq_true entrySequence⟩
        (fun _ _ _ => rfl) ?_ fun _ _ _ => rfl
      · show _ ∈ books.sequences
        rw [stands]
        exact List.mem_cons_self
      · show allDistinct _ (books.sequences.map _) = true
        rw [stands]
        rfl
    exact Work.failsOnly_bind (Work.failsOnly_stored (changes.mono fun fault ⟨same, refuses⟩ =>
      same ▸ refused room refuses)) fun _ _ _ => Work.failsOnly_pure _

/-- Lines that are valid are added to an entry that is there, on accounts that are there, unless the
storage refuses, a rival takes a key first, or no identifier is left. -/
theorem insertLines_failsOnly {entry : EntryId} {lines : List Line} {place : Nat}
    (plain : books.strays = []) (there : entry ∈ books.entries.map EntryRow.id)
    (accounts : ∀ line ∈ lines, line.account ∈ books.accounts.map AccountRow.id)
    (sided : ∀ line ∈ lines, line.Sided)
    (issued : ∀ row ∈ books.lines, row.id.uuid.Before books.supply books.issued)
    (places : ∀ row ∈ books.lines, row.entry = entry → row.place < place)
    (exhausted : books.supply.issued? (books.issued + lines.length - 1) = none →
      allowed (.refused (.storage .refused)))
    (hindered : ∀ fault, Hindered session.faults enteringStatements fault →
      allowed (.refused (.storage fault))) :
    FailsOnly allowed (insertLines session entry place lines books) := by
  induction lines generalizing books place with
  | nil => exact Work.failsOnly_pure _
  | cons line rest ih =>
    have last : books.issued + (line :: rest).length - 1 = books.issued + rest.length := by
      rw [List.length_cons]
      omega
    rw [last] at exhausted
    refine Work.failsOnly_bind (Work.failsOnly_fresh fun none =>
      exhausted (books.supply.spent none (Nat.le_add_right _ _)))
      fun uuid _ fresh => ?_
    obtain ⟨is, rfl⟩ := Work.fresh_eq_ok.mp fresh
    have fit : lineSheet.isFit { books with issued := books.issued + 1 }
        ⟨⟨uuid⟩, entry, line, place⟩ = true :=
      (lineSheet_isFit plain).mpr (sided line List.mem_cons_self)
    have alone : ∀ other ∈ books.lines, lineSheet.clashes { books with issued := books.issued + 1 }
        ⟨⟨uuid⟩, entry, line, place⟩ other = false := by
      intro other member
      refine (lineSheet_clashes plain).mpr ⟨fun same => ?_, fun same same' => ?_⟩
      · exact (issued other member).ne is (Nat.le_refl _) (congrArg Id.uuid same.symm)
      · have below := places other member same.symm
        rw [← show (place : Int) = other.place from same'] at below
        exact Int.lt_irrefl _ below
    refine Work.failsOnly_bind (Work.failsOnly_stored ((insert_failsOnly_of_alone fit alone
      ((lineSheet_isLinked plain).mpr ?_)).mono ?_)) fun _ after added => ?_
    · exact ⟨List.mem_map.mp there, List.mem_map.mp (accounts line List.mem_cons_self)⟩
    · rintro _ (⟨rfl, rival⟩ | ⟨rfl, refuses⟩)
      · exact hindered _ (.rival (by simp [enteringStatements, lineSheet]) rival)
      · exact hindered _ (.refused (by simp [enteringStatements, lineSheet]) refuses)
    · obtain ⟨_, _, _, _, _, rfl⟩ := insert_eq_ok.mp (Work.stored_eq_ok.mp added)
      refine Work.failsOnly_bind (ih plain there
        (fun other member => accounts other (List.mem_cons_of_mem _ member))
        (fun other member => sided other (List.mem_cons_of_mem _ member)) ?_ ?_ ?_)
        fun _ _ _ => Work.failsOnly_pure _
      · intro row member
        rcases List.mem_append.mp member with present | single
        · exact (issued row present).mono (Nat.le_succ _)
        · rw [List.mem_singleton.mp single]
          exact Uuid.before_of_issued? is
      · intro row member same
        rcases List.mem_append.mp member with present | single
        · have below := places row present same
          rw [Nat.cast_add, Nat.cast_one]
          omega
        · rw [List.mem_singleton.mp single]
          show (place : Int) < ((place + 1 : Nat) : Int)
          omega
      · intro none
        refine exhausted (books.supply.spent none ?_)
        show books.issued + 1 + rest.length - 1 ≤ _
        omega

/-- An entry under an identifier and a number of its own is added with valid lines, unless the
storage refuses, a rival takes a key first, or no identifier is left. -/
theorem insertEntry_failsOnly {row : EntryRow} {lines : List Line} (sound : Sound books)
    (issued : Issued books) (newId : ∀ other ∈ books.entries, other.id ≠ row.id)
    (newNumber : ∀ other ∈ books.entries, other.number ≠ row.number)
    (reverses : ∀ id ∈ row.reverses, id ∈ books.entries.map EntryRow.id)
    (reversal : row.reversal = none)
    (accounts : ∀ line ∈ lines, line.account ∈ books.accounts.map AccountRow.id)
    (sided : ∀ line ∈ lines, line.Sided)
    (exhausted : books.supply.issued? (books.issued + lines.length - 1) = none →
      allowed (.refused (.storage .refused)))
    (hindered : ∀ fault, Hindered session.faults enteringStatements fault →
      allowed (.refused (.storage fault))) :
    FailsOnly allowed (insertEntry session row lines books) := by
  have alone : ∀ other ∈ books.entries, entrySheet.clashes books row other = false :=
    fun other member => (entrySheet_clashes sound.plain).mpr
      ⟨(newId other member).symm, (newNumber other member).symm⟩
  refine Work.failsOnly_bind (Work.failsOnly_stored ((insert_failsOnly_of_alone rfl alone
    ((entrySheet_isLinked (by exact sound.plain)).mpr
      ⟨fun id linked => ?_, fun id linked => ?_⟩)).mono ?_)) fun _ _ added => ?_
  · obtain ⟨other, member, named⟩ := List.mem_map.mp (reverses id linked)
    exact ⟨other, List.mem_append_left _ member, named⟩
  · rw [reversal] at linked
    cases linked
  · rintro _ (⟨rfl, rival⟩ | ⟨rfl, refuses⟩)
    · exact hindered _ (.rival (by simp [enteringStatements, entrySheet]) rival)
    · exact hindered _ (.refused (by simp [enteringStatements, entrySheet]) refuses)
  · obtain ⟨_, _, _, _, _, rfl⟩ := insert_eq_ok.mp (Work.stored_eq_ok.mp added)
    refine Work.failsOnly_bind (insertLines_failsOnly sound.plain ?_ accounts sided issued.lines ?_
      exhausted hindered) fun _ _ _ => Work.failsOnly_pure _
    · show row.id ∈ (books.entries ++ [row]).map EntryRow.id
      exact List.mem_map_of_mem (List.mem_append_right _ List.mem_cons_self)
    · -- no line is under the identifier yet, since lines lead to entries
      intro line member same
      obtain ⟨entry, present, named⟩ := sound.lineEntries line member
      exact absurd (named.trans same) (newId entry present)

/-- The values that the sequence has given are not its last. -/
theorem not_atLast_of_draws {value : Amount} {later : List SequenceRow}
    (draws : Draws books.sequences value later) : ¬AtLast books := by
  intro atLast
  rw [atLast] at draws
  obtain ⟨_, following, step, _⟩ := draws_single draws
  have most := following.atMost
  change following.units = 9223372036854775807 + 1 at step
  omega

/-- The one sequence gives a value that is the number of no entry. -/
theorem Kept.newNumber (kept : Kept books) {value : Amount} {later : List SequenceRow}
    (draws : Draws books.sequences value later) :
    ∀ row ∈ books.entries, row.number ≠ Ledger.entryNumber value := by
  obtain ⟨next, stands, unused⟩ := kept.numbers
  rw [stands] at draws
  obtain ⟨rfl, _⟩ := draws_single draws
  exact unused

/-- Accounts that have been looked for are there. -/
theorem present_of_ensureAccounts {ids : List AccountId} {done : Unit} {after : Books}
    (ran : ensureAccounts ids books = .ok (done, after)) :
    ∀ id ∈ ids, id ∈ books.accounts.map AccountRow.id := by
  induction ids with
  | nil => exact fun _ none => absurd none List.not_mem_nil
  | cons id rest ih =>
    simp only [ensureAccounts, Work.bind_eq_ok, Work.found_eq_ok] at ran
    obtain ⟨_, _, looked, row, _, ⟨found, rfl⟩, others⟩ := ran
    obtain ⟨chosen, rfl⟩ := Work.of_lookUp looked
    obtain ⟨member, named⟩ := mem_of_account? (chosen.trans found)
    intro other present
    rcases List.mem_cons.mp present with rfl | later
    · exact List.mem_map.mpr ⟨row, member, named⟩
    · exact ih others other later

theorem bookDraft_failsOnly (session : Session) (input : NewEntry) (kept : Kept books)
    (valid : Ledger.Valid input.lines) :
    FailsOnly (CreationFails session input books) (bookDraft session input books) := by
  refine Work.failsOnly_bind (ensureAccounts_failsOnly kept.sound.plain
    fun id mentioned absent => ?_) fun _ _ ensured => ?_
  · obtain ⟨line, member, rfl⟩ := mem_accountsOf.mp mentioned
    exact .missing member absent
  have present := present_of_ensureAccounts ensured
  obtain rfl := of_ensureAccounts ensured
  obtain ⟨next, stands, _⟩ := kept.numbers
  refine Work.failsOnly_bind (Work.failsOnly_map (nextValue_failsOnly kept.sound.plain stands .last
    fun room refuses => .hindered room (.refused (by simp [enteringStatements]) refuses)))
    fun number _ drawn => ?_
  obtain ⟨value, sequences, rfl, draws, rfl⟩ := of_nextNumber drawn
  have room := not_atLast_of_draws draws
  refine Work.failsOnly_bind (Work.failsOnly_fresh fun none => .exhausted room
    (books.supply.spent none (Nat.le_add_right _ _))) fun uuid _ fresh => ?_
  obtain ⟨is, rfl⟩ := Work.fresh_eq_ok.mp fresh
  refine insertEntry_failsOnly (kept.sound.drawn sequences)
    (kept.issued.mono (List.Subset.refl _) (List.Subset.refl _) ⟨rfl, Nat.le_succ _⟩)
    (fun other member same => (kept.issued.entries other member).ne is (Nat.le_refl _)
      (congrArg Id.uuid same)) (kept.newNumber draws) (fun _ none => by cases none) rfl
    (fun line member => present line.account (mem_accountsOf.mpr ⟨line, member, rfl⟩)) valid.sided
    (fun none => .exhausted room ?_) fun fault is => .hindered room is
  have same : books.issued + 1 + input.lines.length - 1 = books.issued + input.lines.length := by
    omega
  rw [← same]
  exact none

/-- **Creating an entry** fails only for the causes of `CreationFails`. -/
theorem createEntry_failsOnly (session : Session) (input : NewEntry) {world : World}
    (kept : Kept world.books) :
    FailsOnly (CreationFails session input world.books) (createEntry session input world).1 := by
  refine Action.failsOnly_after (Ends.verdict _) (Action.failsOnly_verdict
    (FailsOnly.mapError fun cause is => .invalid is)) fun totals _ checked => ?_
  obtain ⟨accepted, rfl⟩ := checked
  have valid := Ledger.valid_iff.mp ⟨totals, Verdict.mapError_eq_ok.mp accepted⟩
  exact Action.failsOnly_atomically_of .unreachable (bookDraft_failsOnly session input kept valid)

/-! ### Posting entries -/

theorem lockEntry_failsOnly (plain : books.strays = []) {id : EntryId}
    (absent : id ∉ books.entries.map EntryRow.id → allowed (.refused (.notFound id))) :
    FailsOnly allowed (lockEntry id books) :=
  Work.failsOnly_found_lookUp plain fun none => absent fun there => by
    obtain ⟨row, member, named⟩ := List.mem_map.mp there
    exact ne_of_header? plain none row member named

theorem loadLines_failsOnly (plain : books.strays = []) (id : EntryId) :
    FailsOnly allowed (loadLines id books) :=
  Work.failsOnly_bind (Work.failsOnly_gather plain) fun _ _ _ => Work.failsOnly_pure _

/-- The lines of an entry are on accounts that are there. -/
theorem account_mem_of_linesOf (sound : Sound books) {id : EntryId} :
    ∀ line ∈ (books.linesOf id).map LineRow.line,
      line.account ∈ books.accounts.map AccountRow.id := by
  intro line member
  obtain ⟨row, present, rfl⟩ := List.mem_map.mp member
  exact List.mem_map.mpr (sound.lineAccounts row ((mem_linesOf sound.plain).mp present).1)

/-- An entry that is there can be changed, unless the storage refuses, as long as it keeps its
identifier and number and all links lead to entries. -/
theorem changeEntry_failsOnly (faults : Faults) (alter : EntryRow → EntryRow) {id : EntryId}
    (sound : Sound books) (present : id ∈ books.entries.map EntryRow.id)
    (sameId : ∀ row, (alter row).id = row.id) (sameNumber : ∀ row, (alter row).number = row.number)
    (reverses : ∀ row ∈ books.entries, ∀ link ∈ (alter row).reverses,
      link ∈ books.entries.map EntryRow.id)
    (reversals : ∀ row ∈ books.entries, ∀ link ∈ (alter row).reversal,
      link ∈ books.entries.map EntryRow.id) :
    FailsOnly (fun fault => fault = .refused ∧ faults.refuses .journalEntries .update = true)
      (changeOne faults entrySheet (fun row => row.id == id) alter books) := by
  have ids : (altered EntryRow.id id alter books.entries).map EntryRow.id =
      books.entries.map EntryRow.id := map_altered _ sameId
  have numbers : (altered EntryRow.id id alter books.entries).map EntryRow.number =
      books.entries.map EntryRow.number := map_altered _ sameNumber
  have leads : ∀ link ∈ books.entries.map EntryRow.id,
      ∃ other ∈ books.entries.map fun row => if (row.id == id) = true then alter row else row,
        other.id = link := by
    intro link there
    rw [map_eq_altered, ← List.mem_map, ids]
    exact there
  obtain ⟨row, member, named⟩ := List.mem_map.mp present
  refine changeOne_failsOnly ⟨row, member, beq_iff_eq.mpr named⟩ (fun _ _ _ => rfl) ?_
    fun other there _ => ?_
  · show allDistinct _ (books.entries.map _) = true
    rw [map_eq_altered, entrySheet_allDistinct sound.plain, ids, numbers]
    exact ⟨sound.entryIds, sound.numbers⟩
  · exact (entrySheet_isLinked (by exact sound.plain)).mpr
      ⟨fun link is => leads link (reverses other there link is),
        fun link is => leads link (reversals other there link is)⟩

/-- Such an entry is found again when it is changed. -/
theorem writeEntry_failsOnly (alter : EntryRow → EntryRow) {id : EntryId} (sound : Sound books)
    (present : id ∈ books.entries.map EntryRow.id) (sameId : ∀ row, (alter row).id = row.id)
    (sameNumber : ∀ row, (alter row).number = row.number)
    (reverses : ∀ row ∈ books.entries, ∀ link ∈ (alter row).reverses,
      link ∈ books.entries.map EntryRow.id)
    (reversals : ∀ row ∈ books.entries, ∀ link ∈ (alter row).reversal,
      link ∈ books.entries.map EntryRow.id)
    (refused : session.faults.refuses .journalEntries .update = true →
      allowed (.refused (.storage .refused))) :
    FailsOnly allowed (writeEntry session id alter books) := by
  refine Work.failsOnly_bind (Work.failsOnly_stored ((changeEntry_failsOnly session.faults alter
    sound present sameId sameNumber reverses reversals).mono fun fault ⟨same, refuses⟩ =>
      same ▸ refused refuses)) fun _ after changed => ?_
  have left := (of_changeOne (Work.stored_eq_ok.mp changed)).2
  have plain : after.strays = [] := by
    rw [left]
    exact sound.plain
  obtain ⟨row, member, named⟩ := List.mem_map.mp present
  refine Work.failsOnly_found_lookUp plain fun missing => ?_
  have there : alter row ∈ after.entries := by
    rw [left]
    exact alter_mem_altered member named
  exact absurd ((sameId row).trans named) (ne_of_header? plain missing _ there)

theorem bookPosting_failsOnly (session : Session) (id : EntryId) (user : UserId)
    (kept : Kept books) :
    FailsOnly (PostingFails session id books) (bookPosting session id user books) := by
  have sound := kept.sound
  refine Work.failsOnly_bind (lockEntry_failsOnly sound.plain .absent) fun entry _ locked => ?_
  obtain ⟨member, rfl, rfl⟩ := of_lockEntry locked
  refine Work.failsOnly_bind (judged_failsOnly ?_) fun step _ allowed => ?_
  · by_cases draft : entry.status = .draft
    · rw [draft]
      exact .ok _
    · intro cause failed
      unfold Ledger.post at failed
      split at failed
      · cases failed
      · cases failed
        exact .undrafted member rfl draft
  obtain ⟨is, rfl⟩ := judged_eq_ok.mp allowed
  obtain ⟨_, rfl⟩ := of_post is
  refine Work.failsOnly_bind (loadLines_failsOnly sound.plain entry.id) fun lines _ loaded => ?_
  obtain ⟨rfl, rfl⟩ := of_loadLines loaded
  have valid := kept.valid entry member
  obtain ⟨totals, accepted⟩ := Ledger.valid_iff.mpr valid
  refine Work.failsOnly_bind (judged_failsOnly (.of_eq_ok accepted)) fun _ _ checked => ?_
  obtain ⟨_, rfl⟩ := judged_eq_ok.mp checked
  refine Work.failsOnly_bind (applyLines_failsOnly sound kept.charted valid.sided
    (account_mem_of_linesOf sound) (fun _ is => .unbookable is)
    fun refuses => .hindered (.refused (by simp [bookingStatements]) refuses)) fun _ _ applied => ?_
  obtain ⟨_, rfl⟩ := of_applyLines sound applied
  exact writeEntry_failsOnly _ (sound.mapAccounts (fun _ => posted_id) fun _ => posted_code)
    (List.mem_map_of_mem member) (fun _ => stepped_id) (fun _ => stepped_number) kept.reverses
    kept.reversals fun refuses => .hindered (.refused (by simp [bookingStatements]) refuses)

/-- **Posting an entry** fails only for the causes of `PostingFails`. -/
theorem postEntry_failsOnly (session : Session) (id : EntryId) (user : UserId) {world : World}
    (kept : Kept world.books) :
    FailsOnly (PostingFails session id world.books) (postEntry session id user world).1 :=
  Action.failsOnly_bind (Action.failsOnly_atomically_of .unreachable
    (bookPosting_failsOnly session id user kept)) fun row _ _ => .ok row

/-- **A draft whose lines the accounts take is posted**, where nothing goes wrong. -/
theorem postEntry_of_bookable (session : Session) (user : UserId) {world : World} {entry : EntryRow}
    (kept : Kept world.books) (smooth : session.faults = .none)
    (member : entry ∈ world.books.entries) (draft : entry.status = .draft)
    (takes : ∀ cause,
      ¬Unbookable world.books.accounts ((world.books.linesOf entry.id).map LineRow.line) cause) :
    ∃ row after, postEntry session entry.id user world = (.ok row, after) ∧
      ∃ old lines, Posted session entry.id user old lines world.books row after.books := by
  rcases postEntry_ends session entry.id user world with ⟨cause, same⟩ | ⟨row, after, same, left⟩
  · cases postEntry_failsOnly session entry.id user kept cause (by rw [same]) with
    | unreachable blocked =>
      rw [smooth] at blocked
      cases blocked
    | absent none => exact absurd (List.mem_map_of_mem member) none
    | undrafted present named status =>
      obtain rfl := eq_of_key kept.sound.entryIds present member named
      exact absurd draft status
    | unbookable is => exact absurd is (takes _)
    | hindered is =>
      rw [smooth] at is
      cases is with
      | refused _ refuses => cases refuses
      | rival _ rivals => cases rivals
  · exact ⟨row, after, same, left.changed kept.sound⟩

/-! ### Reversing entries -/

/-- More statements only hinder more. -/
theorem Hindered.mono {faults : Faults} {statements others : List (Table × Statement)}
    {fault : StorageFault} (hindered : Hindered faults statements fault)
    (among : statements ⊆ others) : Hindered faults others fault := by
  cases hindered with
  | refused issued refuses => exact .refused (among issued) refuses
  | rival issued rivals => exact .rival (among issued) rivals

/-- The identifiers of entries stay when one more comes with its own. -/
theorem Entered.ids {lines : List Line} {entered : FullEntry} {after : Books}
    (did : Entered lines books entered after) :
    (∀ id ∈ books.entries.map EntryRow.id, id ∈ after.entries.map EntryRow.id) ∧
      entered.entry.id ∈ after.entries.map EntryRow.id := by
  have ids : after.entries.map EntryRow.id =
      books.entries.map EntryRow.id ++ [entered.entry.id] := by
    rw [did.left, List.map_append]
    rfl
  rw [ids]
  exact ⟨fun id there => List.mem_append_left _ there,
    List.mem_append_right _ List.mem_cons_self⟩

/-- Links lead to entries when one more comes that leads to one of those before it. -/
theorem Entered.reverses {lines : List Line} {entered : FullEntry} {after : Books}
    (did : Entered lines books entered after)
    (reverses : ∀ row ∈ books.entries, ∀ id ∈ row.reverses, id ∈ books.entries.map EntryRow.id)
    (own : ∀ id ∈ entered.entry.reverses, id ∈ books.entries.map EntryRow.id) :
    ∀ row ∈ after.entries, ∀ id ∈ row.reverses, id ∈ after.entries.map EntryRow.id := by
  intro row member id leads
  have present : row ∈ books.entries ++ [entered.entry] := by
    rw [did.left] at member
    exact member
  rcases List.mem_append.mp present with old | new
  · exact did.ids.1 id (reverses row old id leads)
  · rw [List.mem_singleton.mp new] at leads
    exact did.ids.1 id (own id leads)

theorem reverse_failsOnly {current : EntryStatus} {user : UserId} {reason : String} {now : Instant}
    {allowed : Ledger.LedgerError → Prop}
    (unposted : current ≠ .posted → allowed (.notPosted current))
    (short : (Text.trim reason).length < 10 →
      allowed (.reasonTooShort 10 (Text.trim reason).length)) :
    FailsOnly allowed (Ledger.reverse current user reason now) := by
  intro cause failed
  unfold Ledger.reverse at failed
  split at failed
  · unfold Ledger.validateReversalReason at failed
    simp only at failed
    split at failed
    · rename_i few
      cases failed
      exact short few
    · cases failed
  · rename_i other
    cases failed
    exact unposted other

theorem bookReversal_failsOnly (session : Session) (id : EntryId) (user : UserId) (reason : String)
    (kept : Kept books) :
    FailsOnly (ReversalFails session id reason books)
      (bookReversal session id user (Text.trim reason) books) := by
  have sound := kept.sound
  refine Work.failsOnly_bind (lockEntry_failsOnly sound.plain .absent) fun entry _ locked => ?_
  obtain ⟨member, rfl, rfl⟩ := of_lockEntry locked
  refine Work.failsOnly_bind (judged_failsOnly (reverse_failsOnly (.unposted member rfl)
    (by rw [Text.trim_trim]; exact .short))) fun step _ allowed => ?_
  obtain ⟨is, rfl⟩ := judged_eq_ok.mp allowed
  obtain ⟨_, _, rfl⟩ := of_reverse is
  refine Work.failsOnly_bind (Work.failsOnly_map (loadLines_failsOnly sound.plain entry.id))
    fun lines _ loaded => ?_
  obtain ⟨_, read, rfl⟩ := Work.map_eq_ok.mp loaded
  obtain ⟨rfl, rfl⟩ := of_loadLines read
  have valid := (kept.valid entry member).reversing
  obtain ⟨totals, accepted⟩ := Ledger.valid_iff.mpr valid
  refine Work.failsOnly_bind (judged_failsOnly (.of_eq_ok accepted)) fun _ _ checked => ?_
  obtain ⟨_, rfl⟩ := judged_eq_ok.mp checked
  have hindered : ∀ fault, Hindered session.faults enteringStatements fault → ¬AtLast books →
      ReversalFails session entry.id reason books (.refused (.storage fault)) :=
    fun fault is room => .hindered room (is.mono (List.subset_append_left _ _))
  have booked : ∀ table, (table, Statement.update) ∈ bookingStatements → ¬AtLast books →
      session.faults.refuses table .update = true →
        ReversalFails session entry.id reason books (.refused (.storage .refused)) :=
    fun table is room refuses => .hindered room (.refused (List.mem_append_right _ is) refuses)
  obtain ⟨next, stands, _⟩ := kept.numbers
  refine Work.failsOnly_bind (Work.failsOnly_map (nextValue_failsOnly sound.plain stands .last
    fun room refuses => hindered _ (.refused (by simp [enteringStatements]) refuses) room))
    fun number _ drawn => ?_
  obtain ⟨value, sequences, rfl, draws, rfl⟩ := of_nextNumber drawn
  have room := not_atLast_of_draws draws
  have exhausted : ∀ {count : Nat}, count ≤ books.issued + (books.linesOf entry.id).length →
      books.supply.issued? count = none →
        ReversalFails session entry.id reason books (.refused (.storage .refused)) :=
    fun few none => .exhausted room (books.supply.spent none few)
  refine Work.failsOnly_bind (Work.failsOnly_fresh (exhausted (Nat.le_add_right _ _)))
    fun uuid _ fresh => ?_
  obtain ⟨is, rfl⟩ := Work.fresh_eq_ok.mp fresh
  have numbered := sound.drawn sequences
  have lineAccounts : ∀ line ∈ Ledger.reversing ((books.linesOf entry.id).map LineRow.line),
      line.account ∈ books.accounts.map AccountRow.id := by
    intro line exchanged
    obtain ⟨old, there, rfl⟩ := List.mem_map.mp exchanged
    exact account_mem_of_linesOf sound old there
  refine Work.failsOnly_bind (insertEntry_failsOnly numbered
    (kept.issued.mono (List.Subset.refl _) (List.Subset.refl _) ⟨rfl, Nat.le_succ _⟩)
    (fun other present same => (kept.issued.entries other present).ne is (Nat.le_refl _)
      (congrArg Id.uuid same)) (kept.newNumber draws) (fun link leads => ?_) rfl lineAccounts
    valid.sided (exhausted ?_) fun fault is => hindered fault is room)
    fun reversal middle entered => ?_
  · obtain rfl := Option.some.inj leads
    exact List.mem_map_of_mem member
  · rw [Ledger.reversing, List.length_map, List.length_map]
    show books.issued + 1 + (books.linesOf entry.id).length - 1 ≤ _
    omega
  obtain ⟨same, did⟩ := of_insertEntry (by exact sound.plain) entered
  have soundMiddle := did.sound numbered
  have accounts : middle.accounts = books.accounts := by rw [did.left]
  refine Work.failsOnly_bind (applyLines_failsOnly soundMiddle (accounts ▸ kept.charted)
    valid.sided (accounts ▸ lineAccounts) (fun _ is => .unbookable room (accounts ▸ is))
    (booked .accounts (by simp [bookingStatements]) room)) fun _ _ applied => ?_
  obtain ⟨_, rfl⟩ := of_applyLines soundMiddle applied
  obtain ⟨stay, comes⟩ := did.ids
  -- the new entry leads to the one that it reverses, which from now on leads back to it
  refine Work.failsOnly_bind (writeEntry_failsOnly _
    (soundMiddle.mapAccounts (fun _ => posted_id) fun _ => posted_code)
    (stay _ (List.mem_map_of_mem member)) (fun _ => stepped_id) (fun _ => stepped_number)
    (did.reverses kept.reverses fun link leads => ?_) (fun row _ link leads => ?_)
    (booked .journalEntries (by simp [bookingStatements]) room)) fun _ _ _ => Work.failsOnly_pure _
  · rw [same] at leads
    obtain rfl := Option.some.inj leads
    exact List.mem_map_of_mem member
  · obtain rfl := Option.some.inj leads
    exact comes

/-- **Reversing an entry** fails only for the causes of `ReversalFails`. -/
theorem reverseEntry_failsOnly (session : Session) (id : EntryId) (user : UserId) (reason : String)
    {world : World} (kept : Kept world.books) :
    FailsOnly (ReversalFails session id reason world.books)
      (reverseEntry session id user reason world).1 :=
  Action.failsOnly_bind (Action.failsOnly_atomically_of .unreachable
    (bookReversal_failsOnly session id user reason kept)) fun outcome _ _ => .ok outcome

/-- **A posted entry is reversed for a reason that is long enough** if the accounts take its lines
the other way round, where nothing goes wrong and nothing runs out. -/
theorem reverseEntry_of_bookable (session : Session) (user : UserId) {reason : String}
    {world : World} {entry : EntryRow} (kept : Kept world.books) (smooth : session.faults = .none)
    (member : entry ∈ world.books.entries) (status : entry.status = .posted)
    (long : 10 ≤ (Text.trim reason).length) (room : ¬AtLast world.books)
    (unspent : (world.books.supply.issued?
      (world.books.issued + (world.books.linesOf entry.id).length)).isSome)
    (takes : ∀ cause, ¬Unbookable world.books.accounts
      (Ledger.reversing ((world.books.linesOf entry.id).map LineRow.line)) cause) :
    ∃ outcome after, reverseEntry session entry.id user reason world = (.ok outcome, after) ∧
      ∃ old lines, Reversed session entry.id user (Text.trim reason) old lines world.books outcome
        after.books := by
  rcases reverseEntry_ends session entry.id user reason world with
    ⟨cause, same⟩ | ⟨outcome, after, same, left⟩
  · cases reverseEntry_failsOnly session entry.id user reason kept cause (by rw [same]) with
    | unreachable blocked =>
      rw [smooth] at blocked
      cases blocked
    | absent none => exact absurd (List.mem_map_of_mem member) none
    | unposted present named other =>
      obtain rfl := eq_of_key kept.sound.entryIds present member named
      exact absurd status other
    | short few => exact absurd few (Nat.not_lt.mpr long)
    | last atLast => exact absurd atLast room
    | unbookable _ is => exact absurd is (takes _)
    | exhausted _ spent =>
      rw [spent] at unspent
      cases unspent
    | hindered _ is =>
      rw [smooth] at is
      cases is with
      | refused _ refuses => cases refuses
      | rival _ rivals => cases rivals
  · exact ⟨outcome, after, same, left.changed kept.sound⟩

end Passbook.Journal
