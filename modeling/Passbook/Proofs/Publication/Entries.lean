/-
**Entries as events tell of them.**

* `links`, `postings`: the links of reversals to what they reverse and the entries that were drafted
  and posted, as the books have them;
* `Filed`: events tell of these and of no others; `filed_of_announced`: so it is after every deed
  that is made known;
* `entryEvent?`: the event of an operation that posts or reverses an entry; `play_entryEvents`: in a
  run these operations and no others make entries known, each by one event and in order;
* `play_published`: what a run from fresh books makes known tells of the wallets, the reversals and
  the postings that it leaves, of each once.
-/

import Passbook.Proofs.Bookkeeping.Mirror
import Passbook.Proofs.Publication.Replica

namespace Passbook.Publication

open Passbook.Journal (Reversal reversedBy stepped)
open Passbook.Ledger (EntryStatus)
open Passbook.Operation
open Passbook.Store
open Passbook.Store.Action (Ends Leaves)

/-! ### What events and books tell of entries -/

/-- The posting that an event tells of. -/
def posting? : Event → Option (EntryId × String)
  | .entryPosted entry number => some (entry, number)
  | _ => none

/-- The entry and the reversal that an event tells of. -/
def reversal? : Event → Option (EntryId × EntryId)
  | .entryReversed entry reversal => some (entry, reversal)
  | _ => none

/-- An event tells of an entry. -/
def isOfEntry (event : Event) : Bool := (posting? event).isSome || (reversal? event).isSome

/-- The link of a reversal to what it reverses. -/
def link? (row : EntryRow) : Option (EntryId × EntryId) :=
  row.reverses.map fun entry => (entry, row.id)

/-- The links of reversals to what they reverse. -/
def links (books : Books) : List (EntryId × EntryId) := books.entries.filterMap link?

/-- An entry with its number, if it was drafted and posted. The only others that are no drafts are
reversals. -/
def posted? (row : EntryRow) : Option (EntryId × String) :=
  if row.status ≠ .draft ∧ row.reverses = none then some (row.id, row.number) else none

/-- The entries that were drafted and posted. -/
def postings (books : Books) : List (EntryId × String) := books.entries.filterMap posted?

/-! ### Deeds -/

/-- What events tell of entries is what the books have. -/
structure Filed (books : Books) (published : List Event) : Prop where
  drafts : ∀ row ∈ books.entries, row.status = .draft → row.reverses = none
  reversed : published.filterMap reversal? = links books
  posted : (published.filterMap posting?).Perm (postings books)

theorem Filed.fresh {supply : Supply} : Filed (.fresh supply) [] where
  drafts _ none := absurd none List.not_mem_nil
  reversed := rfl
  posted := List.Perm.refl _

section Filed

variable {session : Session} {before after : Books} {published events : List Event}

/-- Things stay filed where events and books tell of the same more. -/
theorem Filed.andThen (filed : Filed before published)
    (drafts : ∀ row ∈ after.entries, row.status = .draft → row.reverses = none)
    (reversed : links after = links before ++ events.filterMap reversal?)
    (posted : (postings after).Perm (postings before ++ events.filterMap posting?)) :
    Filed after (published ++ events) where
  drafts := drafts
  reversed := by rw [List.filterMap_append, filed.reversed, reversed]
  posted := by
    rw [List.filterMap_append]
    exact (filed.posted.append_right _).trans posted.symm

/-- Deeds that write no entry leave things filed. -/
theorem Filed.of_entries (filed : Filed before published) (same : after.entries = before.entries)
    (silent : events.filterMap reversal? = [] ∧ events.filterMap posting? = []) :
    Filed after (published ++ events) := by
  refine filed.andThen ?_ ?_ ?_
  · rw [same]
    exact filed.drafts
  · rw [silent.1, List.append_nil, links, same, links]
  · rw [silent.2, List.append_nil, postings, same, postings]

section Altered

variable {entries : List EntryRow} {entry : EntryRow} {alter : EntryRow → EntryRow}

/-- What a step keeps of one entry it keeps of the list. -/
theorem filterMap_altered {σ : Type} (view : EntryRow → Option σ)
    (unique : (entries.map EntryRow.id).Nodup) (member : entry ∈ entries)
    (keeps : view (alter entry) = view entry) :
    (altered EntryRow.id entry.id alter entries).filterMap view = entries.filterMap view := by
  have joined : ∀ rows : List EntryRow, rows.filterMap view = (rows.map view).filterMap id := by
    intro rows
    rw [List.filterMap_map]
    rfl
  rw [joined, joined, map_altered_row view unique member keeps]

/-- A step that brings an entry into a listing brings it there once. -/
theorem filterMap_altered_perm {σ : Type} (view : EntryRow → Option σ) {shown : σ}
    (unique : (entries.map EntryRow.id).Nodup) (member : entry ∈ entries)
    (hidden : view entry = none) (now : view (alter entry) = some shown) :
    ((altered EntryRow.id entry.id alter entries).filterMap view).Perm
      (entries.filterMap view ++ [shown]) := by
  obtain ⟨front, back, rfl⟩ := List.append_of_mem member
  rw [altered_middle unique, List.filterMap_append, List.filterMap_append,
    List.filterMap_cons_some now, List.filterMap_cons_none hidden]
  exact List.perm_middle.trans (List.perm_append_singleton _ _).symm

/-- A step that leads to no draft leaves drafts without what they reverse. -/
theorem drafts_altered {id : EntryId}
    (drafts : ∀ row ∈ entries, row.status = .draft → row.reverses = none)
    (settled : ∀ row, (alter row).status ≠ .draft) :
    ∀ row ∈ altered EntryRow.id id alter entries, row.status = .draft → row.reverses = none := by
  intro row member draft
  obtain ⟨old, present, rfl⟩ := mem_altered.mp member
  by_cases chosen : old.id = id
  · rw [if_pos chosen] at draft
    exact absurd draft (settled old)
  · rw [if_neg chosen] at draft ⊢
    exact drafts old present draft

end Altered

theorem filed_of_drafted {input : Journal.NewEntry} {entered : Journal.FullEntry}
    (filed : Filed before published) (did : Journal.Drafted session input before entered after) :
    Filed after (published ++ []) := by
  obtain ⟨_, _, _, _, _, is, added⟩ := did.draws
  have entries : after.entries = before.entries ++ [entered.entry] := by rw [added.left]
  refine filed.andThen ?_ ?_ ?_
  · intro row member draft
    rw [entries] at member
    rcases List.mem_append.mp member with present | single
    · exact filed.drafts row present draft
    · rw [List.mem_singleton.mp single, is]
      rfl
  · rw [links, entries, List.filterMap_append, is]
    rfl
  · rw [postings, entries, List.filterMap_append, is]
    exact List.Perm.refl _

theorem filed_of_posted {id : EntryId} {user : UserId} {entry row : EntryRow}
    {lines : List Ledger.Line} (filed : Filed before published) (sound : Sound before)
    (did : Journal.Posted session id user entry lines before row after) :
    Filed after (published ++ [.entryPosted id row.number]) := by
  have entries : after.entries = altered EntryRow.id entry.id
      (stepped (.post user session.now)) before.entries := by rw [did.left, did.named]
  have sound' := did.sound sound
  have posted : stepped (.post user session.now) entry ∈ after.entries := by
    rw [entries]
    exact alter_mem_altered did.member rfl
  -- the row that is answered is the entry as it stands after the step
  have shown : row.number = entry.number := by
    obtain ⟨present, named⟩ := mem_of_header? did.found
    rw [eq_of_key sound'.entryIds present posted (named.trans did.named.symm)]
    rfl
  have own := filed.drafts entry did.member did.draft
  refine filed.andThen ?_ ?_ ?_
  · rw [entries]
    exact drafts_altered filed.drafts fun _ => EntryStatus.noConfusion
  · rw [links, entries, filterMap_altered link? sound.entryIds did.member rfl]
    exact (List.append_nil _).symm
  · rw [postings, entries, shown, ← did.named]
    refine filterMap_altered_perm posted? sound.entryIds did.member ?_ ?_
    · rw [posted?, if_neg fun settled => settled.1 did.draft]
    · rw [posted?, if_pos ⟨EntryStatus.noConfusion, own⟩]
      rfl

theorem filed_of_voided {id : EntryId} {user : UserId} {reason : String} {entry row : EntryRow}
    (filed : Filed before published) (sound : Sound before)
    (did : Journal.Voided session id user reason entry before row after) :
    Filed after (published ++ []) := by
  have entries : after.entries = altered EntryRow.id entry.id
      (stepped (.void user session.now reason)) before.entries := by rw [did.left, did.named]
  refine filed.andThen ?_ ?_ ?_
  · rw [entries]
    exact drafts_altered filed.drafts fun _ => EntryStatus.noConfusion
  · rw [links, entries, filterMap_altered link? sound.entryIds did.member rfl]
    exact (List.append_nil _).symm
  · rw [postings, entries, filterMap_altered posted? sound.entryIds did.member]
    · exact List.Perm.of_eq (List.append_nil _).symm
    · simp [posted?, did.status, stepped]

theorem filed_of_reversed {id : EntryId} {user : UserId} {reason : String} {entry : EntryRow}
    {lines : List Ledger.Line} {outcome : Reversal} (filed : Filed before published)
    (sound : Sound before)
    (did : Journal.Reversed session id user reason entry lines before outcome after) :
    Filed after (published ++ [.entryReversed id outcome.reversal.entry.id]) := by
  have entries := (Bookkeeping.reversal_entries did).2
  obtain ⟨_, _, _, _, ⟨_, _, is⟩, _, _⟩ := did.entered
  have link : link? outcome.reversal.entry = some (id, outcome.reversal.entry.id) := by
    rw [is, ← did.named]
    rfl
  have unposted : posted? outcome.reversal.entry = none := by
    rw [is]
    rfl
  refine filed.andThen ?_ ?_ ?_
  · intro row member draft
    rw [entries] at member
    rcases List.mem_append.mp member with present | single
    · exact drafts_altered filed.drafts (fun _ => EntryStatus.noConfusion) row present draft
    · rw [List.mem_singleton.mp single, is] at draft
      cases draft
  · rw [links, entries, List.filterMap_append,
      filterMap_altered link? sound.entryIds did.member rfl, List.filterMap_cons_some link]
    rfl
  · rw [postings, entries, List.filterMap_append, List.filterMap_cons_none unposted,
      filterMap_altered posted? sound.entryIds did.member]
    · exact List.Perm.refl _
    · simp [posted?, did.status, reversedBy, stepped]

theorem filed_of_dropped {id : EntryId} {entry : EntryRow} (filed : Filed before published)
    (sound : Sound before) (did : Journal.Dropped id entry before after) :
    Filed after (published ++ []) := by
  have entries : after.entries = before.entries.filter fun row => !(row.id == id) := by
    rw [did.left]
  -- a draft is told of neither by its links nor as a posting
  have silent : ∀ {σ : Type} (view : EntryRow → Option σ), view entry = none →
      after.entries.filterMap view = before.entries.filterMap view := by
    intro σ view hidden
    rw [entries, List.filterMap_filter]
    refine List.filterMap_congr fun row member => ?_
    by_cases chosen : row.id = id
    · obtain rfl := eq_of_key sound.entryIds member did.member (chosen.trans did.named.symm)
      simp [chosen, hidden]
    · simp [chosen]
  refine filed.andThen ?_ ?_ ?_
  · intro row member
    rw [entries] at member
    exact filed.drafts row (List.mem_filter.mp member).1
  · have own : link? entry = none := by
      rw [link?, filed.drafts entry did.member did.draft]
      rfl
    rw [links, silent link? own]
    exact (List.append_nil _).symm
  · have own : posted? entry = none := if_neg fun settled => settled.1 did.draft
    rw [postings, silent posted? own]
    exact List.Perm.of_eq (List.append_nil _).symm

/-- **Whatever deed is made known, events tell of the reversals and postings in the books.** -/
theorem filed_of_announced {kind : DeedKind} (filed : Filed before published)
    (sound : Sound before) (announced : Announced session kind before events after) :
    Filed after (published ++ events) := by
  have others : Table.journalEntries ∉ kind.writes →
      events.filterMap reversal? = [] ∧ events.filterMap posting? = [] →
        Filed after (published ++ events) := fun other =>
    filed.of_entries (announced.deed.untouched other)
  cases announced with
  | posted did => exact filed_of_posted filed sound did
  | reversed did => exact filed_of_reversed filed sound did
  | unannounced deed silent =>
    cases deed with
    | drafted _ did => exact filed_of_drafted filed did
    | voided did => exact filed_of_voided filed sound did
    | dropped did => exact filed_of_dropped filed sound did
    | posted _ | reversed _ => cases silent
    | _ => exact others (by decide) ⟨rfl, rfl⟩
  | _ => exact others (by decide) ⟨rfl, rfl⟩

end Filed

/-! ### Operations -/

/-- The event of an operation that has posted or reversed an entry. -/
def entryEvent? : Call × Except Failure Answer → Option Event
  | (.command _ (.postEntry entry _), .ok (.entry row)) => some (.entryPosted entry row.number)
  | (.command _ (.reverseEntry entry _ _), .ok (.reversal outcome)) =>
    some (.entryReversed entry outcome.reversal.entry.id)
  | _ => none

/-- Deeds of other kinds make no entry known. -/
theorem entryEvents_of_unfolded {kinds : List DeedKind} {world after : World}
    (unfolded : Unfolded kinds world after) (sound : Sound world.books)
    (others : ∀ kind ∈ kinds, kind ≠ .posted ∧ kind ≠ .reversed) :
    after.published.filter isOfEntry = world.published.filter isOfEntry := by
  refine unfolded.preserves
    (fun _ published => published.filter isOfEntry = world.published.filter isOfEntry) ?_ sound rfl
  intro _ kind _ events _ published member _ announced same
  have silent : events.filter isOfEntry = [] := by
    obtain ⟨unposted, unreversed⟩ := others kind member
    cases announced with
    | posted _ => exact absurd rfl unposted
    | reversed _ => exact absurd rfl unreversed
    | _ => rfl
  rw [List.filter_append, silent, List.append_nil, same]

/-- An operation of the journal makes known the one event of what it answers. -/
theorem entryEvents_of_ends {α : Type} {answer : α → Answer} {call : Call} {news : α → Event}
    {action : Action (Halt Journal.JournalError) α} {change : Books → α → Books → Prop}
    {world : World} (ends : Ends action (Leaves change fun value => [news value]))
    (ofEntry : ∀ value, isOfEntry (news value) = true)
    (told : ∀ value, entryEvent? (call, .ok (answer value)) = some (news value))
    (untold : ∀ failure, entryEvent? (call, .error failure) = none) :
    (ofJournal answer action world).2.published.filter isOfEntry =
      world.published.filter isOfEntry ++
        (entryEvent? (call, (ofJournal answer action world).1)).toList := by
  rw [ofJournal, answering_run]
  rcases ends world with ⟨cause, same⟩ | ⟨value, after, same, left⟩
  · rw [same]
    exact (congrArg _ (congrArg Option.toList (untold _))).trans (List.append_nil _) |>.symm
  · rw [same]
    show after.published.filter isOfEntry = _ ++ (entryEvent? (call, .ok (answer value))).toList
    rw [left.published, List.filter_append, told, List.filter_cons_of_pos (ofEntry value)]
    rfl

/-- **An operation that posts or reverses an entry makes it known by one event, and no other makes
entries known.** -/
theorem call_entryEvents (call : Call) {world : World} (sound : Sound world.books) :
    (call.run world).2.published.filter isOfEntry = world.published.filter isOfEntry ++
      (entryEvent? (call, (call.run world).1)).toList := by
  have others : (∀ kind ∈ call.kinds, kind ≠ .posted ∧ kind ≠ .reversed) →
      (∀ result, entryEvent? (call, result) = none) →
        (call.run world).2.published.filter isOfEntry = world.published.filter isOfEntry ++
          (entryEvent? (call, (call.run world).1)).toList := by
    intro kinds silent
    rw [entryEvents_of_unfolded (call.unfolded sound) sound kinds, silent]
    exact (List.append_nil _).symm
  cases call with
  | command session wanted =>
    cases wanted with
    | postEntry entry user =>
      exact entryEvents_of_ends (Journal.postEntry_ends session entry user) (fun _ => rfl)
        (fun _ => rfl) fun _ => rfl
    | reverseEntry entry user reason =>
      exact entryEvents_of_ends (Journal.reverseEntry_ends session entry user reason)
        (fun _ => rfl) (fun _ => rfl) fun _ => rfl
    | _ => exact others (by simp [Call.kinds, Command.kinds]) fun _ => rfl
  | query session wanted => exact others (by simp [Call.kinds]) fun _ => rfl
  | provisionInStages reading opening linking wallet =>
    exact others (by simp [Call.kinds]) fun _ => rfl
  | provisionElsewhere reading linking find create wallet =>
    exact others (by simp [Call.kinds]) fun _ => rfl
  | depositInStages confirming crediting undoing request =>
    exact others (by simp [Call.kinds]) fun _ => rfl

/-! ### Runs -/

/-- A run makes entries known by the events of the operations that post or reverse them, in
order. -/
theorem play_entryEvents (calls : List Call) {world : World} (sound : Sound world.books) :
    (play calls world).published.filter isOfEntry = world.published.filter isOfEntry ++
      (history calls world).filterMap entryEvent? := by
  induction calls generalizing world with
  | nil => exact (List.append_nil _).symm
  | cons call rest ih =>
    rw [play, ih ((call.happened sound).sound sound), call_entryEvents call sound,
      List.append_assoc, history, List.filterMap_cons]
    cases entryEvent? (call, (call.run world).1) <;> rfl

/-- What events tell of wallets, reversals and postings is what the books have, of each once. -/
structure Recounts (published : List Event) (books : Books) : Prop where
  wallets : replay published = some (books.wallets.map .of)
  reversals : published.filterMap reversal? = links books
  reversed : ∀ entry reversal, (entry, reversal) ∈ published.filterMap reversal? ↔
    ∃ row ∈ books.entries, row.id = entry ∧ row.reversal = some reversal
  reversedOnce : ((published.filterMap reversal?).map Prod.fst).Nodup
  postings : (published.filterMap posting?).Perm (Publication.postings books)
  postedOnce : ((published.filterMap posting?).map Prod.fst).Nodup

section

variable {books : Books}

/-- What entries are listed under occurs once where it tells them apart. -/
theorem nodup_listed {σ : Type} {view : EntryRow → Option (EntryId × σ)} (sound : Sound books)
    (apart : ∀ row ∈ books.entries, ∀ other ∈ books.entries, ∀ shown shown', view row = some shown →
      view other = some shown' → shown.1 = shown'.1 → row = other) :
    ((books.entries.filterMap view).map Prod.fst).Nodup := by
  rw [List.Nodup, List.pairwise_map, List.pairwise_filterMap]
  have ids : books.entries.Pairwise fun row other => row.id ≠ other.id :=
    List.pairwise_map.mp sound.entryIds
  refine ids.imp_of_mem fun member member' different shown is shown' is' same => different ?_
  rw [apart _ member _ member' shown shown' is is' same]

/-- The links of reversals are those of the entries that they reverse. -/
theorem mem_links (mirrored : Bookkeeping.Mirrored books) {entry reversal : EntryId} :
    (entry, reversal) ∈ links books ↔
      ∃ row ∈ books.entries, row.id = entry ∧ row.reversal = some reversal := by
  rw [links, List.mem_filterMap]
  constructor
  · rintro ⟨row, member, linked⟩
    obtain ⟨other, reverses, is⟩ := Option.map_eq_some_iff.mp linked
    obtain ⟨rfl, rfl⟩ := Prod.mk.inj is
    obtain ⟨old, named, pair⟩ := mirrored.back row member other reverses
    exact ⟨old, pair.entryMem, named, pair.forth⟩
  · rintro ⟨row, member, rfl, reversed⟩
    obtain ⟨other, rfl, pair⟩ := mirrored.forth row member reversal reversed
    exact ⟨other, pair.reversalMem, by rw [link?, pair.back]; rfl⟩

theorem links_nodup (mirrored : Bookkeeping.Mirrored books) (sound : Sound books) :
    ((links books).map Prod.fst).Nodup := by
  refine nodup_listed sound fun row member other member' shown shown' linked linked' same => ?_
  obtain ⟨entry, reverses, rfl⟩ := Option.map_eq_some_iff.mp linked
  obtain ⟨entry', reverses', rfl⟩ := Option.map_eq_some_iff.mp linked'
  obtain rfl : entry = entry' := same
  obtain ⟨old, rfl, pair⟩ := mirrored.back row member entry reverses
  exact mirrored.unique sound pair.entryMem member' reverses' member reverses

theorem postings_nodup (sound : Sound books) : ((postings books).map Prod.fst).Nodup := by
  refine nodup_listed sound fun row member other member' shown shown' posted posted' same => ?_
  obtain ⟨_, is⟩ := Option.ite_none_right_eq_some.mp posted
  obtain ⟨_, is'⟩ := Option.ite_none_right_eq_some.mp posted'
  rw [← Option.some.inj is, ← Option.some.inj is'] at same
  exact eq_of_key sound.entryIds member member' same

end

/-- **What a run from fresh books makes known is what it commits.** Replayed from nothing the events
fit one after another, every status being the one that the event before it left, and lead to the
wallets with their owners, currencies, balances and statuses; reversals are known as the links that
the entries have, postings as the entries that were drafted and posted, each once. The operations
that post or reverse an entry and no others make entries known, each by one event and in order. -/
theorem play_published (supply : Supply) (calls : List Call) :
    Recounts (play calls (.fresh supply)).published (play calls (.fresh supply)).books ∧
      (play calls (.fresh supply)).published.filter isOfEntry =
        (history calls (.fresh supply)).filterMap entryEvent? := by
  have sound : Sound (play calls (.fresh supply)).books := play_sound calls Sound.fresh
  have filed : Filed (play calls (.fresh supply)).books (play calls (.fresh supply)).published :=
    play_tells Filed (fun sound announced filed => filed_of_announced filed sound announced) calls
      Sound.fresh Filed.fresh
  have mirrored := Bookkeeping.play_pairs supply calls
  refine ⟨{
    wallets := play_replay supply calls
    reversals := filed.reversed
    reversed := fun entry reversal => ?_
    reversedOnce := ?_
    postings := filed.posted
    postedOnce := (filed.posted.map _).nodup_iff.mpr (postings_nodup sound) },
    play_entryEvents calls Sound.fresh⟩
  · rw [filed.reversed]
    exact mem_links mirrored
  · rw [filed.reversed]
    exact links_nodup mirrored sound

/-- A deposit that is asked for twice is told of once. -/
example : replay (play sampleDeposits .fresh).published =
    some [⟨sampleWallet, ⟨⟨7, by decide⟩⟩, "USD", 100, .active⟩] := by decide

end Passbook.Publication
