/-
**A listing that is walked through shows every row once.**

* `Shows`: the rows of a table that are asked for, by their keys, are what a walk through the pages
  shows, and every page tells how many they are and whether some of them lie beyond it;
* `shows_gatherPage`: a listing does so where the storage is reached, if the keys of the table are
  distinct and no more rows are asked for than a column counts;
* `play_listed`: so the accounts by code and the entries by number are shown after any run, for every
  filter and every limit. There are never too many entries: the numbers of the sequence end before
  that.
-/

import Passbook.Proofs.Bookkeeping.Numbering
import Passbook.Proofs.Store.Pages

namespace Passbook

/-- Whatever is wanted of a thing, if anything is, is what it has. -/
theorem all_beq_iff {κ : Type} [BEq κ] [LawfulBEq κ] {wanted? : Option κ} {value : κ} :
    (wanted?.all fun wanted => wanted == value) = true ↔
      ∀ wanted, wanted? = some wanted → value = wanted := by
  cases wanted? with
  | none => simp
  | some wanted =>
    rw [Option.all_some, beq_iff_eq]
    exact ⟨fun same _ is => same ▸ Option.some_inj.mp is, fun each => (each wanted rfl).symm⟩

namespace Chart

open Passbook.Store

/-- A listing asks for an account: it has the type and the status that are wanted, if any are. -/
def AccountFilter.Asks (filter : AccountFilter) (row : AccountRow) : Prop :=
  (∀ wanted, filter.accountType = some wanted → row.accountType = wanted) ∧
    ∀ wanted, filter.status = some wanted → row.status = wanted

theorem AccountFilter.admits_iff {filter : AccountFilter} {books : Books} {row : AccountRow}
    (plain : books.strays = []) : filter.admits books row = true ↔ filter.Asks row := by
  simp only [admits, Asks, Books.isUsual_eq_true plain, Bool.and_true, Bool.and_eq_true, all_beq_iff]

end Chart

namespace Operation

open Passbook.Bookkeeping
open Passbook.Store

section Shows

variable {ε ρ : Type}

/-- Pages that are asked for from the first row on show the rows of a table that a listing asks for,
by their keys. -/
structure Shows (ask : Nat → Action ε (Page ρ)) (world : World) (table : List ρ)
    (key : ρ → String) (asked : ρ → Prop) (rows : List ρ) : Prop where
  /-- These are the rows asked for. -/
  all : ∀ row, row ∈ rows ↔ row ∈ table ∧ asked row
  once : rows.Nodup
  ascending : rows.Pairwise fun first second => key first < key second
  /-- A walk through the pages comes to an end, and changes nothing. -/
  ends : ∃ pages, Walk ask 0 world pages world
  /-- Its pages, one after another, are the rows; each one tells how many there are and whether some
  lie beyond it. -/
  shown : ∀ pages after, Walk ask 0 world pages after → after = world ∧
    pages.flatMap Page.data = rows ∧ ∀ page ∈ pages,
      page.data = (rows.drop page.info.offset).take page.info.limit ∧
      page.info.total = rows.length ∧
      (page.info.hasMore = false ↔ rows.drop (page.info.offset + page.info.limit) = [])

/-- **Every listing of plain books shows its rows.** -/
theorem shows_gatherPage [StorageCause ε] {sessions : Nat → Session} {sheet : Sheet ρ}
    {choose : Books → List ρ} {world : World} {table : List ρ} {key : ρ → String}
    {keep : ρ → Bool} {asked : ρ → Prop} (plain : world.books.strays = [])
    (reached : ∀ start, (sessions start).faults.blocked = false)
    (sorts : choose world.books =
      (table.filter keep).mergeSort fun first second => !decide (key second < key first))
    (means : ∀ row, keep row = true ↔ asked row) (distinct : (table.map key).Nodup)
    (counted : ((choose world.books).length : Int) ≤ Amount.greatest.units) (limit : Nat) :
    Shows (fun start => (Action.gatherPage (sessions start) sheet choose ⟨limit, start⟩ :
      Action (Halt ε) (Page ρ))) world table key asked (choose world.books) := by
  have perm : (choose world.books).Perm (table.filter keep) := by
    rw [sorts]
    exact List.mergeSort_perm ..
  have distinct' : ((table.filter keep).map key).Nodup :=
    distinct.sublist (List.filter_sublist.map key)
  have greatest : Amount.greatest.units = 9223372036854775807 := rfl
  have fits : (choose world.books).length ≤ greatestUnsigned := by
    unfold greatestUnsigned
    omega
  have gives : ∀ start ≤ (choose world.books).length,
      (Action.gatherPage (sessions start) sheet choose ⟨limit, start⟩ :
        Action (Halt ε) (Page ρ)) world =
          (.ok (Page.of (choose world.books) ⟨limit, start⟩), world) := fun start within =>
    gatherPage_of_plain plain (reached start) (by dsimp only; omega)
  obtain ⟨pages, walk, data, cut⟩ := walk_of fits gives (Nat.zero_le _)
  refine ⟨fun row => ?_, ?_, ?_, ⟨pages, walk⟩, fun pages' after walk' => ?_⟩
  · rw [perm.mem_iff, List.mem_filter, means]
  · exact perm.nodup_iff.mpr (List.Nodup.of_map key distinct')
  · rw [sorts]
    exact ascending_mergeSort distinct'
  · obtain ⟨rfl, rfl⟩ := walk'.unique walk
    refine ⟨rfl, data, fun page member => ?_⟩
    obtain ⟨place, rfl⟩ := cut page member
    exact ⟨rfl, rfl, Page.hasMore_of_eq_false fits⟩

end Shows

/-- **Walking through the pages shows everything once.** After any run, and whatever limit is asked
for, the accounts of a type and a status by code, as long as they are no more than a column counts,
and the entries of a status by number: the walk from the first row on, each page starting where the
one before it ends, is over when a page says that it is the last, and its pages hold all rows that
are asked for, in order and once each. Every page tells how many there are, and says that it is the
last exactly if none lies beyond it. -/
theorem play_listed (supply : Supply) (calls : List Call) {sessions : Nat → Session}
    (reached : ∀ start, (sessions start).faults.blocked = false) (limit : Nat) :
    (∀ filter : Chart.AccountFilter,
      ((Chart.matchingAccounts filter (play calls (.fresh supply)).books).length : Int) ≤
          Amount.greatest.units →
        Shows (fun start => Chart.listAccounts (sessions start) filter ⟨limit, start⟩)
          (play calls (.fresh supply)) (play calls (.fresh supply)).books.accounts
          AccountRow.code filter.Asks
          (Chart.matchingAccounts filter (play calls (.fresh supply)).books)) ∧
    ∀ status : Option Ledger.EntryStatus,
      Shows (fun start => Journal.listEntries (sessions start) status ⟨limit, start⟩)
        (play calls (.fresh supply)) (play calls (.fresh supply)).books.entries EntryRow.number
        (fun row => ∀ wanted, status = some wanted → row.status = wanted)
        (Journal.matchingEntries status (play calls (.fresh supply)).books) := by
  have sound : Sound (play calls (.fresh supply)).books := play_sound calls Sound.fresh
  refine ⟨fun filter counted => ?_, fun status => ?_⟩
  · exact shows_gatherPage sound.plain reached rfl
      (fun row => Chart.AccountFilter.admits_iff sound.plain) sound.codes counted limit
  · have few : (Journal.matchingEntries status (play calls (.fresh supply)).books).length ≤
        (play calls (.fresh supply)).books.entries.length :=
      (List.length_mergeSort ..).trans_le (List.length_filter_le ..)
    have counted := (play_numbered supply calls).length_lt sound
    refine shows_gatherPage sound.plain reached rfl (fun row => ?_) sound.numbers (by omega) limit
    simp only [Books.isUsual_eq_true sound.plain, Bool.and_true, all_beq_iff]

/-- Two accounts are opened, the later code first, and a sale is entered. -/
def sampleFiling : List Call :=
  [.command sampleSession (.createAccount ⟨"4000", "Sales", .revenue, "USD", none⟩),
    .command sampleSession (.createAccount ⟨"1000", "Cash", .asset, "USD", none⟩),
    .command sampleSession (.createEntry (sampleSale 100))]

/-- A limit of nothing shows one row at a time, and all of them in the end. -/
theorem play_listed_singly :
    sampleSession.faults.blocked = false ∧
      ((Chart.matchingAccounts ⟨none, none⟩ (play sampleFiling .fresh).books).length : Int) ≤
        Amount.greatest.units ∧
      (∃ pages, Walk (fun start => Chart.listAccounts sampleSession ⟨none, none⟩ ⟨0, start⟩) 0
        (play sampleFiling .fresh) pages (play sampleFiling .fresh) ∧
          (pages.flatMap Page.data).map AccountRow.code = ["1000", "4000"]) ∧
      ∃ pages, Walk (fun start => Journal.listEntries sampleSession (some .draft) ⟨0, start⟩) 0
        (play sampleFiling .fresh) pages (play sampleFiling .fresh) ∧
          (pages.flatMap Page.data).map EntryRow.number = ["JE-00000001"] := by
  have few : ((Chart.matchingAccounts ⟨none, none⟩ (play sampleFiling .fresh).books).length : Int) ≤
      Amount.greatest.units := by
    rw [Chart.matchingAccounts, List.length_mergeSort]
    decide +kernel
  have reached : ∀ start : Nat, ((fun _ => sampleSession) start).faults.blocked = false :=
    fun _ => rfl
  have accounts := (play_listed .ascending sampleFiling reached 0).1 ⟨none, none⟩ few
  have entries := (play_listed .ascending sampleFiling reached 0).2 (some .draft)
  -- sorting cannot be run, but codes that rise are known by those that are there
  have codes : (Chart.matchingAccounts ⟨none, none⟩ (play sampleFiling .fresh).books).map
      AccountRow.code = ["1000", "4000"] := by
    have there : ((play sampleFiling .fresh).books.accounts.filter
        (Chart.AccountFilter.admits ⟨none, none⟩ (play sampleFiling .fresh).books)).map
          AccountRow.code = ["4000", "1000"] := by
      decide +kernel
    have perm := (List.mergeSort_perm ((play sampleFiling .fresh).books.accounts.filter
      (Chart.AccountFilter.admits ⟨none, none⟩ (play sampleFiling .fresh).books))
        fun first second => !decide (second.code < first.code)).map AccountRow.code
    rw [there] at perm
    have rising : ["1000", "4000"].Pairwise (· < ·) := by decide
    exact (perm.trans (.swap ..)).eq_of_pairwise
      (fun _ _ _ _ lower higher => absurd higher (Std.not_gt_of_lt lower))
      (List.pairwise_map.mpr accounts.ascending) rising
  have numbers : (Journal.matchingEntries (some .draft) (play sampleFiling .fresh).books).map
      EntryRow.number = ["JE-00000001"] := by
    decide +kernel
  obtain ⟨pages, walk⟩ := accounts.ends
  obtain ⟨pages', walk'⟩ := entries.ends
  refine ⟨rfl, few, ⟨pages, walk, ?_⟩, pages', walk', ?_⟩
  · rw [(accounts.shown pages _ walk).2.1, codes]
  · rw [(entries.shown pages' _ walk').2.1, numbers]

end Operation
end Passbook
