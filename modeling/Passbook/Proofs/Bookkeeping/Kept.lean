/-
**Every run leaves the books as the operations of the journal find them.**

* `Parented`: parents of accounts are accounts, as `parented_of_deed` keeps it;
* `agreed_totals`: no total of an account is below nothing, since it is what lines come to;
* `play_kept`: so the books are as the operations of the journal need them after every run from
  fresh books; `play_posts`: a draft whose lines the accounts take is posted then, and
  `play_reverses`: a posted entry whose lines they take the other way round is reversed.
-/

import Passbook.Proofs.Bookkeeping.Mirror
import Passbook.Proofs.Bookkeeping.Numbering
import Passbook.Proofs.Journal.EntriesFailing
import Passbook.Proofs.Reconciliation.Accounts

namespace Passbook.Bookkeeping

open Passbook.Journal
open Passbook.Operation
open Passbook.Reconciliation (Agreed)
open Passbook.Store

variable {session : Session} {before after : Books}

/-! ### Accounts -/

/-- Parents of accounts are accounts. -/
def Parented (accounts : List AccountRow) : Prop :=
  ∀ row ∈ accounts, ∀ parent ∈ row.parent, parent ∈ accounts.map AccountRow.id

/-- Accounts that keep their identifiers and parents have parents as before. -/
theorem Parented.of_same {accounts later : List AccountRow} (parented : Parented accounts)
    (same : later.map (fun row => (row.id, row.parent)) =
      accounts.map fun row => (row.id, row.parent)) : Parented later := by
  have ids : later.map AccountRow.id = accounts.map AccountRow.id := by
    simpa only [List.map_map, Function.comp_def] using congrArg (List.map Prod.fst) same
  intro row member parent link
  have kept : (row.id, row.parent) ∈ accounts.map fun row => (row.id, row.parent) :=
    same ▸ List.mem_map_of_mem member
  obtain ⟨old, present, is⟩ := List.mem_map.mp kept
  rw [ids]
  exact parented old present parent ((congrArg Prod.snd is).trans link)

/-- **A deed keeps parents of accounts among the accounts.** -/
theorem parented_of_deed {kind : DeedKind} (deed : Deed session kind before after)
    (parented : Parented before.accounts) : Parented after.accounts := by
  by_cases opening : kind = .accountOpened
  · subst opening
    cases deed with
    | @accountOpened input row _ _ _ did =>
    have parents := did.parent
    obtain ⟨_, _, new⟩ := did.issued
    rw [did.left] at parents ⊢
    intro other member parent link
    rcases List.mem_append.mp member with present | single
    · rw [List.map_append]
      exact List.mem_append_left _ (parented other present parent link)
    · rw [List.mem_singleton.mp single, new] at link
      exact List.mem_map.mpr (parents parent link)
  · exact parented.of_same (deed.keeps_accounts (fun row => (row.id, row.parent)) opening
      (fun _ _ _ _ => rfl) fun _ _ _ => rfl)

/-- No total of an account is below nothing. -/
theorem agreed_totals (agreed : Agreed before) (sound : Sound before)
    (formed : ∀ row ∈ before.entries, Formed before row.id) :
    ∀ row ∈ before.accounts,
      0 ≤ row.balance.debitTotal.units ∧ 0 ≤ row.balance.creditTotal.units := by
  have sided : ∀ line ∈ Reconciliation.bookedLines before, line.line.Sided := by
    intro line member
    have present := (List.mem_filter.mp member).1
    obtain ⟨entry, there, named⟩ := sound.lineEntries line present
    refine (formed entry there).valid.sided line.line (List.mem_map_of_mem ?_)
    exact (mem_linesOf sound.plain).mpr ⟨present, named.symm⟩
  intro row member
  rw [agreed.debits row member, agreed.credits row member]
  refine ⟨total_nonneg fun line there => ?_, total_nonneg fun line there => ?_⟩
  · have least := (sided line there).bounds.1
    simp only
    split <;> omega
  · have least := (sided line there).bounds.2
    simp only
    split <;> omega

/-! ### Runs -/

/-- The number that the sequence gives next is the number of no entry. -/
theorem Numbered.unused {count : Nat} (numbered : Numbered before count) :
    ∃ next : Amount, before.sequences = [⟨entrySequence, next⟩] ∧
      ∀ row ∈ before.entries, row.number ≠ Ledger.entryNumber next := by
  obtain ⟨next, units, stands⟩ := numbered.stands
  refine ⟨next, stands, fun row member shared => ?_⟩
  obtain ⟨place, least, most, number⟩ := numbered.numbers row member
  have same := entryNumber_inj (by omega) (by omega) (number.symm.trans shared)
  rw [same] at most
  omega

/-- **Every run leaves the books as the operations of the journal find them.** -/
theorem play_kept (supply : Supply) (calls : List Call) :
    Kept (play calls (.fresh supply)).books := by
  have start : Sound (World.fresh supply).books := Sound.fresh
  have none : Parented (World.fresh supply).books.accounts :=
    fun _ none => absurd none List.not_mem_nil
  obtain ⟨sound, agreed, parented⟩ := play_preserves
    (fun books => Agreed books ∧ Parented books.accounts)
    (fun sound deed held =>
      ⟨Reconciliation.agreed_of_deed deed sound held.1, parented_of_deed deed held.2⟩)
    calls start ⟨Agreed.fresh, none⟩
  have formed := play_formed supply calls
  have mirrored := play_pairs supply calls
  have totals := agreed_totals agreed sound formed
  exact {
    sound := sound
    issued := play_issued supply calls
    charted := ⟨parented, fun row member => (totals row member).1,
      fun row member => (totals row member).2⟩
    numbers := (play_numbered supply calls).unused
    reverses := fun row member id link => by
      obtain ⟨entry, rfl, pair⟩ := mirrored.back row member id link
      exact List.mem_map_of_mem pair.entryMem
    reversals := fun row member id link => by
      obtain ⟨reversal, rfl, pair⟩ := mirrored.forth row member id link
      exact List.mem_map_of_mem pair.reversalMem
    valid := fun row member => (formed row member).valid }

/-- **A draft whose lines the accounts take is posted** after every run, where nothing goes
wrong, and the operation answers with it. -/
theorem play_posts (supply : Supply) (calls : List Call) (session : Session) (user : UserId)
    {id : EntryId} {lines : List Ledger.Line} (smooth : session.faults = .none)
    (draft : ∃ entry ∈ (play calls (.fresh supply)).books.entries,
      entry.id = id ∧ entry.status = .draft)
    (written : ((play calls (.fresh supply)).books.linesOf id).map LineRow.line = lines)
    (room : ∀ row ∈ (play calls (.fresh supply)).books.accounts,
      row.status = .active ∧ ¬Exceeds row lines) :
    ∃ entry row,
      ((Call.command session (.postEntry id user)).run (play calls (.fresh supply))).1 =
        .ok (.entry row) ∧
        Posted session id user entry lines (play calls (.fresh supply)).books row
          (play (calls ++ [.command session (.postEntry id user)]) (.fresh supply)).books := by
  obtain ⟨entry, member, rfl, status⟩ := draft
  subst written
  obtain ⟨row, after, ran, old, lines, posted⟩ := postEntry_of_bookable session user
    (play_kept supply calls) smooth member status fun _ => not_unbookable room
  have loaded := posted.loaded
  subst loaded
  have answer : (Call.command session (.postEntry entry.id user)).run (play calls (.fresh supply)) =
      (.ok (.entry row), after) := by
    show ofJournal .entry (postEntry session entry.id user) (play calls (.fresh supply)) = _
    rw [ofJournal, answering_run, ran]
    rfl
  refine ⟨old, row, by rw [answer], ?_⟩
  rw [play_append]
  show Posted session entry.id user old _ _ row
    ((Call.command session (.postEntry entry.id user)).run (play calls (.fresh supply))).2.books
  rw [answer]
  exact posted

/-- **A posted entry whose lines the accounts take the other way round is reversed** after every
run, where nothing goes wrong and nothing runs out, and the operation answers with the reversal. -/
theorem play_reverses (supply : Supply) (calls : List Call) (session : Session) (user : UserId)
    {reason : String} {id : EntryId} {lines : List Ledger.Line} (smooth : session.faults = .none)
    (standing : ∃ entry ∈ (play calls (.fresh supply)).books.entries,
      entry.id = id ∧ entry.status = .posted)
    (long : 10 ≤ (Text.trim reason).length)
    (written : ((play calls (.fresh supply)).books.linesOf id).map LineRow.line = lines)
    (numbers : ¬AtLast (play calls (.fresh supply)).books)
    (unspent : ((play calls (.fresh supply)).books.supply.issued?
      ((play calls (.fresh supply)).books.issued + lines.length)).isSome)
    (room : ∀ row ∈ (play calls (.fresh supply)).books.accounts,
      row.status = .active ∧ ¬Exceeds row (Ledger.reversing lines)) :
    ∃ outcome entry, ((Call.command session (.reverseEntry id user reason)).run
        (play calls (.fresh supply))).1 = .ok (.reversal outcome) ∧
      Reversed session id user (Text.trim reason) entry (Ledger.reversing lines)
        (play calls (.fresh supply)).books outcome
        (play (calls ++ [.command session (.reverseEntry id user reason)])
          (.fresh supply)).books := by
  obtain ⟨entry, member, rfl, status⟩ := standing
  subst written
  rw [List.length_map] at unspent
  obtain ⟨outcome, after, ran, old, lines, reversed⟩ := reverseEntry_of_bookable session user
    (play_kept supply calls) smooth member status long numbers unspent fun _ => not_unbookable room
  have loaded := reversed.loaded
  subst loaded
  have answer : (Call.command session (.reverseEntry entry.id user reason)).run
      (play calls (.fresh supply)) = (.ok (.reversal outcome), after) := by
    show ofJournal .reversal (reverseEntry session entry.id user reason)
      (play calls (.fresh supply)) = _
    rw [ofJournal, answering_run, ran]
    rfl
  refine ⟨outcome, old, by rw [answer], ?_⟩
  rw [play_append]
  show Reversed session entry.id user _ old _ _ outcome
    ((Call.command session (.reverseEntry entry.id user reason)).run
      (play calls (.fresh supply))).2.books
  rw [answer]
  exact reversed

/-! ### A sale that is posted and reversed -/

/-- Two accounts are opened and a sale is entered on them. -/
def sampleEntered : List Call := sampleDropped.take 3

/-- The sale is posted. -/
def samplePosting : Call := .command sampleSession (.postEntry (sampleId 2) (sampleOwner 2))

/-- The sale is reversed. -/
def sampleReversing : Call :=
  .command sampleSession (.reverseEntry (sampleId 2) (sampleOwner 3) "Entered by mistake")

theorem sampleEntered_posted : ∃ entry row,
    (samplePosting.run (play sampleEntered .fresh)).1 = .ok (.entry row) ∧
      Posted sampleSession (sampleId 2) (sampleOwner 2) entry (sampleSale 100).lines
        (play sampleEntered .fresh).books row
        (play (sampleEntered ++ [samplePosting]) .fresh).books := by
  have ordered : ((play sampleEntered .fresh).books.lines.filter fun row =>
      row.entry == sampleId 2).Pairwise fun first second => first.place ≤ second.place := by
    decide +kernel
  have written : ((play sampleEntered .fresh).books.lines.filter fun row =>
      row.entry == sampleId 2).map LineRow.line = (sampleSale 100).lines := by
    decide +kernel
  have room : ∀ row ∈ (play sampleEntered .fresh).books.accounts,
      row.status = .active ∧ ¬Exceeds row (sampleSale 100).lines := by
    unfold Exceeds
    decide +kernel
  rw [← linesOf_of_ordered (play_kept .ascending sampleEntered).sound.plain ordered] at written
  exact play_posts .ascending sampleEntered sampleSession (sampleOwner 2) rfl
    (by decide +kernel) written
    room

theorem sampleEntered_reversed : ∃ outcome entry,
    (sampleReversing.run (play (sampleEntered ++ [samplePosting]) .fresh)).1 =
        .ok (.reversal outcome) ∧
      Reversed sampleSession (sampleId 2) (sampleOwner 3) (Text.trim "Entered by mistake") entry
        (Ledger.reversing (sampleSale 100).lines)
        (play (sampleEntered ++ [samplePosting]) .fresh).books outcome
        (play (sampleEntered ++ [samplePosting] ++ [sampleReversing]) .fresh).books := by
  obtain ⟨_, _, _, posted⟩ := sampleEntered_posted
  have standing : ∃ entry ∈ (play (sampleEntered ++ [samplePosting]) .fresh).books.entries,
      entry.id = sampleId 2 ∧ entry.status = .posted := by
    rw [posted.left]
    decide +kernel
  have long : 10 ≤ (Text.trim "Entered by mistake").length := by decide +kernel
  have written : ((play (sampleEntered ++ [samplePosting]) .fresh).books.linesOf
      (sampleId 2)).map LineRow.line = (sampleSale 100).lines := by
    rw [posted.loaded, posted.left]
    rfl
  have numbers : ¬AtLast (play (sampleEntered ++ [samplePosting]) .fresh).books := by
    have next : (play sampleEntered .fresh).books.sequences.map (fun row => row.next.units) =
        [2] := by decide +kernel
    rw [AtLast, posted.left]
    intro atLast
    have last := next.symm.trans (congrArg (List.map fun row => row.next.units) atLast)
    cases last
  have unspent : ((play (sampleEntered ++ [samplePosting]) .fresh).books.supply.issued?
      ((play (sampleEntered ++ [samplePosting]) .fresh).books.issued +
        (sampleSale 100).lines.length)).isSome := by
    rw [posted.left]
    decide +kernel
  have room : ∀ row ∈ (play (sampleEntered ++ [samplePosting]) .fresh).books.accounts,
      row.status = .active ∧ ¬Exceeds row (Ledger.reversing (sampleSale 100).lines) := by
    rw [posted.left]
    unfold Exceeds
    decide +kernel
  exact play_reverses .ascending (sampleEntered ++ [samplePosting]) sampleSession
    (sampleOwner 3) rfl standing
    long written numbers unspent room

end Passbook.Bookkeeping
