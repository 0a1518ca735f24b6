/-
**Stored entries are well formed, and nothing that looks at them again is surprised.**

* `Revalidated`: an entry is well formed on accounts that are there, and its lines, whichever way
  round, pass the validation of lines, as those of well-formed entries do;
* `play_wellFormed`: so it is in every run from fresh books, hence no rule of a table and no second
  look at lines ever fails an operation of the journal.
-/

import Passbook.Proofs.Bookkeeping.Entering

namespace Passbook.Bookkeeping

open Passbook.Journal
open Passbook.Operation
open Passbook.Store
open Passbook.Verdict (FailsOnly)

/-- An entry is well formed on accounts that are there, and its lines, whichever way round, pass the
validation of lines. -/
structure Revalidated (books : Books) (entry : EntryId) : Prop where
  formed : Formed books entry
  accounts : ∀ line ∈ books.linesOf entry, ∃ account ∈ books.accounts,
    account.id = line.line.account
  posting : ∃ totals,
    Ledger.validateLines ((books.linesOf entry).map LineRow.line) = .ok totals
  reversing : ∃ totals,
    Ledger.validateLines (Ledger.reversing ((books.linesOf entry).map LineRow.line)) = .ok totals

theorem Formed.revalidated {books : Books} {entry : EntryId} (formed : Formed books entry)
    (sound : Sound books) : Revalidated books entry where
  formed := formed
  accounts := fun line member =>
    sound.lineAccounts line ((mem_linesOf sound.plain).mp member).1
  posting := Ledger.valid_iff.mpr formed.valid
  reversing := Ledger.valid_iff.mpr formed.valid.reversing

/-- **Stored entries are well formed**, in every state that a run from fresh books reaches. Each has
two lines or more, numbered from one without gaps, each with one side that is more than nothing and
the other nothing; both sides come to the same within the range, and all are on accounts that are
there. Every line is that of an entry. An entry that was created has the lines that were asked for
in their order as long as it lasts. Hence lines that are looked at again pass, and unless the
storage refuses a statement, cannot be reached or has no identifier left,

* creating an entry fails only for its lines, for an account that is not there, or at the last value
  of the sequence;
* posting fails only for an entry that is not there or no draft, an inactive account, or a total of
  an account that leaves the range;
* reversing fails only for an entry that is not there or not posted, a reason that is too short, an
  inactive account or a total that leaves the range, or at the last value of the sequence. -/
theorem play_wellFormed (supply : Supply) (calls later : List Call) :
    (∀ row ∈ (play calls (.fresh supply)).books.entries,
      Revalidated (play calls (.fresh supply)).books row.id) ∧
      (∀ line ∈ (play calls (.fresh supply)).books.lines,
        ∃ row ∈ (play calls (.fresh supply)).books.entries, row.id = line.entry) ∧
      (∀ session input full,
        ((Call.command session (.createEntry input)).run (play calls (.fresh supply))).1 =
            .ok (.fullEntry full) →
          ∀ row ∈ (play (calls ++ .command session (.createEntry input) :: later)
              (.fresh supply)).books.entries,
            row.id = full.entry.id →
              ((play (calls ++ .command session (.createEntry input) :: later)
                (.fresh supply)).books.linesOf row.id).map LineRow.line = input.lines) ∧
      (∀ session input,
        FailsOnly (fun failure => ∃ cause, failure = .journal cause ∧
            CreationFails session input (play calls (.fresh supply)).books cause)
          ((Call.command session (.createEntry input)).run (play calls (.fresh supply))).1) ∧
      (∀ session id user,
        FailsOnly (fun failure => ∃ cause, failure = .journal cause ∧
            PostingFails session id (play calls (.fresh supply)).books cause)
          ((Call.command session (.postEntry id user)).run (play calls (.fresh supply))).1) ∧
      ∀ session id user reason,
        FailsOnly (fun failure => ∃ cause, failure = .journal cause ∧
            ReversalFails session id reason (play calls (.fresh supply)).books cause)
          ((Call.command session (.reverseEntry id user reason)).run
            (play calls (.fresh supply))).1 := by
  have kept := play_kept supply calls
  refine ⟨fun row member => (play_formed supply calls row member).revalidated kept.sound,
    kept.sound.lineEntries, fun _ _ _ created => play_created supply calls later created,
    fun session input => ?_, fun session id user => ?_, fun session id user reason => ?_⟩
  · exact ofJournal_failsOnly (createEntry_failsOnly session input kept)
  · exact ofJournal_failsOnly (postEntry_failsOnly session id user kept)
  · exact ofJournal_failsOnly (reverseEntry_failsOnly session id user reason kept)

/-- Nothing keeps the sale that is entered last from being posted. -/
theorem play_wellFormed_sale : ∃ answer,
    ((Call.command sampleSession (.postEntry (sampleId 5) (sampleOwner 2))).run
      (play (sampleDropped ++ [sampleDraft]) .fresh)).1 = .ok answer := by
  obtain ⟨_, _, created, _⟩ := play_wellFormed .ascending sampleDropped []
  obtain ⟨_, _, _, _, posts, _⟩ := play_wellFormed .ascending (sampleDropped ++ [sampleDraft]) []
  have drafts : ∀ row ∈ (play (sampleDropped ++ [sampleDraft]) .fresh).books.entries,
      row.id = sampleId 5 ∧ row.status = .draft := by decide +kernel
  have present : sampleId 5 ∈
      (play (sampleDropped ++ [sampleDraft]) .fresh).books.entries.map EntryRow.id := by
    decide +kernel
  have accounts : ∀ row ∈ (play (sampleDropped ++ [sampleDraft]) .fresh).books.accounts,
      row.status = .active ∧
        row.balance.debitTotal.units + debitsOn row.id (sampleSale 250).lines ≤ 250 ∧
        row.balance.creditTotal.units + creditsOn row.id (sampleSale 250).lines ≤ 250 := by
    decide +kernel
  have lines : ((play (sampleDropped ++ [sampleDraft]) .fresh).books.linesOf (sampleId 5)).map
      LineRow.line = (sampleSale 250).lines := by
    have entered : (entering? (sampleDraft, (sampleDraft.run (play sampleDropped .fresh)).1)).map
        (fun answer => (enteredIn answer).map EntryRow.id) = some (some (sampleId 5)) := by
      decide +kernel
    cases ran : (sampleDraft.run (play sampleDropped .fresh)).1 with
    | error failure =>
      rw [ran] at entered
      cases entered
    | ok answer =>
      obtain ⟨full, _, rfl⟩ := ok_of_answering ran
      rw [ran] at entered
      have same : full.entry.id = sampleId 5 := Option.some.inj (Option.some.inj entered)
      obtain ⟨row, member, named⟩ := List.mem_map.mp present
      unfold sampleDraft at ran member ⊢
      rw [← named]
      exact created sampleSession (sampleSale 250) full ran row member (named.trans same.symm)
  cases ran : ((Call.command sampleSession (.postEntry (sampleId 5) (sampleOwner 2))).run
      (play (sampleDropped ++ [sampleDraft]) .fresh)).1 with
  | ok answer => exact ⟨answer, rfl⟩
  | error failure =>
    obtain ⟨_, _, fails⟩ := posts sampleSession (sampleId 5) (sampleOwner 2) failure ran
    cases fails with
    | unreachable blocked => cases blocked
    | absent none => exact absurd present none
    | undrafted member _ status => exact absurd (drafts _ member).2 status
    | unbookable is =>
      rw [lines] at is
      cases is with
      | inactive member _ status => exact absurd (accounts _ member).1 status
      | beyond member _ exceeds =>
        have bounds := (accounts _ member).2
        unfold Exceeds at exceeds
        omega
    | hindered is =>
      cases is with
      | refused _ refuses => cases refuses
      | rival _ rivals => cases rivals

end Passbook.Bookkeeping
