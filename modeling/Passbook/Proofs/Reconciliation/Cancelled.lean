/-
**Reversing an entry cancels its posting.**

* `figureOf`: a figure of an account, nothing before it is opened; `Agreed.debits_eq`,
  `Agreed.credits_eq`, `Agreed.balance_eq`: it is told by the lines of entries that are no drafts;
* `Posts`, `Reverses`: an operation has posted an entry, or reversed it; `booked_of_posts`,
  `booked_of_reverses`: it adds the lines of the entry, or these with their sides exchanged;
* `linesOf_lasts`: the lines of a posted entry stay as they are whatever operations come;
* `play_cancels`: so what reversing adds to a balance is what posting took from it, and to each
  total what posting added to the other, however much lies between.
-/

import Passbook.Proofs.Bookkeeping.Kept
import Passbook.Proofs.Operation.Charted

namespace Passbook.Reconciliation

open Passbook.Bookkeeping
open Passbook.Chart (charted lasting)
open Passbook.Ledger (AccountType Line)
open Passbook.Operation
open Passbook.Store

/-! ### Figures of accounts -/

/-- A figure of an account, which is nothing as long as the account is not there. -/
def figureOf (figure : AccountRow → Int) (account : AccountId) (books : Books) : Int :=
  (books.account? account).elim 0 figure

/-- The balance of an account. -/
def balanceIn (account : AccountId) (books : Books) : Int :=
  figureOf (fun row => row.balance.balance.units) account books

/-- What an account was debited in all. -/
def debitTotalIn (account : AccountId) (books : Books) : Int :=
  figureOf (fun row => row.balance.debitTotal.units) account books

/-- What an account was credited in all. -/
def creditTotalIn (account : AccountId) (books : Books) : Int :=
  figureOf (fun row => row.balance.creditTotal.units) account books

/-- An account is of a type, if it is there. -/
def OfType (account : AccountId) (accountType : AccountType) (books : Books) : Prop :=
  ∀ row ∈ books.accounts, row.id = account → row.accountType = accountType

section Figures

variable {books : Books} {account : AccountId}

/-- A figure that is told of the accounts that are there, and is nothing for others. -/
theorem figureOf_eq {figure : AccountRow → Int} {told : Int}
    (there : ∀ row ∈ books.accounts, row.id = account → figure row = told)
    (absent : (∀ row ∈ books.accounts, row.id ≠ account) → told = 0) (plain : books.strays = []) :
    figureOf figure account books = told := by
  unfold figureOf
  cases found : books.account? account with
  | none => exact (absent (ne_of_account? plain found)).symm
  | some row =>
    obtain ⟨member, named⟩ := mem_of_account? found
    exact there row member named

/-- No line is on an account that is not there. -/
theorem booked_of_absent (amount : Line → Int) (sound : Sound books)
    (absent : ∀ row ∈ books.accounts, row.id ≠ account) :
    booked books (fun line => if line.account = account then amount line else 0) = 0 := by
  refine total_eq_zero fun line member => if_neg fun same => ?_
  obtain ⟨row, present, named⟩ := sound.lineAccounts line (List.mem_filter.mp member).1
  exact absent row present (named.trans same)

theorem Agreed.debits_eq (agreed : Agreed books) (sound : Sound books) :
    debitTotalIn account books = debited books account := by
  refine figureOf_eq (fun row member named => ?_) (booked_of_absent _ sound) sound.plain
  rw [← named]
  exact agreed.debits row member

theorem Agreed.credits_eq (agreed : Agreed books) (sound : Sound books) :
    creditTotalIn account books = credited books account := by
  refine figureOf_eq (fun row member named => ?_) (booked_of_absent _ sound) sound.plain
  rw [← named]
  exact agreed.credits row member

/-- The balance of an account of a type is told by what it was debited and credited. -/
theorem Agreed.balance_eq {accountType : AccountType} (agreed : Agreed books) (sound : Sound books)
    (typed : OfType account accountType books) :
    balanceIn account books =
      balanceOf accountType (debited books account) (credited books account) := by
  refine figureOf_eq (fun row member named => ?_) (fun absent => ?_) sound.plain
  · rw [← typed row member named, ← named, ← agreed.debits row member, ← agreed.credits row member]
    exact agreed.balances row member
  · have debits := booked_of_absent (fun line => line.debit.units) sound absent
    have credits := booked_of_absent (fun line => line.credit.units) sound absent
    rw [debited, credited, debits, credits]
    exact ite_self _

end Figures

/-- Sums and differences of balances are those of their sides. -/
theorem balanceOf_sub (accountType : AccountType) (debit credit debit' credit' : Int) :
    balanceOf accountType debit credit - balanceOf accountType debit' credit' =
      balanceOf accountType (debit - debit') (credit - credit') := by
  unfold balanceOf
  split <;> omega

theorem balanceOf_swap (accountType : AccountType) (debit credit : Int) :
    balanceOf accountType credit debit = -balanceOf accountType debit credit := by
  unfold balanceOf
  split <;> omega

/-! ### Posting and reversing -/

/-- An operation has posted the entry under an identifier, a draft or the reversal that it made. -/
inductive Posts : Call → Except Failure Answer → EntryId → Prop
  | draft {session : Session} {id : EntryId} {user : UserId} {row : EntryRow} :
      Posts (.command session (.postEntry id user)) (.ok (.entry row)) id
  | reversal {session : Session} {other : EntryId} {user : UserId} {reason : String}
      {outcome : Journal.Reversal} :
      Posts (.command session (.reverseEntry other user reason)) (.ok (.reversal outcome))
        outcome.reversal.entry.id

/-- An operation has reversed the entry under an identifier. -/
inductive Reverses : Call → Except Failure Answer → EntryId → Prop
  | entry {session : Session} {id : EntryId} {user : UserId} {reason : String}
      {outcome : Journal.Reversal} :
      Reverses (.command session (.reverseEntry id user reason)) (.ok (.reversal outcome)) id

section Books

variable {session : Session} {before after : Books} {id : EntryId} {user : UserId}
  {entry : EntryRow} {lines : List Line}

/-- An entry that was posted is no draft and has the lines that were added. -/
theorem standing_of_posted {row : EntryRow} (sound : Sound before)
    (did : Journal.Posted session id user entry lines before row after) :
    (∃ header ∈ after.entries, header.id = id ∧ header.status ≠ .draft) ∧
      (after.linesOf id).map LineRow.line = lines := by
  refine ⟨⟨Journal.stepped (.post user session.now) entry, ?_, did.named, ?_⟩, ?_⟩
  · rw [did.left]
    exact alter_mem_altered did.member did.named
  · exact Ledger.EntryStatus.noConfusion
  · rw [did.loaded, Journal.linesOf_congr sound.plain (did.sound sound).plain (by rw [did.left])]

/-- The reversal of an entry is no draft and has the lines that were added. -/
theorem standing_of_reversed {reason : String} {outcome : Journal.Reversal} (sound : Sound before)
    (did : Journal.Reversed session id user reason entry lines before outcome after) :
    (∃ header ∈ after.entries,
        header.id = outcome.reversal.entry.id ∧ header.status ≠ .draft) ∧
      (after.linesOf outcome.reversal.entry.id).map LineRow.line = lines := by
  have entries := (reversal_entries did).2
  obtain ⟨_, sequences, middle, _, ⟨_, _, is⟩, entered, left⟩ := did.entered
  have own : after.linesOf outcome.reversal.entry.id = outcome.reversal.lines := by
    rw [left]
    exact entered.linesOf (sound.drawn sequences)
  refine ⟨⟨outcome.reversal.entry, ?_, rfl, ?_⟩, ?_⟩
  · rw [entries]
    exact List.mem_append_right _ List.mem_cons_self
  · rw [is]
    exact Ledger.EntryStatus.noConfusion
  · rw [own, entered.written.lines_eq]

end Books

section Calls

variable {world : World} {call : Call} {id : EntryId}

/-- **An operation that posts an entry** leaves it there, no draft, and adds its lines. -/
theorem booked_of_posts (sound : Sound world.books) (posts : Posts call (call.run world).1 id) :
    (∃ header ∈ (call.run world).2.books.entries, header.id = id ∧ header.status ≠ .draft) ∧
      ∀ figure, booked (call.run world).2.books figure = booked world.books figure +
        total figure (((call.run world).2.books.linesOf id).map LineRow.line) := by
  generalize answered : (call.run world).1 = result at posts
  cases posts with
  | @draft session _ user row =>
    obtain ⟨_, _, _, lines, did⟩ :=
      changed_of_answered (Journal.postEntry_ends session id user) sound answered
    obtain ⟨standing, own⟩ := standing_of_posted sound did
    refine ⟨standing, fun figure => ?_⟩
    exact (booked_of_posted sound did).trans (congrArg (_ + total figure ·) own.symm)
  | @reversal session other user reason outcome =>
    obtain ⟨_, same, _, lines, did⟩ :=
      changed_of_answered (Journal.reverseEntry_ends session other user reason) sound answered
    obtain rfl := Answer.reversal.inj same
    obtain ⟨standing, own⟩ := standing_of_reversed sound did
    refine ⟨standing, fun figure => ?_⟩
    exact (booked_of_reversed sound did).trans (congrArg (_ + total figure ·) own.symm)

/-- **An operation that reverses an entry** adds its lines with their sides exchanged. -/
theorem booked_of_reverses (sound : Sound world.books)
    (reverses : Reverses call (call.run world).1 id) (figure : Line → Int) :
    booked (call.run world).2.books figure = booked world.books figure +
      total figure (Ledger.reversing ((world.books.linesOf id).map LineRow.line)) := by
  generalize answered : (call.run world).1 = result at reverses
  cases reverses with
  | @entry session _ user reason outcome =>
    obtain ⟨_, _, _, lines, did⟩ :=
      changed_of_answered (Journal.reverseEntry_ends session id user reason) sound answered
    exact (booked_of_reversed sound did).trans (congrArg (_ + total figure ·) did.loaded)

end Calls

/-! ### What lies between -/

/-- **The lines of an entry that is no draft stay** whatever operations come. -/
theorem linesOf_lasts (supply : Supply) (calls later : List Call) {id : EntryId}
    (standing : ∃ header ∈ (play calls (.fresh supply)).books.entries,
      header.id = id ∧ header.status ≠ .draft) :
    (play (calls ++ later) (.fresh supply)).books.linesOf id =
      (play calls (.fresh supply)).books.linesOf id := by
  obtain ⟨header, member, rfl, booked⟩ := standing
  cases play_lasts supply calls later member with
  | gone draft _ => exact absurd draft booked
  | there _ _ lines => exact lines

/-- An account has one type as long as it is there. -/
theorem typed_along (supply : Supply) (calls : List Call) (account : AccountId) :
    ∃ accountType, ∀ earlier later, calls = earlier ++ later →
      OfType account accountType (play earlier (.fresh supply)).books := by
  have stays : ∀ earlier later, calls = earlier ++ later →
      ∀ row ∈ (play earlier (.fresh supply)).books.accounts,
        lasting row ∈ charted (play calls (.fresh supply)).books := by
    intro earlier later split row member
    rw [split, play_append]
    have sound : Sound (play earlier (.fresh supply)).books := play_sound earlier Sound.fresh
    exact (play_grows later sound).isPrefix.subset (List.mem_map_of_mem member)
  have sound : Sound (play calls (.fresh supply)).books := play_sound calls Sound.fresh
  by_cases there : ∃ last ∈ (play calls (.fresh supply)).books.accounts, last.id = account
  · obtain ⟨last, present, rfl⟩ := there
    refine ⟨last.accountType, fun earlier later split row member same => ?_⟩
    obtain ⟨row', present', kept⟩ := List.mem_map.mp (stays earlier later split row member)
    have sameId : row'.id = row.id := congrArg (fun chart => chart.id) kept
    obtain rfl := eq_of_key sound.accountIds present' present (sameId.trans same)
    exact (congrArg (fun chart => chart.accountType) kept).symm
  · refine ⟨.asset, fun earlier later split row member same => absurd ?_ there⟩
    obtain ⟨row', present', kept⟩ := List.mem_map.mp (stays earlier later split row member)
    have sameId : row'.id = row.id := congrArg (fun chart => chart.id) kept
    exact ⟨row', present', sameId.trans same⟩

/-! ### Runs -/

/-- Accounts agree with the journal after every run from fresh books. -/
theorem agreed_after (supply : Supply) (calls : List Call) :
    Agreed (play calls (.fresh supply)).books := by
  have start : Sound (World.fresh supply).books := Sound.fresh
  exact (play_preserves Agreed (fun sound deed held => agreed_of_deed deed sound held) calls start
    Agreed.fresh).2

/-- What an operation adds to a figure of the books after a run from fresh books. -/
def adds (supply : Supply) (figure : Books → Int) (calls : List Call) (next : Call) : Int :=
  figure (play (calls ++ [next]) (.fresh supply)).books - figure (play calls (.fresh supply)).books

section Adding

variable {calls : List Call} {next : Call} {lines : List Line} {account : AccountId}

/-- What lines add to the books after a run they add to what an account was debited and credited,
and through that to its balance. -/
theorem adds_of_booked {supply : Supply}
    (added : ∀ figure, booked (next.run (play calls (.fresh supply))).2.books figure =
      booked (play calls (.fresh supply)).books figure + total figure lines)
    {accountType : AccountType}
    (typed : OfType account accountType (play calls (.fresh supply)).books)
    (typed' : OfType account accountType (play (calls ++ [next]) (.fresh supply)).books) :
    adds supply (debitTotalIn account) calls next = Journal.debitsOn account lines ∧
      adds supply (creditTotalIn account) calls next = Journal.creditsOn account lines ∧
      adds supply (balanceIn account) calls next = balanceOf accountType
        (Journal.debitsOn account lines) (Journal.creditsOn account lines) := by
  have sound : ∀ calls, Sound (play calls (.fresh supply)).books :=
    fun calls => play_sound calls Sound.fresh
  have grown : ∀ figure, booked (play (calls ++ [next]) (.fresh supply)).books figure =
      booked (play calls (.fresh supply)).books figure + total figure lines := by
    rw [play_append]
    exact added
  have debits : debited (play (calls ++ [next]) (.fresh supply)).books account -
      debited (play calls (.fresh supply)).books account = Journal.debitsOn account lines := by
    rw [debited, grown]
    exact add_sub_cancel_left _ _
  have credits : credited (play (calls ++ [next]) (.fresh supply)).books account -
      credited (play calls (.fresh supply)).books account = Journal.creditsOn account lines := by
    rw [credited, grown]
    exact add_sub_cancel_left _ _
  refine ⟨?_, ?_, ?_⟩
  · rw [adds, (agreed_after supply _).debits_eq (sound _),
      (agreed_after supply _).debits_eq (sound _), debits]
  · rw [adds, (agreed_after supply _).credits_eq (sound _),
      (agreed_after supply _).credits_eq (sound _), credits]
  · rw [adds, (agreed_after supply _).balance_eq (sound _) typed',
      (agreed_after supply _).balance_eq (sound _) typed, balanceOf_sub, debits, credits]

end Adding

/-- Lines with their sides exchanged come on an account to what the lines come to on the other
side. -/
theorem debitsOn_reversing (account : AccountId) (lines : List Line) :
    Journal.debitsOn account (Ledger.reversing lines) = Journal.creditsOn account lines := by
  rw [Journal.debitsOn, Ledger.reversing, total_map]
  rfl

theorem creditsOn_reversing (account : AccountId) (lines : List Line) :
    Journal.creditsOn account (Ledger.reversing lines) = Journal.debitsOn account lines := by
  rw [Journal.creditsOn, Ledger.reversing, total_map]
  rfl

/-- **Reversing an entry cancels its posting**, in every run from fresh books in which an operation
posts the entry, be it a draft or the reversal that it makes of another, and one that comes later
reverses it, whatever lies between. On every account the latter adds to the balance what the former
took from it, to what was debited what the former added to what was credited, and the other way
round. Right after posting, reversing leaves every balance as it was before. -/
theorem play_cancels (supply : Supply) (earlier middle : List Call) (posting reversing : Call)
    (id : EntryId) (posts : Posts posting (posting.run (play earlier (.fresh supply))).1 id)
    (reverses : Reverses reversing
      (reversing.run (play (earlier ++ posting :: middle) (.fresh supply))).1 id)
    (account : AccountId) :
    adds supply (balanceIn account) (earlier ++ posting :: middle) reversing =
        -adds supply (balanceIn account) earlier posting ∧
      adds supply (debitTotalIn account) (earlier ++ posting :: middle) reversing =
        adds supply (creditTotalIn account) earlier posting ∧
      adds supply (creditTotalIn account) (earlier ++ posting :: middle) reversing =
        adds supply (debitTotalIn account) earlier posting ∧
      (middle = [] → balanceIn account
          (play (earlier ++ [posting, reversing]) (.fresh supply)).books =
        balanceIn account (play earlier (.fresh supply)).books) := by
  have split : earlier ++ posting :: middle = earlier ++ [posting] ++ middle := by simp
  have step : (play (earlier ++ [posting]) (.fresh supply)) =
      (posting.run (play earlier (.fresh supply))).2 :=
    play_append earlier [posting] (.fresh supply)
  -- both operations act on the lines that the entry has when it is posted
  obtain ⟨standing, added⟩ := booked_of_posts (play_sound earlier Sound.fresh) posts
  have added' := booked_of_reverses (play_sound (earlier ++ posting :: middle) Sound.fresh) reverses
  rw [← step] at standing
  have kept := linesOf_lasts supply (earlier ++ [posting]) middle standing
  rw [← split, step] at kept
  rw [kept] at added'
  obtain ⟨accountType, typed⟩ :=
    typed_along supply (earlier ++ posting :: middle ++ [reversing]) account
  obtain ⟨debits, credits, balance⟩ := adds_of_booked added
    (typed earlier (posting :: middle ++ [reversing]) (by simp))
    (typed (earlier ++ [posting]) (middle ++ [reversing]) (by simp))
  obtain ⟨debits', credits', balance'⟩ := adds_of_booked added'
    (typed (earlier ++ posting :: middle) [reversing] rfl)
    (typed (earlier ++ posting :: middle ++ [reversing]) [] (by simp))
  rw [debitsOn_reversing] at debits' balance'
  rw [creditsOn_reversing] at credits' balance'
  have cancelled : adds supply (balanceIn account) (earlier ++ posting :: middle) reversing =
      -adds supply (balanceIn account) earlier posting := by
    rw [balance', balance]
    exact balanceOf_swap _ _ _
  refine ⟨cancelled, debits'.trans credits.symm, credits'.trans debits.symm, fun next => ?_⟩
  subst next
  have both : earlier ++ [posting] ++ [reversing] = earlier ++ [posting, reversing] := by simp
  rw [adds, adds, both] at cancelled
  omega

/-- The sale that was posted is reversed right after that: its account is credited what it was
debited, and has the balance that it had. -/
theorem play_cancels_sale :
    adds .ascending (debitTotalIn (sampleId 0)) sampleEntered samplePosting = 100 ∧
      adds .ascending (creditTotalIn (sampleId 0)) (sampleEntered ++ [samplePosting])
        sampleReversing = 100 ∧
      balanceIn (sampleId 0)
          (play (sampleEntered ++ [samplePosting, sampleReversing]) .fresh).books =
        balanceIn (sampleId 0) (play sampleEntered .fresh).books := by
  obtain ⟨_, row, answered, posted⟩ := sampleEntered_posted
  obtain ⟨outcome, _, answered', reversed⟩ := sampleEntered_reversed
  have posts : Posts samplePosting (samplePosting.run (play sampleEntered .fresh)).1
      (sampleId 2) := by
    rw [answered]
    exact .draft
  have reverses : Reverses sampleReversing
      (sampleReversing.run (play (sampleEntered ++ [samplePosting]) .fresh)).1 (sampleId 2) := by
    rw [answered']
    exact .entry
  obtain ⟨_, _, credits, restored⟩ :=
    play_cancels .ascending sampleEntered [] samplePosting sampleReversing (sampleId 2) posts
      reverses
      (sampleId 0)
  have debited : adds .ascending (debitTotalIn (sampleId 0)) sampleEntered samplePosting = 100 := by
    rw [adds, posted.left]
    decide +kernel
  exact ⟨debited, credits.trans debited, restored rfl⟩

end Passbook.Reconciliation
