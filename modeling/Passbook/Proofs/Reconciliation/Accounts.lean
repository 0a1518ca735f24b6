/-
**Accounts agree with the journal.**

* `bookedLines`: the lines of entries that are no drafts; `booked`: what they come to in a figure;
* `Agreed`: the totals of every account are what the booked lines on it come to, its balance
  follows from them, and booked lines come to the same on both sides;
* what deeds do to `booked`: posting and reversing add their lines, the others leave every figure
  as it was, however many lines an entry has on one account;
* `Agreed.level`: all accounts have been debited as much as credited;
* `steady`: only posting and reversing change the totals of an account, and it is active then;
* `play_agreed`: every run from fresh books leaves them agreed, whatever comes next being steady.
-/

import Passbook.Proofs.Operation.Run

namespace Passbook.Reconciliation

open Passbook.Journal (Bookable creditsOn debitsOn posted)
open Passbook.Ledger (AccountType Line)
open Passbook.Operation
open Passbook.Store

/-! ### What booked lines come to -/

/-- An entry is there and no draft. -/
def isBooked (entries : List EntryRow) (entry : EntryId) : Bool :=
  entries.any fun row => row.id == entry && row.status != .draft

/-- The lines of entries that are no drafts. -/
def bookedLines (books : Books) : List LineRow :=
  books.lines.filter fun row => isBooked books.entries row.entry

/-- What the lines of entries that are no drafts come to in a figure. -/
def booked (books : Books) (figure : Line → Int) : Int :=
  total (fun row => figure row.line) (bookedLines books)

/-- What an account was debited. -/
def debited (books : Books) (account : AccountId) : Int :=
  booked books fun line => if line.account = account then line.debit.units else 0

/-- What an account was credited. -/
def credited (books : Books) (account : AccountId) : Int :=
  booked books fun line => if line.account = account then line.credit.units else 0

/-- The side on which assets and expenses grow is the debit side; the others grow by credits. -/
def balanceOf (accountType : AccountType) (debit credit : Int) : Int :=
  if accountType = .asset ∨ accountType = .expense then debit - credit else credit - debit

/-- Accounts agree with the journal. -/
structure Agreed (books : Books) : Prop where
  debits : ∀ row ∈ books.accounts, row.balance.debitTotal.units = debited books row.id
  credits : ∀ row ∈ books.accounts, row.balance.creditTotal.units = credited books row.id
  balances : ∀ row ∈ books.accounts, row.balance.balance.units =
    balanceOf row.accountType row.balance.debitTotal.units row.balance.creditTotal.units
  even : booked books (fun line => line.debit.units) = booked books fun line => line.credit.units

theorem derived_iff {accountType : AccountType} {state : Ledger.AccountBalance} :
    state.Derived accountType ↔
      state.balance.units =
        balanceOf accountType state.debitTotal.units state.creditTotal.units := by
  cases accountType <;> exact Iff.rfl

theorem Agreed.fresh {supply : Supply} : Agreed (.fresh supply) := by
  constructor <;> simp [Books.fresh, booked, bookedLines]

/-! ### Entries that are no drafts -/

section Entries

variable {entries : List EntryRow} {id other : EntryId} {alter : EntryRow → EntryRow}
  {entry : EntryRow}

theorem isBooked_of_mem (unique : (entries.map EntryRow.id).Nodup) (member : entry ∈ entries) :
    isBooked entries entry.id = (entry.status != .draft) := by
  rw [Bool.eq_iff_iff, isBooked, List.any_eq_true]
  constructor
  · rintro ⟨row, present, both⟩
    obtain ⟨same, status⟩ := Bool.and_eq_true_iff.mp both
    obtain rfl := eq_of_key unique present member (eq_of_beq same)
    exact status
  · intro status
    exact ⟨entry, member, by rw [status, beq_self_eq_true]; rfl⟩

theorem isBooked_altered_of_ne (sameId : ∀ row, (alter row).id = row.id) (apart : other ≠ id) :
    isBooked (altered EntryRow.id id alter entries) other = isBooked entries other := by
  unfold isBooked altered
  rw [List.any_map]
  congr 1
  funext row
  show ((if row.id = id then alter row else row).id == other &&
    (if row.id = id then alter row else row).status != .draft) = _
  by_cases chosen : row.id = id
  · have different : (row.id == other) = false := by
      rw [chosen]
      exact beq_eq_false_iff_ne.mpr apart.symm
    rw [if_pos chosen, sameId, different, Bool.false_and, Bool.false_and]
  · rw [if_neg chosen]

theorem isBooked_altered (sameId : ∀ row, (alter row).id = row.id)
    (status : ∀ row, (alter row).status ≠ .draft) (member : entry ∈ entries) :
    isBooked (altered EntryRow.id entry.id alter entries) entry.id = true := by
  refine List.any_eq_true.mpr ⟨_, alter_mem_altered member rfl, ?_⟩
  rw [sameId, beq_self_eq_true, Bool.true_and]
  exact bne_iff_ne.mpr (status entry)

/-- An entry that is no draft and stays none. -/
theorem isBooked_altered_eq (unique : (entries.map EntryRow.id).Nodup) (member : entry ∈ entries)
    (before : entry.status ≠ .draft) (sameId : ∀ row, (alter row).id = row.id)
    (status : ∀ row, (alter row).status ≠ .draft) :
    isBooked (altered EntryRow.id entry.id alter entries) other = isBooked entries other := by
  by_cases chosen : other = entry.id
  · rw [chosen, isBooked_altered sameId status member, isBooked_of_mem unique member]
    exact (bne_iff_ne.mpr before).symm
  · exact isBooked_altered_of_ne sameId chosen

theorem isBooked_append_of_ne (apart : entry.id ≠ other) :
    isBooked (entries ++ [entry]) other = isBooked entries other := by
  unfold isBooked
  rw [List.any_append, List.any_cons, List.any_nil, beq_eq_false_iff_ne.mpr apart]
  simp

theorem isBooked_append (new : ∀ row ∈ entries, row.id ≠ entry.id) :
    isBooked (entries ++ [entry]) entry.id = (entry.status != .draft) := by
  have absent : isBooked entries entry.id = false := by
    refine List.any_eq_false.mpr fun row member both => ?_
    exact new row member (eq_of_beq (Bool.and_eq_true_iff.mp both).1)
  unfold isBooked at absent ⊢
  rw [List.any_append, absent, List.any_cons, List.any_nil, beq_self_eq_true]
  simp

theorem isBooked_filter (apart : other ≠ id) :
    isBooked (entries.filter fun row => !(row.id == id)) other = isBooked entries other := by
  rw [Bool.eq_iff_iff, isBooked, isBooked, List.any_eq_true, List.any_eq_true]
  constructor
  · rintro ⟨row, present, both⟩
    exact ⟨row, (List.mem_filter.mp present).1, both⟩
  · rintro ⟨row, present, both⟩
    refine ⟨row, List.mem_filter.mpr ⟨present, ?_⟩, both⟩
    rw [eq_of_beq (Bool.and_eq_true_iff.mp both).1, beq_eq_false_iff_ne.mpr apart]
    rfl

end Entries

/-! ### What deeds add to booked lines -/

variable {session : Session} {before after : Books} {figure : Line → Int}

theorem booked_eq (books : Books) (figure : Line → Int) :
    booked books figure =
      total (fun row => if isBooked books.entries row.entry then figure row.line else 0)
        books.lines :=
  total_filter _ _ _

/-- Where lines stay and entries that are no drafts are the same, figures stay. -/
theorem booked_congr (lines : after.lines = before.lines)
    (same : ∀ row ∈ before.lines,
      isBooked after.entries row.entry = isBooked before.entries row.entry) :
    booked after figure = booked before figure := by
  rw [booked_eq, booked_eq, lines]
  exact total_congr fun row member => by rw [same row member]

/-- The lines of an entry by their place come to what its lines come to. -/
theorem total_linesOf (plain : before.strays = []) (id : EntryId) :
    total figure ((before.linesOf id).map LineRow.line) =
      total (fun row => if row.entry == id then figure row.line else 0) before.lines := by
  rw [total_map, total_perm (Journal.linesOf_perm plain id), total_filter]
  rfl

/-- An entry that is entered adds its lines, unless it is a draft. -/
theorem booked_of_entered (figure : Line → Int) {lines : List Line}
    {entered : Journal.FullEntry} (sound : Sound before)
    (did : Journal.Entered lines before entered after) :
    booked after figure = booked before figure +
      if entered.entry.status = .draft then 0 else total figure lines := by
  have old : ∀ row ∈ before.lines, isBooked (before.entries ++ [entered.entry]) row.entry =
      isBooked before.entries row.entry := by
    intro row member
    obtain ⟨entry, present, named⟩ := sound.lineEntries row member
    rw [← named]
    exact isBooked_append_of_ne (did.newId entry present).symm
  have new : ∀ row ∈ entered.lines, isBooked (before.entries ++ [entered.entry]) row.entry =
      (entered.entry.status != .draft) := by
    intro row member
    rw [did.written.entry_eq row member]
    exact isBooked_append did.newId
  have sum : total (fun row => if isBooked (before.entries ++ [entered.entry]) row.entry
        then figure row.line else 0) entered.lines =
      if entered.entry.status = .draft then 0 else total figure lines := by
    by_cases draft : entered.entry.status = .draft
    · rw [if_pos draft]
      refine total_eq_zero fun row member => ?_
      rw [new row member, draft]
      rfl
    · rw [if_neg draft, ← did.written.lines_eq, total_map]
      refine total_congr fun row member => ?_
      rw [new row member, bne_iff_ne.mpr draft]
      rfl
  rw [did.left, booked_eq, booked_eq]
  show total _ (before.lines ++ entered.lines) = _
  rw [total_append, sum]
  congr 1
  exact total_congr fun row member => by rw [old row member]

theorem booked_of_drafted {input : Journal.NewEntry} {entered : Journal.FullEntry}
    (sound : Sound before) (did : Journal.Drafted session input before entered after) :
    booked after figure = booked before figure := by
  obtain ⟨_, sequences, _, _, _, is, entered⟩ := did.draws
  rw [booked_of_entered figure ((sound.numbered sequences).reissued (before.issued + 1)) entered,
    is]
  exact add_zero _

theorem booked_of_voided {id : EntryId} {user : UserId} {reason : String} {entry row : EntryRow}
    (sound : Sound before)
    (did : Journal.Voided session id user reason entry before row after) :
    booked after figure = booked before figure := by
  have before' : entry.status ≠ .draft := by
    rw [did.status]
    decide
  rw [did.left, ← did.named]
  exact booked_congr rfl fun line _ => isBooked_altered_eq sound.entryIds did.member before'
    (fun _ => Journal.stepped_id) fun _ => by simp [Journal.stepped]

theorem booked_of_dropped {id : EntryId} {entry : EntryRow} (sound : Sound before)
    (did : Journal.Dropped id entry before after) : booked after figure = booked before figure := by
  rw [did.left, booked_eq, booked_eq]
  show total _ (before.lines.filter _) = _
  rw [total_filter]
  refine total_congr fun row _ => ?_
  by_cases chosen : row.entry = id
  · -- the lines that go were those of a draft
    have draft : isBooked before.entries row.entry = false := by
      rw [chosen, ← did.named, isBooked_of_mem sound.entryIds did.member, did.draft]
      rfl
    rw [draft, beq_iff_eq.mpr chosen]
    rfl
  · rw [beq_eq_false_iff_ne.mpr chosen]
    show (if isBooked (before.entries.filter _) row.entry then _ else _) = _
    rw [isBooked_filter chosen]

/-- **Posting adds the lines of the entry**, which was a draft until then. -/
theorem booked_of_posted {id : EntryId} {user : UserId} {entry row : EntryRow} {lines : List Line}
    (sound : Sound before)
    (did : Journal.Posted session id user entry lines before row after) :
    booked after figure = booked before figure + total figure lines := by
  rw [did.loaded, total_linesOf sound.plain, booked_eq, booked_eq, ← total_add, did.left,
    ← did.named]
  refine total_congr fun line _ => ?_
  show (if isBooked (altered EntryRow.id entry.id _ before.entries) line.entry then _ else _) = _
  by_cases chosen : line.entry = entry.id
  · have draft : isBooked before.entries entry.id = false := by
      rw [isBooked_of_mem sound.entryIds did.member, did.draft]
      rfl
    rw [chosen, isBooked_altered (fun _ => Journal.stepped_id)
      (fun _ => by simp [Journal.stepped]) did.member, draft, beq_self_eq_true]
    simp
  · rw [isBooked_altered_of_ne (fun _ => Journal.stepped_id) chosen,
      beq_eq_false_iff_ne.mpr chosen]
    simp

/-- **Reversing adds the lines of the reversal**; the entry that is reversed stays booked. -/
theorem booked_of_reversed {id : EntryId} {user : UserId} {reason : String} {entry : EntryRow}
    {lines : List Line} {outcome : Journal.Reversal} (sound : Sound before)
    (did : Journal.Reversed session id user reason entry lines before outcome after) :
    booked after figure = booked before figure + total figure lines := by
  obtain ⟨_, sequences, middle, _, ⟨_, _, is⟩, entered, left⟩ := did.entered
  have start := (sound.numbered sequences).reissued (before.issued + 1)
  have added := booked_of_entered figure start entered
  have posted : outcome.reversal.entry.status ≠ .draft := by
    rw [is]
    show Ledger.EntryStatus.posted ≠ .draft
    decide
  rw [if_neg posted] at added
  have member : entry ∈ middle.entries := by
    rw [entered.left]
    exact List.mem_append_left _ did.member
  have stays : entry.status ≠ .draft := by
    rw [did.status]
    decide
  have same : booked after figure = booked middle figure := by
    rw [left, ← did.named]
    exact booked_congr rfl fun line _ => isBooked_altered_eq (entered.sound start).entryIds member
      stays (fun _ => Journal.stepped_id) fun _ => by simp [Journal.reversedBy, Journal.stepped]
  rw [same, added]
  rfl

/-! ### Deeds keep accounts agreed -/

/-- **Accounts stay agreed** when balanced lines are added to them and to the journal. -/
theorem Agreed.booking {now : Calendar.Instant} {lines : List Line} (agreed : Agreed before)
    (sound : Sound before) (accounts : after.accounts = before.accounts.map (posted now lines))
    (bookable : Bookable before.accounts lines)
    (valid : ∃ totals, Ledger.validateLines lines = .ok totals)
    (added : ∀ figure, booked after figure = booked before figure + total figure lines) :
    Agreed after := by
  obtain ⟨_, valid⟩ := valid
  have level := (Ledger.balanced_of_validateLines valid).2.2
  have grown : ∀ row ∈ before.accounts,
      (posted now lines row).balance.debitTotal.units =
          row.balance.debitTotal.units + debitsOn row.id lines ∧
        (posted now lines row).balance.creditTotal.units =
          row.balance.creditTotal.units + creditsOn row.id lines ∧
        (posted now lines row).balance.Derived row.accountType := by
    intro row member
    refine Journal.posted_balance (derived_iff.mpr (agreed.balances row member)) fun mentioned => ?_
    obtain ⟨other, present, same, _, room⟩ := bookable row.id mentioned
    obtain rfl := eq_of_key sound.accountIds present member same
    exact room
  refine ⟨fun row' member => ?_, fun row' member => ?_, fun row' member => ?_, ?_⟩
  · rw [accounts] at member
    obtain ⟨row, present, rfl⟩ := List.mem_map.mp member
    rw [(grown row present).1, agreed.debits row present, Journal.posted_id, debited, debited,
      added]
    rfl
  · rw [accounts] at member
    obtain ⟨row, present, rfl⟩ := List.mem_map.mp member
    rw [(grown row present).2.1, agreed.credits row present, Journal.posted_id, credited, credited,
      added]
    rfl
  · rw [accounts] at member
    obtain ⟨row, present, rfl⟩ := List.mem_map.mp member
    rw [Journal.posted_accountType]
    exact derived_iff.mp (grown row present).2.2
  · rw [added, added, agreed.even]
    exact congrArg _ level

/-- Accounts stay agreed where they keep their totals and the journal its figures. -/
theorem Agreed.same (agreed : Agreed before)
    (accounts : ∀ row ∈ after.accounts, ∃ old ∈ before.accounts, old.id = row.id ∧
      old.accountType = row.accountType ∧ old.balance = row.balance)
    (figures : ∀ figure, booked after figure = booked before figure) : Agreed after := by
  refine ⟨fun row member => ?_, fun row member => ?_, fun row member => ?_, ?_⟩
  · obtain ⟨old, present, sameId, _, balance⟩ := accounts row member
    rw [debited, figures, ← balance, ← sameId]
    exact agreed.debits old present
  · obtain ⟨old, present, sameId, _, balance⟩ := accounts row member
    rw [credited, figures, ← balance, ← sameId]
    exact agreed.credits old present
  · obtain ⟨old, present, _, sameType, balance⟩ := accounts row member
    rw [← balance, ← sameType]
    exact agreed.balances old present
  · rw [figures, figures]
    exact agreed.even

/-- No line is on an account that is opened only now. -/
theorem Agreed.opened {input : Ledger.NewAccount} {row : AccountRow} (agreed : Agreed before)
    (sound : Sound before) (did : Chart.Opened session input before row after) : Agreed after := by
  obtain ⟨_, _, new⟩ := did.issued
  have untouched : ∀ amount : Line → Int, booked before
      (fun line => if line.account = row.id then amount line else 0) = 0 := by
    intro amount
    refine total_eq_zero fun line member => if_neg fun same => ?_
    obtain ⟨account, present, named⟩ := sound.lineAccounts line (List.mem_filter.mp member).1
    exact did.newId account present (named.trans same)
  have figures : ∀ figure, booked after figure = booked before figure := by
    intro figure
    rw [did.left]
    rfl
  have accounts : after.accounts = before.accounts ++ [row] := by rw [did.left]
  refine ⟨fun other member => ?_, fun other member => ?_, fun other member => ?_, ?_⟩
  · rw [debited, figures]
    rw [accounts] at member
    rcases List.mem_append.mp member with present | single
    · exact agreed.debits other present
    · rw [List.mem_singleton.mp single, untouched, new]
      rfl
  · rw [credited, figures]
    rw [accounts] at member
    rcases List.mem_append.mp member with present | single
    · exact agreed.credits other present
    · rw [List.mem_singleton.mp single, untouched, new]
      rfl
  · rw [accounts] at member
    rcases List.mem_append.mp member with present | single
    · exact agreed.balances other present
    · rw [List.mem_singleton.mp single, new]
      exact derived_iff.mp (Ledger.AccountBalance.zero_derived _)
  · rw [figures, figures]
    exact agreed.even

/-- The kinds of deeds that touch the chart or the journal. -/
def ledgerKinds : List DeedKind :=
  [.accountOpened, .accountChanged, .drafted, .posted, .voided, .reversed, .dropped]

/-- A deed of another kind leaves the chart and the journal as they are. -/
theorem elsewhere_of_deed {kind : DeedKind} (deed : Deed session kind before after)
    (other : kind ∉ ledgerKinds) :
    after.accounts = before.accounts ∧ after.entries = before.entries ∧
      after.lines = before.lines := by
  have revised : ∀ {id alter old}, Holdings.Revised id alter old before after →
      after.accounts = before.accounts ∧ after.entries = before.entries ∧
        after.lines = before.lines := by
    intro id alter old did
    rw [did.left]
    exact ⟨rfl, rfl, rfl⟩
  have restated : ∀ {wallet old state}, Holdings.Restated session wallet old state before after →
      after.accounts = before.accounts ∧ after.entries = before.entries ∧
        after.lines = before.lines := by
    intro wallet old state did
    rw [did.left]
    exact ⟨rfl, rfl, rfl⟩
  cases deed with
  | walletOpened did =>
    rw [did.left]
    exact ⟨rfl, rfl, rfl⟩
  | statusSet _ _ _ did => exact revised did
  | closed did =>
    obtain ⟨_, _, _, _, did⟩ := did.revised
    exact revised did
  | held did =>
    obtain ⟨_, _, _, did⟩ := did.revised
    exact revised did
  | released did =>
    obtain ⟨_, _, did⟩ := did.revised
    exact revised did
  | linked did =>
    obtain ⟨_, did⟩ := did.revised
    exact revised did
  | limitsSet did =>
    obtain ⟨_, _, did⟩ := did.written
    exact restated did
  | spent did =>
    obtain ⟨_, _, did⟩ := did.written
    exact restated did
  | transferred did =>
    rw [did.left]
    exact ⟨rfl, rfl, rfl⟩
  | deposited did =>
    rw [did.left]
    exact ⟨rfl, rfl, rfl⟩
  | withdrawn did =>
    rw [did.left]
    exact ⟨rfl, rfl, rfl⟩
  | confirmed did =>
    rw [did.left]
    exact ⟨rfl, rfl, rfl⟩
  | credited _ _ did =>
    rw [did.left]
    exact ⟨rfl, rfl, rfl⟩
  | undone did =>
    rw [did.left]
    exact ⟨rfl, rfl, rfl⟩
  | _ => exact absurd (by decide) other

/-- The kinds of deeds that add lines to accounts. -/
def bookingKinds : List DeedKind := [.posted, .reversed]

/-- Every account stays with its type and, unless lines are added, its balance. -/
theorem keepsBalances_of_deed {kind : DeedKind} (deed : Deed session kind before after)
    (other : kind ∉ bookingKinds) :
    ∀ old ∈ before.accounts,
      ∃ row ∈ after.accounts, row.id = old.id ∧ row.balance = old.balance := by
  intro old member
  by_cases touched : kind ∈ ledgerKinds
  · cases deed with
    | accountOpened _ did =>
      rw [did.left]
      exact ⟨old, List.mem_append_left _ member, rfl, rfl⟩
    | accountChanged did =>
      rw [did.left]
      refine ⟨_, mem_altered.mpr ⟨old, member, rfl⟩, ?_, ?_⟩
      · exact apply_ite AccountRow.id _ _ _ |>.trans (ite_self _)
      · exact apply_ite AccountRow.balance _ _ _ |>.trans (ite_self _)
    | drafted _ did =>
      obtain ⟨_, _, _, _, _, _, entered⟩ := did.draws
      rw [entered.left]
      exact ⟨old, member, rfl, rfl⟩
    | voided did =>
      rw [did.left]
      exact ⟨old, member, rfl, rfl⟩
    | dropped did =>
      rw [did.left]
      exact ⟨old, member, rfl, rfl⟩
    | posted _ => exact absurd (by decide) other
    | reversed _ => exact absurd (by decide) other
    | _ => exact absurd touched (by decide)
  · rw [(elsewhere_of_deed deed touched).1]
    exact ⟨old, member, rfl, rfl⟩

/-- **A deed keeps accounts agreed.** -/
theorem agreed_of_deed {kind : DeedKind} (deed : Deed session kind before after)
    (sound : Sound before) (agreed : Agreed before) : Agreed after := by
  have stay : ∀ row ∈ before.accounts, ∃ old ∈ before.accounts, old.id = row.id ∧
      old.accountType = row.accountType ∧ old.balance = row.balance :=
    fun row member => ⟨row, member, rfl, rfl, rfl⟩
  by_cases touched : kind ∈ ledgerKinds
  · cases deed with
    | accountOpened _ did => exact agreed.opened sound did
    | @accountChanged id _ _ _ _ did =>
      have figures : ∀ figure, booked after figure = booked before figure := by
        intro figure
        rw [did.left]
        rfl
      refine agreed.same (fun row member => ?_) figures
      rw [did.left] at member
      obtain ⟨old, present, rfl⟩ := mem_altered.mp member
      refine ⟨old, present, ?_⟩
      by_cases chosen : old.id = id
      · rw [if_pos chosen]
        exact ⟨rfl, rfl, rfl⟩
      · rw [if_neg chosen]
        exact ⟨rfl, rfl, rfl⟩
    | drafted _ did =>
      refine agreed.same (fun row member => ?_) fun _ => booked_of_drafted sound did
      obtain ⟨_, _, _, _, _, _, entered⟩ := did.draws
      rw [entered.left] at member
      exact stay row member
    | voided did =>
      refine agreed.same (fun row member => ?_) fun _ => booked_of_voided sound did
      rw [did.left] at member
      exact stay row member
    | dropped did =>
      refine agreed.same (fun row member => ?_) fun _ => booked_of_dropped sound did
      rw [did.left] at member
      exact stay row member
    | posted did =>
      exact agreed.booking sound did.accounts_eq did.bookable did.valid fun _ =>
        booked_of_posted sound did
    | reversed did =>
      exact agreed.booking sound did.accounts_eq did.bookable did.valid fun _ =>
        booked_of_reversed sound did
    | _ => exact absurd touched (by decide)
  · obtain ⟨accounts, entries, lines⟩ := elsewhere_of_deed deed touched
    refine agreed.same (fun row member => ?_) fun _ => booked_congr lines fun _ _ => by rw [entries]
    rw [accounts] at member
    exact stay row member

/-- **All accounts have been debited as much as credited.** -/
theorem Agreed.level (agreed : Agreed before) (sound : Sound before) :
    total (fun row => row.balance.debitTotal.units) before.accounts =
      total (fun row => row.balance.creditTotal.units) before.accounts := by
  -- a booked line is on exactly one account
  have shared : ∀ amount : Line → Int,
      total (fun row => booked before fun line => if line.account = row.id then amount line else 0)
        before.accounts = booked before amount := by
    intro amount
    have sums := total_by_key (fun _ => true) sound.accountIds (fun line => line.line.account)
      (fun line : LineRow => amount line.line) (bookedLines before)
    simp only [if_true, Bool.and_true] at sums
    refine sums.trans (total_congr fun line member => if_pos ?_)
    obtain ⟨account, present, named⟩ := sound.lineAccounts line (List.mem_filter.mp member).1
    exact List.any_eq_true.mpr ⟨account, present, beq_iff_eq.mpr named.symm⟩
  have debits := shared fun line => line.debit.units
  have credits := shared fun line => line.credit.units
  rw [total_congr agreed.debits, total_congr agreed.credits]
  exact debits.trans (agreed.even.trans credits.symm)

/-! ### When totals change -/

/-- The operation posts or reverses an entry. -/
def isBooking : Call → Bool
  | .command _ (.postEntry _ _) => true
  | .command _ (.reverseEntry _ _ _) => true
  | _ => false

/-- Every account stays, and its balance and totals change only if the operation has posted or
reversed an entry while the account was active. -/
def Steady (call : Call) (world : World) : Prop :=
  ∀ old ∈ world.books.accounts, ∃ row ∈ (call.run world).2.books.accounts, row.id = old.id ∧
    (row.balance ≠ old.balance →
      isBooking call ∧ (∃ answer, (call.run world).1 = .ok answer) ∧ old.status = .active)

theorem kinds_of_not_booking {call : Call} (other : ¬isBooking call) :
    ∀ kind ∈ call.kinds, kind ∉ bookingKinds := by
  cases call with
  | command session wanted =>
    cases wanted <;> first
      | exact absurd rfl other
      | simp [Call.kinds, Command.kinds, bookingKinds]
  | query session wanted => exact fun _ none => absurd none List.not_mem_nil
  | provisionInStages reading opening linking wallet => simp [Call.kinds, bookingKinds]
  | provisionElsewhere reading linking find create wallet => simp [Call.kinds, bookingKinds]
  | depositInStages confirming crediting undoing request => simp [Call.kinds, bookingKinds]

/-- Lines are added to active accounts only. -/
theorem active_of_posted {now : Calendar.Instant} {lines : List Line} (sound : Sound before)
    (accounts : after.accounts = before.accounts.map (posted now lines))
    (bookable : Bookable before.accounts lines) :
    ∀ old ∈ before.accounts, ∃ row ∈ after.accounts, row.id = old.id ∧ row.status = old.status ∧
      (row.balance ≠ old.balance → old.status = .active) := by
  intro old member
  rw [accounts]
  refine ⟨_, List.mem_map_of_mem member, Journal.posted_id,
    Journal.posted_keeps AccountRow.status fun _ => rfl, fun changed => ?_⟩
  by_cases mentioned : old.id ∈ Journal.accountsOf lines
  · obtain ⟨other, present, same, active, _⟩ := bookable old.id mentioned
    obtain rfl := eq_of_key sound.accountIds present member same
    exact active
  · rw [Journal.posted_of_not_mem mentioned] at changed
    exact absurd rfl changed

theorem active_of_deed {kind : DeedKind} (deed : Deed session kind before after)
    (sound : Sound before) (books : kind ∈ bookingKinds) :
    ∀ old ∈ before.accounts, ∃ row ∈ after.accounts, row.id = old.id ∧ row.status = old.status ∧
      (row.balance ≠ old.balance → old.status = .active) := by
  cases deed with
  | posted did => exact active_of_posted sound did.accounts_eq did.bookable
  | reversed did => exact active_of_posted sound did.accounts_eq did.bookable
  | _ => exact absurd books (by decide)

theorem does_of_isBooking {call : Call} (books : isBooking call) : Does bookingKinds call.run := by
  cases call with
  | command session wanted =>
    cases wanted with
    | postEntry entry user =>
      exact (Command.does session (.postEntry entry user) rfl).mono
        fun _ _ _ did sound => (did sound).mono (by simp [Command.kinds, bookingKinds])
    | reverseEntry entry user reason =>
      exact (Command.does session (.reverseEntry entry user reason) rfl).mono
        fun _ _ _ did sound => (did sound).mono (by simp [Command.kinds, bookingKinds])
    | _ => cases books
  | _ => cases books

/-- Deeds that add lines keep every account, changing the totals of active ones only. -/
theorem active_of_happened (happened : Happened bookingKinds before after) (sound : Sound before)
    {old : AccountRow} (member : old ∈ before.accounts) :
    ∃ row ∈ after.accounts, row.id = old.id ∧ row.status = old.status ∧
      (row.balance ≠ old.balance → old.status = .active) := by
  refine (happened.preserves (fun books => ∃ row ∈ books.accounts, row.id = old.id ∧
    row.status = old.status ∧ (row.balance ≠ old.balance → old.status = .active)) ?_ sound
      ⟨old, member, rfl, rfl, fun changed => absurd rfl changed⟩).2
  rintro _ _ _ _ allowed sound deed ⟨middle, there, sameId, sameStatus, active⟩
  obtain ⟨row, present, sameId', sameStatus', active'⟩ :=
    active_of_deed deed sound allowed middle there
  refine ⟨row, present, sameId'.trans sameId, sameStatus'.trans sameStatus, fun changed => ?_⟩
  by_cases still : row.balance = middle.balance
  · exact active fun same => changed (still.trans same)
  · exact sameStatus ▸ active' still

/-- **Only posting and reversing change totals**, and only those of active accounts. -/
theorem steady (call : Call) {world : World} (sound : Sound world.books) : Steady call world := by
  intro old member
  by_cases books : isBooking call
  · rcases does_of_isBooking books world with ⟨cause, same⟩ | ⟨answer, after, same, did⟩
    · rw [same]
      exact ⟨old, member, rfl, fun changed => absurd rfl changed⟩
    · obtain ⟨row, present, sameId, _, active⟩ := active_of_happened (did sound) sound member
      rw [same]
      exact ⟨row, present, sameId, fun changed => ⟨books, ⟨answer, rfl⟩, active changed⟩⟩
  · have kept := ((call.happened sound).preserves
      (fun books => ∃ row ∈ books.accounts, row.id = old.id ∧ row.balance = old.balance)
      (fun allowed _ deed ⟨middle, there, sameId, sameBalance⟩ => by
        obtain ⟨row, present, sameId', sameBalance'⟩ :=
          keepsBalances_of_deed deed (kinds_of_not_booking books _ allowed) middle there
        exact ⟨row, present, sameId'.trans sameId, sameBalance'.trans sameBalance⟩)
      sound ⟨old, member, rfl, rfl⟩).2
    obtain ⟨row, present, sameId, sameBalance⟩ := kept
    exact ⟨row, present, sameId, fun changed => absurd sameBalance changed⟩

/-! ### Runs -/

/-- **After every run of operations from fresh books** the totals of each account are what the lines
of posted, voided and reversed entries on it come to and its balance follows from them; all accounts
have been debited as much as credited; and whatever operation comes next changes the totals of an
account only by posting or reversing an entry, and only if the account is active. -/
theorem play_agreed (supply : Supply) (calls : List Call) (next : Call) :
    Agreed (play calls (.fresh supply)).books ∧
      total (fun row => row.balance.debitTotal.units) (play calls (.fresh supply)).books.accounts =
        total (fun row => row.balance.creditTotal.units)
          (play calls (.fresh supply)).books.accounts ∧
      Steady next (play calls (.fresh supply)) := by
  have start : Sound (World.fresh supply).books := Sound.fresh
  obtain ⟨sound, agreed⟩ := play_preserves Agreed
    (fun sound deed held => agreed_of_deed deed sound held) calls start Agreed.fresh
  exact ⟨agreed, agreed.level sound, steady next sound⟩

end Passbook.Reconciliation
