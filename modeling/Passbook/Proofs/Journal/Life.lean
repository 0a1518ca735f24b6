/-
**The life of a journal entry.**

* `Moves`: the steps that a status may take; none leads to a draft, and none away from a voided or
  reversed entry;
* `Goes`: what a step makes of the header of an entry;
* `Continues`: an entry later in its life, what was settled when it was entered being as it was; one
  step continues an entry (`Goes.continues`), and so do steps one after another
  (`Continues.trans`);
* `Audited`: who did what to an entry, when and why is on record exactly as its status tells.
  Entries begin audited (`draftRow_audited`, `reversalRow_audited`), and every step leaves them so
  (`Goes.audited`).
-/

import Mathlib.Logic.Relation
import Passbook.Proofs.Journal.Entries
import Passbook.Proofs.Text.Blank

namespace Passbook.Journal

open Passbook.Calendar (Instant)
open Passbook.Ledger (EntryStatus)
open Passbook.Store

/-! ### Statuses -/

/-- The steps that a status may take. -/
inductive Moves : EntryStatus → EntryStatus → Prop
  | post : Moves .draft .posted
  | void : Moves .posted .voided
  | reverse : Moves .posted .reversed

/-- No step leads to a draft. -/
theorem Moves.ne_draft {status later : EntryStatus} (moves : Moves status later) :
    later ≠ .draft := by
  cases moves <;> decide

theorem ne_draft_of_moves {status later : EntryStatus} (other : status ≠ .draft)
    (moved : Relation.ReflTransGen Moves status later) : later ≠ .draft := by
  cases moved with
  | refl => exact other
  | tail _ last => exact last.ne_draft

/-! ### Headers -/

/-- A reason of so many characters or more, with no blanks around it. -/
def Reasoned (least : Nat) (reason : String) : Prop :=
  Text.trim reason = reason ∧ least ≤ reason.length

/-- What a step makes of the header of an entry. -/
inductive Goes : EntryRow → EntryRow → Prop
  | posted {row : EntryRow} {user : UserId} {now : Instant} (status : row.status = .draft) :
      Goes row (stepped (.post user now) row)
  | voided {row : EntryRow} {user : UserId} {now : Instant} {reason : String}
      (status : row.status = .posted) (reasoned : Reasoned 1 reason) :
      Goes row (stepped (.void user now reason) row)
  | reversed {row : EntryRow} {user : UserId} {now : Instant} {reason : String} {id : EntryId}
      (status : row.status = .posted) (reasoned : Reasoned 10 reason) :
      Goes row (reversedBy now user reason id row)

theorem reversedBy_id {now : Instant} {user : UserId} {reason : String} {reversal : EntryId}
    {row : EntryRow} : (reversedBy now user reason reversal row).id = row.id :=
  rfl

theorem reversedBy_number {now : Instant} {user : UserId} {reason : String} {reversal : EntryId}
    {row : EntryRow} : (reversedBy now user reason reversal row).number = row.number :=
  rfl

theorem Goes.moves {old row : EntryRow} (goes : Goes old row) : Moves old.status row.status := by
  cases goes with
  | posted status =>
    rw [status]
    exact .post
  | voided status _ =>
    rw [status]
    exact .void
  | reversed status _ =>
    rw [status]
    exact .reverse

/-- An entry later in its life. What was settled when it was entered is as it was, who posted it and
when is as it was once it was posted, and a voided or reversed entry is as it was altogether. -/
structure Continues (old row : EntryRow) : Prop where
  id : row.id = old.id
  number : row.number = old.number
  entryType : row.entryType = old.entryType
  description : row.description = old.description
  reference : row.reference = old.reference
  createdBy : row.createdBy = old.createdBy
  createdAt : row.createdAt = old.createdAt
  reverses : row.reverses = old.reverses
  moved : Relation.ReflTransGen Moves old.status row.status
  postedAt : old.status ≠ .draft → row.postedAt = old.postedAt
  postedBy : old.status ≠ .draft → row.postedBy = old.postedBy
  final : old.status = .voided ∨ old.status = .reversed → row = old

theorem Continues.refl (row : EntryRow) : Continues row row where
  id := rfl
  number := rfl
  entryType := rfl
  description := rfl
  reference := rfl
  createdBy := rfl
  createdAt := rfl
  reverses := rfl
  moved := .refl
  postedAt _ := rfl
  postedBy _ := rfl
  final _ := rfl

theorem Continues.trans {old middle row : EntryRow} (first : Continues old middle)
    (second : Continues middle row) : Continues old row where
  id := second.id.trans first.id
  number := second.number.trans first.number
  entryType := second.entryType.trans first.entryType
  description := second.description.trans first.description
  reference := second.reference.trans first.reference
  createdBy := second.createdBy.trans first.createdBy
  createdAt := second.createdAt.trans first.createdAt
  reverses := second.reverses.trans first.reverses
  moved := first.moved.trans second.moved
  postedAt booked :=
    (second.postedAt (ne_draft_of_moves booked first.moved)).trans (first.postedAt booked)
  postedBy booked :=
    (second.postedBy (ne_draft_of_moves booked first.moved)).trans (first.postedBy booked)
  final ended := by
    obtain rfl := first.final ended
    exact second.final ended

/-- **A step continues an entry.** -/
theorem Goes.continues {old row : EntryRow} (goes : Goes old row) : Continues old row := by
  have moved := Relation.ReflTransGen.single goes.moves
  cases goes with
  | posted status =>
    have draft : ∀ {claim : Prop}, old.status ≠ .draft → claim := fun other => absurd status other
    exact { Continues.refl old with
      moved := moved
      postedAt := draft
      postedBy := draft
      final := by simp [status] }
  | voided status _ =>
    exact { Continues.refl old with
      moved := moved
      final := by simp [status] }
  | reversed status _ =>
    exact { Continues.refl old with
      moved := moved
      final := by simp [status] }

/-! ### Records of steps -/

/-- Who did what to an entry, when and why is on record exactly as its status tells. -/
structure Audited (row : EntryRow) : Prop where
  postedAt : row.postedAt.isSome ↔ row.status ≠ .draft
  postedBy : row.postedBy.isSome ↔ row.status ≠ .draft
  voidedAt : row.voidedAt.isSome ↔ row.status = .voided
  voidedBy : row.voidedBy.isSome ↔ row.status = .voided
  voidReason : row.voidReason.isSome ↔ row.status = .voided
  voidReasoned : ∀ reason ∈ row.voidReason, Reasoned 1 reason
  reversedAt : row.reversedAt.isSome ↔ row.status = .reversed
  reversedBy : row.reversedBy.isSome ↔ row.status = .reversed
  reversalReason : row.reversalReason.isSome ↔ row.status = .reversed
  reversal : row.reversal.isSome ↔ row.status = .reversed
  reversalReasoned : ∀ reason ∈ row.reversalReason, Reasoned 10 reason

theorem draftRow_audited (id : EntryId) (number : String) (input : NewEntry) (now : Instant) :
    Audited (draftRow id number input now) := by
  constructor <;> simp [draftRow]

theorem reversalRow_audited (id : EntryId) (number : String) (reversed : EntryRow) (user : UserId)
    (reason : String) (now : Instant) :
    Audited (reversalRow id number reversed user reason now) := by
  constructor <;> simp [reversalRow, draftRow]

/-- **A step is put on record** and leaves the record of those before it. -/
theorem Goes.audited {old row : EntryRow} (goes : Goes old row) (audited : Audited old) :
    Audited row := by
  cases goes with
  | posted status =>
    exact { audited with
      postedAt := by simp [stepped]
      postedBy := by simp [stepped]
      voidedAt := by simpa [stepped, status] using audited.voidedAt
      voidedBy := by simpa [stepped, status] using audited.voidedBy
      voidReason := by simpa [stepped, status] using audited.voidReason
      reversedAt := by simpa [stepped, status] using audited.reversedAt
      reversedBy := by simpa [stepped, status] using audited.reversedBy
      reversalReason := by simpa [stepped, status] using audited.reversalReason
      reversal := by simpa [stepped, status] using audited.reversal }
  | voided status reasoned =>
    exact {
      postedAt := by simpa [stepped, status] using audited.postedAt
      postedBy := by simpa [stepped, status] using audited.postedBy
      voidedAt := by simp [stepped]
      voidedBy := by simp [stepped]
      voidReason := by simp [stepped]
      voidReasoned := by simpa [stepped] using reasoned
      reversedAt := by simpa [stepped, status] using audited.reversedAt
      reversedBy := by simpa [stepped, status] using audited.reversedBy
      reversalReason := by simpa [stepped, status] using audited.reversalReason
      reversal := by simpa [stepped, status] using audited.reversal
      reversalReasoned := audited.reversalReasoned }
  | reversed status reasoned =>
    exact {
      postedAt := by simpa [reversedBy, stepped, status] using audited.postedAt
      postedBy := by simpa [reversedBy, stepped, status] using audited.postedBy
      voidedAt := by simpa [reversedBy, stepped, status] using audited.voidedAt
      voidedBy := by simpa [reversedBy, stepped, status] using audited.voidedBy
      voidReason := by simpa [reversedBy, stepped, status] using audited.voidReason
      voidReasoned := audited.voidReasoned
      reversedAt := by simp [reversedBy, stepped]
      reversedBy := by simp [reversedBy, stepped]
      reversalReason := by simp [reversedBy, stepped]
      reversal := by simp [reversedBy, stepped]
      reversalReasoned := by simpa [reversedBy, stepped] using reasoned }

/-! ### Reasons that are accepted -/

/-- A reason that voiding accepts and that is kept without blanks around it is one. -/
theorem reasoned_of_void {reason : String}
    (accepted : Ledger.validateVoidReason (Text.trim reason) = .ok ()) :
    Reasoned 1 (Text.trim reason) := by
  refine ⟨Text.trim_trim reason, ?_⟩
  unfold Ledger.validateVoidReason at accepted
  rw [Text.trim_trim] at accepted
  by_cases blank : (Text.trim reason).isEmpty
  · rw [if_pos blank] at accepted
    cases accepted
  · refine Nat.one_le_iff_ne_zero.mpr fun none => blank ?_
    rw [String.isEmpty_iff]
    exact String.length_eq_zero_iff.mp none

/-- A reason that reversing accepts and that is kept without blanks around it is one. -/
theorem reasoned_of_reverse {reason : String}
    (accepted : Ledger.validateReversalReason (Text.trim reason) = .ok ()) :
    Reasoned 10 (Text.trim reason) := by
  refine ⟨Text.trim_trim reason, ?_⟩
  unfold Ledger.validateReversalReason at accepted
  rw [Text.trim_trim] at accepted
  by_cases short : (Text.trim reason).length < Ledger.leastReversalReason
  · simp only [if_pos short] at accepted
    cases accepted
  · exact Nat.not_lt.mp short

end Passbook.Journal
