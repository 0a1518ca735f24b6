/-
**The life of a journal entry.**

A draft is posted; a posted entry is voided or reversed, and stays so.

* `Step`: what is done to an entry, by whom and when;
* `post`, `void`, `reverse`: the step, if the status allows it and then if the reason does;
* `entryNumber`: the number of an entry from its place in the sequence.
-/

import Passbook.Calendar.Instant
import Passbook.Ledger.Error
import Passbook.Text.Blank

namespace Passbook.Ledger

open Passbook.Calendar (Instant)

/-- A step in the life of an entry. -/
inductive Step where
  | post (user : UserId) (moment : Instant)
  | void (user : UserId) (moment : Instant) (reason : String)
  | reverse (user : UserId) (moment : Instant) (reason : String)
deriving DecidableEq

namespace Step

/-- The status that a step leads to. -/
def status : Step → EntryStatus
  | post _ _ => .posted
  | void _ _ _ => .voided
  | reverse _ _ _ => .reversed

/-- Who takes the step. -/
def actor : Step → UserId
  | post user _ => user
  | void user _ _ => user
  | reverse user _ _ => user

/-- When the step is taken. -/
def moment : Step → Instant
  | post _ moment => moment
  | void _ moment _ => moment
  | reverse _ moment _ => moment

/-- Why the step is taken, where a reason is asked for. -/
def reason? : Step → Option String
  | post _ _ => none
  | void _ _ reason => some reason
  | reverse _ _ reason => some reason

end Step

/-- The least number of characters of a reason for a reversal. -/
def leastReversalReason : Nat := 10

/-- Voiding needs some reason. -/
def validateVoidReason (reason : String) : Except LedgerError Unit :=
  if (Text.trim reason).isEmpty then .error .reasonRequired else .ok ()

/-- Reversing needs a reason of some length. -/
def validateReversalReason (reason : String) : Except LedgerError Unit :=
  let actual := (Text.trim reason).length
  if actual < leastReversalReason then .error (.reasonTooShort leastReversalReason actual)
  else .ok ()

/-- Posts a draft. -/
def post (current : EntryStatus) (user : UserId) (now : Instant) : Except LedgerError Step :=
  match current with
  | .draft => .ok (.post user now)
  | other => .error (.notDraft other)

/-- Voids a posted entry. -/
def void (current : EntryStatus) (user : UserId) (reason : String) (now : Instant) :
    Except LedgerError Step :=
  match current with
  | .posted => (validateVoidReason reason).map fun _ => .void user now reason
  | other => .error (.notPosted other)

/-- Reverses a posted entry. -/
def reverse (current : EntryStatus) (user : UserId) (reason : String) (now : Instant) :
    Except LedgerError Step :=
  match current with
  | .posted => (validateReversalReason reason).map fun _ => .reverse user now reason
  | other => .error (.notPosted other)

/-- The letters of an entry number and its place in the sequence in at least eight characters. -/
def entryNumber (place : Amount) : String :=
  String.ofList ('J' :: 'E' :: '-' :: Text.paddedDecimal 8 place.units)

/-- The description of the entry that reverses another. -/
def reversalDescription (number reason : String) : String :=
  "Reversal of " ++ number ++ ". Reason: " ++ Text.trim reason

end Passbook.Ledger
