/-
**Lines of a journal entry.**

* `Line.validate`: neither side negative and exactly one above zero;
* `validateLines`: two lines or more, each valid, both sides coming to the same sum. The lines are
  taken in order, each checked before its sides are added up;
* `reversing`: the lines with their sides exchanged.
-/

import Passbook.Ledger.Error

namespace Passbook.Ledger

/-- A line on an account. -/
structure Line where
  account : AccountId
  debit : Amount
  credit : Amount
  description : Option String
deriving DecidableEq

/-- The sums of both sides. -/
structure Totals where
  debits : Amount
  credits : Amount
deriving DecidableEq

namespace Totals

/-- Nothing on either side. -/
def zero : Totals := ⟨.zero, .zero⟩

/-- Both sides come to the same sum. -/
def isBalanced (totals : Totals) : Bool := totals.debits == totals.credits

/-- Adds a line. -/
def add? (totals : Totals) (line : Line) : Option Totals :=
  match totals.debits.add? line.debit, totals.credits.add? line.credit with
  | some debits, some credits => some ⟨debits, credits⟩
  | _, _ => none

end Totals

/-- A side below zero is found first. -/
def Line.validate (index : Nat) (line : Line) : Except LedgerError Unit :=
  if line.debit.units < 0 ∨ line.credit.units < 0 then .error (.nonPositiveAmount index)
  else if (0 < line.debit.units ↔ 0 < line.credit.units) then .error (.invalidLineSides index)
  else .ok ()

/-- The sums of lines counted from an index, added to those before them. -/
def sumLines : (index : Nat) → (totals : Totals) → List Line → Except LedgerError Totals
  | _, totals, [] => .ok totals
  | index, totals, line :: rest =>
    match line.validate index with
    | .error error => .error error
    | .ok () =>
      match totals.add? line with
      | some totals => sumLines (index + 1) totals rest
      | none => .error .amountOverflow

/-- The sums of an entry's lines. -/
def validateLines (lines : List Line) : Except LedgerError Totals :=
  if lines.length < 2 then .error .insufficientLines
  else
    match sumLines 0 .zero lines with
    | .error error => .error error
    | .ok totals =>
      if totals.isBalanced then .ok totals else .error (.unbalanced totals.debits totals.credits)

/-- A line with its sides exchanged, described as a reversal. -/
def Line.reversing (line : Line) : Line :=
  ⟨line.account, line.credit, line.debit, some ("Reversal: " ++ line.description.getD "")⟩

/-- Lines with their sides exchanged. -/
def reversing (lines : List Line) : List Line := lines.map Line.reversing

end Passbook.Ledger
