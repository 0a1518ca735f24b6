/-
**What the ledger refuses.**

Each cause has a code, a category and a message. A status that does not allow a step is a conflict,
an inactive account a bad request, and everything else a matter of validation.
-/

import Passbook.Amount
import Passbook.Halt
import Passbook.Identifier
import Passbook.Ledger.Kind
import Passbook.Problem

namespace Passbook.Ledger

/-- The causes of a refusal. -/
inductive LedgerError where
  /-- An entry needs two lines or more. -/
  | insufficientLines
  /-- A line has to have exactly one side. -/
  | invalidLineSides (line : Nat)
  /-- A side of a line is negative. -/
  | nonPositiveAmount (line : Nat)
  /-- The sides do not come to the same sum. -/
  | unbalanced (debits credits : Amount)
  /-- A total leaves the range. -/
  | amountOverflow
  /-- A reason has to be given. -/
  | reasonRequired
  /-- The reason given is too short. -/
  | reasonTooShort (least actual : Nat)
  /-- The code of an account is empty or too long. -/
  | invalidAccountCode (code : String)
  /-- The name of an account is empty. -/
  | invalidAccountName (code : String)
  /-- The currency is not supported. -/
  | unsupportedCurrency (code : String)
  /-- Only a draft allows the step. -/
  | notDraft (status : EntryStatus)
  /-- Only a posted entry allows the step. -/
  | notPosted (status : EntryStatus)
  /-- The account takes no postings. -/
  | accountInactive (account : AccountId)
deriving DecidableEq

namespace LedgerError

/-- The code of a cause. -/
def code : LedgerError → String
  | insufficientLines => "INSUFFICIENT_LINES"
  | invalidLineSides _ => "INVALID_LINE_SIDES"
  | nonPositiveAmount _ => "NON_POSITIVE_AMOUNT"
  | unbalanced _ _ => "UNBALANCED_ENTRY"
  | amountOverflow => "AMOUNT_OVERFLOW"
  | reasonRequired => "REASON_REQUIRED"
  | reasonTooShort _ _ => "REASON_TOO_SHORT"
  | invalidAccountCode _ => "INVALID_ACCOUNT_CODE"
  | invalidAccountName _ => "INVALID_ACCOUNT_NAME"
  | unsupportedCurrency _ => "UNSUPPORTED_CURRENCY"
  | notDraft _ => "ENTRY_NOT_DRAFT"
  | notPosted _ => "ENTRY_NOT_POSTED"
  | accountInactive _ => "ACCOUNT_INACTIVE"

/-- The category of a cause. -/
def category : LedgerError → Category
  | notDraft _ => .conflict
  | notPosted _ => .conflict
  | accountInactive _ => .badRequest
  | _ => .validation

/-- The message of a cause. -/
def message : LedgerError → String
  | insufficientLines => "Journal entry must have at least 2 lines"
  | invalidLineSides line =>
    "Line " ++ Text.decimal line ++ " must have exactly one of debit or credit set"
  | nonPositiveAmount line => "Line " ++ Text.decimal line ++ " amount must be positive"
  | unbalanced debits credits =>
    "Journal entry is not balanced. Debits: " ++ Text.decimal debits.units ++ ", Credits: " ++
      Text.decimal credits.units
  | amountOverflow => "Amount overflow while totalling lines"
  | reasonRequired => "Reason is required"
  | reasonTooShort least actual =>
    "Reason must be at least " ++ Text.decimal least ++ " characters, got " ++ Text.decimal actual
  | invalidAccountCode code => "Invalid account code: " ++ code
  | invalidAccountName code => "Account name is required for account " ++ code
  | unsupportedCurrency code => "Unsupported currency: " ++ code
  | notDraft status => "entry is not a draft (status: " ++ Named.name status ++ ")"
  | notPosted status => "entry is not posted (status: " ++ Named.name status ++ ")"
  | accountInactive account => "Account " ++ account.text ++ " is inactive"

/-- The report of a cause. -/
def report (error : LedgerError) : Report := .plain error.category error.code error.message

end LedgerError

instance : Reportable LedgerError := ⟨fun cause => .ok cause.report⟩

end Passbook.Ledger
