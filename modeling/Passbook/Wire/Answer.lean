/-
**Answers and failures as documents.**

* `writeAnswer`: the document of an answer. That of a wallet's balance names what is held, an
  unguarded difference;
* `writeFailure`: the report of a cause, or the overflow that came in its place;
* `writeOutcome`: the document of either.
-/

import Passbook.Operation.Answer
import Passbook.Wire.Envelope
import Passbook.Wire.Ledger
import Passbook.Wire.Money
import Passbook.Wire.Row

namespace Passbook.Wire

open Passbook.Json (Value)
open Passbook.Limits (LimitState)
open Passbook.Operation (Answer)
open Passbook.Wallet (WalletBalance)

/-- The document of an overflow. -/
def writeOverflow (fault : Overflow) : Value :=
  .record (field "error" "Panic" :: optionalField "message" fault.message?)

/-- The document of a cause. -/
def writeFailure {ε : Type} [Reportable ε] (cause : ε) : Value :=
  match Reportable.report cause with
  | .ok report => writeReport report
  | .error fault => writeOverflow fault

/-- The document of a result. -/
def writeOkay (value : Value) : Value := .record [("ok", value)]

/-- The document of a result that unguarded arithmetic was needed for. -/
def writeGuarded : Except Overflow Value → Value
  | .ok value => writeOkay value
  | .error fault => writeOverflow fault

/-- The document of a balance and what is held of it. -/
def writeHeld (state : WalletBalance) : Except Overflow Value :=
  state.held.map fun held =>
    .record [field "balance" state.balance, field "available_balance" state.available,
      field "held" held]

/-- The document of limits and what they leave. -/
def writeRemaining (state : LimitState) : Value :=
  .record [field "state" state, field "remaining_daily" state.remainingDaily,
    field "remaining_monthly" state.remainingMonthly]

/-- The document of a page. -/
def writePage {ρ : Type} (view : ρ → Value) (page : Page ρ) : Value :=
  .record [("data", .ofList view page.data), field "meta" page.info]

/-- The document of one of several outcomes. -/
def writeEach {ε α : Type} [Reportable ε] (view : α → Value) : Except ε α → Value
  | .ok value => writeOkay (view value)
  | .error cause => writeFailure cause

/-- The document of an entry with its lines. -/
def writeFull (entry : Journal.FullEntry) : Value := writeFullEntry entry.entry entry.lines

/-- The document of an answer. -/
def writeAnswer : Answer → Except Overflow Value
  | .nothing => .ok .null
  | .account row => .ok (.ofOption writeAccount row)
  | .accounts page => .ok (writePage writeAccount page)
  | .ledgerAccount account => .ok (write account)
  | .accountBalance balance => .ok (write balance)
  | .entry row => .ok (writeEntry row)
  | .fullEntry entry => .ok (writeFull entry)
  | .reversal outcome =>
    .ok (.record [("original", writeEntry outcome.reversed),
      ("reversal", writeFull outcome.reversal)])
  | .entries page => .ok (writePage writeEntry page)
  | .wallet row => .ok (.ofOption writeWallet row)
  | .wallets rows => .ok (.ofList writeWallet rows)
  | .balance balance => writeHeld balance
  | .limits state => .ok (writeRemaining state)
  | .reservations outcomes => .ok (.ofList (writeEach writeRemaining) outcomes)
  | .receipt receipt => .ok (write receipt)
  | .count rows => .ok (.ofNat rows)
  | .deposit row => .ok (writeDeposit row)

/-- The document of the end of an operation. -/
def writeOutcome : Except Operation.Failure Answer → Value
  | .ok answer => writeGuarded (writeAnswer answer)
  | .error failure => writeFailure failure

end Passbook.Wire
