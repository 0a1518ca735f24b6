import Passbook.Amount
import Passbook.Bootstrap
import Passbook.Calendar.Date
import Passbook.Calendar.Instant
import Passbook.Calendar.Kept
import Passbook.Calendar.Stamp
import Passbook.Calendar.Timer
import Passbook.Chart.Accounts
import Passbook.Chart.Port
import Passbook.Envelope
import Passbook.Event
import Passbook.Halt
import Passbook.Holdings.Error
import Passbook.Holdings.Limits
import Passbook.Holdings.Wallets
import Passbook.Identifier
import Passbook.Journal.Entries
import Passbook.Json.Binary
import Passbook.Json.Decode
import Passbook.Json.Reader
import Passbook.Json.Value
import Passbook.Json.Writer
import Passbook.Ledger.Account
import Passbook.Ledger.Error
import Passbook.Ledger.Kind
import Passbook.Ledger.Lifecycle
import Passbook.Ledger.Line
import Passbook.Limits.State
import Passbook.Limits.Window
import Passbook.Main
import Passbook.Money
import Passbook.Named
import Passbook.Operation.Answer
import Passbook.Operation.Command
import Passbook.Operation.Query
import Passbook.Operation.Repair
import Passbook.Page
import Passbook.Payments.Error
import Passbook.Payments.External
import Passbook.Payments.Processing
import Passbook.Problem
import Passbook.Proofs.Bookkeeping.Entering
import Passbook.Proofs.Bookkeeping.Formed
import Passbook.Proofs.Bookkeeping.Journaled
import Passbook.Proofs.Bookkeeping.Kept
import Passbook.Proofs.Bookkeeping.Lifecycle
import Passbook.Proofs.Bookkeeping.Mirror
import Passbook.Proofs.Bookkeeping.NumberOrder
import Passbook.Proofs.Bookkeeping.Numbering
import Passbook.Proofs.Bookkeeping.Origin
import Passbook.Proofs.Bookkeeping.WellFormed
import Passbook.Proofs.Bootstrap.Again
import Passbook.Proofs.Bootstrap.Settled
import Passbook.Proofs.Bootstrap.Standing
import Passbook.Proofs.Bootstrap.Twice
import Passbook.Proofs.Calendar.Date
import Passbook.Proofs.Calendar.Instant
import Passbook.Proofs.Chart.Accounts
import Passbook.Proofs.Chart.Descent
import Passbook.Proofs.Chart.Port
import Passbook.Proofs.Holdings.Limits
import Passbook.Proofs.Holdings.Provisioning
import Passbook.Proofs.Holdings.Wallets
import Passbook.Proofs.Interleaving.Credits
import Passbook.Proofs.Interleaving.Markers
import Passbook.Proofs.Interleaving.Stages
import Passbook.Proofs.Interleaving.Strides
import Passbook.Proofs.Interleaving.Uninterrupted
import Passbook.Proofs.Journal.Entries
import Passbook.Proofs.Journal.EntriesFailing
import Passbook.Proofs.Journal.Life
import Passbook.Proofs.Journal.Lines
import Passbook.Proofs.Journal.Posting
import Passbook.Proofs.Journal.PostingFailing
import Passbook.Proofs.Ledger.Balance
import Passbook.Proofs.Ledger.DoubleEntry
import Passbook.Proofs.Ledger.Lines
import Passbook.Proofs.Limits.Boundary
import Passbook.Proofs.Limits.Course
import Passbook.Proofs.Limits.Reserve
import Passbook.Proofs.Limits.State
import Passbook.Proofs.Limits.Window
import Passbook.Proofs.Operation.Announced
import Passbook.Proofs.Operation.Backed
import Passbook.Proofs.Operation.Capped
import Passbook.Proofs.Operation.Charted
import Passbook.Proofs.Operation.Closed
import Passbook.Proofs.Operation.Commuting
import Passbook.Proofs.Operation.Deed
import Passbook.Proofs.Operation.Frame
import Passbook.Proofs.Operation.InOrder
import Passbook.Proofs.Operation.Limited
import Passbook.Proofs.Operation.Listed
import Passbook.Proofs.Operation.Once
import Passbook.Proofs.Operation.Orderly
import Passbook.Proofs.Operation.OrderlyMovements
import Passbook.Proofs.Operation.Paired
import Passbook.Proofs.Operation.Provided
import Passbook.Proofs.Operation.Quiet
import Passbook.Proofs.Operation.Refused
import Passbook.Proofs.Operation.Registered
import Passbook.Proofs.Operation.Run
import Passbook.Proofs.Operation.Titled
import Passbook.Proofs.Operation.Transfers
import Passbook.Proofs.Payments.Confined
import Passbook.Proofs.Payments.External
import Passbook.Proofs.Payments.Locking
import Passbook.Proofs.Payments.Movements
import Passbook.Proofs.Publication.Entries
import Passbook.Proofs.Publication.Replica
import Passbook.Proofs.Reconciliation.Accounts
import Passbook.Proofs.Reconciliation.Cancelled
import Passbook.Proofs.Reconciliation.Currencies
import Passbook.Proofs.Reconciliation.Holds
import Passbook.Proofs.Reconciliation.Limits
import Passbook.Proofs.Reconciliation.Wallets
import Passbook.Proofs.Store.Confined
import Passbook.Proofs.Store.Contained
import Passbook.Proofs.Store.Failing
import Passbook.Proofs.Store.Issued
import Passbook.Proofs.Store.Leaves
import Passbook.Proofs.Store.Lookup
import Passbook.Proofs.Store.Pages
import Passbook.Proofs.Store.Place
import Passbook.Proofs.Store.Rows
import Passbook.Proofs.Store.Sound
import Passbook.Proofs.Store.Statement
import Passbook.Proofs.Store.Tables
import Passbook.Proofs.Store.Work
import Passbook.Proofs.Text.Blank
import Passbook.Proofs.Text.Digits
import Passbook.Proofs.Text.Places
import Passbook.Proofs.Transfer.Plan
import Passbook.Proofs.Turns.Course
import Passbook.Proofs.Turns.Draft
import Passbook.Proofs.Turns.Ensured
import Passbook.Proofs.Turns.Ensuring
import Passbook.Proofs.Turns.Exclusive
import Passbook.Proofs.Turns.Opening
import Passbook.Proofs.Turns.Rewriting
import Passbook.Proofs.Turns.Rewritten
import Passbook.Proofs.Verdict
import Passbook.Proofs.Wallet.Balance
import Passbook.Proofs.Wallet.Purses
import Passbook.Schema
import Passbook.Settings.Basic
import Passbook.Settings.Files
import Passbook.Settings.Load
import Passbook.Settings.Place
import Passbook.Settings.Toml
import Passbook.Store.Amend
import Passbook.Store.Books
import Passbook.Store.Cell
import Passbook.Store.Lookup
import Passbook.Store.Row
import Passbook.Store.Session
import Passbook.Store.Sheet
import Passbook.Store.Statement
import Passbook.Text.Blank
import Passbook.Text.Digits
import Passbook.Text.Letter
import Passbook.Transfer.Error
import Passbook.Transfer.Plan
import Passbook.Wallet.Balance
import Passbook.Wallet.Error
import Passbook.Wire.Answer
import Passbook.Wire.Coded
import Passbook.Wire.Envelope
import Passbook.Wire.Ledger
import Passbook.Wire.Money
import Passbook.Wire.Row
import Passbook.Wire.Wallet
