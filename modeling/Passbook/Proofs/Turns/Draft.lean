/-
**Rows that are written back by the columns that were set.**

Whoever changes a row first reads it, sets some of its columns, and then writes those columns and no
others. Others may have written the row in between, and whatever they wrote to the other columns
stays.

* `Draft`: a row as it was read, with values set and the columns that they are in; `Draft.onto`: the
  row as it stands when the draft is written;
* `changing_onto`, `linking_onto`: whichever row was read, a draft does to the row that stands then
  what the operation is to do;
* `writeChange_eq`, `writeLink_eq`: so writing a draft is writing the change or the link itself.
-/

import Passbook.Proofs.Holdings.Provisioning

namespace Passbook.Turns

open Passbook.Calendar (Instant)
open Passbook.Chart (AccountChange AccountError writeAccount)
open Passbook.Holdings (HoldingError linkAccount)
open Passbook.Store

/-- A row as it was read, with values set and the columns that they are in. -/
structure Draft (ρ γ : Type) where
  row : ρ
  marked : List γ

namespace Draft

variable {ρ γ : Type}

/-- A row of which nothing is set yet. -/
def of (row : ρ) : Draft ρ γ := ⟨row, []⟩

/-- Sets a value and marks the column that it is in. -/
def set (draft : Draft ρ γ) (column : γ) (alter : ρ → ρ) : Draft ρ γ :=
  ⟨alter draft.row, draft.marked ++ [column]⟩

/-- The row as it stands, with the marked columns written over. -/
def onto (copy : ρ → ρ → γ → ρ) (draft : Draft ρ γ) (current : ρ) : ρ :=
  draft.marked.foldl (copy draft.row) current

end Draft

/-! ### Accounts -/

/-- The columns of an account besides the identifier, under which it is written. -/
inductive AccountColumn where
  | code
  | name
  | accountType
  | currency
  | balance
  | debitTotal
  | creditTotal
  | status
  | parent
  | createdAt
  | updatedAt

/-- A column of an account written over by that of another row. -/
def AccountColumn.copy (source current : AccountRow) : AccountColumn → AccountRow
  | code => { current with code := source.code }
  | name => { current with name := source.name }
  | accountType => { current with accountType := source.accountType }
  | currency => { current with currency := source.currency }
  | balance => { current with
      balance := { current.balance with balance := source.balance.balance } }
  | debitTotal => { current with
      balance := { current.balance with debitTotal := source.balance.debitTotal } }
  | creditTotal => { current with
      balance := { current.balance with creditTotal := source.balance.creditTotal } }
  | status => { current with status := source.status }
  | parent => { current with parent := source.parent }
  | createdAt => { current with createdAt := source.createdAt }
  | updatedAt => { current with updatedAt := source.updatedAt }

/-- An account that was read, with its new name and status set as far as they are asked for. -/
def changing (wanted : AccountChange) (now : Instant) (seen : AccountRow) :
    Draft AccountRow AccountColumn :=
  let named : Draft AccountRow AccountColumn := match wanted.name with
    | some name => (Draft.of seen).set .name fun row => { row with name := name }
    | none => Draft.of seen
  let placed := match wanted.status with
    | some status => named.set .status fun row => { row with status := status }
    | none => named
  placed.set .updatedAt fun row => { row with updatedAt := now }

/-- Writes the marked columns of an account and gives the row as it stands then. -/
def writeChange (session : Session) (draft : Draft AccountRow AccountColumn) :
    Work AccountError AccountRow := do
  Work.stored (changeOne session.faults accountSheet (fun row => row.id == draft.row.id)
    (draft.onto AccountColumn.copy))
  Work.found (.storage .refused) (← Work.lookUp accountSheet fun books =>
    books.account? draft.row.id)

section

variable (wanted : AccountChange) (now : Instant) (seen current : AccountRow)

/-- **A change that was drafted on any row** changes the row that stands. -/
theorem changing_onto :
    (changing wanted now seen).onto AccountColumn.copy current = wanted.applyTo now current := by
  obtain ⟨name, status⟩ := wanted
  cases name <;> cases status <;> rfl

theorem changing_id : (changing wanted now seen).row.id = seen.id := by
  obtain ⟨name, status⟩ := wanted
  cases name <;> cases status <;> rfl

end

/-- Writing a change that was drafted on any row of the account is writing the change. -/
theorem writeChange_eq (session : Session) (wanted : AccountChange) (seen : AccountRow) :
    writeChange session (changing wanted session.now seen) =
      writeAccount session seen.id wanted := by
  have same : (changing wanted session.now seen).onto AccountColumn.copy =
      wanted.applyTo session.now := funext fun current => changing_onto wanted _ seen current
  rw [writeChange, same, changing_id]
  rfl

/-! ### Wallets -/

/-- The columns of a wallet besides the identifier, under which it is written. -/
inductive WalletColumn where
  | owner
  | walletType
  | currency
  | balance
  | available
  | status
  | ledgerAccount
  | metadata
  | closedAt
  | closeReason
  | createdAt
  | updatedAt

/-- A column of a wallet written over by that of another row. -/
def WalletColumn.copy (source current : WalletRow) : WalletColumn → WalletRow
  | owner => { current with owner := source.owner }
  | walletType => { current with walletType := source.walletType }
  | currency => { current with currency := source.currency }
  | balance => { current with
      balance := { current.balance with balance := source.balance.balance } }
  | available => { current with
      balance := { current.balance with available := source.balance.available } }
  | status => { current with status := source.status }
  | ledgerAccount => { current with ledgerAccount := source.ledgerAccount }
  | metadata => { current with metadata := source.metadata }
  | closedAt => { current with closedAt := source.closedAt }
  | closeReason => { current with closeReason := source.closeReason }
  | createdAt => { current with createdAt := source.createdAt }
  | updatedAt => { current with updatedAt := source.updatedAt }

/-- A wallet that was read, with its link set. -/
def linking (account : AccountId) (now : Instant) (seen : WalletRow) :
    Draft WalletRow WalletColumn :=
  ((Draft.of seen).set .ledgerAccount fun row => { row with ledgerAccount := some account }).set
    .updatedAt fun row => { row with updatedAt := now }

/-- Writes the marked columns of a wallet. -/
def writeLink (session : Session) (draft : Draft WalletRow WalletColumn) :
    Work HoldingError Unit :=
  Work.stored (changeOne session.faults walletSheet (fun row => row.id == draft.row.id)
    (draft.onto WalletColumn.copy))

/-- **A link that was drafted on any row** links the wallet that stands: its balance and its status
stay as they are by then. -/
theorem linking_onto (account : AccountId) (now : Instant) (seen current : WalletRow) :
    (linking account now seen).onto WalletColumn.copy current =
      Holdings.linked now account current :=
  rfl

/-- Writing a link that was drafted on any row of the wallet is linking it. -/
theorem writeLink_eq (session : Session) (account : AccountId) (seen : WalletRow) :
    writeLink session (linking account session.now seen) =
      linkAccount session seen.id account := by
  have same : (linking account session.now seen).onto WalletColumn.copy =
      Holdings.linked session.now account :=
    funext fun current => linking_onto account _ seen current
  rw [writeLink, same]
  rfl

end Passbook.Turns
