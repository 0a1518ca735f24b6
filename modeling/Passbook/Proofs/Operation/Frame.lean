/-
**The tables that a deed leaves alone.**

* `Untouched`: a table holds what it held;
* `DeedKind.writes`: the tables that a deed of a kind may write;
* `Deed.untouched`: it writes no other; `Happened.untouched`: nor do deeds one after another;
* `Deed.keeps_accounts`: what a booking leaves alone of an account is kept of all, unless the deed
  opens one, or changes one and with it what is looked at; `Deed.keeps_wallets`: so is what a
  movement leaves alone of a wallet, unless the deed opens one or links one.
-/

import Passbook.Proofs.Operation.Deed
import Passbook.Schema

namespace Passbook.Operation

open Passbook.Store

/-- A table holds what it held. -/
def Untouched (before after : Books) : Table → Prop
  | .accounts => after.accounts = before.accounts
  | .journalEntries => after.entries = before.entries
  | .ledgerLines => after.lines = before.lines
  | .ledgerSequences => after.sequences = before.sequences
  | .wallets => after.wallets = before.wallets
  | .walletLimits => after.limits = before.limits
  | .processedTransfers => after.transfers = before.transfers
  | .processedDeposits => after.deposits = before.deposits
  | .processedWithdrawals => after.withdrawals = before.withdrawals

/-- The tables that a deed of a kind may write. -/
def DeedKind.writes : DeedKind → List Table
  | accountOpened => [.accounts]
  | accountChanged => [.accounts]
  | drafted => [.journalEntries, .ledgerLines, .ledgerSequences]
  | posted => [.accounts, .journalEntries]
  | voided => [.journalEntries]
  | reversed => [.accounts, .journalEntries, .ledgerLines, .ledgerSequences]
  | dropped => [.journalEntries, .ledgerLines]
  | walletOpened => [.wallets, .walletLimits]
  | statusSet => [.wallets]
  | closed => [.wallets]
  | held => [.wallets]
  | released => [.wallets]
  | linked => [.wallets]
  | limitsSet => [.walletLimits]
  | spent => [.walletLimits]
  | transferred => [.wallets, .walletLimits, .processedTransfers]
  | deposited => [.wallets, .processedDeposits]
  | withdrawn => [.wallets, .processedWithdrawals]
  | confirmed => [.processedDeposits]
  | credited => [.wallets, .processedDeposits]
  | undone => [.processedDeposits]

section

variable {session : Session} {before after : Books} {table : Table}

theorem untouched_of_revised {id : WalletId} {alter : WalletRow → WalletRow} {old : WalletRow}
    (did : Holdings.Revised id alter old before after) (other : table ∉ [Table.wallets]) :
    Untouched before after table := by
  rw [did.left]
  cases table <;> first | rfl | exact absurd (by decide) other

theorem untouched_of_restated {wallet : WalletId} {old : LimitsRow} {state : Limits.LimitState}
    (did : Holdings.Restated session wallet old state before after)
    (other : table ∉ [Table.walletLimits]) : Untouched before after table := by
  rw [did.left]
  cases table <;> first | rfl | exact absurd (by decide) other

/-- **A deed writes the tables of its kind and no other.** -/
theorem Deed.untouched {kind : DeedKind} (deed : Deed session kind before after)
    (other : table ∉ kind.writes) : Untouched before after table := by
  cases deed with
  | accountOpened _ did =>
    rw [did.left]
    cases table <;> first | rfl | exact absurd (by decide) other
  | accountChanged did =>
    rw [did.left]
    cases table <;> first | rfl | exact absurd (by decide) other
  | drafted _ did =>
    obtain ⟨_, _, _, _, _, _, entered⟩ := did.draws
    rw [entered.left]
    cases table <;> first | rfl | exact absurd (by decide) other
  | posted did =>
    rw [did.left]
    cases table <;> first | rfl | exact absurd (by decide) other
  | voided did =>
    rw [did.left]
    cases table <;> first | rfl | exact absurd (by decide) other
  | reversed did =>
    obtain ⟨_, _, _, _, _, entered, left⟩ := did.entered
    rw [left, entered.left]
    cases table <;> first | rfl | exact absurd (by decide) other
  | dropped did =>
    rw [did.left]
    cases table <;> first | rfl | exact absurd (by decide) other
  | walletOpened did =>
    rw [did.left]
    cases table <;> first | rfl | exact absurd (by decide) other
  | statusSet _ _ _ did => exact untouched_of_revised did other
  | closed did =>
    obtain ⟨_, _, _, _, revised⟩ := did.revised
    exact untouched_of_revised revised other
  | held did =>
    obtain ⟨_, _, _, revised⟩ := did.revised
    exact untouched_of_revised revised other
  | released did =>
    obtain ⟨_, _, revised⟩ := did.revised
    exact untouched_of_revised revised other
  | linked did =>
    obtain ⟨_, revised⟩ := did.revised
    exact untouched_of_revised revised other
  | limitsSet did =>
    obtain ⟨_, _, written⟩ := did.written
    exact untouched_of_restated written other
  | spent did =>
    obtain ⟨_, _, written⟩ := did.written
    exact untouched_of_restated written other
  | transferred did =>
    rw [did.left]
    cases table <;> first | rfl | exact absurd (by decide) other
  | deposited did =>
    rw [did.left]
    cases table <;> first | rfl | exact absurd (by decide) other
  | withdrawn did =>
    rw [did.left]
    cases table <;> first | rfl | exact absurd (by decide) other
  | confirmed did =>
    rw [did.left]
    cases table <;> first | rfl | exact absurd (by decide) other
  | credited _ _ did =>
    rw [did.left]
    cases table <;> first | rfl | exact absurd (by decide) other
  | undone did =>
    rw [did.left]
    cases table <;> first | rfl | exact absurd (by decide) other

/-- **What a deed leaves alone of accounts.** -/
theorem Deed.keeps_accounts {α : Type} {kind : DeedKind} (view : AccountRow → α)
    (deed : Deed session kind before after) (other : kind ≠ .accountOpened)
    (changed : kind = .accountChanged → ∀ (wanted : Chart.AccountChange) now row,
      view (wanted.applyTo now row) = view row)
    (booked : ∀ (row : AccountRow) balance now,
      view { row with balance := balance, updatedAt := now } = view row) :
    after.accounts.map view = before.accounts.map view := by
  have others : Table.accounts ∉ kind.writes →
      after.accounts.map view = before.accounts.map view :=
    fun still => congrArg (List.map view) (deed.untouched still)
  have posted : ∀ now lines (rows : List AccountRow),
      (rows.map (Journal.posted now lines)).map view = rows.map view := by
    intro now lines rows
    rw [List.map_map]
    exact List.map_congr_left fun row _ => Journal.posted_keeps view fun _ => booked row _ _
  cases deed with
  | accountOpened => exact absurd rfl other
  | accountChanged did =>
    rw [did.left]
    exact map_altered view fun _ => changed rfl _ _ _
  | posted did =>
    rw [did.left]
    exact posted _ _ _
  | reversed did =>
    obtain ⟨_, _, _, _, _, entered, left⟩ := did.entered
    rw [left, entered.left]
    exact posted _ _ _
  | _ => exact others (by decide)

/-- **What a deed leaves alone of wallets.** -/
theorem Deed.keeps_wallets {α : Type} {kind : DeedKind} (view : WalletRow → α)
    (deed : Deed session kind before after) (other : kind ≠ .walletOpened)
    (linked : kind = .linked → ∀ now account row,
      view (Holdings.linked now account row) = view row)
    (staged : ∀ now status row, view (Holdings.underStatus now status row) = view row)
    (closed : ∀ now reason row, view (Holdings.closing now reason row) = view row)
    (moved : ∀ now balance row, view (Holdings.rebalanced now balance row) = view row) :
    after.wallets.map view = before.wallets.map view := by
  have others : Table.wallets ∉ kind.writes →
      after.wallets.map view = before.wallets.map view :=
    fun still => congrArg (List.map view) (deed.untouched still)
  have revised : ∀ {id alter old}, Holdings.Revised id alter old before after →
      (∀ row, view (alter row) = view row) →
        after.wallets.map view = before.wallets.map view := by
    intro id alter old did keeps
    rw [did.left]
    exact map_altered view keeps
  have rebalanced : ∀ id now balance (rows : List WalletRow),
      (altered WalletRow.id id (Holdings.rebalanced now balance) rows).map view =
        rows.map view :=
    fun _ _ _ _ => map_altered view (moved _ _)
  cases deed with
  | walletOpened did => exact absurd rfl other
  | statusSet _ _ _ did => exact revised did (staged _ _)
  | closed did =>
    obtain ⟨_, _, _, _, did⟩ := did.revised
    exact revised did (closed _ _)
  | held did =>
    obtain ⟨_, _, _, did⟩ := did.revised
    exact revised did (moved _ _)
  | released did =>
    obtain ⟨_, _, did⟩ := did.revised
    exact revised did (moved _ _)
  | linked did =>
    obtain ⟨_, did⟩ := did.revised
    exact revised did (linked rfl _ _)
  | transferred did =>
    rw [did.left]
    exact (rebalanced _ _ _ _).trans (rebalanced _ _ _ _)
  | deposited did =>
    rw [did.left]
    exact rebalanced _ _ _ _
  | withdrawn did =>
    rw [did.left]
    exact rebalanced _ _ _ _
  | credited _ _ did =>
    rw [did.left]
    exact rebalanced _ _ _ _
  | _ => exact others (by decide)

theorem Untouched.trans {middle : Books} (first : Untouched before middle table)
    (second : Untouched middle after table) : Untouched before after table := by
  cases table <;> exact Eq.trans second first

theorem Untouched.refl : Untouched before before table := by
  cases table <;> rfl

/-- Deeds that do not write a table leave it alone. -/
theorem Happened.untouched {kinds : List DeedKind} (happened : Happened kinds before after)
    (others : ∀ kind ∈ kinds, table ∉ kind.writes) : Untouched before after table := by
  induction happened with
  | refl => exact .refl
  | tail _ deed ih =>
    obtain ⟨_, kind, member, did⟩ := deed
    exact ih.trans (did.untouched (others kind member))

end

end Passbook.Operation
