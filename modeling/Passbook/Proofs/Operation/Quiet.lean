/-
**Deeds that move no money.**

* `WalletRow.holding`: whose money a wallet holds, how much of it and in which currency;
* `completedDeposits`: the markers of deposits that were credited;
* `Quiet`: what wallets hold and the markers of movements stay as they are;
* `Deed.quiet`: so they do after every deed that is not of one of the kinds `movingKinds`.
-/

import Passbook.Proofs.Operation.Frame

namespace Passbook.Store

/-- A wallet, what it holds and in which currency. -/
def WalletRow.holding (row : WalletRow) : WalletId × Amount × String :=
  (row.id, row.balance.balance, row.currency)

/-- The markers of deposits that were credited. -/
def Books.completedDeposits (books : Books) : List DepositRow :=
  books.deposits.filter fun row => row.status == .completed

end Passbook.Store

namespace Passbook.Operation

open Passbook.Store

/-- What wallets hold and the markers of movements stay as they are. -/
structure Quiet (before after : Books) : Prop where
  wallets : after.wallets.map WalletRow.holding = before.wallets.map WalletRow.holding
  deposits : after.completedDeposits = before.completedDeposits
  transfers : after.transfers = before.transfers
  withdrawals : after.withdrawals = before.withdrawals

/-- The kinds of deeds that open wallets or move money. -/
def movingKinds : List DeedKind := [.walletOpened, .transferred, .deposited, .withdrawn, .credited]

/-- The tables of wallets and of the markers of movements. -/
def movingTables : List Table :=
  [.wallets, .processedDeposits, .processedTransfers, .processedWithdrawals]

/-- A wallet that is changed otherwise holds what it held. -/
theorem quiet_of_revised {id : WalletId} {alter : WalletRow → WalletRow} {old : WalletRow}
    {before after : Books} (sound : Sound before) (did : Holdings.Revised id alter old before after)
    (keeps : (alter old).holding = old.holding) : Quiet before after := by
  rw [did.left, ← did.named]
  exact ⟨map_altered_row WalletRow.holding sound.walletIds did.member keeps, rfl, rfl, rfl⟩

/-- **A deed of another kind is quiet.** -/
theorem Deed.quiet {session : Session} {kind : DeedKind} {before after : Books}
    (deed : Deed session kind before after) (sound : Sound before) (other : kind ∉ movingKinds) :
    Quiet before after := by
  have others : (∀ table ∈ movingTables, table ∉ kind.writes) → Quiet before after := by
    intro still
    have wallets : after.wallets = before.wallets :=
      deed.untouched (still .wallets (by decide))
    have deposits : after.deposits = before.deposits :=
      deed.untouched (still .processedDeposits (by decide))
    have transfers : after.transfers = before.transfers :=
      deed.untouched (still .processedTransfers (by decide))
    have withdrawals : after.withdrawals = before.withdrawals :=
      deed.untouched (still .processedWithdrawals (by decide))
    exact ⟨congrArg _ wallets, congrArg (List.filter _) deposits, transfers, withdrawals⟩
  cases deed with
  | statusSet _ _ _ did => exact quiet_of_revised sound did rfl
  | closed did =>
    obtain ⟨_, _, _, _, revised⟩ := did.revised
    exact quiet_of_revised sound revised rfl
  | held did =>
    obtain ⟨old, _, held, revised⟩ := did.revised
    have same := (Wallet.WalletBalance.hold_eq_ok.mp held).2.2.1
    exact quiet_of_revised sound revised (by simp [WalletRow.holding, Holdings.rebalanced, same])
  | released did =>
    obtain ⟨old, released, revised⟩ := did.revised
    have same := (Wallet.WalletBalance.release_eq_ok.mp released).2.2.1
    exact quiet_of_revised sound revised (by simp [WalletRow.holding, Holdings.rebalanced, same])
  | linked did =>
    obtain ⟨_, revised⟩ := did.revised
    exact quiet_of_revised sound revised rfl
  | confirmed did =>
    rw [did.left]
    refine ⟨rfl, ?_, rfl, rfl⟩
    show List.filter _ (before.deposits ++ _) = before.deposits.filter _
    rw [List.filter_append]
    exact List.append_nil _
  | undone did =>
    rw [did.left]
    refine ⟨rfl, ?_, rfl, rfl⟩
    show List.filter _ (before.deposits.filter _) = before.deposits.filter _
    rw [List.filter_filter]
    refine List.filter_congr fun row _ => ?_
    -- a marker that is taken away was not completed
    cases status : row.status <;> simp [Payments.isPending, status]
  | walletOpened _ => exact absurd (by decide) other
  | transferred _ => exact absurd (by decide) other
  | deposited _ => exact absurd (by decide) other
  | withdrawn _ => exact absurd (by decide) other
  | credited _ _ _ => exact absurd (by decide) other
  | _ => exact others (by decide)

end Passbook.Operation
