/-
**Every wallet has its limits.**

* `Paired`: the limits are those of the wallets, one row for each and in the same order;
* `Deed.paired`: a wallet is opened together with its limits, and no deed changes whose they are;
* `Paired.hasWallet`, `Paired.hasLimits`: limits lead to a wallet, and a wallet has limits.
-/

import Passbook.Proofs.Operation.Frame
import Passbook.Proofs.Operation.Run

namespace Passbook.Operation

open Passbook.Store

/-- The limits are those of the wallets. -/
def Paired (books : Books) : Prop :=
  books.limits.map LimitsRow.wallet = books.wallets.map WalletRow.id

theorem Paired.fresh {supply : Supply} : Paired (.fresh supply) := rfl

section

variable {session : Session} {before after : Books}

/-- Wallets and limits that stay whose they are stay paired. -/
theorem Paired.of_same (paired : Paired before)
    (wallets : after.wallets.map WalletRow.id = before.wallets.map WalletRow.id)
    (limits : after.limits.map LimitsRow.wallet = before.limits.map LimitsRow.wallet) :
    Paired after :=
  limits.trans (paired.trans wallets.symm)

/-- Another state leaves limits to their wallet. -/
theorem restated_owners {wallet : WalletId} {now : Calendar.Instant} {state : Limits.LimitState}
    {rows : List LimitsRow} :
    (altered LimitsRow.wallet wallet (Holdings.restated now state) rows).map LimitsRow.wallet =
      rows.map LimitsRow.wallet :=
  map_altered LimitsRow.wallet fun _ => rfl

theorem Paired.restated {wallet : WalletId} {old : LimitsRow} {state : Limits.LimitState}
    (paired : Paired before) (did : Holdings.Restated session wallet old state before after) :
    Paired after := by
  rw [did.left]
  exact paired.of_same rfl restated_owners

theorem Paired.opened {owner : UserId} {walletType : Wallet.WalletType} {currency : Currency}
    {row : WalletRow} (paired : Paired before)
    (did : Holdings.Opened session owner walletType currency before row after) : Paired after := by
  rw [did.left]
  show (before.limits ++ _).map LimitsRow.wallet = (before.wallets ++ _).map WalletRow.id
  rw [List.map_append, List.map_append, show before.limits.map LimitsRow.wallet = _ from paired]
  rfl

/-- A deed other than opening a wallet leaves limits to their wallets. -/
theorem Deed.kept_owners {kind : DeedKind} (deed : Deed session kind before after)
    (other : kind ≠ .walletOpened) :
    after.limits.map LimitsRow.wallet = before.limits.map LimitsRow.wallet := by
  have others : Table.walletLimits ∉ kind.writes →
      after.limits.map LimitsRow.wallet = before.limits.map LimitsRow.wallet :=
    fun still => congrArg _ (deed.untouched still)
  cases deed with
  | walletOpened => exact absurd rfl other
  | limitsSet did =>
    obtain ⟨_, _, written⟩ := did.written
    rw [written.left]
    exact restated_owners
  | spent did =>
    obtain ⟨_, _, written⟩ := did.written
    rw [written.left]
    exact restated_owners
  | transferred did =>
    rw [did.left]
    exact restated_owners
  | _ => exact others (by decide)

/-- **Every deed leaves every wallet its limits.** -/
theorem Deed.paired {kind : DeedKind} (deed : Deed session kind before after)
    (paired : Paired before) : Paired after := by
  by_cases opening : kind = .walletOpened
  · subst opening
    cases deed with
    | walletOpened did => exact paired.opened did
  · have wallets : after.wallets.map WalletRow.id = before.wallets.map WalletRow.id :=
      deed.keeps_wallets WalletRow.id opening (fun _ _ _ _ => rfl) (fun _ _ _ => rfl)
        (fun _ _ _ => rfl) fun _ _ _ => rfl
    exact paired.of_same wallets (deed.kept_owners opening)

end

/-- Every run leaves every wallet its limits. -/
theorem play_paired (calls : List Call) {world : World} (sound : Sound world.books)
    (paired : Paired world.books) : Paired (play calls world).books :=
  (play_preserves Paired (fun _ deed held => deed.paired held) calls sound paired).2

section

variable {books : Books} {row : WalletRow}

/-- Limits lead to a wallet. -/
theorem Paired.hasWallet (paired : Paired books) {limits : LimitsRow}
    (member : limits ∈ books.limits) : ∃ row ∈ books.wallets, row.id = limits.wallet := by
  have named : limits.wallet ∈ books.wallets.map WalletRow.id := by
    rw [← show books.limits.map LimitsRow.wallet = _ from paired]
    exact List.mem_map_of_mem member
  exact List.mem_map.mp named

/-- A wallet has limits. -/
theorem Paired.hasLimits (paired : Paired books) (member : row ∈ books.wallets) :
    ∃ limits ∈ books.limits, limits.wallet = row.id := by
  have named : row.id ∈ books.limits.map LimitsRow.wallet := by
    rw [show books.limits.map LimitsRow.wallet = _ from paired]
    exact List.mem_map_of_mem member
  exact List.mem_map.mp named

end

end Passbook.Operation
