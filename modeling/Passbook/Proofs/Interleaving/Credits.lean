/-
**External deposits are credited at most once, however their units of work take turns.**

* `Stride.completedKeys`: a credit completes the one marker of its key, and nothing else does;
* `Stride.moved`, `Stride.balanced`: balances change by the credits that are committed;
* `run_matched`: so after every run the keys of the credits are those of the completed markers;
* `run_credited_once`: the credits under a key are one if its marker is completed and none
  otherwise, and a completed marker stays.
-/

import Passbook.Proofs.Interleaving.Strides
import Passbook.Proofs.Reconciliation.Wallets

namespace Passbook.Interleaving

open Passbook.Operation
open Passbook.Payments
open Passbook.Reconciliation (Balanced Moved balanced_of_deed completedDeposits_of_credited
  completedDeposits_of_deposited moved_in moved_of_holding)
open Passbook.Store
open Passbook.Transfer (TransactionKey)

/-! ### Completed markers -/

section

variable {session : Session} {request : MovementRequest} {key : TransactionKey}
  {terms : Terms} {before after : Books} {more : List Terms}

theorem Stride.sound (stride : Stride terms before more after) (sound : Sound before) :
    Sound after := by
  cases stride with
  | still => exact sound
  | confirmed did => exact did.sound sound
  | credited did => exact did.sound sound
  | undone _ did => exact did.sound sound
  | deposited did => exact did.sound sound

/-- **A credit completes the one marker of its key, and nothing else does.** -/
theorem Stride.completedKeys (stride : Stride terms before more after) (sound : Sound before) :
    (after.completedDeposits.map DepositRow.key).Perm
      (before.completedDeposits.map DepositRow.key ++ more.map Terms.key) := by
  have quiet : after.completedDeposits = before.completedDeposits →
      (after.completedDeposits.map DepositRow.key).Perm
        (before.completedDeposits.map DepositRow.key ++ [].map Terms.key) := by
    intro same
    rw [same, List.map_nil, List.append_nil]
  cases stride with
  | still => exact quiet rfl
  | confirmed did => exact quiet ((Deed.confirmed did).quiet sound (by decide)).deposits
  | undone session did =>
    have deed : Deed session .undone before after := .undone did
    exact quiet (deed.quiet sound (by decide)).deposits
  | @credited _ _ key marker _ _ _ _ did =>
    have named := (mem_of_deposit? did.found).2
    refine ((completedDeposits_of_credited sound did).map DepositRow.key).trans ?_
    rw [List.map_cons, show (completed _ marker).key = key.text from named]
    exact (List.perm_append_singleton _ _).symm
  | deposited did =>
    rw [completedDeposits_of_deposited did, List.map_append]
    rfl

/-- A completed marker stays as it is. -/
theorem Stride.completed_subset (stride : Stride terms before more after) (sound : Sound before) :
    before.completedDeposits ⊆ after.completedDeposits := by
  cases stride with
  | still => exact List.Subset.refl _
  | confirmed did => exact ((Deed.confirmed did).persists sound).deposits
  | undone session did =>
    have deed : Deed session .undone before after := .undone did
    exact (deed.persists sound).deposits
  | credited did => exact (persists_of_credited sound did).deposits
  | deposited did => exact ((Deed.deposited did).persists sound).deposits

/-- What credits have paid into a wallet. -/
def paidIn (credits : List Terms) (wallet : WalletId) : Int :=
  total (fun credit => if credit.wallet = wallet then credit.amount.units else 0) credits

/-- **Balances change by the credits that are committed.** -/
theorem Stride.moved (stride : Stride terms before more after) (sound : Sound before) :
    Moved (paidIn more) before.wallets after.wallets := by
  have one : ∀ credit : Terms, paidIn [credit] =
      fun wallet => if credit.wallet = wallet then credit.amount.units else 0 := by
    intro credit
    funext wallet
    exact (total_cons _ _ _).trans (add_zero _)
  cases stride with
  | still => exact moved_of_holding rfl
  | confirmed did =>
    rw [did.left]
    exact moved_of_holding rfl
  | undone _ did =>
    rw [did.left]
    exact moved_of_holding rfl
  | credited did =>
    rw [did.left, one]
    exact moved_in _ sound.walletIds did.member did.named did.planned
  | deposited did =>
    rw [did.left, one]
    exact moved_in _ sound.walletIds did.member did.named did.planned

/-- The payment that a credit is. -/
def Terms.payment (credit : Terms) : WalletId × Amount := (credit.wallet, credit.amount)

/-- **Each credit is a payment**, whatever the marker tells that it completes. -/
theorem Stride.balanced {payments : List (WalletId × Amount)}
    (stride : Stride terms before more after) (sound : Sound before)
    (balanced : Balanced payments before) :
    Balanced (payments ++ more.map Terms.payment) after := by
  have none : Balanced payments after → Balanced (payments ++ [].map Terms.payment) after := by
    rw [List.map_nil, List.append_nil]
    exact id
  cases stride with
  | still => exact none balanced
  | confirmed did => exact none (balanced_of_deed (.confirmed did) sound (by decide) balanced)
  | undone session did =>
    have deed : Deed session .undone before after := .undone did
    exact none (balanced_of_deed deed sound (by decide) balanced)
  | credited did => exact balanced.credited sound did
  | deposited did => exact balanced.deposited sound did

end

/-! ### Runs -/

/-- The keys of the credits are those of the completed markers. -/
structure Matched (scene : Scene) : Prop where
  sound : Sound scene.books
  keys : (scene.credits.map Terms.key).Perm (scene.books.completedDeposits.map DepositRow.key)

theorem Matched.fresh {supply : Supply} : Matched (.fresh supply) := ⟨Sound.fresh, .refl _⟩

theorem advance_sound (scene : Scene) (move : Move) (sound : Sound scene.books) :
    Sound (advance scene move).books := by
  by_cases deposit : move.isDeposit = true
  · obtain ⟨_, _, _, stride⟩ := advance_strides scene move sound deposit
    exact stride.sound sound
  · cases move with
    | other call apart => exact (call.happened sound).sound sound
    | _ => exact absurd rfl deposit

theorem Matched.leftAlone {scene after : Scene} (matched : Matched scene)
    (alone : LeftAlone scene after) (sound : Sound after.books) : Matched after := by
  refine ⟨sound, ?_⟩
  rw [alone.credits, Books.completedDeposits, alone.markers]
  exact matched.keys

/-- **A move keeps the keys of the credits those of the completed markers.** -/
theorem Matched.advance {scene : Scene} (matched : Matched scene) (move : Move) :
    Matched (advance scene move) := by
  have sound := advance_sound scene move matched.sound
  rcases advance_cases scene move matched.sound with alone | ⟨_, _, _, _, did⟩
  · exact matched.leftAlone alone sound
  · refine ⟨sound, ?_⟩
    rw [did.credits, List.map_append]
    exact (matched.keys.append_right _).trans (did.stride.completedKeys matched.sound).symm

theorem run_matched (moves : List Move) {scene : Scene} (matched : Matched scene) :
    Matched (run moves scene) := by
  induction moves generalizing scene with
  | nil => exact matched
  | cons move rest ih => exact ih (matched.advance move)

/-- Under a key there are as many credits as completed markers, and keys are unique. -/
theorem Matched.count {scene : Scene} (matched : Matched scene) (key : String) :
    (scene.credits.map Terms.key).count key =
      if ∃ marker ∈ scene.books.deposits, marker.key = key ∧ marker.status = .completed
        then 1 else 0 := by
  have unique : (scene.books.completedDeposits.map DepositRow.key).Nodup :=
    matched.sound.depositKeys.sublist (List.filter_sublist.map _)
  have present : key ∈ scene.books.completedDeposits.map DepositRow.key ↔
      ∃ marker ∈ scene.books.deposits, marker.key = key ∧ marker.status = .completed := by
    simp only [Books.completedDeposits, List.mem_map, List.mem_filter, beq_iff_eq]
    constructor
    · rintro ⟨marker, ⟨member, status⟩, named⟩
      exact ⟨marker, member, named, status⟩
    · rintro ⟨marker, member, named, status⟩
      exact ⟨marker, ⟨member, status⟩, named⟩
  rw [matched.keys.count_eq, unique.count]
  exact if_congr present rfl rfl

theorem run_completed_subset (moves : List Move) {scene : Scene} (matched : Matched scene) :
    scene.books.completedDeposits ⊆ (run moves scene).books.completedDeposits := by
  induction moves generalizing scene with
  | nil => exact List.Subset.refl _
  | cons move rest ih =>
    refine List.Subset.trans ?_ (ih (matched.advance move))
    rcases advance_cases scene move matched.sound with alone | ⟨_, _, _, _, did⟩
    · rw [Books.completedDeposits, Books.completedDeposits, alone.markers]
      exact List.Subset.refl _
    · exact did.stride.completed_subset matched.sound

/-- **However the units of work of external deposits take turns** with one another, with plain
deposits and with other operations, and wherever a deposit is left for good, there is one credit
under a key if its marker is completed and none otherwise. A completed marker is neither removed nor
reset. The credits that are counted are those by which moves that have to do with deposits change
the balances. -/
theorem run_credited_once (supply : Supply) (moves : List Move) :
    (∀ key, ((run moves (.fresh supply)).credits.map Terms.key).count key =
      if ∃ marker ∈ (run moves (.fresh supply)).books.deposits,
        marker.key = key ∧ marker.status = .completed then 1 else 0) ∧
    (∀ later, (run moves (.fresh supply)).books.completedDeposits ⊆
      (run (moves ++ later) (.fresh supply)).books.completedDeposits) ∧
    ∀ move : Move, move.isDeposit → Moved
      (fun wallet => paidIn (run (moves ++ [move]) (.fresh supply)).credits wallet -
        paidIn (run moves (.fresh supply)).credits wallet)
      (run moves (.fresh supply)).books.wallets
      (run (moves ++ [move]) (.fresh supply)).books.wallets := by
  have matched := run_matched moves (@Matched.fresh supply)
  refine ⟨matched.count, fun later => ?_, fun move deposit => ?_⟩
  · rw [run_append]
    exact run_completed_subset later matched
  · have last : run (moves ++ [move]) (.fresh supply) = advance (run moves (.fresh supply)) move :=
      run_append moves [move] (.fresh supply)
    obtain ⟨_, more, credits, stride⟩ := advance_strides _ move matched.sound deposit
    have share : (fun wallet => paidIn ((run moves (.fresh supply)).credits ++ more) wallet -
        paidIn (run moves (.fresh supply)).credits wallet) = paidIn more := by
      funext wallet
      rw [paidIn, total_append]
      exact add_sub_cancel_left _ _
    rw [last, credits, share]
    exact stride.moved matched.sound

/-- A wallet is opened. -/
def sampleOpening (owner : UserId) : Move :=
  .other (.command sampleSession (.createWallet owner .main "USD")) rfl

/-- Two external deposits are confirmed under one key. -/
def sampleTurns : List Move :=
  [sampleOpening (sampleOwner 7),
    .confirm sampleSession (sampleDeposit "first"),
    .confirm sampleSession (sampleDeposit " first ")]

/-- The second of them pays a hundred into the wallet, and the first pays nothing more. -/
theorem run_credited_once_turns :
    ((run (sampleTurns ++ [.credit 1 sampleSession, .credit 0 sampleSession]) .fresh).credits.map
        Terms.key).count "first" = 1 ∧
      paidIn (run (sampleTurns ++ [.credit 1 sampleSession]) .fresh).credits sampleWallet = 100 ∧
      Moved (fun wallet =>
          paidIn (run (sampleTurns ++ [.credit 1 sampleSession]) .fresh).credits wallet -
            paidIn (run sampleTurns .fresh).credits wallet)
        (run sampleTurns .fresh).books.wallets
        (run (sampleTurns ++ [.credit 1 sampleSession]) .fresh).books.wallets := by
  have credited := run_credited_once .ascending sampleTurns
  refine ⟨?_, by decide, credited.2.2 (.credit 1 sampleSession) rfl⟩
  rw [(run_credited_once .ascending _).1]
  exact if_pos (by decide)

end Passbook.Interleaving
