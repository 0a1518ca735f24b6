/-
**What is held of wallets agrees with the holds and releases.**

* `aside`: what is held of a wallet, over unbounded integers; `earmarked`: what an operation that
  has answered sets aside of a wallet, a release less than nothing;
* `Deed.aside`: only placing and releasing holds changes what is held, and they change it by their
  amount (`aside_of_held`, `aside_of_released`). In particular no movement of money does;
* `play_aside`: so after every run what is held of a wallet is what the holds of the run have set
  aside less what its releases have made available again.
-/

import Passbook.Proofs.Operation.Paired

namespace Passbook.Reconciliation

open Passbook.Holdings (rebalanced)
open Passbook.Operation
open Passbook.Store
open Passbook.Wallet (WalletBalance)

/-! ### What is held -/

/-- What is held of a wallet. -/
def heldUnits (row : WalletRow) : Int := row.balance.balance.units - row.balance.available.units

/-- A wallet and what is held of it. -/
def heldPart (row : WalletRow) : WalletId × Int := (row.id, heldUnits row)

/-- What is held of the wallet of an identifier. -/
def aside (wallets : List WalletRow) (wallet : WalletId) : Int :=
  total (fun row => if row.id = wallet then heldUnits row else 0) wallets

/-- What an operation that has answered sets aside of a wallet. -/
def earmarked (wallet : WalletId) : Call × Except Failure Answer → Int
  | (.command _ (.placeHold id amount), .ok _) => if id = wallet then amount.units else 0
  | (.command _ (.releaseHold id amount), .ok _) => if id = wallet then -amount.units else 0
  | _ => 0

section

variable {session : Session} {before after : Books} {wallets : List WalletRow}

/-- Where identifiers are unique, what is held of a wallet is what its row says. -/
theorem aside_of_mem (unique : (wallets.map WalletRow.id).Nodup) {row : WalletRow}
    (member : row ∈ wallets) : aside wallets row.id = heldUnits row :=
  total_at_key heldUnits unique member

/-- Wallets of which the same is held. -/
theorem aside_congr {wallets' : List WalletRow}
    (same : wallets'.map heldPart = wallets.map heldPart) (wallet : WalletId) :
    aside wallets' wallet = aside wallets wallet := by
  have parts : ∀ rows, aside rows wallet =
      total (fun part => if part.1 = wallet then part.2 else 0) (rows.map heldPart) := by
    intro rows
    rw [total_map]
    rfl
  rw [parts, parts, same]

/-- A wallet of which something else is held changes what is held of it by the difference. -/
theorem aside_altered {id : WalletId} {alter : WalletRow → WalletRow} {old : WalletRow}
    (sound : Sound before) (did : Holdings.Revised id alter old before after)
    (sameId : (alter old).id = old.id) (wallet : WalletId) :
    aside after.wallets wallet = aside before.wallets wallet +
      if id = wallet then heldUnits (alter old) - heldUnits old else 0 := by
  rw [did.left, ← did.named]
  show total _ (altered _ _ _ _) = total _ _ + _
  rw [total_altered _ sound.walletIds did.member, sameId]
  by_cases own : old.id = wallet
  · simp only [if_pos own]
  · simp only [if_neg own, sub_zero]

/-- A wallet of which the same is held stays so. -/
theorem aside_revised {id : WalletId} {alter : WalletRow → WalletRow} {old : WalletRow}
    (sound : Sound before) (did : Holdings.Revised id alter old before after)
    (keeps : heldPart (alter old) = heldPart old) (wallet : WalletId) :
    aside after.wallets wallet = aside before.wallets wallet := by
  refine aside_congr ?_ wallet
  rw [did.left, ← did.named]
  exact map_altered_row heldPart sound.walletIds did.member keeps

theorem aside_of_held {id : WalletId} {amount : Amount} {balance : WalletBalance}
    (sound : Sound before) (did : Holdings.Held session id amount before balance after)
    (wallet : WalletId) : aside after.wallets wallet = aside before.wallets wallet +
      if id = wallet then amount.units else 0 := by
  obtain ⟨old, _, held, revised⟩ := did.revised
  obtain ⟨_, _, same, available⟩ := WalletBalance.hold_eq_ok.mp held
  have more : heldUnits (rebalanced session.now balance old) - heldUnits old = amount.units := by
    show balance.balance.units - balance.available.units - (old.balance.balance.units -
      old.balance.available.units) = _
    rw [same, available]
    omega
  rw [aside_altered sound revised rfl, more]

theorem aside_of_released {id : WalletId} {amount : Amount} {balance : WalletBalance}
    (sound : Sound before) (did : Holdings.Released session id amount before balance after)
    (wallet : WalletId) : aside after.wallets wallet = aside before.wallets wallet +
      if id = wallet then -amount.units else 0 := by
  obtain ⟨old, released, revised⟩ := did.revised
  obtain ⟨_, _, same, available⟩ := WalletBalance.release_eq_ok.mp released
  have less : heldUnits (rebalanced session.now balance old) - heldUnits old = -amount.units := by
    show balance.balance.units - balance.available.units - (old.balance.balance.units -
      old.balance.available.units) = _
    rw [same, available]
    omega
  rw [aside_altered sound revised rfl, less]

/-! ### Deeds -/

theorem heldPart_credit {now : Calendar.Instant} {row : WalletRow} {amount : Amount}
    {balance : WalletBalance} (credited : row.balance.credit amount = .ok balance) :
    heldPart (rebalanced now balance row) = heldPart row := by
  obtain ⟨_, into, available⟩ := WalletBalance.credit_eq_ok.mp credited
  refine Prod.ext rfl ?_
  show balance.balance.units - balance.available.units = heldUnits row
  rw [into, available, heldUnits]
  omega

theorem heldPart_debit {now : Calendar.Instant} {row : WalletRow} {amount : Amount}
    {balance : WalletBalance} (debited : row.balance.debit amount = .ok balance) :
    heldPart (rebalanced now balance row) = heldPart row := by
  obtain ⟨_, _, out, available⟩ := WalletBalance.debit_eq_ok.mp debited
  refine Prod.ext rfl ?_
  show balance.balance.units - balance.available.units = heldUnits row
  rw [out, available, heldUnits]
  omega

/-- A wallet with another balance of which the same is held stays so. -/
theorem map_heldPart {now : Calendar.Instant} {row : WalletRow} {id : WalletId}
    {balance : WalletBalance} (unique : (wallets.map WalletRow.id).Nodup) (member : row ∈ wallets)
    (named : row.id = id) (keeps : heldPart (rebalanced now balance row) = heldPart row) :
    (altered WalletRow.id id (rebalanced now balance) wallets).map heldPart =
      wallets.map heldPart := by
  rw [← named]
  exact map_altered_row heldPart unique member keeps

/-- Another balance leaves a wallet its identifier. -/
theorem rebalanced_ids {id : WalletId} {now : Calendar.Instant} {balance : WalletBalance} :
    (altered WalletRow.id id (rebalanced now balance) wallets).map WalletRow.id =
      wallets.map WalletRow.id :=
  map_altered WalletRow.id fun _ => rfl

theorem aside_of_transferred {request : Payments.TransferRequest} {key : Transfer.TransactionKey}
    {source destination : WalletRow} {plan : Transfer.TransferPlan} {limits : LimitsRow}
    {state : Limits.LimitState} (sound : Sound before)
    (did : Payments.Transferred session request key source destination plan limits state
      before after) (wallet : WalletId) :
    aside after.wallets wallet = aside before.wallets wallet := by
  obtain ⟨apart, _, _, _, debited, credited⟩ := Transfer.planTransfer_eq_ok.mp did.planned
  have different : destination.id ≠ request.source := fun same =>
    apart (did.sourceNamed.trans same.symm)
  have unique : ((altered WalletRow.id request.source (rebalanced session.now plan.source)
      before.wallets).map WalletRow.id).Nodup := by
    rw [rebalanced_ids]
    exact sound.walletIds
  refine aside_congr ?_ wallet
  rw [did.left]
  simp only
  rw [map_heldPart unique (mem_altered_of_ne did.destinationMember different) did.destinationNamed
      (heldPart_credit credited),
    map_heldPart sound.walletIds did.sourceMember did.sourceNamed (heldPart_debit debited)]

/-- Of a wallet that is opened nothing is held. -/
theorem aside_of_opened {owner : UserId} {walletType : Wallet.WalletType} {currency : Currency}
    {row : WalletRow} (did : Holdings.Opened session owner walletType currency before row after)
    (wallet : WalletId) : aside after.wallets wallet = aside before.wallets wallet := by
  obtain ⟨_, _, new⟩ := did.issued
  have none : heldUnits row = 0 := by
    rw [new]
    rfl
  rw [did.left]
  show total _ (before.wallets ++ _) = total _ _
  rw [total_append, total_cons, total_nil, none, ite_self, add_zero, add_zero]

/-- **Only placing and releasing holds changes what is held.** -/
theorem Deed.aside {kind : DeedKind} (deed : Deed session kind before after)
    (sound : Sound before) (other : kind ∉ [DeedKind.held, .released]) (wallet : WalletId) :
    Reconciliation.aside after.wallets wallet = Reconciliation.aside before.wallets wallet := by
  have others : Table.wallets ∉ kind.writes →
      Reconciliation.aside after.wallets wallet = Reconciliation.aside before.wallets wallet :=
    fun still => congrArg (Reconciliation.aside · wallet) (deed.untouched still)
  cases deed with
  | walletOpened did => exact aside_of_opened did wallet
  | statusSet _ _ _ did => exact aside_revised sound did rfl wallet
  | closed did =>
    obtain ⟨_, _, _, _, revised⟩ := did.revised
    exact aside_revised sound revised rfl wallet
  | held _ => exact absurd (by decide) other
  | released _ => exact absurd (by decide) other
  | linked did =>
    obtain ⟨_, revised⟩ := did.revised
    exact aside_revised sound revised rfl wallet
  | transferred did => exact aside_of_transferred sound did wallet
  | deposited did =>
    obtain ⟨_, credited⟩ := Transfer.planDeposit_eq_ok.mp did.planned
    rw [did.left]
    exact aside_congr (map_heldPart sound.walletIds did.member did.named
      (heldPart_credit credited)) wallet
  | withdrawn did =>
    obtain ⟨_, debited⟩ := Transfer.planWithdrawal_eq_ok.mp did.planned
    rw [did.left]
    exact aside_congr (map_heldPart sound.walletIds did.member did.named
      (heldPart_debit debited)) wallet
  | credited _ _ did =>
    obtain ⟨_, credited⟩ := Transfer.planDeposit_eq_ok.mp did.planned
    rw [did.left]
    exact aside_congr (map_heldPart sound.walletIds did.member did.named
      (heldPart_credit credited)) wallet
  | _ => exact others (by decide)

end

/-! ### Operations and runs -/

/-- A hold or a release that ends with a balance changes what is held by its amount, and one that is
refused does not. -/
theorem aside_of_ends {action : Action (Halt Holdings.HoldingError) WalletBalance}
    {change : Books → WalletBalance → Books → Prop} {wallet : WalletId} {amount : Int}
    (ends : Action.Ends action (Action.Leaves change fun _ => []))
    (changed : ∀ {before balance after}, Sound before → change before balance after →
      aside after.wallets wallet = aside before.wallets wallet + amount)
    {world : World} (sound : Sound world.books) :
    aside (ofHold action world).2.books.wallets wallet = aside world.books.wallets wallet +
      if (ofHold action world).1.toBool then amount else 0 := by
  rcases ends world with ⟨cause, same⟩ | ⟨balance, after, same, left⟩
  · rw [ofHold, answering_run, same]
    exact (add_zero _).symm
  · rw [ofHold, answering_run, same]
    exact changed sound (left.changed sound)

/-- **An operation changes what is held of a wallet by what it sets aside of it.** -/
theorem Call.aside (call : Call) {world : World} (sound : Sound world.books) (wallet : WalletId) :
    Reconciliation.aside (call.run world).2.books.wallets wallet =
      Reconciliation.aside world.books.wallets wallet +
        earmarked wallet (call, (call.run world).1) := by
  have quiet : (∀ kind ∈ call.kinds, kind ∉ [DeedKind.held, .released]) →
      earmarked wallet (call, (call.run world).1) = 0 →
        Reconciliation.aside (call.run world).2.books.wallets wallet =
          Reconciliation.aside world.books.wallets wallet +
            earmarked wallet (call, (call.run world).1) := by
    intro others none
    rw [none, add_zero]
    exact ((call.happened sound).preserves
      (fun books => Reconciliation.aside books.wallets wallet =
        Reconciliation.aside world.books.wallets wallet)
      (fun allowed sound deed same =>
        (Deed.aside deed sound (others _ allowed) wallet).trans same) sound rfl).2
  cases call with
  | command session wanted =>
    cases wanted with
    | placeHold id amount =>
      have changed := aside_of_ends (Holdings.placeHold_ends session id amount)
        (fun sound did => aside_of_held sound did wallet) sound
      refine changed.trans (congrArg _ ?_)
      show _ = earmarked wallet (_, (ofHold (Holdings.placeHold session id amount) world).1)
      cases (ofHold (Holdings.placeHold session id amount) world).1 <;> rfl
    | releaseHold id amount =>
      have changed := aside_of_ends (Holdings.releaseHold_ends session id amount)
        (fun sound did => aside_of_released sound did wallet) sound
      refine changed.trans (congrArg _ ?_)
      show _ = earmarked wallet (_, (ofHold (Holdings.releaseHold session id amount) world).1)
      cases (ofHold (Holdings.releaseHold session id amount) world).1 <;> rfl
    | _ => exact quiet (by simp [Call.kinds, Command.kinds]) rfl
  | _ => exact quiet (by simp [Call.kinds]) rfl

/-- **A run changes what is held of a wallet by what its operations set aside of it.** -/
theorem play_aside (calls : List Call) {world : World} (sound : Sound world.books)
    (wallet : WalletId) :
    aside (play calls world).books.wallets wallet =
      aside world.books.wallets wallet + total (earmarked wallet) (history calls world) := by
  induction calls generalizing world with
  | nil => exact (add_zero _).symm
  | cons call rest ih =>
    rw [play, history, total_cons, ih ((call.happened sound).sound sound), Call.aside call sound]
    omega

/-- After a run from fresh books what is held of a wallet is what was set aside of it. -/
theorem heldUnits_of_play (supply : Supply) (calls : List Call) {row : WalletRow}
    (member : row ∈ (play calls (.fresh supply)).books.wallets) :
    heldUnits row = total (earmarked row.id) (history calls (.fresh supply)) := by
  have start : Sound (World.fresh supply).books := Sound.fresh
  have held := play_aside calls start row.id
  rw [aside_of_mem (play_sound calls start).walletIds member] at held
  exact held.trans (zero_add _)

end Passbook.Reconciliation
