/-
**Wallets as events tell of them.**

* `Replica`: of a wallet, its owner, its currency, what it holds and its status;
* `replayed`: the replicas after one more event, which has to fit them: a wallet is created once,
  money moves between active wallets of one currency out of what they hold, and a status that
  changes is the one that stood;
* `replay`: the replicas after events one after another, from nothing;
* `replayed_of_announced`: what is made known of a deed leads from the replicas of the wallets
  before it to those of the wallets after it;
* `play_replay`: so the events of a run from fresh books lead to the replicas of the wallets that it
  leaves.
-/

import Passbook.Proofs.Operation.Frame
import Passbook.Proofs.Operation.Run

namespace Passbook.Publication

open Passbook.Holdings (rebalanced)
open Passbook.Operation
open Passbook.Store
open Passbook.Wallet (WalletBalance WalletStatus)

/-! ### Replaying events -/

/-- A wallet as events tell of it. -/
structure Replica where
  wallet : WalletId
  owner : UserId
  currency : String
  /-- What the wallet holds, in minor units. -/
  units : Int
  status : WalletStatus
deriving DecidableEq

namespace Replica

/-- The replica of a wallet in the books. -/
def of (row : WalletRow) : Replica :=
  ⟨row.id, row.owner, row.currency, row.balance.balance.units, row.status⟩

/-- Money may come into an active wallet. -/
def takes (replica : Replica) : Bool := replica.status == .active

/-- Money may leave an active wallet that holds it. -/
def gives (amount : Amount) (replica : Replica) : Bool :=
  replica.takes && decide (amount.units ≤ replica.units)

/-- A replica that holds so many minor units more. -/
def moved (units : Int) (replica : Replica) : Replica :=
  { replica with units := replica.units + units }

/-- A replica under another status. -/
def under (status : WalletStatus) (replica : Replica) : Replica := { replica with status := status }

end Replica

/-- The replicas with that of one wallet altered, if it is there and fit for it. -/
def change (wallet : WalletId) (fit : Replica → Bool) (alter : Replica → Replica)
    (replicas : List Replica) : Option (List Replica) :=
  if replicas.any fun replica => replica.wallet == wallet && fit replica then
    some (altered Replica.wallet wallet alter replicas)
  else none

/-- The replicas after one more event, if it fits them. -/
def replayed (replicas : List Replica) : Event → Option (List Replica)
  | .walletCreated wallet owner currency =>
    if replicas.any fun replica => replica.wallet == wallet then none
    else some (replicas ++ [⟨wallet, owner, currency, 0, .active⟩])
  | .depositCompleted _ wallet amount _ =>
    change wallet Replica.takes (Replica.moved amount.units) replicas
  | .withdrawalCompleted _ wallet amount _ =>
    change wallet (Replica.gives amount) (Replica.moved (-amount.units)) replicas
  | .transferCompleted _ source destination amount currency _ => do
    let replicas ← change source
      (fun replica => replica.gives amount && replica.currency == currency)
      (Replica.moved (-amount.units)) replicas
    change destination (fun replica => replica.takes && replica.currency == currency)
      (Replica.moved amount.units) replicas
  | .walletStatusChanged wallet before after =>
    change wallet (fun replica => replica.status == before) (Replica.under after) replicas
  | .entryPosted _ _ => some replicas
  | .entryReversed _ _ => some replicas

/-- The replicas after events one after another, from nothing. -/
def replay (events : List Event) : Option (List Replica) := events.foldlM replayed []

/-! ### What is made known of deeds -/

section Change

variable {rows : List WalletRow} {id : WalletId} {old : WalletRow} {alter : WalletRow → WalletRow}
  {fit : Replica → Bool} {alter' : Replica → Replica}

/-- Where one wallet is altered, its replica is altered with it. -/
theorem change_of_altered (unique : (rows.map WalletRow.id).Nodup) (member : old ∈ rows)
    (named : old.id = id) (fits : fit (.of old) = true)
    (same : Replica.of (alter old) = alter' (.of old)) :
    change id fit alter' (rows.map .of) = some ((altered WalletRow.id id alter rows).map .of) := by
  have there : (rows.map Replica.of).any (fun replica => replica.wallet == id && fit replica) =
      true :=
    List.any_eq_true.mpr ⟨_, List.mem_map_of_mem member,
      Bool.and_eq_true_iff.mpr ⟨beq_iff_eq.mpr named, fits⟩⟩
  rw [change, if_pos there, altered, altered, List.map_map, List.map_map]
  refine congrArg some (List.map_congr_left fun row present => ?_)
  by_cases chosen : row.id = id
  · obtain rfl := eq_of_key unique present member (chosen.trans named.symm)
    show (if row.id = id then _ else _) = Replica.of (if row.id = id then _ else _)
    rw [if_pos chosen, if_pos chosen, same]
  · show (if row.id = id then _ else _) = Replica.of (if row.id = id then _ else _)
    rw [if_neg chosen, if_neg chosen]

/-- A wallet that is altered otherwise keeps its replica. -/
theorem replicas_of_revised {before after : Books} (sound : Sound before)
    (did : Holdings.Revised id alter old before after) (same : Replica.of (alter old) = .of old) :
    after.wallets.map Replica.of = before.wallets.map .of := by
  rw [did.left, ← did.named]
  exact map_altered_row Replica.of sound.walletIds did.member same

theorem moved_of_rebalanced (now : Calendar.Instant) {balance : WalletBalance} {units : Int}
    (is : balance.balance.units = old.balance.balance.units + units) :
    Replica.of (rebalanced now balance old) = Replica.moved units (.of old) := by
  simp [Replica.of, Replica.moved, rebalanced, is]

end Change

section Deeds

variable {session : Session} {before after : Books}

/-- Deeds that are not made known leave every wallet its replica. -/
theorem replicas_of_silent {kind : DeedKind} (deed : Deed session kind before after)
    (sound : Sound before) (silent : kind.isAnnounced = false) :
    after.wallets.map Replica.of = before.wallets.map .of := by
  have others : Table.wallets ∉ kind.writes →
      after.wallets.map Replica.of = before.wallets.map .of := fun other =>
    congrArg _ (deed.untouched other)
  cases deed with
  | held did =>
    obtain ⟨old, _, held, revised⟩ := did.revised
    have same := (WalletBalance.hold_eq_ok.mp held).2.2.1
    exact replicas_of_revised sound revised (by simp [Replica.of, rebalanced, same])
  | released did =>
    obtain ⟨old, released, revised⟩ := did.revised
    have same := (WalletBalance.release_eq_ok.mp released).2.2.1
    exact replicas_of_revised sound revised (by simp [Replica.of, rebalanced, same])
  | linked did =>
    obtain ⟨_, revised⟩ := did.revised
    exact replicas_of_revised sound revised rfl
  | posted _ | reversed _ | walletOpened _ | statusSet _ _ _ _ | closed _ => cases silent
  | transferred _ | deposited _ | withdrawn _ | credited _ _ _ => cases silent
  | _ => exact others (by decide)

theorem replayed_of_opened {owner : UserId} {walletType : Wallet.WalletType} {currency : Currency}
    {row : WalletRow} (did : Holdings.Opened session owner walletType currency before row after) :
    replayed (before.wallets.map .of) (.walletCreated row.id owner row.currency) =
      some (after.wallets.map .of) := by
  have absent : ((before.wallets.map Replica.of).any fun replica => replica.wallet == row.id) =
      false := by
    rw [List.any_eq_false]
    rintro _ member same
    obtain ⟨other, present, rfl⟩ := List.mem_map.mp member
    exact did.newId other present (eq_of_beq same)
  obtain ⟨_, _, is⟩ := did.issued
  have new : Replica.of row = ⟨row.id, owner, row.currency, 0, .active⟩ := by
    rw [is]
    rfl
  have wallets : after.wallets = before.wallets ++ [row] := by rw [did.left]
  rw [replayed, absent, if_neg Bool.false_ne_true, wallets, List.map_append, ← new]
  rfl

/-- Money comes into an active wallet. -/
theorem replayed_of_credit {id : WalletId} {old : WalletRow} {amount : Amount}
    {balance : WalletBalance} (now : Calendar.Instant) (sound : Sound before)
    (member : old ∈ before.wallets) (named : old.id = id)
    (planned : Transfer.planDeposit old.snapshot amount = .ok balance) :
    change id Replica.takes (Replica.moved amount.units) (before.wallets.map .of) =
      some ((altered WalletRow.id id (rebalanced now balance) before.wallets).map .of) := by
  obtain ⟨active, credited⟩ := Transfer.planDeposit_eq_ok.mp planned
  have units := (WalletBalance.credit_eq_ok.mp credited).2.1
  exact change_of_altered sound.walletIds member named (beq_iff_eq.mpr active)
    (moved_of_rebalanced now units)

/-- A wallet holds what is debited from it. -/
theorem gives_of_debit {old : WalletRow} {amount : Amount} {balance : WalletBalance}
    (sound : Sound before) (member : old ∈ before.wallets) (active : old.status = .active)
    (debited : old.balance.debit amount = .ok balance) :
    (Replica.of old).gives amount = true := by
  have enough := (WalletBalance.debit_eq_ok.mp debited).2.1
  have within := (sound.fits old member).2
  simp only [Replica.gives, Replica.takes, Replica.of, active, beq_self_eq_true, Bool.true_and,
    decide_eq_true_eq]
  omega

/-- A debit takes its amount out of what a wallet holds. -/
theorem moved_of_debit (now : Calendar.Instant) {old : WalletRow} {amount : Amount}
    {balance : WalletBalance} (debited : old.balance.debit amount = .ok balance) :
    Replica.of (rebalanced now balance old) = Replica.moved (-amount.units) (.of old) :=
  moved_of_rebalanced now
    ((WalletBalance.debit_eq_ok.mp debited).2.2.1.trans Int.sub_eq_add_neg)

theorem replayed_of_withdrawn {request : Payments.MovementRequest} {key : Transfer.TransactionKey}
    {wallet : WalletRow} {balance : WalletBalance} (sound : Sound before)
    (did : Payments.Withdrawn session request key wallet balance before after) :
    change request.wallet (Replica.gives request.amount) (Replica.moved (-request.amount.units))
      (before.wallets.map .of) = some (after.wallets.map .of) := by
  obtain ⟨active, debited⟩ := Transfer.planWithdrawal_eq_ok.mp did.planned
  rw [did.left]
  exact change_of_altered sound.walletIds did.member did.named
    (gives_of_debit sound did.member active debited) (moved_of_debit session.now debited)

/-- Money goes from one wallet to another of its currency. -/
theorem replayed_of_transferred {request : Payments.TransferRequest}
    {key : Transfer.TransactionKey} {source destination : WalletRow} {plan : Transfer.TransferPlan}
    {limits : LimitsRow} {state : Limits.LimitState} (sound : Sound before)
    (did : Payments.Transferred session request key source destination plan limits state
      before after) :
    replayed (before.wallets.map .of) (.transferCompleted key.text request.source
      request.destination request.amount source.currency session.now) =
        some (after.wallets.map .of) := by
  obtain ⟨apart, active, active', currency, debited, credited⟩ :=
    Transfer.planTransfer_eq_ok.mp did.planned
  have different : destination.id ≠ request.source := by
    rw [← did.sourceNamed]
    exact fun same => apart same.symm
  have unique : ((altered WalletRow.id request.source (rebalanced session.now plan.source)
      before.wallets).map WalletRow.id).Nodup := by
    have same : (altered WalletRow.id request.source (rebalanced session.now plan.source)
        before.wallets).map WalletRow.id = before.wallets.map WalletRow.id :=
      map_altered WalletRow.id fun _ => rfl
    rw [same]
    exact sound.walletIds
  have taken : change request.source
      (fun replica => replica.gives request.amount && replica.currency == source.currency)
      (Replica.moved (-request.amount.units)) (before.wallets.map .of) = some _ :=
    change_of_altered sound.walletIds did.sourceMember did.sourceNamed
      (Bool.and_eq_true_iff.mpr
        ⟨gives_of_debit sound did.sourceMember active debited, beq_self_eq_true _⟩)
      (moved_of_debit session.now debited)
  have given : change request.destination
      (fun replica => replica.takes && replica.currency == source.currency)
      (Replica.moved request.amount.units) _ = some _ :=
    change_of_altered unique (mem_altered_of_ne did.destinationMember different)
      did.destinationNamed
      (Bool.and_eq_true_iff.mpr ⟨beq_iff_eq.mpr active', beq_iff_eq.mpr currency.symm⟩)
      (moved_of_rebalanced session.now (WalletBalance.credit_eq_ok.mp credited).2.1)
  rw [did.left, replayed, taken]
  exact given

/-- **What is made known of a deed leads from the replicas of the wallets before it to those of the
wallets after it.** -/
theorem replayed_of_announced {kind : DeedKind} {events : List Event} (sound : Sound before)
    (announced : Announced session kind before events after) :
    events.foldlM replayed (before.wallets.map .of) = some (after.wallets.map .of) := by
  have one : ∀ {event}, replayed (before.wallets.map .of) event = some (after.wallets.map .of) →
      [event].foldlM replayed (before.wallets.map .of) = some (after.wallets.map .of) := by
    intro event is
    rw [List.foldlM_cons, is]
    rfl
  have still : Deed session kind before after → Table.wallets ∉ kind.writes →
      some (before.wallets.map Replica.of) = some (after.wallets.map .of) := fun deed other =>
    congrArg (fun rows => some (List.map Replica.of rows)) (deed.untouched other).symm
  cases announced with
  | posted did => exact still (.posted did) (by decide)
  | reversed did => exact still (.reversed did) (by decide)
  | walletOpened did => exact one (replayed_of_opened did)
  | statusSet _ _ _ did =>
    refine one ?_
    rw [did.left]
    exact change_of_altered sound.walletIds did.member did.named (beq_self_eq_true _) rfl
  | closed did =>
    obtain ⟨old, was, _, _, revised⟩ := did.revised
    refine one ?_
    rw [was, revised.left]
    exact change_of_altered sound.walletIds revised.member revised.named (beq_self_eq_true _) rfl
  | transferred did => exact one (replayed_of_transferred sound did)
  | deposited did =>
    refine one ?_
    rw [did.left]
    exact replayed_of_credit session.now sound did.member did.named did.planned
  | withdrawn did => exact one (replayed_of_withdrawn sound did)
  | credited _ _ did =>
    refine one ?_
    rw [did.left]
    exact replayed_of_credit session.now sound did.member did.named did.planned
  | unannounced deed silent => exact congrArg some (replicas_of_silent deed sound silent).symm

end Deeds

/-- The events of a run from fresh books lead to the replicas of the wallets that it leaves. -/
theorem play_replay (supply : Supply) (calls : List Call) :
    replay (play calls (.fresh supply)).published =
      some ((play calls (.fresh supply)).books.wallets.map .of) :=
  play_tells (fun books published => replay published = some (books.wallets.map .of))
    (fun sound announced replayed => by
      rw [replay, List.foldlM_append, ← replay, replayed]
      exact replayed_of_announced sound announced)
    calls Sound.fresh rfl

end Passbook.Publication
