/-
**No wallet is without limits.**

* `HoldingError.lacksLimits`, `Payments.lacksLimits`: a wallet had no limits to go by;
* `getLimits_limited`, `updateLimits_limited`: where every wallet has its limits, those of a wallet
  that is there are read and set without that failure;
* `processTransfer_limited`: and no transfer ends in it, since both wallets are taken before the
  limits are looked at.
-/

import Passbook.Proofs.Operation.Paired

namespace Passbook.Holdings

/-- A wallet had no limits to go by. -/
def HoldingError.lacksLimits : HoldingError → Bool
  | .limitsNotFound _ => true
  | _ => false

end Passbook.Holdings

namespace Passbook.Payments

/-- The same of the end of a movement. -/
def lacksLimits : Halt PaymentError → Bool
  | .refused (.holding cause) => cause.lacksLimits
  | _ => false

end Passbook.Payments

namespace Passbook.Operation

open Passbook.Holdings (HoldingError)
open Passbook.Payments (PaymentError TransferRequest)
open Passbook.Store
open Passbook.Verdict (FailsOnly)

/-- A cause in keeping wallets other than the want of limits. -/
abbrev Limited (cause : HoldingError) : Prop := cause.lacksLimits = false

/-- The end of a movement for any other reason than the want of limits. -/
abbrev Unhampered (halt : Halt PaymentError) : Prop := Payments.lacksLimits halt = false

variable {session : Session} {books : Books} {row : WalletRow}

/-! ### Limits by themselves -/

theorem unreachable_limited : Limited (StorageCause.ofFault .unreachable) := rfl

theorem lockLimits_limited (sound : Sound books) (paired : Paired books)
    (member : row ∈ books.wallets) : FailsOnly Limited (Holdings.lockLimits row.id books) := by
  refine Work.failsOnly_found_lookUp sound.plain fun missing => ?_
  obtain ⟨limits, member, same⟩ := paired.hasLimits member
  have found := limits?_of_mem sound.plain sound.limitsWallets member
  rw [same, missing] at found
  cases found

theorem saveLimits_limited {wallet : WalletId} {state : Limits.LimitState} :
    FailsOnly Limited (Holdings.saveLimits session wallet state books) :=
  Work.failsOnly_stored fun _ _ => rfl

theorem reserve_limited (sound : Sound books) (paired : Paired books)
    (member : row ∈ books.wallets) (amount : Amount) :
    FailsOnly Limited (Holdings.reserve session row.id amount books) := by
  refine Work.failsOnly_bind (lockLimits_limited sound paired member) fun _ _ _ => ?_
  refine Work.failsOnly_bind (Work.failsOnly_verdict (FailsOnly.mapError fun _ _ => rfl))
    fun _ _ _ => ?_
  exact Work.failsOnly_bind saveLimits_limited fun _ _ _ => Work.failsOnly_pure _

theorem updateLimits_limited {world : World} (sound : Sound world.books)
    (paired : Paired world.books) (member : row ∈ world.books.wallets) (daily monthly : Amount) :
    FailsOnly Limited (Holdings.updateLimits session row.id daily monthly world).1 := by
  refine Action.failsOnly_after (.verdict _)
    (Action.failsOnly_verdict (FailsOnly.mapError fun _ _ => rfl)) fun _ _ judged => ?_
  obtain ⟨_, rfl⟩ := judged
  refine Action.failsOnly_atomically unreachable_limited ?_
  refine Work.failsOnly_bind (lockLimits_limited sound paired member) fun _ _ _ => ?_
  exact Work.failsOnly_bind saveLimits_limited fun _ _ _ => Work.failsOnly_pure _

theorem getLimits_limited {world : World} (sound : Sound world.books)
    (paired : Paired world.books) (member : row ∈ world.books.wallets) :
    FailsOnly Limited (Holdings.getLimits session row.id world).1 := by
  obtain ⟨limits, member, same⟩ := paired.hasLimits member
  have found := limits?_of_mem sound.plain sound.limitsWallets member
  refine Action.failsOnly_after (.lookUp session limitsSheet _)
    (Action.failsOnly_lookUp sound.plain unreachable_limited) fun looked _ looks => ?_
  refine Action.failsOnly_bind (Action.failsOnly_found fun missing => ?_) fun _ _ _ => .ok _
  obtain ⟨is, _⟩ := looks
  rw [missing, ← same, found] at is
  cases is

/-! ### Transfers -/

theorem held_unhampered {α : Type} {work : Work HoldingError α}
    (fails : FailsOnly Limited (work books)) :
    FailsOnly Unhampered (Payments.held work books) :=
  Work.failsOnly_mapError (fails.mono fun _ limited => limited)

theorem stored_unhampered {α : Type} {work : Work StorageFault α} :
    FailsOnly Unhampered ((Work.stored work : Payments.PaymentWork α) books) :=
  Work.failsOnly_stored fun _ _ => rfl

theorem lockWallet_limited (id : WalletId) : FailsOnly Limited (Holdings.lockWallet id books) :=
  Work.failsOnly_bind (Work.failsOnly_stored fun _ _ => rfl) fun _ _ _ =>
    Work.failsOnly_found fun _ => rfl

theorem moveBetween_unhampered (sound : Sound books) (paired : Paired books)
    (request : TransferRequest) (key : Transfer.TransactionKey) :
    FailsOnly Unhampered (Payments.moveBetween session request key books) := by
  refine Work.failsOnly_bind (Work.failsOnly_verdict (FailsOnly.mapError fun _ _ => rfl))
    fun _ _ checked => ?_
  obtain ⟨_, rfl⟩ := Payments.judged_eq_ok.mp checked
  by_cases same : request.source = request.destination
  · rw [if_pos same]
    exact .error rfl
  rw [if_neg same]
  have locks : FailsOnly Unhampered
      (Payments.lockPair request.source request.destination books) :=
    Work.failsOnly_bind (held_unhampered (lockWallet_limited _)) fun _ _ _ =>
      Work.failsOnly_bind (held_unhampered (lockWallet_limited _)) fun _ _ _ =>
        Work.failsOnly_pure _
  refine Work.failsOnly_bind locks fun (source, destination) _ locked => ?_
  obtain ⟨⟨member, named⟩, _, rfl⟩ := Payments.of_lockPair same locked
  have initiates : FailsOnly Unhampered
      (Payments.ensureInitiator source.snapshot request.initiator books) := by
    cases request.initiator with
    | none => exact Work.failsOnly_pure ()
    | some caller =>
      exact held_unhampered (Work.failsOnly_verdict (FailsOnly.mapError fun _ _ => rfl))
  refine Work.failsOnly_bind initiates fun _ _ initiated => ?_
  obtain ⟨_, rfl⟩ := Payments.of_ensureInitiator initiated
  refine Work.failsOnly_bind (Work.failsOnly_verdict (FailsOnly.mapError fun halt _ => by
    cases halt <;> rfl)) fun plan _ did => ?_
  obtain ⟨_, rfl⟩ := Payments.planned_eq_ok.mp did
  -- the source is there, and so are its limits
  refine Work.failsOnly_bind (held_unhampered (named ▸ reserve_limited sound paired member _))
    fun _ _ _ => ?_
  refine Work.failsOnly_bind stored_unhampered fun _ _ _ => ?_
  refine Work.failsOnly_bind stored_unhampered fun _ _ _ => ?_
  refine Work.failsOnly_bind (Work.failsOnly_mapError fun fault _ => ?_) fun _ _ _ =>
    Work.failsOnly_pure _
  cases fault <;> rfl

theorem bookTransfer_unhampered (sound : Sound books) (paired : Paired books)
    (request : TransferRequest) (key : Transfer.TransactionKey) :
    FailsOnly Unhampered (Payments.bookTransfer session request key books) := by
  refine Work.failsOnly_bind Work.failsOnly_get fun _ _ is => ?_
  obtain ⟨rfl, rfl⟩ := Work.get_eq_ok.mp is
  cases books.transfer? key.text with
  | some marker => exact Work.failsOnly_pure _
  | none => exact moveBetween_unhampered sound paired request key

/-- Running out of time is no want of limits. -/
theorem expired_unhampered {kind : Transfer.OperationKind} {limit : Calendar.Duration}
    {halt : Halt PaymentError} (unhampered : Unhampered halt) :
    Unhampered (Payments.expired kind limit halt) := by
  unfold Payments.expired
  split
  · rfl
  · exact unhampered

theorem processTransfer_limited {world : World} (sound : Sound world.books)
    (paired : Paired world.books) (request : TransferRequest) :
    FailsOnly Unhampered (Payments.processTransfer session request world).1 := by
  refine Action.failsOnly_after (Payments.readKey_looks request.key)
    (Action.failsOnly_verdict (FailsOnly.mapError fun _ _ => rfl)) fun key _ read => ?_
  obtain ⟨_, rfl⟩ := read
  have unreachable : Unhampered (StorageCause.ofFault .unreachable) := rfl
  refine Action.failsOnly_bind (Action.failsOnly_mapError ((Action.failsOnly_atomically unreachable
    (bookTransfer_unhampered sound paired request key)).mono fun _ => expired_unhampered))
      fun _ after _ => ?_
  rw [Payments.settle_run]
  exact .ok _

end Passbook.Operation
