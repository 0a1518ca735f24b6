/-
**What a unit of work may commit.**

* `Deed`: one committed change of the books, of one of the kinds of `DeedKind`, with all that
  allowed it and all that it left;
* `Deed.sound`: a deed leaves sound books sound;
* `Happened`: deeds of some kinds, one after another; `Happened.preserves`: what every deed
  preserves of sound books is preserved by all of them.
-/

import Mathlib.Logic.Relation
import Passbook.Proofs.Holdings.Provisioning
import Passbook.Proofs.Journal.Entries
import Passbook.Proofs.Payments.External

namespace Passbook.Operation

open Passbook.Store

/-- The kinds of changes that a unit of work may commit. -/
inductive DeedKind where
  | accountOpened
  | accountChanged
  | drafted
  | posted
  | voided
  | reversed
  | dropped
  | walletOpened
  | statusSet
  | closed
  | held
  | released
  | linked
  | limitsSet
  | spent
  | transferred
  | deposited
  | withdrawn
  | confirmed
  | credited
  | undone
deriving DecidableEq

/-- One committed change of the books. -/
inductive Deed (session : Session) : DeedKind → Books → Books → Prop
  | accountOpened {input : Ledger.NewAccount} {row : AccountRow} {before after : Books}
      (valid : input.validate = .ok ()) (did : Chart.Opened session input before row after) :
      Deed session .accountOpened before after
  | accountChanged {id : AccountId} {wanted : Chart.AccountChange} {row : AccountRow}
      {before after : Books} (did : Chart.Changed session id wanted before row after) :
      Deed session .accountChanged before after
  | drafted {input : Journal.NewEntry} {entered : Journal.FullEntry} {before after : Books}
      (valid : ∃ totals, Ledger.validateLines input.lines = .ok totals)
      (did : Journal.Drafted session input before entered after) :
      Deed session .drafted before after
  | posted {id : EntryId} {user : UserId} {entry row : EntryRow} {lines : List Ledger.Line}
      {before after : Books} (did : Journal.Posted session id user entry lines before row after) :
      Deed session .posted before after
  | voided {id : EntryId} {user : UserId} {reason : String} {entry row : EntryRow}
      {before after : Books} (did : Journal.Voided session id user reason entry before row after) :
      Deed session .voided before after
  | reversed {id : EntryId} {user : UserId} {reason : String} {entry : EntryRow}
      {lines : List Ledger.Line} {outcome : Journal.Reversal} {before after : Books}
      (did : Journal.Reversed session id user reason entry lines before outcome after) :
      Deed session .reversed before after
  | dropped {id : EntryId} {entry : EntryRow} {before after : Books}
      (did : Journal.Dropped id entry before after) : Deed session .dropped before after
  | walletOpened {owner : UserId} {walletType : Wallet.WalletType} {currency : Currency}
      {row : WalletRow} {before after : Books}
      (did : Holdings.Opened session owner walletType currency before row after) :
      Deed session .walletOpened before after
  | statusSet {id : WalletId} {status : Wallet.WalletStatus} {old : WalletRow}
      {before after : Books} (unclosed : old.status ≠ .closed) (wanted : status ≠ .closed)
      (other : old.status ≠ status)
      (did : Holdings.Revised id (Holdings.underStatus session.now status) old before after) :
      Deed session .statusSet before after
  | closed {id : WalletId} {reason : String} {answer : Wallet.WalletStatus × WalletRow}
      {before after : Books} (did : Holdings.Closed session id reason before answer after) :
      Deed session .closed before after
  | held {id : WalletId} {amount : Amount} {balance : Wallet.WalletBalance} {before after : Books}
      (did : Holdings.Held session id amount before balance after) : Deed session .held before after
  | released {id : WalletId} {amount : Amount} {balance : Wallet.WalletBalance}
      {before after : Books} (did : Holdings.Released session id amount before balance after) :
      Deed session .released before after
  | linked {id : WalletId} {account : AccountId} {before after : Books}
      (did : Holdings.Linked session id account before after) : Deed session .linked before after
  | limitsSet {wallet : WalletId} {limits : Limits.SpendLimits} {state : Limits.LimitState}
      {before after : Books} (did : Holdings.LimitsSet session wallet limits before state after) :
      Deed session .limitsSet before after
  | spent {wallet : WalletId} {amount : Amount} {state : Limits.LimitState}
      {before after : Books} (did : Holdings.Spent session wallet amount before state after) :
      Deed session .spent before after
  | transferred {request : Payments.TransferRequest} {key : Transfer.TransactionKey}
      {source destination : WalletRow} {plan : Transfer.TransferPlan} {limits : LimitsRow}
      {state : Limits.LimitState} {before after : Books}
      (did : Payments.Transferred session request key source destination plan limits state
        before after) :
      Deed session .transferred before after
  | deposited {request : Payments.MovementRequest} {key : Transfer.TransactionKey}
      {wallet : WalletRow} {balance : Wallet.WalletBalance} {before after : Books}
      (did : Payments.Deposited session request key wallet balance before after) :
      Deed session .deposited before after
  | withdrawn {request : Payments.MovementRequest} {key : Transfer.TransactionKey}
      {wallet : WalletRow} {balance : Wallet.WalletBalance} {before after : Books}
      (did : Payments.Withdrawn session request key wallet balance before after) :
      Deed session .withdrawn before after
  | confirmed {request : Payments.MovementRequest} {key : Transfer.TransactionKey}
      {before after : Books} (did : Payments.Confirmed session request key before after) :
      Deed session .confirmed before after
  /-- The credit goes where the marker says. So it does in a deposit that goes from beginning to
  end, which finds the marker of its own confirmation. A credit that is made after others took their
  turns may go elsewhere (`Interleaving.Stride.credited`). -/
  | credited {request : Payments.MovementRequest} {key : Transfer.TransactionKey}
      {marker : DepositRow} {wallet : WalletRow} {balance : Wallet.WalletBalance}
      {before after : Books} (sameWallet : marker.wallet = request.wallet)
      (sameAmount : marker.amount = request.amount)
      (did : Payments.Credited session request key marker wallet balance before after) :
      Deed session .credited before after
  | undone {key : Transfer.TransactionKey} {before after : Books}
      (did : Payments.Undone key before after) : Deed session .undone before after

/-- **A deed leaves sound books sound.** -/
theorem Deed.sound {session : Session} {kind : DeedKind} {before after : Books}
    (deed : Deed session kind before after) (sound : Sound before) : Sound after := by
  cases deed with
  | accountOpened _ did => exact did.sound sound
  | accountChanged did => exact did.sound sound
  | drafted _ did => exact did.sound sound
  | posted did => exact did.sound sound
  | voided did => exact did.sound sound
  | reversed did => exact did.sound sound
  | dropped did => exact did.sound sound
  | walletOpened did => exact did.sound sound
  | statusSet _ _ _ did => exact did.sound sound (fun _ => rfl) fun _ => rfl
  | closed did =>
    obtain ⟨_, _, _, _, revised⟩ := did.revised
    exact revised.sound sound (fun _ => rfl) fun _ => rfl
  | held did =>
    obtain ⟨_, _, _, revised⟩ := did.revised
    exact revised.sound sound (fun _ => rfl) fun _ => rfl
  | released did =>
    obtain ⟨_, _, revised⟩ := did.revised
    exact revised.sound sound (fun _ => rfl) fun _ => rfl
  | linked did =>
    obtain ⟨_, revised⟩ := did.revised
    exact revised.sound sound (fun _ => rfl) fun _ => rfl
  | limitsSet did =>
    obtain ⟨_, _, written⟩ := did.written
    exact written.sound sound
  | spent did => exact did.sound sound
  | transferred did => exact did.sound sound
  | deposited did => exact did.sound sound
  | withdrawn did => exact did.sound sound
  | confirmed did => exact did.sound sound
  | credited _ _ did => exact did.sound sound
  | undone did => exact did.sound sound

/-- Deeds of some kinds happened one after another. -/
def Happened (kinds : List DeedKind) : Books → Books → Prop :=
  Relation.ReflTransGen fun before after =>
    ∃ session, ∃ kind ∈ kinds, Deed session kind before after

namespace Happened

variable {kinds : List DeedKind} {before middle after : Books}

theorem nothing : Happened kinds before before := Relation.ReflTransGen.refl

theorem one {session : Session} {kind : DeedKind} (deed : Deed session kind before after)
    (allowed : kind ∈ kinds) : Happened kinds before after :=
  Relation.ReflTransGen.single ⟨session, kind, allowed, deed⟩

theorem andThen (first : Happened kinds before middle) (second : Happened kinds middle after) :
    Happened kinds before after :=
  first.trans second

theorem mono {more : List DeedKind} (happened : Happened kinds before after)
    (allowed : ∀ kind ∈ kinds, kind ∈ more) : Happened more before after := by
  induction happened with
  | refl => exact .nothing
  | tail _ deed ih =>
    obtain ⟨session, kind, member, did⟩ := deed
    exact ih.andThen (.one did (allowed kind member))

/-- **What every deed preserves is preserved by all of them**, sound books staying sound. -/
theorem preserves (holds : Books → Prop) (happened : Happened kinds before after)
    (step : ∀ {session kind before after}, kind ∈ kinds → Sound before →
      Deed session kind before after → holds before → holds after)
    (sound : Sound before) (start : holds before) : Sound after ∧ holds after := by
  induction happened with
  | refl => exact ⟨sound, start⟩
  | tail _ deed ih =>
    obtain ⟨session, kind, allowed, did⟩ := deed
    exact ⟨did.sound ih.1, step allowed ih.1 did ih.2⟩

theorem sound (happened : Happened kinds before after) (sound : Sound before) : Sound after :=
  (happened.preserves (fun _ => True) (fun _ _ _ _ => trivial) sound trivial).1

end Happened

end Passbook.Operation
