/-
**What is made known of what is committed.**

* `DeedKind.isAnnounced`: the kinds of deeds that are made known;
* `Announced`: one deed with what is made known of it, which is one event for these kinds and none
  for the others;
* `Unfolded`: deeds of some kinds happened one after another, each made known before the next;
* `Unfolded.preserves`: what every deed preserves together with what is made known of it is
  preserved by all of them.
-/

import Passbook.Proofs.Operation.Deed

namespace Passbook.Operation

open Passbook.Store

/-- The kinds of deeds that are made known. -/
def DeedKind.isAnnounced : DeedKind → Bool
  | posted | reversed | walletOpened | statusSet | closed => true
  | transferred | deposited | withdrawn | credited => true
  | _ => false

/-- One deed with what is made known of it. -/
inductive Announced (session : Session) : DeedKind → Books → List Event → Books → Prop
  | posted {id : EntryId} {user : UserId} {entry row : EntryRow} {lines : List Ledger.Line}
      {before after : Books} (did : Journal.Posted session id user entry lines before row after) :
      Announced session .posted before [.entryPosted id row.number] after
  | reversed {id : EntryId} {user : UserId} {reason : String} {entry : EntryRow}
      {lines : List Ledger.Line} {outcome : Journal.Reversal} {before after : Books}
      (did : Journal.Reversed session id user reason entry lines before outcome after) :
      Announced session .reversed before [.entryReversed id outcome.reversal.entry.id] after
  | walletOpened {owner : UserId} {walletType : Wallet.WalletType} {currency : Currency}
      {row : WalletRow} {before after : Books}
      (did : Holdings.Opened session owner walletType currency before row after) :
      Announced session .walletOpened before [.walletCreated row.id owner row.currency] after
  | statusSet {id : WalletId} {status : Wallet.WalletStatus} {old : WalletRow}
      {before after : Books} (unclosed : old.status ≠ .closed) (wanted : status ≠ .closed)
      (other : old.status ≠ status)
      (did : Holdings.Revised id (Holdings.underStatus session.now status) old before after) :
      Announced session .statusSet before [.walletStatusChanged id old.status status] after
  | closed {id : WalletId} {reason : String} {answer : Wallet.WalletStatus × WalletRow}
      {before after : Books} (did : Holdings.Closed session id reason before answer after) :
      Announced session .closed before [.walletStatusChanged id answer.1 .closed] after
  | transferred {request : Payments.TransferRequest} {key : Transfer.TransactionKey}
      {source destination : WalletRow} {plan : Transfer.TransferPlan} {limits : LimitsRow}
      {state : Limits.LimitState} {before after : Books}
      (did : Payments.Transferred session request key source destination plan limits state
        before after) :
      Announced session .transferred before [.transferCompleted key.text request.source
        request.destination request.amount source.currency session.now] after
  | deposited {request : Payments.MovementRequest} {key : Transfer.TransactionKey}
      {wallet : WalletRow} {balance : Wallet.WalletBalance} {before after : Books}
      (did : Payments.Deposited session request key wallet balance before after) :
      Announced session .deposited before [Payments.depositEvent session request key] after
  | withdrawn {request : Payments.MovementRequest} {key : Transfer.TransactionKey}
      {wallet : WalletRow} {balance : Wallet.WalletBalance} {before after : Books}
      (did : Payments.Withdrawn session request key wallet balance before after) :
      Announced session .withdrawn before
        [.withdrawalCompleted key.text request.wallet request.amount session.now] after
  | credited {request : Payments.MovementRequest} {key : Transfer.TransactionKey}
      {marker : DepositRow} {wallet : WalletRow} {balance : Wallet.WalletBalance}
      {before after : Books} (sameWallet : marker.wallet = request.wallet)
      (sameAmount : marker.amount = request.amount)
      (did : Payments.Credited session request key marker wallet balance before after) :
      Announced session .credited before [Payments.depositEvent session request key] after
  | unannounced {kind : DeedKind} {before after : Books} (deed : Deed session kind before after)
      (silent : kind.isAnnounced = false) : Announced session kind before [] after

/-- What is made known was done. -/
theorem Announced.deed {session : Session} {kind : DeedKind} {before after : Books}
    {events : List Event} (announced : Announced session kind before events after) :
    Deed session kind before after := by
  cases announced with
  | posted did => exact .posted did
  | reversed did => exact .reversed did
  | walletOpened did => exact .walletOpened did
  | statusSet unclosed wanted other did => exact .statusSet unclosed wanted other did
  | closed did => exact .closed did
  | transferred did => exact .transferred did
  | deposited did => exact .deposited did
  | withdrawn did => exact .withdrawn did
  | credited sameWallet sameAmount did => exact .credited sameWallet sameAmount did
  | unannounced deed _ => exact deed

/-- Deeds of some kinds happened one after another, each made known before the next. -/
def Unfolded (kinds : List DeedKind) : World → World → Prop :=
  Relation.ReflTransGen fun world after =>
    ∃ session, ∃ kind ∈ kinds, ∃ events, Announced session kind world.books events after.books ∧
      after.published = world.published ++ events

namespace Unfolded

variable {kinds : List DeedKind} {world middle after : World}

theorem nothing : Unfolded kinds world world := Relation.ReflTransGen.refl

/-- Nothing was done where the books and what was made known are as they were. -/
theorem of_same (books : after.books = world.books)
    (published : after.published = world.published) :
    Unfolded kinds world after := by
  obtain ⟨_, _⟩ := after
  cases books
  cases published
  exact .nothing

theorem one {session : Session} {kind : DeedKind} {events : List Event}
    (announced : Announced session kind world.books events after.books) (allowed : kind ∈ kinds)
    (published : after.published = world.published ++ events) : Unfolded kinds world after :=
  Relation.ReflTransGen.single ⟨session, kind, allowed, events, announced, published⟩

theorem andThen (first : Unfolded kinds world middle) (second : Unfolded kinds middle after) :
    Unfolded kinds world after :=
  first.trans second

theorem mono {more : List DeedKind} (unfolded : Unfolded kinds world after)
    (allowed : ∀ kind ∈ kinds, kind ∈ more) : Unfolded more world after := by
  induction unfolded with
  | refl => exact .nothing
  | tail _ step ih =>
    obtain ⟨_, kind, member, _, announced, published⟩ := step
    exact ih.andThen (.one announced (allowed kind member) published)

/-- Deeds of kinds that are not made known leave what was made known as it was. -/
theorem of_silent (happened : Happened kinds world.books after.books)
    (silent : ∀ kind ∈ kinds, kind.isAnnounced = false)
    (published : after.published = world.published) : Unfolded kinds world after := by
  have lifted : ∀ {books : Books}, Happened kinds world.books books →
      Unfolded kinds world ⟨books, world.published⟩ := by
    intro books happened
    induction happened with
    | refl => exact .nothing
    | tail _ deed ih =>
      obtain ⟨_, kind, member, did⟩ := deed
      exact ih.andThen
        (.one (.unannounced did (silent kind member)) member (List.append_nil _).symm)
  exact (lifted happened).andThen (of_same rfl published)

/-- Deeds that are made known happened. -/
theorem happened (unfolded : Unfolded kinds world after) :
    Happened kinds world.books after.books := by
  induction unfolded with
  | refl => exact .nothing
  | tail _ step ih =>
    obtain ⟨_, _, member, _, announced, _⟩ := step
    exact ih.andThen (.one announced.deed member)

/-- **What every deed preserves together with what is made known of it is preserved by all of
them.** -/
theorem preserves (holds : Books → List Event → Prop) (unfolded : Unfolded kinds world after)
    (step : ∀ {session kind before events after published}, kind ∈ kinds → Sound before →
      Announced session kind before events after → holds before published →
        holds after (published ++ events))
    (sound : Sound world.books) (start : holds world.books world.published) :
    holds after.books after.published := by
  have all : Sound after.books ∧ holds after.books after.published := by
    induction unfolded with
    | refl => exact ⟨sound, start⟩
    | tail _ unfolds ih =>
      obtain ⟨_, _, member, _, announced, published⟩ := unfolds
      rw [published]
      exact ⟨announced.deed.sound ih.1, step member ih.1 announced ih.2⟩
  exact all.2

end Unfolded

end Passbook.Operation
