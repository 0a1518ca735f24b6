/-
**Movements and holds that have nothing to do with each other.**

* `Call.places?`: the wallets that a movement or a hold names and the marker that its key has, blanks
  around the key left out; a confirmed deposit has the marker of a deposit;
* `Call.contained`: it keeps to them, whether it is done, replayed, refused or taken back;
* `play_commute`: after every run, two of them that name different wallets and have different markers
  may be asked for in either order. Each is answered as it would be first, and the same rows are left.
-/

import Passbook.Proofs.Operation.Run
import Passbook.Proofs.Payments.Confined

namespace Passbook.Operation

open Passbook.Holdings (bookBalance_confined)
open Passbook.Payments
open Passbook.Store

/-- The wallets and the marker of a movement or a hold. -/
def Command.places? : Command → Option (List Place)
  | placeHold wallet _ => some [.wallet wallet]
  | releaseHold wallet _ => some [.wallet wallet]
  | transfer request => some [.wallet request.source, .wallet request.destination,
      .transfer (Text.trim request.key)]
  | deposit request => some [.wallet request.wallet, .deposit (Text.trim request.key)]
  | withdraw request => some [.wallet request.wallet, .withdrawal (Text.trim request.key)]
  | externalDeposit request => some [.wallet request.wallet, .deposit (Text.trim request.key)]
  | _ => none

/-- The same of operations. Time may pass between the units of work of a confirmed deposit. -/
def Call.places? : Call → Option (List Place)
  | command _ wanted => wanted.places?
  | depositInStages _ _ _ request =>
    some [.wallet request.wallet, .deposit (Text.trim request.key)]
  | _ => none

/-- The places that are listed. -/
def among (places : List Place) : Scope := fun place => decide (place ∈ places)

theorem among_of_mem (places : List Place) : ∀ place ∈ places, among places place = true :=
  fun _ => decide_eq_true

/-- Lists of places without a place in common are apart. -/
theorem among_apart {places places' : List Place} (apart : ∀ place ∈ places, place ∉ places') :
    (among places).Apart (among places') :=
  fun place its => decide_eq_false (apart place (of_decide_eq_true its))

theorem contained_answering {ε α : Type} {scope : Scope} {action : Action ε α}
    {fail : ε → Failure} {answer : α → Answer} (contained : Contained scope action) :
    Contained scope (answering fail answer action) where
  within := fun {world world'} sound same => by
    obtain ⟨ends, left⟩ := contained.within sound same
    rw [answering_run, answering_run, ends]
    exact ⟨rfl, left⟩
  beyond sound := contained.beyond sound

/-- **A movement or a hold keeps to its places.** -/
theorem Command.contained (session : Session) {wanted : Command} {places : List Place}
    {scope : Scope} (its : wanted.places? = some places)
    (within : ∀ place ∈ places, scope place = true) : Contained scope (wanted.run session) := by
  cases wanted with
  | placeHold wallet amount =>
    obtain rfl := Option.some.inj its
    refine contained_answering (.atomically session ?_)
    exact bookBalance_confined session _ _ (within _ (by simp))
  | releaseHold wallet amount =>
    obtain rfl := Option.some.inj its
    refine contained_answering (.atomically session ?_)
    exact bookBalance_confined session _ _ (within _ (by simp))
  | transfer request =>
    obtain rfl := Option.some.inj its
    have kept := processTransfer_contained session request
      (within _ (by simp)) (within _ (by simp)) (within _ (by simp))
    unfold run ofPayment
    exact contained_answering kept
  | deposit request =>
    obtain rfl := Option.some.inj its
    have kept := processDeposit_contained session request
      (within _ (by simp)) (within _ (by simp))
    unfold run ofPayment
    exact contained_answering kept
  | withdraw request =>
    obtain rfl := Option.some.inj its
    have kept := processWithdrawal_contained session request
      (within _ (by simp)) (within _ (by simp))
    unfold run ofPayment
    exact contained_answering kept
  | externalDeposit request =>
    obtain rfl := Option.some.inj its
    have kept := completeInStages_contained session session session request
      (within _ (by simp)) (within _ (by simp))
    unfold run ofPayment
    exact contained_answering kept
  | _ => cases its

theorem Call.contained {call : Call} {places : List Place} {scope : Scope}
    (its : call.places? = some places) (within : ∀ place ∈ places, scope place = true) :
    Contained scope call.run := by
  cases call with
  | command session wanted => exact Command.contained session its within
  | depositInStages confirming crediting undoing request =>
    obtain rfl := Option.some.inj its
    have kept := completeInStages_contained confirming crediting undoing request
      (within _ (by simp)) (within _ (by simp))
    unfold run ofPayment
    exact contained_answering kept
  | query session wanted => cases its
  | provisionInStages reading opening linking wallet => cases its
  | provisionElsewhere reading linking find create wallet => cases its

/-- **Movements and holds that have nothing to do with each other may be asked for in either
order.** After every run from fresh books, two of them that have no wallet and no marker in common
are each answered, with a receipt or an error, as if the other had not been asked for, whichever
comes first, and both orders leave the same rows in every table. -/
theorem play_commute (supply : Supply) (calls : List Call) {first second : Call}
    {places places' : List Place}
    (its : first.places? = some places) (others : second.places? = some places')
    (apart : ∀ place ∈ places, place ∉ places') :
    let world := play calls (.fresh supply)
    (second.run (first.run world).2).1 = (second.run world).1 ∧
      (first.run (second.run world).2).1 = (first.run world).1 ∧
      SameRows (play [first, second] world).books (play [second, first] world).books :=
  (Call.contained its (among_of_mem places)).commute (Call.contained others (among_of_mem places'))
    (among_apart apart) (play_sound calls Sound.fresh)

/-- Two wallets are opened, and the first is given money. -/
def sampleFunded : List Call :=
  [.command sampleSession (.createWallet (sampleOwner 7) .main "USD"),
    .command sampleSession (.createWallet (sampleOwner 8) .main "USD"),
    .command sampleSession (.deposit (sampleDeposit "first"))]

/-- A withdrawal from the first wallet. -/
def sampleDraw : Call :=
  .command sampleSession (.withdraw ⟨sampleWallet, sampleUnits 40, " key ", none, none⟩)

/-- A deposit into the second wallet, under a key that withdrawals know too. -/
def sampleGift : Call :=
  .command sampleSession (.deposit ⟨sampleOther, sampleUnits 30, "key", none, none⟩)

/-- A withdrawal and a deposit under one key, whose markers are in different tables. -/
theorem play_commute_key :
    let world := play sampleFunded .fresh
    (sampleGift.run world).1 = .ok (.receipt ⟨.deposit, ⟨"key"⟩, sampleUnits 30, false⟩) ∧
      (sampleDraw.run world).1 = .ok (.receipt ⟨.withdrawal, ⟨"key"⟩, sampleUnits 40, false⟩) ∧
      (sampleGift.run (sampleDraw.run world).2).1 = (sampleGift.run world).1 ∧
      (sampleDraw.run (sampleGift.run world).2).1 = (sampleDraw.run world).1 ∧
      SameRows (play [sampleDraw, sampleGift] world).books
        (play [sampleGift, sampleDraw] world).books := by
  have draw : sampleDraw.places? = some [.wallet sampleWallet, .withdrawal "key"] := by decide
  have gift : sampleGift.places? = some [.wallet sampleOther, .deposit "key"] := by decide
  exact ⟨rfl, rfl, play_commute .ascending sampleFunded draw gift (by decide)⟩

end Passbook.Operation
