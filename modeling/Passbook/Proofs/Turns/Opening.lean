/-
**Opening wallets in turns with others.**

Whoever opens a wallet first looks whether its owner has one of the type and currency, and then adds
it with its limits. Between the two others may do the same.

* `createWallet_eq`: opening a wallet is its two steps one after another;
* `Applicant`: a call for a wallet; `opening`: its steps;
* `go_opening`, `run_opening`: a call that is not interrupted opens the wallet or is refused;
* `run_applicant_ends`: every call has ended after two steps, whatever happens in between.
-/

import Passbook.Proofs.Turns.Course

namespace Passbook.Turns

open Passbook.Holdings (HoldingError createWallet ensureUnowned insertWallet)
open Passbook.Store
open Passbook.Wallet (WalletType)

/-! ### The steps of opening a wallet -/

/-- A wallet that is asked for. The currency is as the caller spells it. -/
structure Application where
  owner : UserId
  walletType : WalletType
  code : String

/-- The currency is read, and the owner's wallets are looked at. -/
def ensureVacant (session : Session) (wanted : Application) : Action HoldingError Currency := do
  let currency ← .found (.unsupportedCurrency wanted.code) (Currency.read? wanted.code)
  ensureUnowned session wanted.owner wanted.walletType currency
  pure currency

/-- The wallet is added with its limits, and made known. -/
def addWallet (session : Session) (wanted : Application) (currency : Currency) :
    Action HoldingError WalletRow := do
  let row ← .atomically session (insertWallet session wanted.owner wanted.walletType currency)
  .publish (.walletCreated row.id wanted.owner row.currency)
  pure row

/-- **Opening a wallet** is its two steps one after another. -/
theorem createWallet_eq (session : Session) (wanted : Application) :
    createWallet session wanted.owner wanted.walletType wanted.code = (do
      let currency ← ensureVacant session wanted
      addWallet session wanted currency) := by
  simp only [createWallet, ensureVacant, addWallet, bind_assoc, pure_bind]

/-! ### Applicants -/

/-- How far a call for a wallet has come. -/
inductive Applicant.Stage where
  /-- The owner's wallets are to be looked at. -/
  | asking
  /-- The owner has none of the type and the currency. It is to be added. -/
  | vacant (currency : Currency)
  | ended (result : Except HoldingError WalletRow)

/-- A call for a wallet. -/
structure Applicant where
  wanted : Application
  stage : Applicant.Stage

namespace Applicant

/-- After the look at the owner's wallets. -/
def Stage.seen : Except HoldingError Currency → Stage
  | .ok currency => .vacant currency
  | .error cause => .ended (.error cause)

/-- The next step. -/
def Stage.next (session : Session) (wanted : Application) (world : World) : Stage → Stage × World
  | .asking =>
    let looked := ensureVacant session wanted world
    (seen looked.1, looked.2)
  | .vacant currency =>
    let added := addWallet session wanted currency world
    (.ended added.1, added.2)
  | .ended result => (.ended result, world)

/-- The most steps that are left. -/
def Stage.left : Stage → Nat
  | .asking => 2
  | .vacant _ => 1
  | .ended _ => 0

end Applicant

/-- Opening a wallet step by step. -/
def opening : Course Application Applicant where
  start wanted := ⟨wanted, .asking⟩
  next session applicant world :=
    let went := applicant.stage.next session applicant.wanted world
    (⟨applicant.wanted, went.1⟩, went.2)

/-! ### Applicants that are not interrupted -/

/-- **A call that is not interrupted** opens the wallet or is refused. -/
theorem go_opening (session : Session) (wanted : Application) (world : World) :
    opening.go session 2 (opening.start wanted, world) =
      (⟨wanted, .ended
        (createWallet session wanted.owner wanted.walletType wanted.code world).1⟩,
        (createWallet session wanted.owner wanted.walletType wanted.code world).2) := by
  have looks : opening.next session (opening.start wanted) world =
      (⟨wanted, .seen (ensureVacant session wanted world).1⟩,
        (ensureVacant session wanted world).2) := by
    simp only [opening, Applicant.Stage.next]
  rw [Course.go, looks, createWallet_eq]
  cases looked : ensureVacant session wanted world with
  | mk result world =>
  cases result with
  | error cause =>
    rw [Action.bind_of_error looked]
    rfl
  | ok currency =>
    rw [Action.bind_of_ok looked]
    rfl

/-- The same of its turns in a scene. -/
theorem run_opening (scene : Scene Applicant) (session : Session) (wanted : Application) :
    run opening (.arrive wanted :: List.replicate 2 (.step scene.callers.length session)) scene =
      ⟨(createWallet session wanted.owner wanted.walletType wanted.code scene.world).2,
        scene.callers ++ [⟨wanted, .ended
          (createWallet session wanted.owner wanted.walletType wanted.code scene.world).1⟩]⟩ := by
  have arrived : advance opening scene (.arrive wanted) =
      ⟨scene.world, scene.callers ++ [opening.start wanted]⟩ := rfl
  rw [run, arrived, run_replicate, go_opening]

/-! ### Applicants that come to an end -/

/-- **Every call has ended after two steps**, whatever happens in between. -/
theorem run_applicant_ends (turns : List (Turn Application)) {scene : Scene Applicant}
    {place : Nat} {applicant : Applicant} (there : scene.callers[place]? = some applicant)
    (enough : 2 ≤ turns.countP (Turn.isStepOf place)) :
    ∃ wanted result, (run opening turns scene).callers[place]? = some ⟨wanted, .ended result⟩ := by
  have nearer : ∀ session (applicant : Applicant) world,
      (opening.next session applicant world).1.stage.left ≤ applicant.stage.left - 1 := by
    intro session applicant world
    obtain ⟨wanted, stage⟩ := applicant
    cases stage with
    | asking =>
      show (Applicant.Stage.seen (ensureVacant session wanted world).1).left ≤ 1
      rcases (ensureVacant session wanted world).1 with cause | currency
      · exact Nat.zero_le _
      · exact Nat.le_refl _
    | vacant currency => exact Nat.le_refl 0
    | ended result => exact Nat.le_refl 0
  have most : applicant.stage.left ≤ 2 := by
    cases applicant.stage <;> simp [Applicant.Stage.left]
  obtain ⟨⟨wanted, stage⟩, found, spent⟩ :=
    run_over (fun applicant : Applicant => applicant.stage.left) nearer turns there
      (most.trans enough)
  cases stage with
  | ended result => exact ⟨wanted, result, found⟩
  | _ => cases spent

end Passbook.Turns
