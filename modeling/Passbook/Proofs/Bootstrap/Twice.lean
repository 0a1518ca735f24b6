/-
**Bootstrapping twice.**

* `Step`: the steps of a bootstrap; `inSteps`: a bootstrap that tells at which step it fails, and is
  the bootstrap otherwise (`bootstrap_eq`);
* `inSteps_repeats`: where it was done, a bootstrap that is done again ends as it ended, at the same
  step, and changes nothing;
* `Visit`: what may have become of the books before: operations, and bootstraps under any settings;
* `start_again`: after any visits, bootstrapping twice is bootstrapping once.
-/

import Passbook.Proofs.Bootstrap.Settled

namespace Passbook.Bootstrap

open Passbook.Chart (port)
open Passbook.Ledger (AccountType)
open Passbook.Operation (Call DeedKind play)
open Passbook.Payments (processDeposit processTransfer)
open Passbook.Store

variable {α β : Type}

/-- The steps of a bootstrap. -/
inductive Step where
  | account (code : String)
  | firstWallet
  | secondWallet
  | firstLink
  | secondLink
  | deposit
  | transfer
  | replay
  | overdraft
deriving DecidableEq

/-- An operation that tells its step when it fails. -/
def Step.told (step : Step) (action : Action BootstrapError α) :
    Action (Step × BootstrapError) α :=
  Action.mapError (Prod.mk step) action

theorem Step.untold (step : Step) (action : Action BootstrapError α) :
    Action.mapError Prod.snd (step.told action) = action :=
  Action.mapError_undone (fun _ => rfl) action

/-! ### A bootstrap, step by step -/

/-- Opening accounts, step by step. -/
def accountsInSteps (session : Session) :
    List (String × String × AccountType) → Action (Step × BootstrapError) Unit
  | [] => pure ()
  | (code, name, accountType) :: rest => do
    let _ ← (Step.account code).told (asked (Chart.ensureAccount (port session)
      ⟨code, name, accountType, currency.code, none⟩))
    accountsInSteps session rest

/-- Moving money, step by step. -/
def scriptInSteps (session : Session) (source destination : WalletId) :
    Action (Step × BootstrapError) Unit := do
  let _ ← Step.deposit.told (Action.mapError .payment
    (processDeposit session (demoDeposit source)))
  let _ ← Step.transfer.told (Action.mapError .payment
    (processTransfer session (demoTransfer source destination)))
  let _ ← Step.replay.told (Action.mapError .payment
    (processTransfer session (demoTransfer source destination)))
  Step.overdraft.told (tryOverdraft session source destination)

/-- Linking wallets and moving money, step by step. -/
def linksInSteps (session : Session) (first second : WalletId) :
    Action (Step × BootstrapError) Unit := do
  let _ ← Step.firstLink.told (provision session first)
  let _ ← Step.secondLink.told (provision session second)
  scriptInSteps session first second

/-- Opening wallets, linking them and moving money, step by step. -/
def walletsInSteps (session : Session) : Action (Step × BootstrapError) Unit := do
  let first ← Step.firstWallet.told (demoWallet session firstOwner)
  let second ← Step.secondWallet.told (demoWallet session secondOwner)
  linksInSteps session first second

/-- A bootstrap that tells at which step it fails. -/
def inSteps (session : Session) : Action (Step × BootstrapError) Unit := do
  accountsInSteps session chart
  walletsInSteps session

theorem openAccounts_eq (session : Session) (accounts : List (String × String × AccountType)) :
    openAccounts session accounts = Action.mapError Prod.snd (accountsInSteps session accounts) := by
  induction accounts with
  | nil => rfl
  | cons account rest ih =>
    rw [openAccounts, accountsInSteps, Action.mapError_bind, Step.untold, ih]

/-- **The step apart, a bootstrap in steps is the bootstrap.** -/
theorem bootstrap_eq (session : Session) :
    bootstrap session = Action.mapError Prod.snd (inSteps session) := by
  simp only [inSteps, walletsInSteps, linksInSteps, scriptInSteps, Action.mapError_bind,
    Step.untold, bootstrap, openChart, runScript, openAccounts_eq]

/-! ### A bootstrap may be done again -/

section

variable {session : Session} {kinds : List DeedKind}

theorem Step.settles (step : Step) {action : Action BootstrapError α} {view : α → β}
    {mark : β → Books → Prop} (settles : Settles action view mark) :
    Settles (step.told action) view mark :=
  settles.mapError _

theorem Step.plays (step : Step) {action : Action BootstrapError α} (plays : Plays kinds action) :
    Plays kinds (step.told action) :=
  plays.mapError _

/-- Making the transfer of the demonstration may be done again. -/
theorem transfer_repeats (reached : session.faults.blocked = false) (step : Step)
    (source destination : WalletId) {rest : Action (Step × BootstrapError) Unit}
    (repeats : Repeats [.transferred] rest) : Repeats [.transferred] (do
      let _ ← step.told (Action.mapError .payment
        (processTransfer session (demoTransfer source destination)))
      rest) :=
  .after (step.settles ((transfer_settles reached _).mapError _))
    (step.plays ((transfer_plays session _).mapError _)) (used_lasts _ _) repeats (by decide)

/-- Moving money may be done again. -/
theorem script_repeats (reached : session.faults.blocked = false) (source destination : WalletId) :
    Repeats [.deposited, .transferred] (scriptInSteps session source destination) := by
  have overdraft : Repeats [.transferred]
      (Step.overdraft.told (tryOverdraft session source destination)) :=
    (tryOverdraft_repeats reached source destination).mapError _
  have replay := transfer_repeats reached .replay source destination overdraft
  have transfer := transfer_repeats reached .transfer source destination replay
  have deposits : Plays [.deposited, .transferred] (processDeposit session (demoDeposit source)) :=
    (deposit_plays session _).mono (by decide)
  exact .after (Step.settles _ ((deposit_settles reached _).mapError _))
    (Step.plays _ (deposits.mapError _)) (used_lasts _ _) transfer (by decide)

/-- The kinds of deeds by which wallets are linked and money is moved. -/
def linksKinds : List DeedKind := [.accountOpened, .linked, .deposited, .transferred]

theorem provision_told (session : Session) (step : Step) (wallet : WalletId) :
    Plays linksKinds (step.told (provision session wallet)) :=
  step.plays ((provision_plays session wallet).mono (by decide))

theorem links_plays (reached : session.faults.blocked = false) (first second : WalletId) :
    Plays linksKinds (linksInSteps session first second) :=
  (provision_told session _ first).bind fun _ => (provision_told session _ second).bind fun _ =>
    (script_repeats reached first second).plays.mono (by decide)

/-- Linking two wallets and moving money may be done again. -/
theorem links_again (reached : session.faults.blocked = false) (first second : WalletId) :
    Again (fun _ => True) (linksInSteps session first second) := by
  have settles (step : Step) (wallet : WalletId) :
      Settles (step.told (provision session wallet)) (fun _ => ()) fun _ => Provided wallet :=
    step.settles (provision_settles reached wallet)
  have script := script_repeats reached first second
  have rest : Repeats linksKinds (do
      let _ ← Step.secondLink.told (provision session second)
      scriptInSteps session first second) :=
    .after (settles _ second) (provision_told session _ second) (provided_lasts (by decide))
      script (by decide)
  -- providing for the other wallet is a deed of the same kind, and leaves this one linked
  have keeps : Keeps (Provided first) (do
      let _ ← Step.secondLink.told (provision session second)
      scriptInSteps session first second) :=
    ((provision_keeps session first second).mapError _).bind fun _ =>
      script.plays.keeps (provided_lasts (by decide))
  exact (settles .firstLink first).bindNone (provision_told session _ first).sound keeps
    fun world sound _ => rest.again world sound trivial

/-- The kinds of deeds of a bootstrap. -/
def bootstrapKinds : List DeedKind := .walletOpened :: linksKinds

theorem demoWallet_told (session : Session) (step : Step) (owner : UserId) :
    Plays bootstrapKinds (step.told (demoWallet session owner)) :=
  step.plays ((demoWallet_plays session owner).mono (by decide))

/-- Opening wallets, linking them and moving money may be done again. -/
theorem wallets_repeats (reached : session.faults.blocked = false) :
    Repeats bootstrapKinds (walletsInSteps session) := by
  have settles (step : Step) (owner : UserId) :
      Settles (step.told (demoWallet session owner)) id (Standing owner) :=
    step.settles (demoWallet_settles reached owner)
  have links (first second : WalletId) : Plays linksKinds (linksInSteps session first second) :=
    links_plays reached first second
  have others (first : WalletId) : Keeps (Standing firstOwner first)
      (Step.secondWallet.told (demoWallet session secondOwner)) :=
    (demoWallet_keeps session (by decide)).mapError _
  have second (first : WalletId) : Again (Standing firstOwner first) (do
      let second ← Step.secondWallet.told (demoWallet session secondOwner)
      linksInSteps session first second) := by
    refine (settles .secondWallet secondOwner).bindAll (others first)
      (fun second => (links first second).keeps (standing_lasts (by decide)))
      fun second world sound _ => ?_
    exact links_again reached first second world sound trivial
  refine ⟨?_, (demoWallet_told session _ firstOwner).bind fun first =>
    (demoWallet_told session _ secondOwner).bind fun second =>
      (links first second).mono (by decide)⟩
  exact (settles .firstWallet firstOwner).bindAll (demoWallet_told session _ firstOwner).sound
    (fun first => (others first).bind fun second =>
      (links first second).keeps (standing_lasts (by decide)))
    fun first world sound stands => second first world sound stands.2

/-- Where the storage cannot be reached the first account is not opened, and nothing is left. -/
theorem inSteps_of_blocked (blocked : session.faults.blocked = true) (world : World) :
    ∃ problem, inSteps session world = (.error (.account "1000", .chart problem), world) := by
  let input : Ledger.NewAccount := ⟨"1000", "Settlement bank", .asset, currency.code, none⟩
  obtain ⟨problem, failed⟩ := Chart.ensureAccount_of_blocked blocked input world
  have told : (Step.account "1000").told (asked (Chart.ensureAccount (port session) input)) world =
      (.error (.account "1000", .chart problem), world) := by
    unfold Step.told Action.mapError asked
    rw [show Chart.ensureAccount (port session) input world = (.error problem, world) from failed]
    rfl
  refine ⟨problem, ?_⟩
  rw [inSteps, chart, accountsInSteps, bind_assoc]
  exact Action.bind_of_error told

/-- **A bootstrap may be done again**, whatever the storage refuses. -/
theorem inSteps_repeats (session : Session) : Repeats bootstrapKinds (inSteps session) := by
  cases reached : session.faults.blocked with
  | true =>
    have left (world : World) : (inSteps session world).2 = world := by
      obtain ⟨problem, failed⟩ := inSteps_of_blocked reached world
      rw [failed]
    exact ⟨fun world _ _ => congrArg (inSteps session) (left world), .of_left left⟩
  | false =>
    unfold inSteps
    induction chart with
    | nil => exact wallets_repeats reached
    | cons account rest ih =>
      rw [accountsInSteps, bind_assoc]
      exact .after (Step.settles _ (ensure_settles reached _))
        (Step.plays _ ((ensure_plays session _).mono (by decide))) (coded_lasts _) ih fun _ => id

end

/-! ### After any visits -/

/-- What may become of the books. -/
inductive Visit where
  | call (call : Call)
  /-- A bootstrap under the settings of files and variables, on a storage in some condition. -/
  | start (now : Calendar.Instant) (storage : Faults) (files : String → Option String)
    (environment : List (String × String))

/-- The world that a visit leaves. -/
def Visit.leaves : Visit → World → World
  | .call wanted, world => (wanted.run world).2
  | .start now storage files environment, world =>
    (Bootstrap.start now files environment world storage).2

/-- The world that visits leave, one after another. -/
def visited (visits : List Visit) (world : World) : World :=
  visits.foldl (fun world visit => visit.leaves world) world

section

variable {now : Calendar.Instant} {storage : Faults} {files : String → Option String}
  {environment : List (String × String)}

/-- Without settings nothing is done. -/
theorem start_of_none (none : Settings.load? files environment = none) (world : World) :
    start now files environment world storage = (false, world) := by
  unfold start
  rw [none]

/-- With settings the books are bootstrapped. -/
theorem start_of_some {settings : Settings}
    (loaded : Settings.load? files environment = some settings) (world : World) :
    start now files environment world storage =
      ((inSteps (sessionOf now storage settings) world).1.isOk,
        (inSteps (sessionOf now storage settings) world).2) := by
  unfold start
  simp only [loaded, bootstrap_eq, Action.mapError]
  rcases inSteps (sessionOf now storage settings) world with ⟨_ | _, after⟩ <;> rfl

/-- What a bootstrap leaves operations leave. -/
theorem start_plays (world : World) :
    ∃ calls, (start now files environment world storage).2 = play calls world := by
  cases loaded : Settings.load? files environment with
  | none =>
    rw [start_of_none loaded]
    exact ⟨[], rfl⟩
  | some settings =>
    rw [start_of_some loaded]
    obtain ⟨calls, -, left⟩ := (inSteps_repeats (sessionOf now storage settings)).plays world
    exact ⟨calls, left⟩

end

/-- **What visits leave operations leave.** -/
theorem visited_plays (visits : List Visit) (world : World) :
    ∃ calls, visited visits world = play calls world := by
  induction visits generalizing world with
  | nil => exact ⟨[], rfl⟩
  | cons visit rest ih =>
    obtain ⟨later, left⟩ := ih (visit.leaves world)
    have first : ∃ calls, visit.leaves world = play calls world := by
      cases visit with
      | call wanted => exact ⟨[wanted], rfl⟩
      | start now storage files environment => exact start_plays world
    obtain ⟨calls, same⟩ := first
    refine ⟨calls ++ later, ?_⟩
    rw [Operation.play_append, ← same]
    exact left

/-- **Bootstrapping twice is bootstrapping once.** Whatever operations were done before and however
often the books were bootstrapped, under whatever settings, a bootstrap that is done again at the
same moment, under the same settings and on a storage in the same condition, leaves the world as it
is, and ends as it ended: it goes well, or fails at the same step for the same cause. -/
theorem start_again (supply : Supply) (visits : List Visit) (now : Calendar.Instant)
    (storage : Faults) (files : String → Option String) (environment : List (String × String)) :
    let world := visited visits (.fresh supply)
    let once := start now files environment world storage
    start now files environment once.2 storage = once ∧
      ∀ settings, Settings.load? files environment = some settings →
        bootstrap (sessionOf now storage settings) =
            Action.mapError Prod.snd (inSteps (sessionOf now storage settings)) ∧
          inSteps (sessionOf now storage settings) once.2 =
            inSteps (sessionOf now storage settings) world := by
  intro world once
  obtain ⟨calls, played⟩ := visited_plays visits (.fresh supply)
  have sound : Sound world.books := by
    show Sound (visited visits (.fresh supply)).books
    rw [played]
    exact Operation.play_sound calls Sound.fresh
  cases loaded : Settings.load? files environment with
  | none =>
    refine ⟨?_, fun settings given => nomatch given⟩
    show start now files environment (start now files environment world storage).2 storage =
      start now files environment world storage
    rw [start_of_none loaded, start_of_none loaded]
  | some settings =>
    have once_eq : once = start now files environment world storage := rfl
    rw [start_of_some loaded] at once_eq
    have again : inSteps (sessionOf now storage settings) once.2 =
        inSteps (sessionOf now storage settings) world := by
      rw [once_eq]
      exact (inSteps_repeats _).again world sound trivial
    refine ⟨?_, fun other given => ?_⟩
    · rw [start_of_some loaded, again, once_eq]
    · cases given
      exact ⟨bootstrap_eq _, again⟩

end Passbook.Bootstrap
