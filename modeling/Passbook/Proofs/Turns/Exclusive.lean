/-
**An owner has one wallet of a type and currency, whoever opens it first.**

* `Coined`: wallets are in currencies by their codes, whatever a caller wrote;
  `spelled_nodup`: so no two are the same of an owner in any spelling;
* `applicant_step`: a step of a call leaves everything as it was, or adds the wallet with its
  limits; `applicant_loses`: where there is such a wallet already, the call ends there and then;
* `Vying`: what holds of calls that take turns; `advance_vying`: every turn preserves it;
* `Exclusive`: what follows of calls, wallets and their limits;
  `run_exclusive`: **it holds whatever the turns**.
-/

import Passbook.Proofs.Operation.Limited
import Passbook.Proofs.Operation.Registered
import Passbook.Proofs.Turns.Opening

namespace Passbook.Turns

open Passbook.Holdings (HoldingError ensureUnowned insertWallet)
open Passbook.Operation (Call Deed DeedKind Happened Paired)
open Passbook.Store
open Passbook.Store.Action (Ends Leaves)

/-! ### Currencies by their codes -/

/-- Wallets are in currencies by their codes. -/
def Coined (books : Books) : Prop := ∀ row ∈ books.wallets, ∃ currency : Currency,
  row.currency = currency.code

/-- What an owner has one of, however its currency is spelled. -/
def spelledSlot (row : WalletRow) : UserId × Wallet.WalletType × Option Currency :=
  (row.owner, row.walletType, Currency.read? row.currency)

theorem read?_code (currency : Currency) : Currency.read? currency.code = some currency := by
  cases currency <;> decide

variable {session : Session} {wanted : Application} {currency : Currency} {world : World}
  {books before after : Books}

/-- Every deed leaves wallets in currencies by their codes. -/
theorem coined_of_deed {kind : DeedKind} (deed : Deed session kind before after)
    (coined : Coined before) : Coined after := by
  intro row member
  by_cases opening : kind = .walletOpened
  · subst opening
    cases deed with
    | walletOpened did =>
    rw [did.left] at member
    rcases List.mem_append.mp member with old | new
    · exact coined row old
    · obtain ⟨uuid, _, is⟩ := did.issued
      rw [List.mem_singleton.mp new, is]
      exact ⟨_, rfl⟩
  · have tagged : row.tag ∈ before.wallets.map WalletRow.tag := by
      rw [← deed.kept_slots opening]
      exact List.mem_map_of_mem member
    obtain ⟨old, present, same⟩ := List.mem_map.mp tagged
    obtain ⟨currency, is⟩ := coined old present
    exact ⟨currency, (congrArg (fun tag => tag.2.2.2) same).symm.trans is⟩

/-- **No two wallets are the same of an owner**, however their currencies are spelled. -/
theorem spelled_nodup (sound : Sound books) (coined : Coined books) :
    (books.wallets.map spelledSlot).Nodup := by
  refine List.Nodup.map_on (fun row member other member' same => ?_) (sound.slots.of_map _)
  obtain ⟨currency, is⟩ := coined row member
  obtain ⟨currency', is'⟩ := coined other member'
  simp only [spelledSlot, is, is', read?_code, Prod.mk.injEq, Option.some.injEq] at same
  refine eq_of_key sound.slots member member' ?_
  simp only [WalletRow.slot, is, is', same]

/-! ### The steps of a call -/

/-- What a caller asks for, in a currency. -/
def Application.slot (wanted : Application) (currency : Currency) :
    UserId × Wallet.WalletType × String :=
  (wanted.owner, wanted.walletType, currency.code)

/-- A wallet is in the books, and is one that was asked for. -/
def Application.Has (wanted : Application) (books : Books) (row : WalletRow) : Prop :=
  row.tag ∈ books.wallets.map WalletRow.tag ∧
    ∃ currency, Currency.read? wanted.code = some currency ∧ row.slot = wanted.slot currency

/-- A call stands where it should: it goes on in the currency that was read, and one that has ended
with a wallet leaves that wallet behind it. -/
def Applicant.Stage.Right (wanted : Application) (books : Books) : Applicant.Stage → Prop
  | .vacant currency => Currency.read? wanted.code = some currency
  | .ended (.ok row) => wanted.Has books row
  | _ => True

/-- The same of a call as a whole. -/
abbrev Applicant.Right (books : Books) (applicant : Applicant) : Prop :=
  applicant.stage.Right applicant.wanted books

theorem Applicant.Right.mono {applicant : Applicant} (right : applicant.Right before)
    (kept : before.wallets.map WalletRow.tag ⊆ after.wallets.map WalletRow.tag) :
    applicant.Right after := by
  obtain ⟨wanted, stage⟩ := applicant
  cases stage with
  | asking => trivial
  | vacant currency => exact right
  | ended result =>
    cases result with
    | error cause => trivial
    | ok row => exact right.imp_left fun tagged => kept tagged

theorem Applicant.Right.won {applicant : Applicant} {row : WalletRow}
    (right : applicant.Right books) (ended : applicant.stage = .ended (.ok row)) :
    applicant.wanted.Has books row := by
  rw [Applicant.Right, ended] at right
  exact right

theorem ensureVacant_looks (session : Session) (wanted : Application) :
    Ends (ensureVacant session wanted) fun world currency after =>
      Currency.read? wanted.code = some currency ∧ after = world := by
  refine ((Ends.found _ _).after fun currency =>
    (Holdings.ensureUnowned_looks wanted.owner wanted.walletType currency).after fun _ =>
      Ends.pure currency).mono ?_
  rintro world currency after ⟨_, read, _, _, rfl, same⟩
  exact ⟨read, same⟩

theorem addWallet_ends (session : Session) (wanted : Application) (currency : Currency) :
    Ends (addWallet session wanted currency)
      (Leaves (Holdings.Opened session wanted.owner wanted.walletType currency)
        fun row => [.walletCreated row.id wanted.owner row.currency]) :=
  (Ends.leaves session Holdings.of_insertWallet).leavesAndTells _

/-- **A step of a call** leaves everything as it was, or adds the wallet. -/
theorem applicant_step {applicant : Applicant} (sound : Sound world.books)
    (right : applicant.Right world.books) :
    ((opening.next session applicant world).2 = world ∧
        (opening.next session applicant world).1.Right world.books ∧
        ∀ row, (opening.next session applicant world).1.stage = .ended (.ok row) →
          applicant.stage = .ended (.ok row)) ∨
      ∃ currency row, Currency.read? applicant.wanted.code = some currency ∧
        Holdings.Opened session applicant.wanted.owner applicant.wanted.walletType currency
          world.books row (opening.next session applicant world).2.books ∧
        (opening.next session applicant world).1 = ⟨applicant.wanted, .ended (.ok row)⟩ := by
  obtain ⟨wanted, stage⟩ := applicant
  cases stage with
  | asking =>
    refine .inl ?_
    rcases ensureVacant_looks session wanted world with
      ⟨cause, same⟩ | ⟨currency, _, same, read, rfl⟩
    · simp only [opening, Applicant.Stage.next, same, Applicant.Stage.seen]
      exact ⟨trivial, trivial, fun _ is => by cases is⟩
    · simp only [opening, Applicant.Stage.next, same, Applicant.Stage.seen]
      exact ⟨trivial, read, fun _ is => by cases is⟩
  | vacant currency =>
    rcases addWallet_ends session wanted currency world with
      ⟨cause, same⟩ | ⟨row, after, same, did⟩
    · simp only [opening, Applicant.Stage.next, same]
      exact .inl ⟨trivial, trivial, fun _ is => by cases is⟩
    · simp only [opening, Applicant.Stage.next, same]
      exact .inr ⟨currency, row, right, did.changed sound, rfl⟩
  | ended result => exact .inl ⟨rfl, right, fun _ is => is⟩

/-- The storage can be reached, takes wallets, and has identifiers left. -/
def TakesWallets (session : Session) (books : Books) : Prop :=
  session.faults.blocked = false ∧ session.faults.refuses .wallets .insert = false ∧
    (books.next?).isSome

theorem ensureUnowned_run (reached : session.faults.blocked = false)
    (plain : world.books.strays = []) (owner : UserId) (walletType : Wallet.WalletType)
    (currency : Currency) :
    ensureUnowned session owner walletType currency world =
      (if (world.books.walletOf? owner walletType currency.code).isSome then
        .error (.duplicate owner walletType currency) else .ok (), world) := by
  have looked : (Action.lookUp session walletSheet fun books =>
      books.walletOf? owner walletType currency.code : Action HoldingError _) world = _ :=
    Action.lookUp_of_plain reached plain walletSheet _
  rw [ensureUnowned, Action.bind_of_ok looked]
  cases (world.books.walletOf? owner walletType currency.code).isSome <;> rfl

/-- **Where there is such a wallet, a call ends there and then.** It is told so, and nothing is left
of it. -/
theorem applicant_loses {applicant : Applicant} (takes : TakesWallets session world.books)
    (sound : Sound world.books) (right : applicant.Right world.books)
    (going : applicant.stage.left ≠ 0)
    (read : Currency.read? applicant.wanted.code = some currency)
    (taken : ∃ row ∈ world.books.wallets, row.slot = applicant.wanted.slot currency) :
    opening.next session applicant world =
      (⟨applicant.wanted, .ended (.error
        (.duplicate applicant.wanted.owner applicant.wanted.walletType currency))⟩, world) := by
  obtain ⟨wanted, stage⟩ := applicant
  obtain ⟨reached, allowed, left⟩ := takes
  obtain ⟨row, member, slot⟩ := taken
  cases stage with
  | asking =>
    have owned := walletOf?_isSome_of_mem sound.plain member
    obtain ⟨owner, walletType, code⟩ :
        row.owner = wanted.owner ∧ row.walletType = wanted.walletType ∧
          row.currency = currency.code := by
      simpa [WalletRow.slot, Application.slot] using slot
    rw [owner, walletType, code] at owned
    have looked : ensureUnowned session wanted.owner wanted.walletType currency world =
        (.error (.duplicate wanted.owner wanted.walletType currency), world) := by
      rw [ensureUnowned_run reached sound.plain, if_pos owned]
    have reads : (Action.found (.unsupportedCurrency wanted.code) (Currency.read? wanted.code) :
        Action HoldingError Currency) world = (.ok currency, world) := by
      rw [show Currency.read? wanted.code = some currency from read]
      rfl
    have lost : ensureVacant session wanted world =
        (.error (.duplicate wanted.owner wanted.walletType currency), world) := by
      rw [ensureVacant, Action.bind_of_ok reads]
      exact Action.bind_of_error looked
    simp only [opening, Applicant.Stage.next, lost, Applicant.Stage.seen]
  | vacant was =>
    obtain rfl : was = currency := Option.some.inj (Eq.trans (Eq.symm right) read)
    obtain ⟨uuid, issued⟩ := Option.isSome_iff_exists.mp left
    let drawn := { world.books with issued := world.books.issued + 1 }
    let new := Holdings.newRow ⟨uuid⟩ session.now wanted.owner wanted.walletType was
    have draws : (Work.fresh : Work HoldingError Uuid) world.books = .ok (uuid, drawn) :=
      Work.fresh_eq_ok.mpr ⟨issued, rfl⟩
    have fit : walletSheet.isFit drawn new = true :=
      (walletSheet_isFit sound.plain).mpr ⟨Int.le_refl 0, Int.le_refl 0⟩
    have clash : (walletSheet.rows drawn).any (walletSheet.clashes drawn new) = true := by
      refine List.any_eq_true.mpr ⟨row, member, Bool.of_not_eq_false fun apart => ?_⟩
      exact ((walletSheet_clashes (by exact sound.plain)).mp apart).2 slot.symm
    have refused : insertWallet session wanted.owner wanted.walletType was world.books =
        .error (.duplicate wanted.owner wanted.walletType was) := by
      rw [insertWallet, Work.bind_of_ok draws]
      refine Work.bind_of_error ?_
      rw [Work.mapError, insert_of_clash allowed fit clash]
      rfl
    have lost : addWallet session wanted was world =
        (.error (.duplicate wanted.owner wanted.walletType was), world) := by
      refine Action.bind_of_error ?_
      simp only [Action.atomically, reached, refused]
      rfl
    simp only [opening, Applicant.Stage.next, lost]
  | ended result => exact absurd rfl going

/-! ### Calls that take turns -/

/-- Every call stands where it should, no two of them have ended with the same wallet, and the books
keep what they have to. -/
structure Vying (scene : Scene Applicant) : Prop where
  sound : Sound scene.books
  paired : Paired scene.books
  coined : Coined scene.books
  right : ∀ applicant ∈ scene.callers, applicant.Right scene.books
  apart : ∀ {place other : Nat} {first second : Applicant} {row another : WalletRow},
    place ≠ other → scene.callers[place]? = some first → scene.callers[other]? = some second →
      first.stage = .ended (.ok row) → second.stage = .ended (.ok another) →
        row.slot ≠ another.slot

theorem advance_opening_happened {scene : Scene Applicant} (turn : Turn Application)
    (vying : Vying scene) :
    ∃ kinds, Happened kinds scene.books (advance opening scene turn).books := by
  refine advance_happened vying.sound fun place session applicant _ there => ?_
  rcases applicant_step vying.sound (vying.right applicant (List.mem_of_getElem? there)) with
    ⟨same, _⟩ | ⟨_, _, _, opened, _⟩
  · rw [same]
    exact ⟨[], .nothing⟩
  · exact ⟨[.walletOpened], .one (.walletOpened opened) (by simp)⟩

/-- A wallet that a step adds is none with which another call has ended. -/
theorem step_apart {applicant second : Applicant} {row another : WalletRow}
    (sound : Sound world.books) (right : applicant.Right world.books)
    (right' : second.Right world.books)
    (before : ∀ row, applicant.stage = .ended (.ok row) → row.slot ≠ another.slot)
    (ended : (opening.next session applicant world).1.stage = .ended (.ok row))
    (ended' : second.stage = .ended (.ok another)) : row.slot ≠ another.slot := by
  rcases applicant_step sound right with ⟨_, _, old⟩ | ⟨_, new, _, opened, is⟩
  · exact before row (old row ended)
  · rw [is] at ended
    cases ended
    obtain ⟨stored, member, same⟩ := List.mem_map.mp (right'.won ended').1
    have slot : stored.slot = another.slot := congrArg Prod.snd same
    rw [← slot]
    exact (opened.newSlot stored member).symm

/-- A wallet that is added is the one that was asked for, and is there. -/
theorem won_of_opened {row : WalletRow} (read : Currency.read? wanted.code = some currency)
    (opened : Holdings.Opened session wanted.owner wanted.walletType currency before row after) :
    wanted.Has after row := by
  obtain ⟨uuid, _, rfl⟩ := opened.issued
  refine ⟨List.mem_map_of_mem ?_, currency, read, rfl⟩
  rw [opened.left]
  exact List.mem_append_right _ List.mem_cons_self

/-- **Calls stay as they should by every turn.** -/
theorem advance_vying (scene : Scene Applicant) (turn : Turn Application) (vying : Vying scene) :
    Vying (advance opening scene turn) := by
  obtain ⟨kinds, happened⟩ := advance_opening_happened turn vying
  have kept := happened.slots_subset vying.sound
  obtain ⟨sound, paired, coined⟩ := happened.preserves
    (fun books => Paired books ∧ Coined books)
    (fun _ _ deed held => ⟨deed.paired held.1, coined_of_deed deed held.2⟩) vying.sound
    ⟨vying.paired, vying.coined⟩
  refine ⟨sound, paired, coined, fun applicant member => ?_, ?_⟩
  · rcases mem_advance member with
      ⟨wanted, rfl, rfl⟩ | ⟨place, session, was, old, rfl, is, left⟩ | old
    · trivial
    · have right := vying.right was old
      rcases applicant_step vying.sound right with
        ⟨same, right, _⟩ | ⟨currency, row, read, opened, ended⟩
      · rw [Scene.books, left, same, is]
        exact right
      · rw [is, ended, Scene.books, left]
        exact won_of_opened read opened
    · exact (vying.right applicant old).mono kept
  · intro place other first second row another differ there there' ended ended'
    cases turn with
    | other call => exact vying.apart differ there there' ended ended'
    | arrive wanted =>
      -- whoever has just come has not ended
      have old : ∀ {place : Nat} {applicant : Applicant} {row : WalletRow},
          (scene.callers ++ [opening.start wanted])[place]? = some applicant →
            applicant.stage = .ended (.ok row) → scene.callers[place]? = some applicant := by
        intro place applicant row there ended
        rw [List.getElem?_append] at there
        split at there
        · exact there
        · rw [List.mem_singleton.mp (List.mem_of_getElem? there)] at ended
          cases ended
      exact vying.apart differ (old there ended) (old there' ended') ended ended'
    | step its session =>
      cases found : scene.callers[its]? with
      | none =>
        rw [advance_of_none session found] at there there'
        exact vying.apart differ there there' ended ended'
      | some was =>
        have right := vying.right was (List.mem_of_getElem? found)
        have inside : its < scene.callers.length := (List.getElem?_eq_some_iff.mp found).1
        rw [advance_step session found] at there there'
        by_cases mine : its = place
        · subst mine
          obtain rfl := Option.some.inj ((List.getElem?_set_self inside).symm.trans there)
          have there' := (List.getElem?_set_ne differ).symm.trans there'
          exact step_apart vying.sound right (vying.right second (List.mem_of_getElem? there'))
            (fun _ old => vying.apart differ found there' old ended') ended ended'
        have there := (List.getElem?_set_ne mine).symm.trans there
        by_cases yours : its = other
        · subst yours
          obtain rfl := Option.some.inj ((List.getElem?_set_self inside).symm.trans there')
          exact (step_apart vying.sound right (vying.right first (List.mem_of_getElem? there))
            (fun _ old => vying.apart (Ne.symm differ) found there old ended) ended' ended).symm
        have there' := (List.getElem?_set_ne yours).symm.trans there'
        exact vying.apart differ there there' ended ended'

/-! ### Whatever the turns -/

/-- An owner has one wallet of a type and currency, with its limits, whoever opens it first. -/
structure Exclusive (scene : Scene Applicant) : Prop where
  /-- No two wallets are the same of an owner, however their currencies are spelled. -/
  single : (scene.books.wallets.map spelledSlot).Nodup
  /-- The limits are those of the wallets, one row for each. -/
  paired : scene.books.limits.map LimitsRow.wallet = scene.books.wallets.map WalletRow.id ∧
    (scene.books.wallets.map WalletRow.id).Nodup
  /-- A call that has ended with a wallet left the one that it asked for. -/
  won : ∀ applicant ∈ scene.callers, ∀ row, applicant.stage = .ended (.ok row) →
    (∃ stored ∈ scene.books.wallets, stored.id = row.id ∧ stored.slot = row.slot) ∧
      ∃ currency, Currency.read? applicant.wanted.code = some currency ∧
        row.slot = applicant.wanted.slot currency
  /-- No two calls have ended with the same. -/
  apart : ∀ place other : Nat, place ≠ other → ∀ first second : Applicant,
    scene.callers[place]? = some first → scene.callers[other]? = some second →
      ∀ row another : WalletRow, first.stage = .ended (.ok row) →
        second.stage = .ended (.ok another) → row.slot ≠ another.slot
  /-- A call that finds the wallet there, at either step, is told so and leaves nothing. -/
  loses : ∀ applicant ∈ scene.callers, applicant.stage.left ≠ 0 → ∀ currency,
    Currency.read? applicant.wanted.code = some currency →
      (∃ row ∈ scene.books.wallets, row.slot = applicant.wanted.slot currency) →
        ∀ session, TakesWallets session scene.books →
          opening.next session applicant scene.world =
            (⟨applicant.wanted, .ended (.error (.duplicate applicant.wanted.owner
              applicant.wanted.walletType currency))⟩, scene.world)
  /-- A step by which a call is refused, for whatever cause, leaves nothing. -/
  refused : ∀ applicant ∈ scene.callers, ∀ session cause,
    (opening.next session applicant scene.world).1.stage = .ended (.error cause) →
      (opening.next session applicant scene.world).2 = scene.world
  /-- The limits of a wallet that is there are read and set without missing them. -/
  limited : ∀ row ∈ scene.books.wallets, ∀ session missing,
    (Holdings.getLimits session row.id scene.world).1 ≠ .error (.limitsNotFound missing) ∧
      ∀ daily monthly, (Holdings.updateLimits session row.id daily monthly scene.world).1 ≠
        .error (.limitsNotFound missing)
  /-- No transfer misses the limits of a wallet. -/
  unhampered : ∀ session request missing,
    (Payments.processTransfer session request scene.world).1 ≠
      .error (.refused (.holding (.limitsNotFound missing)))

/-- **An owner has one wallet of a type and currency, with its limits**, however the steps of calls
for wallets take turns with one another and with other operations. -/
theorem run_exclusive (supply : Supply) (calls : List Call) (turns : List (Turn Application)) :
    Exclusive (run opening turns (quiet supply calls)) := by
  have coined : Coined (Operation.play calls (.fresh supply)).books :=
    (Operation.play_preserves Coined (fun _ deed coined => coined_of_deed deed coined) calls
      Sound.fresh fun _ member => by cases member).2
  have begun : Vying (quiet supply calls) :=
    { sound := Operation.play_sound calls Sound.fresh
      paired := Operation.play_paired calls Sound.fresh Paired.fresh
      coined := coined
      right := fun _ member => by cases member
      apart := fun _ there => by cases there }
  have vying : Vying (run opening turns (quiet supply calls)) :=
    run_preserves (fun scene turn _ => advance_vying scene turn) turns
      (Granted.always (fun _ _ => trivial) turns _) begun
  refine
    { single := spelled_nodup vying.sound vying.coined
      paired := ⟨vying.paired, vying.sound.walletIds⟩
      won := fun applicant member row ended => ?_
      apart := fun _ _ differ _ _ there there' _ _ => vying.apart differ there there'
      loses := fun applicant member going currency read taken session takes =>
        applicant_loses takes vying.sound (vying.right applicant member) going read taken
      refused := fun applicant member session cause ended => ?_
      limited := fun row member session missing =>
        ⟨fun failed => ?_, fun daily monthly failed => ?_⟩
      unhampered := fun session request missing failed => ?_ }
  · obtain ⟨tagged, asked⟩ := (vying.right applicant member).won ended
    obtain ⟨stored, present, same⟩ := List.mem_map.mp tagged
    exact ⟨⟨stored, present, congrArg Prod.fst same, congrArg Prod.snd same⟩, asked⟩
  · rcases applicant_step vying.sound (vying.right applicant member) with
      ⟨same, _⟩ | ⟨_, row, _, _, is⟩
    · exact same
    · rw [is] at ended
      cases ended
  · cases Operation.getLimits_limited vying.sound vying.paired member _ failed
  · cases Operation.updateLimits_limited vying.sound vying.paired member daily monthly _ failed
  · cases Operation.processTransfer_limited vying.sound vying.paired request _ failed

/-- Two calls for one wallet, in currencies spelled otherwise, find none before either adds it. The
first that adds it has it. -/
example :
    let applicant code : Turn Application := .arrive ⟨Operation.sampleOwner 7, .main, code⟩
    let step place : Turn Application := .step place Operation.sampleSession
    let after := run opening [applicant "usd", applicant "Usd", step 0, step 1, step 1, step 0]
      (quiet .ascending [])
    (after.callers.map fun applicant => match applicant.stage with
      | .ended (.error cause) => some cause
      | _ => none) = [some (.duplicate (Operation.sampleOwner 7) .main .usd), none] ∧
      after.books.wallets.length = 1 := by
  decide

end Passbook.Turns
