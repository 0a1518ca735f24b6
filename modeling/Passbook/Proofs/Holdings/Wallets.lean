/-
**What the operations on wallets leave.**

* `Opened`: one wallet more with its limits, the only one of its owner, type and currency;
* `Revised`: one wallet was changed, and what is available of it lies within its balance;
* `StatusSet`, `Closed`, `Held`, `Released`, `Linked`: what was changed of it, and what allowed it;
* `changeWallet_failsOnly`: where the figures of a wallet fit, its change is refused by the storage
  only;
* `createWallet_ends` and its like: the operations do one of these or nothing.
-/

import Passbook.Holdings.Wallets
import Passbook.Proofs.Holdings.Limits
import Passbook.Proofs.Wallet.Balance

namespace Passbook.Holdings

open Passbook.Calendar (Instant)
open Passbook.Store
open Passbook.Store.Action (Ends Leaves)
open Passbook.Verdict (FailsOnly)
open Passbook.Wallet (WalletBalance WalletStatus WalletType)

/-! ### What is left -/

/-- A wallet was opened with its limits. -/
structure Opened (session : Session) (owner : UserId) (walletType : WalletType)
    (currency : Currency) (before : Books) (row : WalletRow) (after : Books) : Prop where
  issued : ∃ uuid, before.next? = some uuid ∧
    row = newRow ⟨uuid⟩ session.now owner walletType currency
  newId : ∀ other ∈ before.wallets, other.id ≠ row.id
  newSlot : ∀ other ∈ before.wallets, other.slot ≠ row.slot
  newLimits : ∀ other ∈ before.limits, other.wallet ≠ row.id
  left : after = { before with
    wallets := before.wallets ++ [row]
    limits := before.limits ++ [newLimitsRow session row.id]
    issued := before.issued + 1 }

/-- One wallet was changed. -/
structure Revised (id : WalletId) (alter : WalletRow → WalletRow) (old : WalletRow)
    (before after : Books) : Prop where
  member : old ∈ before.wallets
  named : old.id = id
  fits : (alter old).balance.Fits
  left : after = { before with wallets := altered WalletRow.id id alter before.wallets }

/-- A wallet under another status. -/
def underStatus (now : Instant) (status : WalletStatus) (row : WalletRow) : WalletRow :=
  { row with status := status, updatedAt := now }

/-- A wallet that is closed. -/
def closing (now : Instant) (reason : String) (row : WalletRow) : WalletRow :=
  { row with
    status := .closed
    closedAt := some now
    closeReason := if reason.isEmpty then none else some reason
    updatedAt := now }

/-- A wallet with another balance. -/
def rebalanced (now : Instant) (balance : WalletBalance) (row : WalletRow) : WalletRow :=
  { row with balance := balance, updatedAt := now }

/-- A wallet that is linked to an account. -/
def linked (now : Instant) (account : AccountId) (row : WalletRow) : WalletRow :=
  { row with ledgerAccount := some account, updatedAt := now }

/-- A wallet was frozen or made active again, or was so before. -/
inductive StatusSet (session : Session) (id : WalletId) (status : WalletStatus) (before : Books) :
    WalletStatus × WalletRow → Books → Prop
  | same {row : WalletRow} (member : row ∈ before.wallets) (named : row.id = id)
      (already : row.status = status) : StatusSet session id status before (status, row) before
  | set {old row : WalletRow} {after : Books} (unclosed : old.status ≠ .closed)
      (wanted : status ≠ .closed) (other : old.status ≠ status)
      (revised : Revised id (underStatus session.now status) old before after)
      (found : after.wallet? id = some row) :
      StatusSet session id status before (old.status, row) after

/-- An empty wallet was closed. -/
structure Closed (session : Session) (id : WalletId) (reason : String) (before : Books)
    (answer : WalletStatus × WalletRow) (after : Books) : Prop where
  revised : ∃ old, answer.1 = old.status ∧ old.status ≠ .closed ∧ old.balance.balance.units = 0 ∧
    Revised id (closing session.now (Text.trim reason)) old before after
  found : after.wallet? id = some answer.2

/-- A part of what an active wallet has available was set aside. -/
structure Held (session : Session) (id : WalletId) (amount : Amount) (before : Books)
    (balance : WalletBalance) (after : Books) : Prop where
  revised : ∃ old, old.status = .active ∧ old.balance.hold amount = .ok balance ∧
    Revised id (rebalanced session.now balance) old before after

/-- A held amount was made available again. -/
structure Released (session : Session) (id : WalletId) (amount : Amount) (before : Books)
    (balance : WalletBalance) (after : Books) : Prop where
  revised : ∃ old, old.balance.release amount = .ok balance ∧
    Revised id (rebalanced session.now balance) old before after

/-- A wallet was linked to an account. -/
structure Linked (session : Session) (id : WalletId) (account : AccountId)
    (before after : Books) : Prop where
  revised : ∃ old, Revised id (linked session.now account) old before after

variable {session : Session} {before after : Books}

/-! ### Soundness -/

theorem Opened.sound {owner : UserId} {walletType : WalletType} {currency : Currency}
    {row : WalletRow} (did : Opened session owner walletType currency before row after)
    (sound : Sound before) : Sound after := by
  obtain ⟨uuid, _, rfl⟩ := did.issued
  have fits : (newRow ⟨uuid⟩ session.now owner walletType currency).balance.Fits :=
    ⟨Int.le_refl 0, Int.le_refl 0⟩
  rw [did.left]
  exact ((sound.addWallet did.newId did.newSlot fits).addLimits did.newLimits).reissued _

theorem rebalanced_sound (id : WalletId) (now : Instant) {balance : WalletBalance}
    (sound : Sound before) (fits : balance.Fits) :
    Sound { before with
      wallets := altered WalletRow.id id (rebalanced now balance) before.wallets } :=
  sound.alterWallets (fun _ => rfl) (fun _ => rfl) fun _ _ _ => fits

/-- A wallet that stays its owner's leaves the books sound. -/
theorem Revised.sound {id : WalletId} {alter : WalletRow → WalletRow} {old : WalletRow}
    (did : Revised id alter old before after) (sound : Sound before)
    (sameId : ∀ row, (alter row).id = row.id) (sameSlot : ∀ row, (alter row).slot = row.slot) :
    Sound after := by
  rw [did.left]
  refine sound.alterWallets sameId sameSlot fun row member named => ?_
  rw [eq_of_key sound.walletIds member did.member (named.trans did.named.symm)]
  exact did.fits

/-! ### Units of work -/

theorem of_insertWallet {owner : UserId} {walletType : WalletType} {currency : Currency}
    {row : WalletRow} (sound : Sound before)
    (ran : insertWallet session owner walletType currency before = .ok (row, after)) :
    Opened session owner walletType currency before row after := by
  simp only [insertWallet, Work.bind_eq_ok, Work.fresh_eq_ok, Work.mapError_eq_ok,
    Work.stored_eq_ok, Work.pure_eq_ok] at ran
  obtain ⟨uuid, _, ⟨issued, rfl⟩, _, middle, first, _, last, second, rfl, rfl⟩ := ran
  obtain ⟨_, _, _, alone, _, rfl⟩ := insert_eq_ok.mp first
  obtain ⟨_, _, _, alone', _, rfl⟩ := insert_eq_ok.mp second
  have apart := fun other member => (walletSheet_clashes sound.plain).mp (alone other member)
  have apart' := fun other member => (limitsSheet_clashes sound.plain).mp (alone' other member)
  exact {
    issued := ⟨uuid, issued, rfl⟩
    newId := fun other member => (apart other member).1.symm
    newSlot := fun other member => (apart other member).2.symm
    newLimits := fun other member => (apart' other member).symm
    left := rfl }

theorem of_lockWallet {id : WalletId} {row : WalletRow}
    (ran : lockWallet id before = .ok (row, after)) :
    row ∈ before.wallets ∧ row.id = id ∧ before = after := by
  obtain ⟨found, same⟩ := Work.of_found_lookUp ran
  obtain ⟨member, named⟩ := mem_of_wallet? found
  exact ⟨member, named, same⟩

/-- A statement that changes the wallet of an identifier leaves the wallet revised. -/
theorem of_changeWallet {faults : Faults} {id : WalletId} {alter : WalletRow → WalletRow}
    {done : Unit} (sound : Sound before)
    (ran : changeOne faults walletSheet (fun row => row.id == id) alter before =
      .ok (done, after)) :
    ∃ old, Revised id alter old before after := by
  obtain ⟨⟨old, member, named, fit⟩, left⟩ := of_changeOne ran
  exact ⟨old, member, named, (walletSheet_isFit sound.plain).mp fit, left⟩

/-- A change of a wallet that is there, which leaves it its owner's and its figures fitting, is
refused by the storage only. -/
theorem changeWallet_failsOnly (faults : Faults) (alter : WalletRow → WalletRow) {row : WalletRow}
    (sound : Sound before) (member : row ∈ before.wallets) (fits : (alter row).balance.Fits)
    (sameId : ∀ row, (alter row).id = row.id) (sameSlot : ∀ row, (alter row).slot = row.slot) :
    FailsOnly (fun fault => fault = .refused ∧ faults.refuses .wallets .update = true)
      (changeOne faults walletSheet (fun other => other.id == row.id) alter before) := by
  have chosenFits : ∀ other ∈ before.wallets, other.id = row.id → (alter other).balance.Fits := by
    intro other present named
    rw [eq_of_key sound.walletIds present member named]
    exact fits
  have later := sound.alterWallets sameId sameSlot chosenFits
  have same : (before.wallets.map fun other =>
      if (other.id == row.id) = true then alter other else other) =
        altered WalletRow.id row.id alter before.wallets := by
    simp only [altered, beq_iff_eq]
  refine changeOne_failsOnly ⟨row, member, beq_self_eq_true row.id⟩ ?_ ?_ fun _ _ _ => rfl
  · intro other present chosen
    exact (walletSheet_isFit sound.plain).mpr (chosenFits other present (eq_of_beq chosen))
  · show allDistinct _ (before.wallets.map fun other =>
      if (other.id == row.id) = true then alter other else other) = true
    rw [same]
    exact (walletSheet_allDistinct sound.plain).mpr ⟨later.walletIds, later.slots⟩

/-- A wallet that was looked up is the one that is changed. -/
theorem Revised.of_mem {id : WalletId} {alter : WalletRow → WalletRow} {old row : WalletRow}
    (did : Revised id alter old before after) (sound : Sound before) (member : row ∈ before.wallets)
    (named : row.id = id) : Revised id alter row before after := by
  rw [eq_of_key sound.walletIds member did.member (named.trans did.named.symm)]
  exact did

theorem of_writeWallet {alter : WalletRow → WalletRow} {old row : WalletRow} (sound : Sound before)
    (member : old ∈ before.wallets)
    (ran : writeWallet session old.id alter before = .ok (row, after)) :
    Revised old.id alter old before after ∧ after.wallet? old.id = some row := by
  simp only [writeWallet, Work.bind_eq_ok, Work.stored_eq_ok] at ran
  obtain ⟨_, middle, changed, rest⟩ := ran
  obtain ⟨found, rfl⟩ := Work.of_found_lookUp (Work.bind_eq_ok.mpr rest)
  obtain ⟨_, revised⟩ := of_changeWallet sound changed
  exact ⟨revised.of_mem sound member rfl, found⟩

theorem of_bookStatus {id : WalletId} {status : WalletStatus} {answer : WalletStatus × WalletRow}
    (sound : Sound before) (ran : bookStatus session id status before = .ok (answer, after)) :
    StatusSet session id status before answer after := by
  simp only [bookStatus, Work.bind_eq_ok, Work.verdict_eq_ok, Verdict.mapError_eq_ok,
    Wallet.validateStatusChange_eq_ok] at ran
  obtain ⟨old, _, locked, _, _, ⟨⟨unclosed, wanted⟩, rfl⟩, rest⟩ := ran
  obtain ⟨member, rfl, rfl⟩ := of_lockWallet locked
  by_cases already : old.status = status
  · rw [if_pos already] at rest
    obtain ⟨rfl, rfl⟩ := Work.pure_eq_ok.mp rest
    rw [already]
    exact .same member rfl already
  · rw [if_neg already] at rest
    simp only [Work.bind_eq_ok, Work.pure_eq_ok] at rest
    obtain ⟨row, _, wrote, rfl, rfl⟩ := rest
    obtain ⟨revised, found⟩ := of_writeWallet sound member wrote
    exact .set unclosed wanted already revised found

theorem of_bookClosing {id : WalletId} {reason : String} {answer : WalletStatus × WalletRow}
    (sound : Sound before) (ran : bookClosing session id reason before = .ok (answer, after)) :
    Closed session id reason before answer after := by
  simp only [bookClosing, Work.bind_eq_ok, Work.verdict_eq_ok, Verdict.mapError_eq_ok,
    Wallet.validateClose_eq_ok, Work.pure_eq_ok] at ran
  obtain ⟨old, _, locked, _, _, ⟨⟨unclosed, empty⟩, rfl⟩, row, _, wrote, rfl, rfl⟩ := ran
  obtain ⟨member, rfl, rfl⟩ := of_lockWallet locked
  obtain ⟨revised, found⟩ := of_writeWallet sound member wrote
  exact ⟨⟨old, rfl, unclosed, empty, revised⟩, found⟩

theorem of_saveBalance {old : WalletRow} {balance : WalletBalance} {done : Unit}
    (sound : Sound before) (member : old ∈ before.wallets)
    (ran : saveBalance session old.id balance before = .ok (done, after)) :
    Revised old.id (rebalanced session.now balance) old before after := by
  obtain ⟨_, revised⟩ := of_changeWallet sound ran
  exact revised.of_mem sound member rfl

/-- A balance that may be changed is changed as told. -/
theorem of_bookBalance {id : WalletId} {check : Wallet.Snapshot → Except Wallet.WalletError Unit}
    {move : WalletBalance → Except (Halt Wallet.WalletError) WalletBalance}
    {balance : WalletBalance}
    (sound : Sound before) (ran : bookBalance session id check move before = .ok (balance, after)) :
    ∃ old, check old.snapshot = .ok () ∧ move old.balance = .ok balance ∧
      Revised id (rebalanced session.now balance) old before after := by
  simp only [bookBalance, Work.bind_eq_ok, Work.mapError_eq_ok, Work.verdict_eq_ok,
    Verdict.mapError_eq_ok, Work.stored_eq_ok, Work.pure_eq_ok] at ran
  obtain ⟨old, _, locked, _, _, ⟨checked, rfl⟩, _, _, ⟨moved, rfl⟩, _, _, saved, rfl, rfl⟩ := ran
  obtain ⟨member, rfl, rfl⟩ := of_lockWallet locked
  exact ⟨old, checked, moved, of_saveBalance sound member saved⟩

theorem of_linkAccount {id : WalletId} {account : AccountId} {done : Unit} (sound : Sound before)
    (ran : linkAccount session id account before = .ok (done, after)) :
    Linked session id account before after :=
  ⟨of_changeWallet sound (Work.stored_eq_ok.mp ran)⟩

/-! ### Operations -/

theorem findWallet_looks (id : WalletId) :
    Ends (findWallet session id) fun world row after =>
      world.books.wallet? id = row ∧ after = world :=
  .lookUp session walletSheet _

theorem getWallet_looks (id : WalletId) :
    Ends (getWallet session id) fun world row after =>
      world.books.wallet? id = some row ∧ after = world :=
  ((findWallet_looks id).after fun row => .found _ row).mono
    fun _ _ _ ⟨_, same, is, still⟩ => ⟨same.trans is, still⟩

theorem ensureUnowned_looks (owner : UserId) (walletType : WalletType) (currency : Currency) :
    Ends (ensureUnowned session owner walletType currency) fun world _ after =>
      True ∧ after = world := by
  refine ((Ends.lookUp session walletSheet _).after fun row => ?_).mono
    fun _ _ _ ⟨_, _, same⟩ => ⟨trivial, same⟩
  by_cases owned : row.isSome = true
  · rw [if_pos owned]
    exact .throw _
  · rw [if_neg owned]
    exact (Ends.pure ()).mono fun _ _ _ did => did.2

/-- **Opening a wallet** leaves one wallet more or nothing, and makes it known. -/
theorem createWallet_ends (session : Session) (owner : UserId) (walletType : WalletType)
    (code : String) :
    Ends (createWallet session owner walletType code)
      (Leaves (fun before row after => ∃ currency, Currency.read? code = some currency ∧
        Opened session owner walletType currency before row after)
        fun row => [.walletCreated row.id owner row.currency]) := by
  refine Ends.leavesAfter (fun currency => Opened session owner walletType currency)
    (Ends.found _ _) (fun currency => ?_) fun read _ _ did => ⟨_, read, did⟩
  refine Ends.leavesAfter _ (ensureUnowned_looks owner walletType currency) (fun _ => ?_)
    fun _ _ _ did => did
  exact (Ends.leaves session of_insertWallet).leavesAndTells _

/-- **Freezing a wallet or making it active again** leaves its status set, and makes it known
unless it was so before. -/
theorem updateStatus_ends (session : Session) (id : WalletId) (status : WalletStatus) :
    Ends (updateStatus session id status) fun world row after => ∃ was,
      (Sound world.books → StatusSet session id status world.books (was, row) after.books) ∧
        after.published = world.published ++
          if was ≠ status then [.walletStatusChanged id was status] else [] := by
  have books : Ends (Action.atomically session (bookStatus session id status))
      (Leaves (StatusSet session id status) fun _ => []) := Ends.leaves session of_bookStatus
  refine (books.andThen (fun answer world => { world with
    published := world.published ++
      if answer.1 ≠ status then [.walletStatusChanged id answer.1 status] else [] }) Prod.snd
    ?_).mono ?_
  · rintro ⟨was, row⟩ world
    by_cases other : was ≠ status
    · simp only [if_pos other]
      rfl
    · simp only [if_neg other, List.append_nil]
      rfl
  · rintro world _ _ ⟨⟨was, row⟩, middle, did, rfl, rfl⟩
    refine ⟨was, did.changed, ?_⟩
    rw [did.published, List.append_nil]

/-- **Closing a wallet** leaves it closed or nothing, and makes it known. -/
theorem closeWallet_ends (session : Session) (id : WalletId) (reason : String) :
    Ends (closeWallet session id reason) fun world row after => ∃ was,
      (Sound world.books → Closed session id reason world.books (was, row) after.books) ∧
        after.published = world.published ++ [.walletStatusChanged id was .closed] := by
  have books : Ends (Action.atomically session (bookClosing session id reason))
      (Leaves (Closed session id reason) fun _ => []) := Ends.leaves session of_bookClosing
  refine (books.andThen (fun answer world => { world with
    published := world.published ++ [.walletStatusChanged id answer.1 .closed] }) Prod.snd
    fun _ _ => rfl).mono ?_
  rintro world _ _ ⟨⟨was, row⟩, middle, did, rfl, rfl⟩
  refine ⟨was, did.changed, ?_⟩
  show middle.published ++ _ = _
  rw [did.published, List.append_nil]

/-- **Setting a part of the balance aside** leaves it held or nothing. -/
theorem placeHold_ends (session : Session) (id : WalletId) (amount : Amount) :
    Ends (placeHold session id amount) (Leaves (Held session id amount) fun _ => []) :=
  Ends.leaves session fun sound ran => by
    obtain ⟨old, active, held, revised⟩ := of_bookBalance sound ran
    exact ⟨old, Wallet.ensureActive_eq_ok.mp active, held, revised⟩

/-- **Making a held amount available again** leaves it released or nothing. -/
theorem releaseHold_ends (session : Session) (id : WalletId) (amount : Amount) :
    Ends (releaseHold session id amount) (Leaves (Released session id amount) fun _ => []) :=
  Ends.leaves session fun sound ran => by
    obtain ⟨old, _, released, revised⟩ := of_bookBalance sound ran
    exact ⟨old, released, revised⟩

end Passbook.Holdings
