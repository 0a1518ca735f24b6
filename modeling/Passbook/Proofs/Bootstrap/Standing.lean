/-
**The wallet of a demonstration.**

It is the earliest wallet of its owner in the currency of the demonstration. Wallets of others,
balances, statuses and links make no difference to which one that is.

* `standing`: the earliest wallet of an owner in that currency, told from what wallets are opened
  with; `ownedWallets_standing`: the listing of wallets gives it;
* `standing_append_new`, `standing_append_other`: what another wallet makes of it;
* `Deed.births`: a deed other than opening a wallet leaves what wallets were opened with;
* `demoWallet_settles`: the wallet of an owner is opened once.
-/

import Passbook.Bootstrap
import Passbook.Proofs.Bootstrap.Again
import Passbook.Proofs.Operation.Closed
import Passbook.Proofs.Operation.Registered
import Passbook.Proofs.Store.Failing

namespace Passbook.Operation

open Passbook.Store

/-- What decides how a wallet stands among others. -/
structure Birth where
  id : WalletId
  owner : UserId
  currency : String
  createdAt : Calendar.Instant

/-- What a wallet was opened with. -/
def birth (row : WalletRow) : Birth := ⟨row.id, row.owner, row.currency, row.createdAt⟩

theorem Fares.birth {now : Calendar.Instant} {kind : DeedKind} {old row : WalletRow}
    (fares : Fares now kind old row) : birth row = birth old := by
  cases fares <;> rfl

/-- A deed other than opening a wallet leaves what wallets were opened with. -/
theorem Deed.births {session : Session} {kind : DeedKind} {before after : Books}
    (deed : Deed session kind before after) (sound : Sound before)
    (other : kind ≠ .walletOpened) :
    after.wallets.map birth = before.wallets.map birth := by
  cases deed.tends sound with
  | opened _ left =>
    have count := congrArg List.length (deed.kept_slots other)
    rw [left] at count
    simp at count
  | each alter fares left =>
    rw [left, List.map_map]
    exact List.map_congr_left fun row member => (fares row member).birth

end Passbook.Operation

namespace Passbook.Bootstrap

open Passbook.Holdings (isEarlier openingText ownedWallets)
open Passbook.Operation (Birth DeedKind birth)
open Passbook.Store
open Passbook.Store.Action (Ends)

/-! ### The earliest wallet -/

/-- A wallet stands before another. -/
def isBefore (first second : Birth) : Bool :=
  let moment := first.createdAt.storedText
  let moment' := second.createdAt.storedText
  decide (moment < moment') || (moment == moment' && decide (first.id < second.id))

/-- A wallet of an owner in the currency of the demonstration. -/
def isOf (owner : UserId) (born : Birth) : Bool :=
  born.owner == owner && born.currency == currency.code

/-- The earliest wallet of an owner in the currency of the demonstration. -/
def standing (owner : UserId) (births : List Birth) : Option WalletId :=
  (((births.filter fun born => born.owner == owner).mergeSort fun first second =>
    !isBefore second first).find? fun born => born.currency == currency.code).map Birth.id

theorem isEarlier_eq {books : Books} (plain : books.strays = []) (first second : WalletRow) :
    isEarlier books first second = isBefore (birth first) (birth second) := by
  simp only [isEarlier, openingText, Books.stray?_eq_none plain]
  rfl

/-- **The listing of the wallets of an owner** gives the earliest. -/
theorem ownedWallets_standing {books : Books} (plain : books.strays = []) (owner : UserId) :
    ((ownedWallets owner none books).find? fun row => row.currency == currency.code).map
        WalletRow.id =
      standing owner (books.wallets.map birth) := by
  have owned : (books.wallets.filter fun row => books.isOwned owner row &&
      (none : Option Wallet.WalletStatus).all fun wanted =>
        wanted == row.status && books.isUsual (row.spot "status")) =
          books.wallets.filter ((fun born => born.owner == owner) ∘ birth) := by
    congr 1
    funext row
    simp [Books.isOwned, Books.isUsual_eq_true plain, birth]
  rw [standing, List.filter_map, ← List.map_mergeSort (r := fun first second =>
    !isEarlier books second first) fun first _ second _ => by rw [isEarlier_eq plain],
    List.find?_map, Option.map_map, ← owned]
  rfl

variable {owner : UserId} {births : List Birth} {born : Birth} {wallet : WalletId}

/-- An owner who has a wallet in the currency has an earliest one. -/
theorem standing_isSome (member : born ∈ births) (fit : isOf owner born) :
    (standing owner births).isSome := by
  obtain ⟨owned, fit⟩ := Bool.and_eq_true_iff.mp fit
  rw [standing, Option.isSome_map]
  refine List.find?_isSome.mpr ⟨born, List.mem_mergeSort.mpr ?_, fit⟩
  exact List.mem_filter.mpr ⟨member, owned⟩

/-- The earliest wallet is one of the owner in the currency. -/
theorem of_standing (stands : standing owner births = some wallet) :
    ∃ born ∈ births, isOf owner born ∧ born.id = wallet := by
  obtain ⟨born, found, named⟩ := Option.map_eq_some_iff.mp stands
  have fit := List.find?_some found
  obtain ⟨member, owned⟩ := List.mem_filter.mp
    (List.mem_mergeSort.mp (List.mem_of_find?_eq_some found))
  exact ⟨born, member, Bool.and_eq_true_iff.mpr ⟨owned, fit⟩, named⟩

/-- The first wallet of an owner in the currency is the earliest. -/
theorem standing_append_new (none : standing owner births = none) (fit : isOf owner born) :
    standing owner (births ++ [born]) = some born.id := by
  obtain ⟨id, stands⟩ := Option.isSome_iff_exists.mp
    (standing_isSome (List.mem_append_right births (List.mem_singleton_self born)) fit)
  obtain ⟨other, member, its, rfl⟩ := of_standing stands
  rcases List.mem_append.mp member with old | new
  · have some := standing_isSome old its
    rw [none] at some
    cases some
  · rw [stands, List.mem_singleton.mp new]

/-- A wallet of someone else makes no difference. -/
theorem standing_append_other (other : born.owner ≠ owner) :
    standing owner (births ++ [born]) = standing owner births := by
  have apart : (born.owner == owner) = false := beq_eq_false_iff_ne.mpr other
  rw [standing, List.filter_append, List.filter_singleton, apart, standing]
  simp

/-! ### The wallet of a demonstration -/

/-- A wallet is the earliest of an owner in the currency of the demonstration. -/
def Standing (owner : UserId) (wallet : WalletId) (books : Books) : Prop :=
  standing owner (books.wallets.map birth) = some wallet

/-- Only opening wallets makes another the earliest. -/
theorem standing_lasts {kinds : List DeedKind} (others : .walletOpened ∉ kinds) :
    Lasts kinds (Standing owner wallet) := by
  intro session kind before after member sound deed stands
  rw [Standing, deed.births sound fun same => others (same ▸ member)]
  exact stands

/-- A wallet that is opened is the earliest of an owner who had none, and makes no difference to
others. -/
theorem standing_of_opened {session : Session} {its : Currency} {before after : Books}
    {row : WalletRow} (read : Currency.read? currency.code = some its)
    (did : Holdings.Opened session owner .main its before row after) :
    (standing owner (before.wallets.map birth) = none → Standing owner row.id after) ∧
      ∀ {other stood}, other ≠ owner → Standing other stood before → Standing other stood after := by
  have births : after.wallets.map birth = before.wallets.map birth ++ [birth row] := by
    rw [did.left, List.map_append, List.map_singleton]
  obtain ⟨uuid, _, rfl⟩ := did.issued
  have code : its.code = currency.code := by
    have same : Currency.read? currency.code = some currency := by decide
    rw [Option.some.inj (read.symm.trans same)]
  refine ⟨fun none => ?_, fun apart stands => ?_⟩
  · rw [Standing, births]
    exact standing_append_new none (by simp [isOf, birth, Holdings.newRow, code])
  · rw [Standing, births, standing_append_other apart.symm]
    exact stands

/-- **The wallet of an owner is found, or opened where there is none.** The wallets of others stay
the earliest. -/
theorem demoWallet_ends (session : Session) (owner : UserId) :
    Ends (demoWallet session owner) fun world wallet after => Sound world.books →
      Standing owner wallet after.books ∧ ∀ {other stood}, other ≠ owner →
        Standing other stood world.books → Standing other stood after.books := by
  unfold demoWallet
  refine (((Ends.gather session walletSheet (ownedWallets owner none)).mapError _).after
    fun rows => show Ends _ fun world wallet after => Sound world.books →
      ownedWallets owner none world.books = rows → Standing owner wallet after.books ∧
        ∀ {other stood}, other ≠ owner → Standing other stood world.books →
          Standing other stood after.books from ?_).mono
    fun world _ _ ⟨_, listed, did⟩ sound => did sound listed
  cases found : rows.find? fun row => row.currency == currency.code with
  | some row =>
    refine (Ends.pure row.id).mono ?_
    rintro world _ _ ⟨rfl, rfl⟩ sound listed
    have stands := ownedWallets_standing sound.plain owner
    rw [listed, found] at stands
    exact ⟨stands.symm, fun _ stands => stands⟩
  | none =>
    refine (((Holdings.createWallet_ends session owner .main currency.code).mapError _).andThen
      (fun _ world => world) WalletRow.id fun _ _ => rfl).mono ?_
    rintro world _ _ ⟨row, after, left, rfl, rfl⟩ sound listed
    obtain ⟨its, read, did⟩ := left.changed sound
    have stands := ownedWallets_standing sound.plain owner
    rw [listed, found] at stands
    exact ⟨(standing_of_opened read did).1 stands.symm, (standing_of_opened read did).2⟩

theorem demoWallet_plays (session : Session) (owner : UserId) :
    Plays [.walletOpened] (demoWallet session owner) := by
  have lists : Ends (Holdings.listWallets session owner none) _ :=
    Ends.gather session walletSheet (ownedWallets owner none)
  refine Plays.bind (.mapError _ (.of_left lists.left)) fun rows => ?_
  cases rows.find? fun row => row.currency == currency.code with
  | some row => exact .of_left fun _ => rfl
  | none =>
    have opens : Plays [.walletOpened]
        (Holdings.createWallet session owner .main currency.code) :=
      .of_call (.command session (.createWallet owner .main currency.code)) rfl fun _ => id
    exact (opens.mapError BootstrapError.holding).bind fun _ => .of_left fun _ => rfl

/-- **Opening the wallet of another owner** makes no difference to the earliest of an owner. -/
theorem demoWallet_keeps (session : Session) {other : UserId} (apart : owner ≠ other) :
    Keeps (Standing owner wallet) (demoWallet session other) := by
  intro world sound stands
  refine ⟨((demoWallet_plays session other).sound sound trivial).1, ?_⟩
  rcases demoWallet_ends session other world with ⟨cause, refused⟩ | ⟨opened, after, done, did⟩
  · rw [refused]
    exact stands
  · rw [done]
    exact (did sound).2 apart stands

/-- **The wallet of an owner is opened once.** -/
theorem demoWallet_settles {session : Session} (reached : session.faults.blocked = false)
    (owner : UserId) : Settles (demoWallet session owner) id (Standing owner) where
  marks := fun {world} sound => (demoWallet_ends session owner world).imp
    (fun ⟨cause, refused⟩ => ⟨cause, world, refused, refused⟩)
    fun ⟨wallet, after, done, did⟩ => ⟨wallet, after, done, (did sound).1⟩
  stands := fun {world wallet} sound stands => by
    refine ⟨wallet, ?_, rfl⟩
    have listed : Action.mapError BootstrapError.holding
        (Holdings.listWallets session owner none) world =
          (.ok (ownedWallets owner none world.books), world) := by
      unfold Action.mapError
      rw [show Holdings.listWallets session owner none world = _ from
        Action.atomically_of_ok reached (Work.gather_of_plain sound.plain walletSheet _)]
      rfl
    obtain ⟨row, found, rfl⟩ := Option.map_eq_some_iff.mp
      ((ownedWallets_standing sound.plain owner).trans stands)
    unfold demoWallet
    rw [Action.bind_of_ok listed, found]
    rfl

end Passbook.Bootstrap
