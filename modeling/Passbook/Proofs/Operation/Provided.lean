/-
**A wallet is provided with one account for good.**

* `Tied`: a wallet is linked to an account, which has its code; `Deed.tied`, `tied_of_linked`: what
  keeps it so; `Call.tied`: every operation does, but for providing this very wallet from a ledger
  elsewhere;
* `Ready`: the storage does what providing a wallet asks for; `ensureWallet_ready`: then the account
  of a wallet is found or opened, `provision_ready`: and the wallet is provided with it;
* `provision_again`: a wallet that is tied is provided with the same account, and nothing changes;
  `provision_denied_again`: a wallet whose link is not written is not provided with its account the
  next time either;
* `Bound.unique`, `Bound.ensured`: wallets that are bound share no account, and are found the account
  that they are linked to;
* `play_provided`: so providing wallets from the chart succeeds after every run, and goes on giving
  what it gave.
-/

import Passbook.Proofs.Operation.Backed
import Passbook.Proofs.Turns.Ensured

namespace Passbook.Operation

open Passbook.Chart (Ensured ensureAccount port walletAccount walletCode)
open Passbook.Holdings (Linked getWallet provisionWallet)
open Passbook.Ledger (LedgerAccount)
open Passbook.Store
open Passbook.Turns (Coined HasCode IsFor Serves)

/-- A wallet is linked to an account, which has its code. -/
structure Tied (wallet : WalletId) (account : AccountId) (books : Books) : Prop where
  bond : (wallet, some account) ∈ books.wallets.map WalletRow.bond
  code : HasCode books (walletCode wallet) account

/-- The storage does what providing a wallet with an account asks for: it can be reached, takes
accounts, has identifiers left, and lets wallets be linked. -/
def Ready (session : Session) (books : Books) : Prop :=
  Serves session books ∧ session.faults.refuses .wallets .update = false

instance (session : Session) (books : Books) : Decidable (Ready session books) :=
  inferInstanceAs (Decidable (_ ∧ _))

section

variable {session : Session} {kind : DeedKind} {before after books : Books} {world : World}
  {wallet id : WalletId} {account target : AccountId}

/-- The account of a code is the only one. -/
theorem eq_of_hasCode {code : String} {other : AccountId} (sound : Sound books)
    (has : HasCode books code account) (has' : HasCode books code other) : account = other := by
  obtain ⟨row, found, rfl⟩ := has.found sound
  obtain ⟨row', found', rfl⟩ := has'.found sound
  rw [found] at found'
  rw [Option.some.inj found']

/-- The code of an account is the only one that it has. -/
theorem code_of_hasCode {code code' : String} (sound : Sound books)
    (has : HasCode books code account) (has' : HasCode books code' account) : code = code' := by
  obtain ⟨row, member, named, rfl⟩ := Turns.hasCode_iff.mp has
  obtain ⟨row', member', named', rfl⟩ := Turns.hasCode_iff.mp has'
  rw [eq_of_key sound.accountIds member member' (named.trans named'.symm)]

/-! ### What keeps a wallet tied -/

/-- **A deed other than linking a wallet** keeps wallets tied to their accounts. -/
theorem Deed.tied (deed : Deed session kind before after) (other : kind ≠ .linked)
    (tied : Tied wallet account before) : Tied wallet account after := by
  refine ⟨?_, deed.tags.subset tied.code⟩
  by_cases opening : kind = .walletOpened
  · subst opening
    cases deed with
    | walletOpened did =>
    rw [did.left, List.map_append]
    exact List.mem_append_left _ tied.bond
  · rw [deed.keeps_wallets WalletRow.bond opening (fun is => absurd is other) (fun _ _ _ => rfl)
      (fun _ _ _ => rfl) fun _ _ _ => rfl]
    exact tied.bond

/-- Another wallet is linked, or this one to the same account. -/
theorem tied_of_linked (linked : Linked session id target before after)
    (same : id = wallet → target = account) (tied : Tied wallet account before) :
    Tied wallet account after := by
  obtain ⟨_, revised⟩ := linked.revised
  rw [revised.left]
  refine ⟨?_, tied.code⟩
  obtain ⟨row, present, bond⟩ := List.mem_map.mp tied.bond
  have named : row.id = wallet := congrArg Prod.fst bond
  by_cases chosen : row.id = id
  · refine List.mem_map.mpr ⟨_, alter_mem_altered present chosen, ?_⟩
    rw [same (chosen.symm.trans named)]
    exact Prod.ext named rfl
  · exact List.mem_map.mpr ⟨row, mem_altered_of_ne present chosen, bond⟩

/-- A wallet that is linked to the account of its code is tied to it. -/
theorem tied_of_linked_self (linked : Linked session wallet account before after)
    (code : HasCode before (walletCode wallet) account) : Tied wallet account after := by
  obtain ⟨_, revised⟩ := linked.revised
  rw [revised.left]
  exact ⟨List.mem_map.mpr ⟨_, alter_mem_altered revised.member revised.named,
    Prod.ext revised.named rfl⟩, code⟩

/-- Providing any wallet with an account of the chart keeps a wallet tied: the account that is found
for it is its own. -/
theorem provisionInStages_tied (reading opening linking : Session) (id : WalletId) :
    Upholds (Tied wallet account)
      (Holdings.provisionInStages reading linking (port opening) id) := by
  intro world sound tied
  refine (Holdings.provisionHere_cases reading opening linking id world).keeps sound tied ?_
  intro row shown after _ _ did
  obtain ⟨sound', tied'⟩ := (ensured_happened did).preserves (Tied wallet account)
    (fun only _ deed => deed.tied fun is => by simp [is] at only) sound tied
  refine ⟨sound', tied', fun later linked => tied_of_linked linked ?_ tied'⟩
  rintro rfl
  exact eq_of_hasCode sound' (tag_of_ensured did).1 tied'.code

/-- **Every operation keeps a wallet tied**, unless it has this very wallet provided for by a ledger
elsewhere. -/
theorem Call.tied (call : Call) (here : call.outward? ≠ some wallet) :
    Upholds (Tied wallet account) call.run := by
  by_cases links : .linked ∈ call.kinds
  · cases call with
    | command session wanted =>
      cases wanted with
      | provisionWallet id => exact (provisionInStages_tied session session session id).answering
      | _ => exact absurd links (by simp [Call.kinds, Command.kinds])
    | provisionInStages reading opening linking id =>
      exact (provisionInStages_tied reading opening linking id).answering
    | provisionElsewhere reading linking find create id =>
      have other : id ≠ wallet := fun same => here (congrArg some same)
      have provides : Upholds (Tied wallet account) (Holdings.provisionInStages reading linking
          (Chart.LedgerPort.elsewhere find create) id) := by
        intro world sound tied
        refine (Holdings.provisionElsewhere_cases reading linking find create id world).keeps
          sound tied ?_
        intro row shown after _ _ same
        rw [show after = world.books from same]
        exact ⟨sound, tied, fun later linked =>
          tied_of_linked linked (fun is => absurd is other) tied⟩
      exact provides.answering
    | _ => exact absurd links (by simp [Call.kinds])
  · exact call.upholds fun allowed _ deed => deed.tied fun is => links (is ▸ allowed)

/-! ### Providing a wallet -/

/-- A wallet that is there is seen. -/
theorem getWallet_of_mem {row : WalletRow} (reached : session.faults.blocked = false)
    (sound : Sound world.books) (member : row ∈ world.books.wallets) :
    getWallet session row.id world = (.ok row, world) := by
  have looked : Holdings.findWallet session row.id world = (.ok (some row), world) := by
    rw [← wallet?_of_mem sound.plain sound.walletIds member]
    exact Action.lookUp_of_plain reached sound.plain walletSheet _
  rw [getWallet, Action.bind_of_ok looked]
  rfl

/-- **The account of a wallet is found or opened.** -/
theorem ensureWallet_ready {row : WalletRow} (serves : Serves session world.books)
    (sound : Sound world.books) (registered : Registered world.books)
    (coined : Coined world.books) (member : row ∈ world.books.wallets) :
    ∃ shown after, ensureAccount (port session) (walletAccount row.id row.currency) world =
      (.ok shown, after) := by
  obtain ⟨currency, spelled⟩ := coined row member
  have valid : (walletAccount row.id row.currency).validate = .ok () :=
    Chart.walletAccount_valid row.id (by rw [spelled, Turns.read?_code]; rfl)
  have fit : IsFor (walletCode row.id) world.books (walletAccount row.id row.currency) :=
    ⟨valid, Chart.trim_walletCode row.id, fun _ none => nomatch none⟩
  rw [Chart.ensureAccount_run, Turns.find_run serves.1 sound.plain fit.2.1]
  cases found : world.books.accountByCode? (walletCode row.id) with
  | some account => exact ⟨account.shown, world, rfl⟩
  | none =>
    -- no account has the code, so it is opened
    have uncoded : Turns.ensureUncoded session (walletAccount row.id row.currency) world =
        (.ok (), world) := by
      rw [Turns.ensureUncoded_run serves.1 sound.plain fit, found]
      rfl
    have rooted := Turns.ensureParent_run serves.1 sound.plain fit.2.2
    rcases Turns.addAccount_run serves sound registered fit with
      ⟨_, id, has⟩ | ⟨new, books, added, _⟩
    · obtain ⟨_, taken, _⟩ := has.found sound
      rw [taken] at found
      cases found
    · have opened : Chart.createAccount session (walletAccount row.id row.currency) world =
          (.ok new, { world with books := books }) := by
        rw [Turns.createAccount_eq, Action.bind_of_ok uncoded, Action.bind_of_ok rooted, added]
      have created : (port session).create (walletAccount row.id row.currency) world =
          (.ok new.shown, { world with books := books }) := by
        rw [Chart.port_create, Chart.shown, opened]
        rfl
      simp only [Option.map_none, created]
      exact ⟨new.shown, _, rfl⟩

/-- Once its account was found or opened, providing a wallet links it, if it is not linked. -/
theorem provisionWallet_ensured {row : WalletRow} {shown : LedgerAccount} {middle : World}
    (reached : session.faults.blocked = false) (sound : Sound world.books)
    (member : row ∈ world.books.wallets)
    (ensured : ensureAccount (port session) (walletAccount row.id row.currency) world =
      (.ok shown, middle)) :
    provisionWallet session (port session) row.id world =
      (do
        if row.ledgerAccount ≠ some shown.id then
          Action.atomically session (Holdings.linkAccount session row.id shown.id)
        pure shown : Action Holdings.HoldingError LedgerAccount) middle := by
  have asked : Holdings.asked (ensureAccount (port session) (walletAccount row.id row.currency))
      world = (.ok shown, middle) := by
    rw [Holdings.asked, ensured]
    rfl
  rw [provisionWallet, Holdings.provisionInStages,
    Action.bind_of_ok (getWallet_of_mem reached sound member), Action.bind_of_ok asked]

/-- **A wallet is provided with the account of its code**, where the storage is ready, and is tied to
it. -/
theorem provision_ready {row : WalletRow} (ready : Ready session world.books)
    (sound : Sound world.books) (registered : Registered world.books)
    (coined : Coined world.books) (member : row ∈ world.books.wallets) :
    ∃ shown after, provisionWallet session (port session) row.id world = (.ok shown, after) ∧
      shown.code = walletCode row.id ∧ Sound after.books ∧ Tied row.id shown.id after.books := by
  obtain ⟨serves, links⟩ := ready
  obtain ⟨shown, middle, ensured⟩ := ensureWallet_ready serves sound registered coined member
  have did : Ensured session (walletAccount row.id row.currency) world.books shown middle.books := by
    rcases Chart.ensureAccount_ends session (walletAccount row.id row.currency) world with
      ⟨_, refused⟩ | ⟨_, _, same, left⟩
    · cases ensured.symm.trans refused
    · cases ensured.symm.trans same
      exact left.changed sound
  have sound' : Sound middle.books := (ensured_happened did).sound sound
  obtain ⟨has, code⟩ := tag_of_ensured did
  have still : row ∈ middle.books.wallets := did.wallets ▸ member
  rw [provisionWallet_ensured serves.1 sound member ensured]
  by_cases already : row.ledgerAccount = some shown.id
  · rw [if_neg (not_not_intro already)]
    exact ⟨shown, middle, rfl, code, sound', List.mem_map.mpr ⟨row, still, Prod.ext rfl already⟩, has⟩
  · obtain ⟨after, linked⟩ := Holdings.linkAccount_eq_ok_of_allowed shown.id sound' still links
    have did := Holdings.of_linkAccount sound' linked
    rw [if_pos already, Action.bind_of_ok (Action.atomically_of_ok serves.1 linked)]
    have deed : Deed session .linked middle.books after := .linked did
    exact ⟨shown, _, rfl, code, deed.sound sound', tied_of_linked_self did has⟩

/-- The account of a code that is there is found, and nothing changes. -/
theorem ensureWallet_found (reached : session.faults.blocked = false) (sound : Sound world.books)
    (has : HasCode world.books (walletCode wallet) account) (currency : String) :
    ∃ shown, ensureAccount (port session) (walletAccount wallet currency) world =
      (.ok shown, world) ∧ shown.id = account ∧ shown.code = walletCode wallet := by
  obtain ⟨row, found, rfl⟩ := has.found sound
  have code : row.code = walletCode wallet := (mem_of_accountByCode? found).2
  rw [← Chart.trim_walletCode wallet] at found
  exact ⟨row.shown, Chart.ensureAccount_found reached sound.plain found, rfl, code⟩

/-- **A wallet that is tied is provided with the same account**, and nothing changes. -/
theorem provision_again (reached : session.faults.blocked = false) (sound : Sound world.books)
    (tied : Tied wallet account world.books) :
    ∃ shown, provisionWallet session (port session) wallet world = (.ok shown, world) ∧
      shown.id = account ∧ shown.code = walletCode wallet := by
  obtain ⟨row, member, bond⟩ := List.mem_map.mp tied.bond
  obtain rfl : row.id = wallet := congrArg Prod.fst bond
  have link : row.ledgerAccount = some account := congrArg Prod.snd bond
  obtain ⟨shown, ensured, rfl, code⟩ :=
    ensureWallet_found reached sound tied.code row.currency
  refine ⟨shown, ?_, rfl, code⟩
  rw [provisionWallet_ensured reached sound member ensured, if_neg (not_not_intro link)]
  rfl

/-- **A wallet whose account is there and whose link is not written** is not provided with it the
next time either, as long as its link is not written. -/
theorem provision_denied_again {row : WalletRow} {cause : Holdings.HoldingError}
    (reached : session.faults.blocked = false) (sound : Sound world.books)
    (member : row ∈ world.books.wallets) (has : HasCode world.books (walletCode row.id) account)
    (other : row.ledgerAccount ≠ some account)
    (failed : Action.atomically session (Holdings.linkAccount session row.id account) world =
      (.error cause, world)) :
    provisionWallet session (port session) row.id world = (.error cause, world) := by
  obtain ⟨shown, ensured, rfl, -⟩ := ensureWallet_found reached sound has row.currency
  rw [provisionWallet_ensured reached sound member ensured, if_pos other,
    Action.bind_of_error failed]

/-! ### Links that may not come from elsewhere -/

/-- **Two wallets share no account**, unless the link of one may come from elsewhere. -/
theorem Bound.unique {elsewhere : List WalletId} {row other : WalletRow}
    (bound : Bound elsewhere books) (sound : Sound books) (member : row ∈ books.wallets)
    (member' : other ∈ books.wallets) (here : row.id ∉ elsewhere) (here' : other.id ∉ elsewhere)
    (link : row.ledgerAccount = some account) (link' : other.ledgerAccount = some account) :
    row.id = other.id := by
  have has := (bound row.bond (List.mem_map_of_mem member) account link).resolve_left here
  have has' := (bound other.bond (List.mem_map_of_mem member') account link').resolve_left here'
  exact Chart.walletCode_inj (code_of_hasCode sound has has')

/-- **The account that is found for a wallet is the one that it is linked to**, unless its link may
come from elsewhere. -/
theorem Bound.ensured {elsewhere : List WalletId} {row : WalletRow} {shown : LedgerAccount}
    {left : World} (bound : Bound elsewhere world.books) (sound : Sound world.books)
    (member : row ∈ world.books.wallets) (here : row.id ∉ elsewhere)
    (link : row.ledgerAccount = some account)
    (ensured : ensureAccount (port session) (walletAccount row.id row.currency) world =
      (.ok shown, left)) : shown.id = account := by
  have has := (bound row.bond (List.mem_map_of_mem member) account link).resolve_left here
  rcases Chart.ensureAccount_ends session (walletAccount row.id row.currency) world with
    ⟨_, refused⟩ | ⟨_, _, same, leaves⟩
  · cases ensured.symm.trans refused
  · cases ensured.symm.trans same
    have did := leaves.changed sound
    have sound' := (ensured_happened did).sound sound
    exact eq_of_hasCode sound' (tag_of_ensured did).1
      ((ensured_happened did).tags_subset sound has)

end

/-! ### Runs -/

/-- A wallet that is tied stays so in every run that does not have it provided for by a ledger
elsewhere. -/
theorem play_tied {wallet : WalletId} {account : AccountId} {world : World} (later : List Call)
    (here : wallet ∉ later.filterMap Call.outward?) (sound : Sound world.books)
    (tied : Tied wallet account world.books) : Tied wallet account (play later world).books :=
  play_upholds _ later (fun call member => call.tied fun away =>
    here (List.mem_filterMap.mpr ⟨call, member, away⟩)) sound tied

/-- **A wallet is provided with one account for good.** After any run from fresh books, and whatever
the status of a wallet: where the storage is ready, providing the wallet from the chart succeeds, with
the account of the code of the wallet, to which the wallet is linked from then on. Whatever operations
come after that, providing the wallet again from the chart gives the same account and changes nothing,
unless one of them had this wallet provided for by a ledger elsewhere. Nor do two wallets share an
account that they are linked to; and whatever account is found for a wallet that has a link is the one
that it is linked to, so that no link is ever replaced. Both hold of wallets that no operation had
provided for by a ledger elsewhere. -/
theorem play_provided (supply : Supply) (calls : List Call) :
    (∀ wallet ∈ (play calls (.fresh supply)).books.wallets, ∀ session,
      Ready session (play calls (.fresh supply)).books → ∃ account after,
        provisionWallet session (port session) wallet.id (play calls (.fresh supply)) =
            (.ok account, after) ∧
          account.code = walletCode wallet.id ∧
          (∃ row ∈ after.books.accounts, row.id = account.id ∧ row.code = walletCode wallet.id) ∧
          (∃ row ∈ after.books.wallets, row.id = wallet.id ∧
            row.ledgerAccount = some account.id) ∧
          ∀ later session', wallet.id ∉ later.filterMap Call.outward? →
            session'.faults.blocked = false → ∃ again,
              provisionWallet session' (port session') wallet.id (play later after) =
                  (.ok again, play later after) ∧
                again.id = account.id ∧ again.code = walletCode wallet.id) ∧
    (∀ wallet ∈ (play calls (.fresh supply)).books.wallets,
      ∀ other ∈ (play calls (.fresh supply)).books.wallets,
      wallet.id ∉ calls.filterMap Call.outward? → other.id ∉ calls.filterMap Call.outward? →
        ∀ account, wallet.ledgerAccount = some account → other.ledgerAccount = some account →
          wallet.id = other.id) ∧
    ∀ wallet ∈ (play calls (.fresh supply)).books.wallets,
      wallet.id ∉ calls.filterMap Call.outward? →
      ∀ linked, wallet.ledgerAccount = some linked → ∀ session account after,
        ensureAccount (port session) (walletAccount wallet.id wallet.currency)
            (play calls (.fresh supply)) = (.ok account, after) → account.id = linked := by
  have sound : Sound (play calls (.fresh supply)).books := play_sound calls Sound.fresh
  have backed := backed_of_play supply calls
  refine ⟨fun wallet member session ready => ?_, fun wallet member other member' here here' _ link
    link' => backed.bound.unique sound member member' here here' link link',
    fun wallet member here _ link _ _ _ ensured =>
      backed.bound.ensured sound member here link ensured⟩
  obtain ⟨account, after, provided, code, sound', tied⟩ :=
    provision_ready ready sound (play_registered supply calls) backed.coined member
  obtain ⟨row, present, bond⟩ := List.mem_map.mp tied.bond
  refine ⟨account, after, provided, code, Turns.hasCode_iff.mp tied.code,
    ⟨row, present, congrArg Prod.fst bond, congrArg Prod.snd bond⟩, fun later session' here reached =>
      provision_again reached (play_sound later sound') (play_tied later here sound' tied)⟩

/-- A wallet is opened and frozen, and another one is opened and provided with an account. -/
def sampleFrozenWallet : List Call :=
  [.command sampleSession (.createWallet (sampleOwner 7) .main "USD"),
    .command sampleSession (.updateStatus sampleWallet .frozen),
    .command sampleSession (.createWallet (sampleOwner 8) .main "USD"),
    .command sampleSession (.provisionWallet sampleOther)]

/-- The frozen wallet is provided with an account, also after it was paid into, and the other one
keeps its own. -/
theorem play_provided_frozen :
    (∃ wallet ∈ (play sampleFrozenWallet .fresh).books.wallets, wallet.status = .frozen ∧
      Ready sampleSession (play sampleFrozenWallet .fresh).books ∧ ∃ account after,
        provisionWallet sampleSession (port sampleSession) wallet.id
            (play sampleFrozenWallet .fresh) = (.ok account, after) ∧
          account.code = walletCode wallet.id ∧ ∃ again,
            provisionWallet sampleSession (port sampleSession) wallet.id
                (play sampleDeposits after) = (.ok again, play sampleDeposits after) ∧
              again.id = account.id) ∧
    ∃ wallet ∈ (play sampleFrozenWallet .fresh).books.wallets, ∃ linked,
      wallet.ledgerAccount = some linked ∧
        (∀ other ∈ (play sampleFrozenWallet .fresh).books.wallets,
          other.ledgerAccount = some linked → wallet.id = other.id) ∧
        ∃ account after, ensureAccount (port sampleSession)
            (walletAccount wallet.id wallet.currency) (play sampleFrozenWallet .fresh) =
              (.ok account, after) ∧ account.id = linked := by
  have here : sampleFrozenWallet.filterMap Call.outward? = [] := rfl
  have here' : sampleDeposits.filterMap Call.outward? = [] := rfl
  obtain ⟨provides, unique, ensures⟩ := play_provided .ascending sampleFrozenWallet
  rw [here] at unique ensures
  constructor
  · have there : ∃ wallet ∈ (play sampleFrozenWallet .fresh).books.wallets,
        wallet.status = .frozen := by
      decide +kernel
    have ready : Ready sampleSession (play sampleFrozenWallet .fresh).books := by decide +kernel
    obtain ⟨wallet, member, frozen⟩ := there
    obtain ⟨account, after, provided, code, _, _, again⟩ := provides wallet member _ ready
    obtain ⟨again, same, its, _⟩ :=
      again sampleDeposits sampleSession (here' ▸ List.not_mem_nil) rfl
    exact ⟨wallet, member, frozen, ready, account, after, provided, code, again, same, its⟩
  · have there : ∃ wallet ∈ (play sampleFrozenWallet .fresh).books.wallets,
        wallet.ledgerAccount.isSome ∧ (ensureAccount (port sampleSession)
          (walletAccount wallet.id wallet.currency) (play sampleFrozenWallet .fresh)).1.isOk := by
      decide +kernel
    obtain ⟨wallet, member, some, found⟩ := there
    obtain ⟨linked, link⟩ := Option.isSome_iff_exists.mp some
    cases ensured : ensureAccount (port sampleSession) (walletAccount wallet.id wallet.currency)
      (play sampleFrozenWallet .fresh) with
    | mk result after =>
    rw [ensured] at found
    cases result with
    | error _ => cases found
    | ok account =>
      exact ⟨wallet, member, linked, link, fun other member' link' =>
        unique wallet member other member' List.not_mem_nil List.not_mem_nil linked link link',
        account, after, ensured, ensures wallet member List.not_mem_nil linked link _ _ _ ensured⟩

end Passbook.Operation
