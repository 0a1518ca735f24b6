/-
**The steps of a bootstrap leave marks that last.**

* `Coded`: an account has a code; `ensure_settles`: an account is opened once;
* `Provided`: a wallet is linked to the account that stands for it; `provision_settles`: it is
  linked once; `provision_keeps`: and keeps its link when any wallet is provided for;
* `Used`: a movement was made under a key; `deposit_settles`, `transfer_settles`: money moves once;
* `tryOverdraft_repeats`: whether asking for too much is refused or not, it is so again.
-/

import Passbook.Proofs.Bootstrap.Standing
import Passbook.Proofs.Operation.Once
import Passbook.Proofs.Operation.Provided

namespace Passbook.Bootstrap

open Passbook.Chart (Ensured ensureAccount port walletAccount walletCode)
open Passbook.Ledger (LedgerAccount NewAccount)
open Passbook.Holdings (provisionInStages provisionWallet)
open Passbook.Operation (Call DeedKind Tied ensured_happened marks provision_again
  provision_denied_again tag_of_ensured tied_of_linked_self)
open Passbook.Payments (MovementRequest TransferRequest processDeposit processTransfer)
open Passbook.Store
open Passbook.Transfer (OperationKind TransactionKey)

variable {session : Session} {kinds : List DeedKind}

/-! ### Accounts -/

/-- An account has a code. -/
def Coded (code : String) (books : Books) : Prop := ∃ row ∈ books.accounts, row.code = code

theorem coded_lasts (code : String) : Lasts kinds (Coded code) := by
  rintro session kind before after - - deed ⟨row, member, rfl⟩
  obtain ⟨row', member', same⟩ := List.mem_map.mp (deed.tags.subset (List.mem_map_of_mem member))
  exact ⟨row', member', congrArg Prod.snd same⟩

/-- **An account is opened once.** -/
theorem ensure_settles (reached : session.faults.blocked = false) (input : NewAccount) :
    Settles (asked (ensureAccount (port session) input)) (fun _ => ())
      fun _ => Coded (Text.trim input.code) where
  marks := fun {world} sound => by
    rcases (Chart.ensureAccount_ends session input).mapError BootstrapError.chart world with
      ⟨cause, refused⟩ | ⟨account, after, done, left⟩
    · exact .inl ⟨cause, world, refused, refused⟩
    · obtain ⟨row, member, _, code⟩ := (left.changed sound).account
      exact .inr ⟨account, after, done, row, member, code⟩
  stands := fun {world _} sound marked => by
    obtain ⟨row, member, code⟩ := marked
    have found := accountByCode?_of_mem sound.codes member
    rw [code] at found
    refine ⟨row.shown, ?_, rfl⟩
    unfold asked
    rw [Chart.ensureAccount_found reached sound.plain found]
    rfl

theorem ensure_plays (session : Session) (input : NewAccount) :
    Plays [.accountOpened] (asked (ensureAccount (port session) input)) :=
  Plays.mapError BootstrapError.chart
    (.of_call (.command session (.ensureAccount input)) rfl fun _ => id)

/-! ### Links -/

/-- A wallet is linked to the account that stands for it. -/
def Provided (wallet : WalletId) (books : Books) : Prop :=
  ∃ row ∈ books.wallets, row.id = wallet ∧ ∃ account ∈ books.accounts,
    account.code = Text.trim (walletCode wallet) ∧ row.ledgerAccount = some account.id

theorem provided_iff {wallet : WalletId} {books : Books} :
    Provided wallet books ↔ ∃ account, Tied wallet account books := by
  constructor
  · rintro ⟨row, member, rfl, account, there, code, link⟩
    exact ⟨account.id, List.mem_map.mpr ⟨row, member, Prod.ext rfl link⟩,
      Turns.hasCode_iff.mpr ⟨account, there, rfl, code.trans (Chart.trim_walletCode row.id)⟩⟩
  · rintro ⟨_, tied⟩
    obtain ⟨row, member, bond⟩ := List.mem_map.mp tied.bond
    obtain ⟨account, there, rfl, code⟩ := Turns.hasCode_iff.mp tied.code
    exact ⟨row, member, congrArg Prod.fst bond, account, there,
      code.trans (Chart.trim_walletCode wallet).symm, congrArg Prod.snd bond⟩

/-- Only linking wallets changes links. -/
theorem provided_lasts {wallet : WalletId} (others : .linked ∉ kinds) :
    Lasts kinds (Provided wallet) := by
  intro session kind before after member sound deed provided
  obtain ⟨account, tied⟩ := provided_iff.mp provided
  exact provided_iff.mpr ⟨account, deed.tied (fun is => others (is ▸ member)) tied⟩

/-- A wallet is linked once its account was found or opened and, if it had to be, its link was
written. -/
theorem provided_of_ensured {row : WalletRow} {account : LedgerAccount} {before after : Books}
    (did : Ensured session (walletAccount row.id row.currency) before account after)
    (member : row ∈ before.wallets) (already : row.ledgerAccount = some account.id) :
    Provided row.id after := by
  have bond : (row.id, some account.id) ∈ after.wallets.map WalletRow.bond :=
    List.mem_map.mpr ⟨row, did.wallets ▸ member, Prod.ext rfl already⟩
  exact provided_iff.mpr ⟨_, bond, (tag_of_ensured did).1⟩

/-- **A wallet is linked once**, or its link is not written however often that is tried. -/
theorem provision_settles (reached : session.faults.blocked = false) (wallet : WalletId) :
    Settles (provision session wallet) (fun _ => ()) fun _ => Provided wallet := by
  refine Settles.mapError ⟨fun {world} sound => ?_, fun {world _} sound provided => ?_⟩ _
  · have ways := Holdings.provisionHere_cases session session session wallet world
    generalize ended : provisionInStages session session (port session) wallet world = outcome
      at ways
    have did : provisionWallet session (port session) wallet world = outcome := ended
    rw [did]
    cases ways with
    | refused cause => exact .inl ⟨cause, world, rfl, did⟩
    | @halfway row account middle cause found asked other failed =>
      -- the account stays, and is found the next time
      have ensured := asked.changed sound
      obtain ⟨member, rfl⟩ := mem_of_wallet? found
      rw [← ensured.wallets] at member
      exact .inl ⟨cause, middle, rfl, provision_denied_again reached
        ((ensured_happened ensured).sound sound) member (tag_of_ensured ensured).1 other failed⟩
    | @kept row account middle found asked already =>
      obtain ⟨member, rfl⟩ := mem_of_wallet? found
      exact .inr ⟨account, middle, rfl, provided_of_ensured (asked.changed sound) member already⟩
    | @linked row account middle after found asked _ linked =>
      have ensured := asked.changed sound
      have sound' : Sound middle.books := (ensured_happened ensured).sound sound
      exact .inr ⟨account, after, rfl, provided_iff.mpr
        ⟨_, tied_of_linked_self (linked.changed sound') (tag_of_ensured ensured).1⟩⟩
  · obtain ⟨_, tied⟩ := provided_iff.mp provided
    obtain ⟨account, again, _⟩ := provision_again reached sound tied
    exact ⟨account, again, rfl⟩

/-- **Providing any wallet with an account leaves a wallet linked.** -/
theorem provision_keeps (session : Session) (wallet other : WalletId) :
    Keeps (Provided wallet) (provision session other) := by
  refine Keeps.mapError _ fun {world} sound provided => ?_
  obtain ⟨account, tied⟩ := provided_iff.mp provided
  let call : Call := .command session (.provisionWallet other)
  have kept : Tied wallet account (call.run world).2.books :=
    call.tied (fun away => nomatch away) world sound tied
  exact ⟨(call.happened sound).sound sound, provided_iff.mpr ⟨account, kept⟩⟩

theorem provision_plays (session : Session) (wallet : WalletId) :
    Plays [.accountOpened, .linked] (provision session wallet) :=
  Plays.mapError _ (.of_call (.command session (.provisionWallet wallet)) rfl fun _ => id)

/-! ### Movements -/

/-- A movement was made under a key. -/
def Used (kind : OperationKind) (key : String) (books : Books) : Prop :=
  ∃ own amount, TransactionKey.read key = .ok own ∧ (own.text, amount) ∈ marks books kind

theorem used_lasts (kind : OperationKind) (key : String) : Lasts kinds (Used kind key) := by
  rintro session kind before after - sound deed ⟨own, amount, read, marked⟩
  exact ⟨own, amount, read, (deed.persists sound).marks _ marked⟩

/-- **A deposit is made once.** -/
theorem deposit_settles (reached : session.faults.blocked = false) (request : MovementRequest) :
    Settles (processDeposit session request) (fun _ => ())
      fun _ => Used .deposit request.key where
  marks := fun {world} sound => by
    rcases Payments.processDeposit_ends session request world with
      ⟨cause, refused⟩ | ⟨receipt, after, done, receipted⟩
    · exact .inl ⟨cause, world, refused, refused⟩
    · obtain ⟨key, booked, read, rfl, did, _⟩ := receipted.booked
      exact .inr ⟨_, after, done, key, _, read,
        (Operation.marked_of_deposit (did sound)).mark⟩
  stands := fun {world _} sound marked => by
    obtain ⟨key, amount, read, marked⟩ := marked
    obtain ⟨row, member, is⟩ := List.mem_map.mp marked
    obtain ⟨same, rfl⟩ := Prod.mk.inj is
    obtain ⟨present, completed⟩ := List.mem_filter.mp member
    have found := deposit?_of_mem sound.depositKeys present
    rw [same] at found
    exact ⟨_, Payments.processDeposit_replayed reached read found (eq_of_beq completed), rfl⟩

/-- **A transfer is made once.** -/
theorem transfer_settles (reached : session.faults.blocked = false) (request : TransferRequest) :
    Settles (processTransfer session request) (fun _ => ())
      fun _ => Used .transfer request.key where
  marks := fun {world} sound => by
    rcases Payments.processTransfer_ends session request world with
      ⟨cause, refused⟩ | ⟨receipt, after, done, receipted⟩
    · exact .inl ⟨cause, world, refused, refused⟩
    · obtain ⟨key, booked, read, rfl, did, _⟩ := receipted.booked
      exact .inr ⟨_, after, done, key, _, read,
        (Operation.marked_of_transfer (did sound)).mark⟩
  stands := fun {world _} sound marked => by
    obtain ⟨key, amount, read, marked⟩ := marked
    obtain ⟨row, member, is⟩ := List.mem_map.mp marked
    obtain ⟨same, rfl⟩ := Prod.mk.inj is
    have found := transfer?_of_mem sound.transferKeys member
    rw [same] at found
    exact ⟨_, Payments.processTransfer_replayed reached read found, rfl⟩

theorem deposit_plays (session : Session) (request : MovementRequest) :
    Plays [.deposited] (processDeposit session request) :=
  .of_call (.command session (.deposit request)) rfl fun _ => id

theorem transfer_plays (session : Session) (request : TransferRequest) :
    Plays [.transferred] (processTransfer session request) :=
  .of_call (.command session (.transfer request)) rfl fun _ => id

/-- Nothing else happens when too much is asked for. -/
theorem tryOverdraft_left (session : Session) (source destination : WalletId) (world : World) :
    (tryOverdraft session source destination world).2 =
      (processTransfer session (demoOverdraft source destination) world).2 := by
  unfold tryOverdraft
  cases ended : processTransfer session (demoOverdraft source destination) world with
  | mk result after =>
  cases result with
  | ok receipt =>
    rw [Action.bind_of_ok (Action.attempt_of_ok ended)]
    rfl
  | error halt =>
    rw [Action.bind_of_ok (Action.attempt_of_error ended)]
    by_cases bad : isBadRequest halt = true
    · simp only [bad, if_true]
      rfl
    · simp only [bad]
      rfl

/-- How asking for too much ends is told by how the transfer ends. -/
theorem tryOverdraft_congr {source destination : WalletId} {world world' : World}
    (same : processTransfer session (demoOverdraft source destination) world =
      processTransfer session (demoOverdraft source destination) world') :
    tryOverdraft session source destination world =
      tryOverdraft session source destination world' := by
  unfold tryOverdraft
  rcases ended : processTransfer session (demoOverdraft source destination) world with
    ⟨halt | receipt, after⟩
  · rw [Action.bind_of_ok (Action.attempt_of_error ended),
      Action.bind_of_ok (Action.attempt_of_error (same ▸ ended))]
  · rw [Action.bind_of_ok (Action.attempt_of_ok ended),
      Action.bind_of_ok (Action.attempt_of_ok (same ▸ ended))]

/-- **Asking for too much comes out as it came out before**: it is refused again, or found made. -/
theorem tryOverdraft_repeats (reached : session.faults.blocked = false)
    (source destination : WalletId) :
    Repeats [.transferred] (tryOverdraft session source destination) where
  again := fun world sound _ => by
    have settles := transfer_settles reached (demoOverdraft source destination)
    have made : ∀ {receipt after before}, processTransfer session
        (demoOverdraft source destination) before = (.ok receipt, after) →
          tryOverdraft session source destination before = (.ok (), after) := by
      intro receipt after before done
      rw [tryOverdraft, Action.bind_of_ok (Action.attempt_of_ok done)]
      rfl
    rcases settles.marks sound with ⟨halt, after, failed, again⟩ | ⟨receipt, after, done, marked⟩
    · rw [tryOverdraft_left, failed]
      exact tryOverdraft_congr (again.trans failed.symm)
    · obtain ⟨sound', -⟩ := (transfer_plays session (demoOverdraft source destination)).sound
        sound trivial
      rw [done] at sound'
      obtain ⟨replayed, again, -⟩ : ∃ _, _ ∧ _ = () := settles.stands sound' marked
      rw [made done, made again]
  plays := fun world => by
    rw [tryOverdraft_left]
    exact transfer_plays session (demoOverdraft source destination) world

end Passbook.Bootstrap
