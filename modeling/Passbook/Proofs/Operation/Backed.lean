/-
**The accounts that wallets are linked to.**

A wallet takes the account that has its code, and whoever opened that account chose its type and its
currency.

* `Sourced`: an account is one that was asked for, or stands for a wallet as it should;
* `Bound`: a wallet is linked to the account of its code, unless its link may come from elsewhere;
* `Deed.sourced`, `Deed.bound`: what deeds other than opening accounts and linking wallets keep;
* `provisioned_backed`: providing a wallet with an account keeps both; `Call.backed`: so does every
  operation;
* `play_backed`: what every run leaves of linked wallets.
-/

import Passbook.Proofs.Operation.Charted
import Passbook.Proofs.Turns.Exclusive

namespace Passbook.Store

/-- The identifier of a wallet with its link. -/
def WalletRow.bond (row : WalletRow) : WalletId × Option AccountId := (row.id, row.ledgerAccount)

end Passbook.Store

namespace Passbook.Operation

open Passbook.Chart (Ensured Lasting charted lasting walletAccount walletCode)
open Passbook.Ledger (NewAccount)
open Passbook.Store
open Passbook.Turns (Coined coined_of_deed)

/-- An account is of the code, the type and the currency that were asked for. -/
structure Answers (input : NewAccount) (account : Lasting) : Prop where
  code : account.code = Text.trim input.code
  accountType : account.accountType = input.accountType
  currency : account.currency = Text.capitals input.currency

/-- An account stands for a wallet: what is owed to its owner, in its currency. -/
structure Owes (wallet : WalletRow) (account : Lasting) : Prop where
  code : account.code = walletCode wallet.id
  accountType : account.accountType = .liability
  currency : account.currency = wallet.currency

/-- Every account is one that was asked for, or stands for a wallet. -/
def Sourced (asked : List NewAccount) (books : Books) : Prop :=
  ∀ account ∈ charted books,
    (∃ input ∈ asked, Answers input account) ∨ ∃ wallet ∈ books.wallets, Owes wallet account

/-- Every link of a wallet leads to the account of its code, but for the wallets whose links may
come from elsewhere. -/
def Bound (elsewhere : List WalletId) (books : Books) : Prop :=
  ∀ bond ∈ books.wallets.map WalletRow.bond, ∀ account ∈ bond.2,
    bond.1 ∈ elsewhere ∨ (account, walletCode bond.1) ∈ books.accounts.map AccountRow.tag

/-- What holds of the accounts that wallets are linked to. -/
structure Backed (asked : List NewAccount) (elsewhere : List WalletId) (books : Books) : Prop where
  coined : Coined books
  sourced : Sourced asked books
  bound : Bound elsewhere books

theorem Backed.fresh {supply : Supply} (asked : List NewAccount) (elsewhere : List WalletId) :
    Backed asked elsewhere (.fresh supply) := by
  constructor <;> exact fun _ absent => nomatch absent

section

variable {session : Session} {kind : DeedKind} {before after : Books} {asked : List NewAccount}
  {elsewhere : List WalletId}

/-! ### Deeds -/

/-- What stands for a wallet goes on standing for it. -/
theorem owes_of_deed {account : Lasting} (deed : Deed session kind before after)
    (owes : ∃ wallet ∈ before.wallets, Owes wallet account) :
    ∃ wallet ∈ after.wallets, Owes wallet account := by
  obtain ⟨wallet, member, owes⟩ := owes
  obtain ⟨later, present, same⟩ := List.mem_map.mp (deed.slots.subset (List.mem_map_of_mem member))
  have named : later.id = wallet.id := congrArg Prod.fst same
  have coined : later.currency = wallet.currency := congrArg (fun tag => tag.2.2.2) same
  exact ⟨later, present, named ▸ owes.code, owes.accountType, coined ▸ owes.currency⟩

/-- **A deed other than opening an account** keeps where accounts come from. -/
theorem Deed.sourced (deed : Deed session kind before after) (other : kind ≠ .accountOpened)
    (sourced : Sourced asked before) : Sourced asked after := by
  intro account member
  rw [deed.keeps_chart other] at member
  exact (sourced account member).imp_right (owes_of_deed deed)

/-- An account that is opened has its source. -/
theorem sourced_of_opened {input : NewAccount} {row : AccountRow}
    (did : Chart.Opened session input before row after)
    (known : (∃ wanted ∈ asked, Answers wanted (lasting row)) ∨
      ∃ wallet ∈ before.wallets, Owes wallet (lasting row))
    (sourced : Sourced asked before) : Sourced asked after := by
  intro account member
  rw [charted, did.left, List.map_append, List.mem_append] at member
  have same : after.wallets = before.wallets := by rw [did.left]
  rw [same]
  rcases member with present | single
  · exact sourced account present
  · rw [List.mem_singleton.mp single]
    exact known

/-- An account that was asked for is opened as it was asked for. -/
theorem answers_of_opened {input : NewAccount} {row : AccountRow}
    (did : Chart.Opened session input before row after) : Answers input (lasting row) := by
  obtain ⟨uuid, _, new⟩ := did.issued
  rw [new]
  exact ⟨rfl, rfl, rfl⟩

/-- Accounts that keep their codes and wallets that keep their links stay bound. -/
theorem Bound.of_same (bound : Bound elsewhere before)
    (accounts : before.accounts.map AccountRow.tag ⊆ after.accounts.map AccountRow.tag)
    (wallets : after.wallets.map WalletRow.bond = before.wallets.map WalletRow.bond) :
    Bound elsewhere after := by
  intro bond member account link
  rw [wallets] at member
  exact (bound bond member account link).imp_right fun there => accounts there

/-- **A deed other than linking a wallet** keeps where links lead: a wallet is opened without
one. -/
theorem Deed.bound (deed : Deed session kind before after) (other : kind ≠ .linked)
    (bound : Bound elsewhere before) : Bound elsewhere after := by
  by_cases opening : kind = .walletOpened
  · subst opening
    cases deed with
    | walletOpened did =>
    obtain ⟨uuid, _, new⟩ := did.issued
    intro bond member account link
    rw [did.left] at member ⊢
    rw [List.map_append, List.mem_append] at member
    rcases member with present | single
    · exact bound bond present account link
    · rw [List.mem_singleton.mp single, new] at link
      cases link
  · exact bound.of_same deed.tags.subset (deed.keeps_wallets WalletRow.bond opening
      (fun is => absurd is other) (fun _ _ _ => rfl) (fun _ _ _ => rfl) fun _ _ _ => rfl)

/-- A wallet is linked to the account of its code, or its link may come from elsewhere. -/
theorem bound_of_linked {id : WalletId} {account : AccountId}
    (did : Holdings.Linked session id account before after)
    (known : id ∈ elsewhere ∨ (account, walletCode id) ∈ before.accounts.map AccountRow.tag)
    (bound : Bound elsewhere before) : Bound elsewhere after := by
  obtain ⟨_, revised⟩ := did.revised
  rw [revised.left]
  intro bond member target link
  obtain ⟨row, present, rfl⟩ := List.mem_map.mp member
  obtain ⟨old, stood, rfl⟩ := mem_altered.mp present
  by_cases chosen : old.id = id
  · rw [if_pos chosen] at link ⊢
    obtain rfl : account = target := Option.some.inj link
    show old.id ∈ elsewhere ∨ (account, walletCode old.id) ∈ _
    rw [chosen]
    exact known
  · rw [if_neg chosen] at link ⊢
    exact bound _ (List.mem_map_of_mem stood) target link

/-- A deed that opens no account and links no wallet keeps all of it. -/
theorem Deed.backed (deed : Deed session kind before after) (other : kind ≠ .accountOpened)
    (other' : kind ≠ .linked) (backed : Backed asked elsewhere before) :
    Backed asked elsewhere after :=
  ⟨coined_of_deed deed backed.coined, deed.sourced other backed.sourced,
    deed.bound other' backed.bound⟩

/-- An account that is opened with its source keeps all of it. -/
theorem Backed.opened {input : NewAccount} {row : AccountRow}
    (backed : Backed asked elsewhere before) (valid : input.validate = .ok ())
    (did : Chart.Opened session input before row after)
    (known : (∃ wanted ∈ asked, Answers wanted (lasting row)) ∨
      ∃ wallet ∈ before.wallets, Owes wallet (lasting row)) : Backed asked elsewhere after := by
  have deed : Deed session .accountOpened before after := .accountOpened valid did
  exact ⟨coined_of_deed deed backed.coined, sourced_of_opened did known backed.sourced,
    deed.bound (by decide) backed.bound⟩

/-! ### Operations -/

/-- The account that an operation of the chart asks for. -/
def Call.opening? : Call → Option NewAccount
  | command _ (.createAccount input) => some input
  | command _ (.openAccount input) => some input
  | command _ (.ensureAccount input) => some input
  | _ => none

/-- The wallet that an operation has provided for by a ledger elsewhere. -/
def Call.outward? : Call → Option WalletId
  | provisionElsewhere _ _ _ _ wallet => some wallet
  | _ => none

/-- The account of a wallet that is found or opened has its code. -/
theorem tag_of_ensured {wallet : WalletId} {currency : String} {account : Ledger.LedgerAccount}
    (did : Ensured session (walletAccount wallet currency) before account after) :
    (account.id, walletCode wallet) ∈ after.accounts.map AccountRow.tag ∧
      account.code = walletCode wallet := by
  obtain ⟨row, member, rfl, code⟩ := did.account
  have spelled : row.code = walletCode wallet := code.trans (Chart.trim_walletCode wallet)
  exact ⟨List.mem_map.mpr ⟨row, member, Prod.ext rfl spelled⟩, spelled⟩

/-- The account of a wallet that is found or opened has its code, and all is kept. -/
theorem backed_of_ensured {wallet : WalletRow} {account : Ledger.LedgerAccount}
    (did : Ensured session (walletAccount wallet.id wallet.currency) before account after)
    (member : wallet ∈ before.wallets) (backed : Backed asked elsewhere before) :
    Backed asked elsewhere after ∧
      (account.id, walletCode wallet.id) ∈ after.accounts.map AccountRow.tag := by
  refine ⟨?_, (tag_of_ensured did).1⟩
  cases did with
  | stood _ _ _ left =>
    rw [left]
    exact backed
  | opened row valid did _ =>
    have answers := answers_of_opened did
    obtain ⟨currency, coined⟩ := backed.coined wallet member
    have capital : Text.capitals wallet.currency = wallet.currency := by
      rw [coined]
      cases currency <;> decide
    have owes : Owes wallet (lasting row) :=
      ⟨answers.code.trans (Chart.trim_walletCode wallet.id), answers.accountType,
        answers.currency.trans capital⟩
    exact backed.opened valid did (.inr ⟨wallet, member, owes⟩)

/-- **Providing a wallet with an account** keeps all of it, if the account that is found for it is
one of its code or the link may come from elsewhere. -/
theorem provisioned_backed {linking : Session} {id : WalletId} {world : World}
    {ensured : WalletRow → Books → Ledger.LedgerAccount → Books → Prop}
    {outcome : Except Holdings.HoldingError Ledger.LedgerAccount × World}
    (finds : ∀ {wallet account after}, wallet ∈ world.books.wallets → wallet.id = id →
      ensured wallet world.books account after → Sound after ∧ Backed asked elsewhere after ∧
        (id ∈ elsewhere ∨ (account.id, walletCode id) ∈ after.accounts.map AccountRow.tag))
    (provisioned : Holdings.Provisioned linking id ensured world outcome)
    (sound : Sound world.books) (backed : Backed asked elsewhere world.books) :
    Backed asked elsewhere outcome.2.books := by
  refine provisioned.keeps sound backed fun member named did => ?_
  obtain ⟨sound', backed', known⟩ := finds member named did
  refine ⟨sound', backed', fun later linked => ?_⟩
  have deed : Deed linking .linked _ later := .linked linked
  exact ⟨coined_of_deed deed backed'.coined, deed.sourced (by decide) backed'.sourced,
    bound_of_linked linked known backed'.bound⟩

/-- An account that an operation of the chart asks for is opened as it was asked for. -/
theorem Backed.openedFor {input : NewAccount} {row : AccountRow}
    (backed : Backed asked elsewhere before) (valid : input.validate = .ok ())
    (did : Chart.Opened session input before row after) (known : input ∈ asked) :
    Backed asked elsewhere after :=
  backed.opened valid did (.inl ⟨input, known, answers_of_opened did⟩)

/-- An account of the chart that a wallet is provided with is one of its code. -/
theorem provisionInStages_backed (reading opening linking : Session) (wallet : WalletId) :
    Upholds (Backed asked elsewhere)
      (Holdings.provisionInStages reading linking (Chart.port opening) wallet) := by
  intro world sound backed
  refine provisioned_backed ?_ (Holdings.provisionHere_cases reading opening linking wallet world)
    sound backed
  rintro row account after member rfl did
  have kept := backed_of_ensured did member backed
  exact ⟨(ensured_happened did).sound sound, kept.1, .inr kept.2⟩

/-- **Every operation keeps all of it**, if what it asks for is known. -/
theorem Call.backed (call : Call) (known : ∀ input ∈ call.opening?, input ∈ asked)
    (away : ∀ wallet ∈ call.outward?, wallet ∈ elsewhere) :
    Upholds (Backed asked elsewhere) call.run := by
  by_cases providing : .accountOpened ∈ call.kinds ∨ .linked ∈ call.kinds
  · cases call with
    | command session wanted =>
      cases wanted with
      | createAccount input =>
        exact (Upholds.of_leaves (Chart.createAccount_ends session input)
          fun ⟨valid, did⟩ backed => backed.openedFor valid did (known input rfl)).answering
      | openAccount input =>
        exact (Upholds.of_leaves (Chart.create_ends session input)
          fun ⟨_, ⟨valid, did⟩, _⟩ backed => backed.openedFor valid did (known input rfl)).answering
      | ensureAccount input =>
        refine (Upholds.of_leaves (Chart.ensureAccount_ends session input)
          fun did backed => ?_).answering
        cases did with
        | stood _ _ _ left =>
          rw [left]
          exact backed
        | opened row valid did _ => exact backed.openedFor valid did (known input rfl)
      | provisionWallet wallet =>
        exact (provisionInStages_backed session session session wallet).answering
      | _ => exact absurd providing (by simp [Call.kinds, Command.kinds])
    | provisionInStages reading opening linking wallet =>
      exact (provisionInStages_backed reading opening linking wallet).answering
    | provisionElsewhere reading linking find create wallet =>
      have provides : Upholds (Backed asked elsewhere) (Holdings.provisionInStages reading linking
          (Chart.LedgerPort.elsewhere find create) wallet) := by
        intro world sound backed
        refine provisioned_backed ?_
          (Holdings.provisionElsewhere_cases reading linking find create wallet world) sound backed
        rintro row account after _ _ same
        rw [show after = world.books from same]
        exact ⟨sound, backed, .inl (away wallet rfl)⟩
      exact provides.answering
    | _ => exact absurd providing (by simp [Call.kinds])
  · rw [not_or] at providing
    exact call.upholds fun allowed _ deed => deed.backed
      (fun is => providing.1 (is ▸ allowed)) fun is => providing.2 (is ▸ allowed)

end

/-! ### Runs -/

/-- Every run from fresh books leaves accounts and links as told by what its operations asked
for. -/
theorem backed_of_play (supply : Supply) (calls : List Call) :
    Backed (calls.filterMap Call.opening?) (calls.filterMap Call.outward?)
      (play calls (.fresh supply)).books :=
  play_upholds _ calls (fun call member => call.backed
    (fun _ is => List.mem_filterMap.mpr ⟨call, member, is⟩)
    fun _ is => List.mem_filterMap.mpr ⟨call, member, is⟩) Sound.fresh (.fresh _ _)

/-- **A wallet is linked to the account of its code**, in every run from fresh books, unless some
operation of the run had it provided for by a ledger elsewhere. The account is a liability in the
currency of the wallet, unless some operation of the run asked for an account of this code: then it
may be of the type and in the currency that were asked for. -/
theorem play_backed (supply : Supply) (calls : List Call) :
    ∀ wallet ∈ (play calls (.fresh supply)).books.wallets, ∀ account ∈ wallet.ledgerAccount,
      wallet.id ∈ calls.filterMap Call.outward? ∨
        ∃ row ∈ (play calls (.fresh supply)).books.accounts,
          row.id = account ∧ row.code = walletCode wallet.id ∧
            ((row.accountType = .liability ∧ row.currency = wallet.currency) ∨
              ∃ input ∈ calls.filterMap Call.opening?,
                Text.trim input.code = walletCode wallet.id ∧
                  row.accountType = input.accountType ∧
                    row.currency = Text.capitals input.currency) := by
  have backed := backed_of_play supply calls
  have sound : Sound (play calls (.fresh supply)).books := play_sound calls Sound.fresh
  intro wallet member account link
  rcases backed.bound wallet.bond (List.mem_map_of_mem member) account link with away | tagged
  · exact .inl away
  right
  obtain ⟨row, present, same⟩ := List.mem_map.mp tagged
  have named : row.id = account := congrArg Prod.fst same
  have code : row.code = walletCode wallet.id := congrArg Prod.snd same
  refine ⟨row, present, named, code, ?_⟩
  rcases backed.sourced (lasting row) (List.mem_map_of_mem present) with
    ⟨input, known, answers⟩ | ⟨owner, member', owes⟩
  · exact .inr ⟨input, known, answers.code.symm.trans code, answers.accountType, answers.currency⟩
  · -- the wallet for which the account stands is the one that is linked to it
    have other : owner.id = wallet.id := Chart.walletCode_inj (owes.code.symm.trans code)
    obtain rfl := eq_of_key sound.walletIds member' member other
    exact .inl ⟨owes.accountType, owes.currency⟩

/-- A wallet is opened and provided with an account. -/
def sampleProvided : List Call :=
  [.command sampleSession (.createWallet (sampleOwner 7) .main "USD"),
    .command sampleSession (.provisionWallet sampleWallet)]

/-- The wallet is linked to a liability in its currency, of its code. -/
theorem play_backed_provided :
    ∃ wallet ∈ (play sampleProvided .fresh).books.wallets, ∃ account ∈ wallet.ledgerAccount,
      ∃ row ∈ (play sampleProvided .fresh).books.accounts,
        row.id = account ∧ row.code = walletCode wallet.id ∧
          row.accountType = .liability ∧ row.currency = wallet.currency := by
  have there : ∃ wallet ∈ (play sampleProvided .fresh).books.wallets,
      wallet.ledgerAccount.isSome := by
    decide +kernel
  have here : sampleProvided.filterMap Call.outward? = [] := rfl
  have unasked : sampleProvided.filterMap Call.opening? = [] := rfl
  obtain ⟨wallet, member, linked⟩ := there
  obtain ⟨account, link⟩ := Option.isSome_iff_exists.mp linked
  have backed := play_backed .ascending sampleProvided wallet member account link
  rw [here, unasked] at backed
  obtain ⟨row, present, named, code, kind⟩ := backed.resolve_left List.not_mem_nil
  have owed := kind.resolve_right fun ⟨_, asked, _⟩ => List.not_mem_nil asked
  exact ⟨wallet, member, account, link, row, present, named, code, owed⟩

/-- A wallet is opened, an account of another type and in another currency is opened under the code
of the wallet, and then the wallet is provided with an account. -/
def sampleImposter : List Call :=
  [.command sampleSession (.createWallet (sampleOwner 7) .main "USD"),
    .command sampleSession (.createAccount ⟨walletCode sampleWallet, "Cash", .asset, "EUR", none⟩),
    .command sampleSession (.provisionWallet sampleWallet)]

/-- **A wallet may be linked to an account that does not stand for it**: whatever account has its
code is taken. -/
theorem sampleImposter_taken :
    ¬ ∀ wallet ∈ (play sampleImposter .fresh).books.wallets, ∀ account ∈ wallet.ledgerAccount,
      ∃ row ∈ (play sampleImposter .fresh).books.accounts,
        row.id = account ∧ row.code = walletCode wallet.id ∧
          row.accountType = .liability ∧ row.currency = wallet.currency := by
  decide +kernel

end Passbook.Operation
