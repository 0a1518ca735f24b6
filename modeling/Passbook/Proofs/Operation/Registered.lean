/-
**Accounts and wallets stay under the identifiers that they were given.**

* `AccountRow.tag`: the identifier and the code of an account; `Deed.tags`: a deed leaves all of
  them as they are, or adds an account under the next identifier;
* `WalletRow.tag`, `Deed.slots`: the same of wallets with their owners, types and currencies;
* `Registered`: accounts and wallets bear identifiers that have been handed out;
  `play_registered`: so they do after every run from fresh books.
-/

import Passbook.Proofs.Bookkeeping.Journaled
import Passbook.Proofs.Operation.Paired

namespace Passbook.Store

/-- The identifier and the code of an account. -/
def AccountRow.tag (row : AccountRow) : AccountId × String := (row.id, row.code)

/-- The identifier of a wallet with its owner, type and currency. -/
def WalletRow.tag (row : WalletRow) : WalletId × UserId × Wallet.WalletType × String :=
  (row.id, row.slot)

end Passbook.Store

namespace Passbook.Operation

open Passbook.Store

/-- Rows keep their tags, or one is added under the next identifier. -/
inductive Enrolled {ρ τ : Type} (tag : ρ → τ) (uuid : ρ → Uuid) (before after : Books)
    (rows rows' : List ρ) : Prop
  | kept (same : rows'.map tag = rows.map tag)
  | added {row : ρ} (next : before.next? = some (uuid row))
      (used : after.issued = before.issued + 1) (left : rows' = rows ++ [row])

section

variable {session : Session} {kind : DeedKind} {before after : Books}

/-- **A deed leaves accounts their identifiers and codes.** -/
theorem Deed.tags (deed : Deed session kind before after) :
    Enrolled AccountRow.tag (fun row => row.id.uuid) before after before.accounts
      after.accounts := by
  by_cases opening : kind = .accountOpened
  · subst opening
    cases deed with
    | @accountOpened _ row _ _ _ did =>
    obtain ⟨uuid, next, new⟩ := did.issued
    have named : row.id.uuid = uuid := by
      rw [new]
      rfl
    exact .added (named ▸ next) (by rw [did.left]) (by rw [did.left])
  · exact .kept (deed.keeps_accounts AccountRow.tag opening (fun _ _ _ _ => rfl)
      fun _ _ _ => rfl)

/-- A deed other than opening a wallet leaves wallets their identifiers, owners, types and
currencies. -/
theorem Deed.kept_slots (deed : Deed session kind before after) (other : kind ≠ .walletOpened) :
    after.wallets.map WalletRow.tag = before.wallets.map WalletRow.tag :=
  deed.keeps_wallets WalletRow.tag other (fun _ _ _ _ => rfl) (fun _ _ _ => rfl)
    (fun _ _ _ => rfl) fun _ _ _ => rfl

/-- **A deed leaves wallets their identifiers, owners, types and currencies**, or adds one. -/
theorem Deed.slots (deed : Deed session kind before after) :
    Enrolled WalletRow.tag (fun row => row.id.uuid) before after before.wallets after.wallets := by
  by_cases opening : kind = .walletOpened
  · subst opening
    cases deed with
    | @walletOpened _ _ _ row _ _ did =>
    obtain ⟨uuid, next, new⟩ := did.issued
    have named : row.id.uuid = uuid := by
      rw [new]
      rfl
    exact .added (named ▸ next) (by rw [did.left]) (by rw [did.left])
  · exact .kept (deed.kept_slots opening)

section Enrolled

variable {ρ τ : Type} {tag : ρ → τ} {uuid : ρ → Uuid} {rows rows' : List ρ}

/-- Tags are not lost. -/
theorem Enrolled.subset (enrolled : Enrolled tag uuid before after rows rows') :
    rows.map tag ⊆ rows'.map tag := by
  cases enrolled with
  | kept same =>
    rw [same]
    exact List.Subset.refl _
  | added _ _ left =>
    rw [left, List.map_append]
    exact List.subset_append_left _ _

/-- Rows bear identifiers that have been handed out. -/
theorem Enrolled.handedOut (enrolled : Enrolled tag uuid before after rows rows')
    (onward : before.Onward after) (told : ∀ row row', tag row = tag row' →
      uuid row = uuid row')
    (handedOut : ∀ row ∈ rows, (uuid row).Before before.supply before.issued) :
    ∀ row ∈ rows', (uuid row).Before after.supply after.issued := by
  intro row member
  cases enrolled with
  | kept same =>
    have tagged : tag row ∈ rows.map tag := by
      rw [← same]
      exact List.mem_map_of_mem member
    obtain ⟨old, present, is⟩ := List.mem_map.mp tagged
    rw [← told old row is]
    exact onward.handedOut (handedOut old present)
  | added next used left =>
    rw [left] at member
    rcases List.mem_append.mp member with present | single
    · exact onward.handedOut (handedOut row present)
    · rw [List.mem_singleton.mp single, onward.supply, used]
      exact Uuid.before_of_issued? next

end Enrolled

/-- Accounts and wallets bear identifiers that have been handed out. -/
structure Registered (books : Books) : Prop where
  accounts : ∀ row ∈ books.accounts, row.id.uuid.Before books.supply books.issued
  wallets : ∀ row ∈ books.wallets, row.id.uuid.Before books.supply books.issued

theorem Registered.fresh {supply : Supply} : Registered (.fresh supply) := by
  constructor <;> simp [Books.fresh]

/-- **Every deed leaves accounts and wallets under identifiers that have been handed out.** -/
theorem Deed.registered (deed : Deed session kind before after) (registered : Registered before) :
    Registered after where
  accounts := deed.tags.handedOut (Bookkeeping.onward_of_deed deed)
    (fun _ _ same => congrArg (fun tag => tag.1.uuid) same) registered.accounts
  wallets := deed.slots.handedOut (Bookkeeping.onward_of_deed deed)
    (fun _ _ same => congrArg (fun tag => tag.1.uuid) same) registered.wallets

/-- Accounts keep their identifiers and codes throughout. -/
theorem Happened.tags_subset {kinds : List DeedKind} (happened : Happened kinds before after)
    (sound : Sound before) :
    before.accounts.map AccountRow.tag ⊆ after.accounts.map AccountRow.tag :=
  (happened.preserves (fun books => before.accounts.map AccountRow.tag ⊆
      books.accounts.map AccountRow.tag)
    (fun _ _ deed kept => List.Subset.trans kept deed.tags.subset) sound (List.Subset.refl _)).2

/-- So do wallets keep their identifiers, owners, types and currencies. -/
theorem Happened.slots_subset {kinds : List DeedKind} (happened : Happened kinds before after)
    (sound : Sound before) :
    before.wallets.map WalletRow.tag ⊆ after.wallets.map WalletRow.tag :=
  (happened.preserves (fun books => before.wallets.map WalletRow.tag ⊆
      books.wallets.map WalletRow.tag)
    (fun _ _ deed kept => List.Subset.trans kept deed.slots.subset) sound (List.Subset.refl _)).2

theorem Happened.registered {kinds : List DeedKind} (happened : Happened kinds before after)
    (sound : Sound before) (registered : Registered before) : Registered after :=
  (happened.preserves Registered (fun _ _ deed registered => deed.registered registered) sound
    registered).2

end

theorem play_registered (supply : Supply) (calls : List Call) :
    Registered (play calls (.fresh supply)).books :=
  (play_preserves Registered (fun _ deed registered => deed.registered registered) calls Sound.fresh
    Registered.fresh).2

end Passbook.Operation
