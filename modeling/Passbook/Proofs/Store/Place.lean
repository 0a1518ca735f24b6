/-
**A part of the books.**

* `Place`: a wallet, with its limits, or the marker of a key;
* `Books.within`: the books with the rows of some places alone. Sound books are sound within them
  (`Sound.within`), and the places of a place are the places (`within_within`);
* `sameRows_of_within`: books that are the same within places, within others and within all but
  these hold the same rows;
* `Placed`: the rows of a table have places.
-/

import Passbook.Proofs.Store.Tables

namespace Passbook.Store

/-- A wallet with its limits, or the marker of a key. -/
inductive Place where
  | wallet (id : WalletId)
  | transfer (key : String)
  | deposit (key : String)
  | withdrawal (key : String)
deriving DecidableEq

/-- Some of the places. -/
abbrev Scope := Place → Bool

/-- All places but these. -/
def Scope.others (scope : Scope) : Scope := fun place => !scope place

/-- The places among both. -/
def Scope.and (scope scope' : Scope) : Scope := fun place => scope place && scope' place

/-- No place is among both. -/
def Scope.Apart (scope scope' : Scope) : Prop := ∀ place, scope place = true → scope' place = false

/-- The books with the rows of some places alone. What has no place stays. -/
def Books.within (books : Books) (scope : Scope) : Books :=
  { books with
    wallets := books.wallets.filter fun row => scope (.wallet row.id)
    limits := books.limits.filter fun row => scope (.wallet row.wallet)
    transfers := books.transfers.filter fun row => scope (.transfer row.key)
    deposits := books.deposits.filter fun row => scope (.deposit row.key)
    withdrawals := books.withdrawals.filter fun row => scope (.withdrawal row.key) }

/-- Sound books are sound within places. -/
theorem Sound.within {books : Books} (sound : Sound books) (scope : Scope) :
    Sound (books.within scope) :=
  { sound with
    walletIds := sound.walletIds.sublist (List.filter_sublist.map _)
    slots := sound.slots.sublist (List.filter_sublist.map _)
    fits := fun wallet member => sound.fits wallet (List.mem_filter.mp member).1
    limitsWallets := sound.limitsWallets.sublist (List.filter_sublist.map _)
    transferKeys := sound.transferKeys.sublist (List.filter_sublist.map _)
    depositKeys := sound.depositKeys.sublist (List.filter_sublist.map _)
    withdrawalKeys := sound.withdrawalKeys.sublist (List.filter_sublist.map _) }

theorem within_within (books : Books) (scope scope' : Scope) :
    (books.within scope).within scope' = books.within (scope'.and scope) := by
  simp only [Books.within, List.filter_filter, Scope.and]

theorem Scope.and_comm (scope scope' : Scope) : scope.and scope' = scope'.and scope :=
  funext fun _ => Bool.and_comm _ _

namespace Scope.Apart

variable {scope scope' : Scope}

theorem symm (apart : scope.Apart scope') : scope'.Apart scope := by
  intro place its
  cases also : scope place with
  | false => rfl
  | true =>
    rw [apart place also] at its
    cases its

/-- What is elsewhere holds what is apart. -/
theorem and_others (apart : scope.Apart scope') : scope'.and scope.others = scope' := by
  funext place
  cases its : scope' place with
  | false => simp [Scope.and, its]
  | true => simp [Scope.and, Scope.others, its, apart.symm place its]

/-- Books that are the same elsewhere are the same within what is apart. -/
theorem within_eq {books books' : Books} (apart : scope.Apart scope')
    (same : books.within scope.others = books'.within scope.others) :
    books.within scope' = books'.within scope' := by
  rw [← apart.and_others, ← within_within, ← within_within, same]

end Scope.Apart

/-! ### Books that hold the same rows -/

/-- Books with the same rows, whatever the order of wallets, limits and markers. -/
structure SameRows (books books' : Books) : Prop where
  accounts : books.accounts = books'.accounts
  entries : books.entries = books'.entries
  lines : books.lines = books'.lines
  sequences : books.sequences = books'.sequences
  wallets : books.wallets.Perm books'.wallets
  limits : books.limits.Perm books'.limits
  transfers : books.transfers.Perm books'.transfers
  deposits : books.deposits.Perm books'.deposits
  withdrawals : books.withdrawals.Perm books'.withdrawals
  strays : books.strays = books'.strays
  issued : books.issued = books'.issued

/-- Rows are those of some kind, those of another among the rest, and the others. -/
theorem perm_of_filters {ρ : Type} {rows rows' : List ρ} {first second : ρ → Bool}
    (one : rows.filter first = rows'.filter first)
    (two : rows.filter second = rows'.filter second)
    (neither : (rows.filter fun row => !second row && !first row) =
      rows'.filter fun row => !second row && !first row) : rows.Perm rows' := by
  have split (rows : List ρ) : rows.Perm (rows.filter first ++
      ((rows.filter second).filter (fun row => !first row) ++
        rows.filter fun row => !second row && !first row)) := by
    refine (List.filter_append_perm first rows).symm.trans (List.Perm.append_left _ ?_)
    refine (List.filter_append_perm second _).symm.trans ?_
    rw [List.filter_filter, List.filter_filter, List.filter_filter]
    simp only [Bool.and_comm, List.Perm.refl]
  have parts := split rows
  rw [one, two, neither] at parts
  exact parts.trans (split rows').symm

/-- **Books that are the same within places, within others and within all but these** hold the same
rows. -/
theorem sameRows_of_within {books books' : Books} {first second : Scope}
    (one : books.within first = books'.within first)
    (two : books.within second = books'.within second)
    (neither : books.within (second.others.and first.others) =
      books'.within (second.others.and first.others)) : SameRows books books' where
  accounts := (congrArg Books.accounts one :)
  entries := (congrArg Books.entries one :)
  lines := (congrArg Books.lines one :)
  sequences := (congrArg Books.sequences one :)
  wallets := perm_of_filters (congrArg Books.wallets one) (congrArg Books.wallets two)
    (congrArg Books.wallets neither)
  limits := perm_of_filters (congrArg Books.limits one) (congrArg Books.limits two)
    (congrArg Books.limits neither)
  transfers := perm_of_filters (congrArg Books.transfers one) (congrArg Books.transfers two)
    (congrArg Books.transfers neither)
  deposits := perm_of_filters (congrArg Books.deposits one) (congrArg Books.deposits two)
    (congrArg Books.deposits neither)
  withdrawals := perm_of_filters (congrArg Books.withdrawals one)
    (congrArg Books.withdrawals two) (congrArg Books.withdrawals neither)
  strays := (congrArg Books.strays one :)
  issued := (congrArg Books.issued one :)

/-! ### Rows that have places -/

/-- The rows of a table have places: within places the table has the rows of these, and asks of them
what it asks of them among all. -/
structure Placed {ρ : Type} (sheet : Sheet ρ) (place : ρ → Place) : Prop where
  rows : ∀ books scope, sheet.rows (books.within scope) =
    (sheet.rows books).filter fun row => scope (place row)
  replace : ∀ books scope rows, (sheet.replace books rows).within scope =
    sheet.replace (books.within scope) (rows.filter fun row => scope (place row))
  replaceRows : ∀ books, sheet.replace books (sheet.rows books) = books
  strays : ∀ books rows, (sheet.replace books rows).strays = books.strays
  clashes : ∀ books scope, sheet.clashes (books.within scope) = sheet.clashes books
  isFit : ∀ books scope, sheet.isFit (books.within scope) = sheet.isFit books
  isLinked : ∀ {books scope row}, books.strays = [] → scope (place row) = true →
    sheet.isLinked (books.within scope) row = sheet.isLinked books row

theorem placed_wallets : Placed walletSheet fun row => .wallet row.id where
  rows _ _ := rfl
  replace _ _ _ := rfl
  replaceRows _ := rfl
  strays _ _ := rfl
  clashes _ _ := rfl
  isFit _ _ := rfl
  isLinked _ _ := rfl

theorem placed_limits : Placed limitsSheet fun row => .wallet row.wallet where
  rows _ _ := rfl
  replace _ _ _ := rfl
  replaceRows _ := rfl
  strays _ _ := rfl
  clashes _ _ := rfl
  isFit _ _ := rfl
  isLinked := fun {books scope row} plain its => by
    -- the wallet of limits has the place of the limits
    have plainWithin : (books.within scope).strays = [] := plain
    rw [Bool.eq_iff_iff, limitsSheet_isLinked plainWithin, limitsSheet_isLinked plain]
    constructor
    · rintro ⟨wallet, member, named⟩
      exact ⟨wallet, (List.mem_filter.mp member).1, named⟩
    · rintro ⟨wallet, member, named⟩
      exact ⟨wallet, List.mem_filter.mpr ⟨member, by rw [named]; exact its⟩, named⟩

theorem placed_transfers : Placed transferSheet fun row => .transfer row.key where
  rows _ _ := rfl
  replace _ _ _ := rfl
  replaceRows _ := rfl
  strays _ _ := rfl
  clashes _ _ := rfl
  isFit _ _ := rfl
  isLinked _ _ := rfl

theorem placed_deposits : Placed depositSheet fun row => .deposit row.key where
  rows _ _ := rfl
  replace _ _ _ := rfl
  replaceRows _ := rfl
  strays _ _ := rfl
  clashes _ _ := rfl
  isFit _ _ := rfl
  isLinked _ _ := rfl

theorem placed_withdrawals : Placed withdrawalSheet fun row => .withdrawal row.key where
  rows _ _ := rfl
  replace _ _ _ := rfl
  replaceRows _ := rfl
  strays _ _ := rfl
  clashes _ _ := rfl
  isFit _ _ := rfl
  isLinked _ _ := rfl

end Passbook.Store
