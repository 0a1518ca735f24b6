/-
**Books that keep what their tables ask.**

* `Sound`: no strays; identifiers and keys are unique, an owner has one wallet of a type and
  currency, what is available of a wallet lies between nothing and its balance, and lines lead to
  an entry and an account;
* one lemma a way of changing a table: what has to be looked at so that the books stay sound.
-/

import Passbook.Proofs.Store.Lookup
import Passbook.Proofs.Wallet.Balance

namespace Passbook.Store

/-- What an owner has one of. -/
def WalletRow.slot (row : WalletRow) : UserId × Wallet.WalletType × String :=
  (row.owner, row.walletType, row.currency)

/-- Books that keep what their tables ask. -/
structure Sound (books : Books) : Prop where
  plain : books.strays = []
  accountIds : (books.accounts.map AccountRow.id).Nodup
  codes : (books.accounts.map AccountRow.code).Nodup
  entryIds : (books.entries.map EntryRow.id).Nodup
  numbers : (books.entries.map EntryRow.number).Nodup
  lineEntries : ∀ line ∈ books.lines, ∃ entry ∈ books.entries, entry.id = line.entry
  lineAccounts : ∀ line ∈ books.lines, ∃ account ∈ books.accounts, account.id = line.line.account
  walletIds : (books.wallets.map WalletRow.id).Nodup
  slots : (books.wallets.map WalletRow.slot).Nodup
  fits : ∀ wallet ∈ books.wallets, wallet.balance.Fits
  limitsWallets : (books.limits.map LimitsRow.wallet).Nodup
  transferKeys : (books.transfers.map TransferRow.key).Nodup
  depositKeys : (books.deposits.map DepositRow.key).Nodup
  withdrawalKeys : (books.withdrawals.map WithdrawalRow.key).Nodup

namespace Sound

theorem fresh {supply : Supply} : Sound (.fresh supply) := by
  constructor <;> simp [Books.fresh]

variable {books : Books} (sound : Sound books)

include sound

theorem reissued (issued : Nat) : Sound { books with issued := issued } := { sound with }

theorem numbered (sequences : List SequenceRow) : Sound { books with sequences := sequences } :=
  { sound with }

/-- A value of the sequence and an identifier are given out. -/
theorem drawn (sequences : List SequenceRow) :
    Sound { books with sequences := sequences, issued := books.issued + 1 } :=
  (sound.numbered sequences).reissued _

/-! ### Accounts -/

theorem addAccount {row : AccountRow} (newId : ∀ other ∈ books.accounts, other.id ≠ row.id)
    (newCode : ∀ other ∈ books.accounts, other.code ≠ row.code) :
    Sound { books with accounts := books.accounts ++ [row] } :=
  { sound with
    accountIds := nodup_append_row sound.accountIds newId
    codes := nodup_append_row sound.codes newCode
    lineAccounts := fun line member => by
      obtain ⟨account, present, same⟩ := sound.lineAccounts line member
      exact ⟨account, List.mem_append_left _ present, same⟩ }

theorem mapAccounts {alter : AccountRow → AccountRow} (sameId : ∀ row, (alter row).id = row.id)
    (sameCode : ∀ row, (alter row).code = row.code) :
    Sound { books with accounts := books.accounts.map alter } :=
  { sound with
    accountIds := by
      have same :
          (books.accounts.map alter).map AccountRow.id = books.accounts.map AccountRow.id := by
        rw [List.map_map]
        exact List.map_congr_left fun row _ => sameId row
      rw [same]
      exact sound.accountIds
    codes := by
      have same :
          (books.accounts.map alter).map AccountRow.code = books.accounts.map AccountRow.code := by
        rw [List.map_map]
        exact List.map_congr_left fun row _ => sameCode row
      rw [same]
      exact sound.codes
    lineAccounts := fun line member => by
      obtain ⟨account, present, same⟩ := sound.lineAccounts line member
      exact ⟨alter account, List.mem_map_of_mem present, (sameId account).trans same⟩ }

/-! ### Entries and lines -/

theorem addEntry {row : EntryRow} (newId : ∀ other ∈ books.entries, other.id ≠ row.id)
    (newNumber : ∀ other ∈ books.entries, other.number ≠ row.number) :
    Sound { books with entries := books.entries ++ [row] } :=
  { sound with
    entryIds := nodup_append_row sound.entryIds newId
    numbers := nodup_append_row sound.numbers newNumber
    lineEntries := fun line member => by
      obtain ⟨entry, present, same⟩ := sound.lineEntries line member
      exact ⟨entry, List.mem_append_left _ present, same⟩ }

theorem addLines {rows : List LineRow}
    (entries : ∀ line ∈ rows, ∃ entry ∈ books.entries, entry.id = line.entry)
    (accounts : ∀ line ∈ rows, ∃ account ∈ books.accounts, account.id = line.line.account) :
    Sound { books with lines := books.lines ++ rows } :=
  { sound with
    lineEntries := fun line member =>
      (List.mem_append.mp member).elim (sound.lineEntries line) (entries line)
    lineAccounts := fun line member =>
      (List.mem_append.mp member).elim (sound.lineAccounts line) (accounts line) }

theorem alterEntries {id : EntryId} {alter : EntryRow → EntryRow}
    (sameId : ∀ row, (alter row).id = row.id)
    (sameNumber : ∀ row, (alter row).number = row.number) :
    Sound { books with entries := altered EntryRow.id id alter books.entries } :=
  { sound with
    entryIds := by
      show ((altered EntryRow.id id alter books.entries).map EntryRow.id).Nodup
      rw [map_altered EntryRow.id sameId]
      exact sound.entryIds
    numbers := by
      show ((altered EntryRow.id id alter books.entries).map EntryRow.number).Nodup
      rw [map_altered EntryRow.number sameNumber]
      exact sound.numbers
    lineEntries := fun line member => by
      obtain ⟨entry, present, same⟩ := sound.lineEntries line member
      have kept : entry.id ∈ (altered EntryRow.id id alter books.entries).map EntryRow.id := by
        rw [map_altered EntryRow.id sameId]
        exact List.mem_map_of_mem present
      obtain ⟨other, present, sameId⟩ := List.mem_map.mp kept
      exact ⟨other, present, sameId.trans same⟩ }

/-- An entry goes with its lines. -/
theorem dropEntry (id : EntryId) :
    Sound { books with
      entries := books.entries.filter fun row => !(row.id == id)
      lines := books.lines.filter fun row => !(row.entry == id) } :=
  { sound with
    entryIds := sound.entryIds.sublist (List.filter_sublist.map _)
    numbers := sound.numbers.sublist (List.filter_sublist.map _)
    lineEntries := fun line member => by
      obtain ⟨member, other⟩ := List.mem_filter.mp member
      obtain ⟨entry, present, same⟩ := sound.lineEntries line member
      exact ⟨entry, List.mem_filter.mpr ⟨present, by rw [same]; exact other⟩, same⟩
    lineAccounts := fun line member => sound.lineAccounts line (List.mem_filter.mp member).1 }

/-! ### Wallets and limits -/

theorem addWallet {row : WalletRow} (newId : ∀ other ∈ books.wallets, other.id ≠ row.id)
    (newSlot : ∀ other ∈ books.wallets, other.slot ≠ row.slot) (fits : row.balance.Fits) :
    Sound { books with wallets := books.wallets ++ [row] } :=
  { sound with
    walletIds := nodup_append_row sound.walletIds newId
    slots := nodup_append_row sound.slots newSlot
    fits := fun wallet member => by
      rcases List.mem_append.mp member with present | single
      · exact sound.fits wallet present
      · rw [List.mem_singleton.mp single]
        exact fits }

theorem alterWallets {id : WalletId} {alter : WalletRow → WalletRow}
    (sameId : ∀ row, (alter row).id = row.id) (sameSlot : ∀ row, (alter row).slot = row.slot)
    (fits : ∀ row ∈ books.wallets, row.id = id → (alter row).balance.Fits) :
    Sound { books with wallets := altered WalletRow.id id alter books.wallets } :=
  { sound with
    walletIds := by
      show ((altered WalletRow.id id alter books.wallets).map WalletRow.id).Nodup
      rw [map_altered WalletRow.id sameId]
      exact sound.walletIds
    slots := by
      show ((altered WalletRow.id id alter books.wallets).map WalletRow.slot).Nodup
      rw [map_altered WalletRow.slot sameSlot]
      exact sound.slots
    fits := fun wallet member => by
      obtain ⟨row, present, rfl⟩ := mem_altered.mp member
      by_cases chosen : row.id = id
      · rw [if_pos chosen]
        exact fits row present chosen
      · rw [if_neg chosen]
        exact sound.fits row present }

theorem addLimits {row : LimitsRow}
    (newWallet : ∀ other ∈ books.limits, other.wallet ≠ row.wallet) :
    Sound { books with limits := books.limits ++ [row] } :=
  { sound with limitsWallets := nodup_append_row sound.limitsWallets newWallet }

theorem alterLimits {wallet : WalletId} {alter : LimitsRow → LimitsRow}
    (sameWallet : ∀ row, (alter row).wallet = row.wallet) :
    Sound { books with limits := altered LimitsRow.wallet wallet alter books.limits } :=
  { sound with
    limitsWallets := by
      show ((altered LimitsRow.wallet wallet alter books.limits).map LimitsRow.wallet).Nodup
      rw [map_altered LimitsRow.wallet sameWallet]
      exact sound.limitsWallets }

/-! ### Markers -/

theorem addTransfer {row : TransferRow} (newKey : ∀ other ∈ books.transfers, other.key ≠ row.key) :
    Sound { books with transfers := books.transfers ++ [row] } :=
  { sound with transferKeys := nodup_append_row sound.transferKeys newKey }

theorem addDeposit {row : DepositRow} (newKey : ∀ other ∈ books.deposits, other.key ≠ row.key) :
    Sound { books with deposits := books.deposits ++ [row] } :=
  { sound with depositKeys := nodup_append_row sound.depositKeys newKey }

theorem alterDeposits {key : String} {alter : DepositRow → DepositRow}
    (sameKey : ∀ row, (alter row).key = row.key) :
    Sound { books with deposits := altered DepositRow.key key alter books.deposits } :=
  { sound with
    depositKeys := by
      show ((altered DepositRow.key key alter books.deposits).map DepositRow.key).Nodup
      rw [map_altered DepositRow.key sameKey]
      exact sound.depositKeys }

theorem filterDeposits (kept : DepositRow → Bool) :
    Sound { books with deposits := books.deposits.filter kept } :=
  { sound with depositKeys := sound.depositKeys.sublist (List.filter_sublist.map _) }

theorem addWithdrawal {row : WithdrawalRow}
    (newKey : ∀ other ∈ books.withdrawals, other.key ≠ row.key) :
    Sound { books with withdrawals := books.withdrawals ++ [row] } :=
  { sound with withdrawalKeys := nodup_append_row sound.withdrawalKeys newKey }

end Sound

end Passbook.Store
