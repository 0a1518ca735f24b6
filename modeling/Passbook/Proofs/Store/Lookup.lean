/-
**What look-ups find.**

* `mem_of_account?` and its like: the row that is found is there, under the key looked for;
* `transfer?_of_mem` and its like: where keys are unique, the marker under a key is found;
* `Work.of_found_lookUp`: the same of a row that a unit of work has to have;
* `Work.lookUp_of_plain`: books without strays can be read.
-/

import Passbook.Proofs.Store.Statement

namespace Passbook.Store

variable {ρ κ : Type} {books : Books}

/-! ### Rows found under keys -/

theorem mem_of_find? {rows : List ρ} {chosen : ρ → Bool} {row : ρ}
    (found : rows.find? chosen = some row) : row ∈ rows ∧ chosen row = true :=
  ⟨List.mem_of_find?_eq_some found, List.find?_some found⟩

theorem mem_of_find?_and {rows : List ρ} {chosen usual : ρ → Bool} {row : ρ}
    (found : (rows.find? fun row => chosen row && usual row) = some row) :
    row ∈ rows ∧ chosen row = true :=
  (mem_of_find? found).imp_right fun both => (Bool.and_eq_true_iff.mp both).1

/-- Where keys are unique, the row under a key is the one that is found. -/
theorem find?_eq_some_of_mem [BEq κ] [LawfulBEq κ] {key : ρ → κ} {rows : List ρ}
    (unique : (rows.map key).Nodup) {row : ρ} (member : row ∈ rows) :
    (rows.find? fun other => key other == key row) = some row := by
  cases found : rows.find? fun other => key other == key row with
  | none =>
    have missing := List.find?_eq_none.mp found row member
    simp at missing
  | some other =>
    obtain ⟨member', same⟩ := mem_of_find? found
    rw [eq_of_key unique member' member (eq_of_beq same)]

theorem mem_of_account? {id : AccountId} {row : AccountRow} (found : books.account? id = some row) :
    row ∈ books.accounts ∧ row.id = id :=
  (mem_of_find?_and found).imp_right eq_of_beq

theorem mem_of_accountByCode? {code : String} {row : AccountRow}
    (found : books.accountByCode? code = some row) : row ∈ books.accounts ∧ row.code = code :=
  (mem_of_find? found).imp_right eq_of_beq

/-- Where codes are unique, the account of a code is found. -/
theorem accountByCode?_of_mem (unique : (books.accounts.map AccountRow.code).Nodup)
    {row : AccountRow} (member : row ∈ books.accounts) :
    books.accountByCode? row.code = some row :=
  find?_eq_some_of_mem unique member

theorem mem_of_header? {id : EntryId} {row : EntryRow} (found : books.header? id = some row) :
    row ∈ books.entries ∧ row.id = id :=
  (mem_of_find?_and found).imp_right eq_of_beq

theorem mem_of_wallet? {id : WalletId} {row : WalletRow} (found : books.wallet? id = some row) :
    row ∈ books.wallets ∧ row.id = id :=
  (mem_of_find?_and found).imp_right eq_of_beq

/-- The wallet of an owner, type and currency is found where there is one. -/
theorem walletOf?_isSome_of_mem (plain : books.strays = []) {row : WalletRow}
    (member : row ∈ books.wallets) :
    (books.walletOf? row.owner row.walletType row.currency).isSome :=
  List.find?_isSome.mpr ⟨row, member, by simp [Books.isOwned, Books.isUsual_eq_true plain]⟩

/-- Where identifiers are unique, the wallet of an identifier is found. -/
theorem wallet?_of_mem (plain : books.strays = [])
    (unique : (books.wallets.map WalletRow.id).Nodup) {row : WalletRow}
    (member : row ∈ books.wallets) : books.wallet? row.id = some row := by
  have usual : (fun other : WalletRow =>
      other.id == row.id && books.isUsual (other.spot "id")) = fun other => other.id == row.id := by
    funext other
    rw [Books.isUsual_eq_true plain, Bool.and_true]
  rw [Books.wallet?, usual]
  exact find?_eq_some_of_mem unique member

theorem mem_of_limits? {wallet : WalletId} {row : LimitsRow}
    (found : books.limits? wallet = some row) : row ∈ books.limits ∧ row.wallet = wallet :=
  (mem_of_find?_and found).imp_right eq_of_beq

/-- Where wallets have one row of limits each, the limits of a wallet are found. -/
theorem limits?_of_mem (plain : books.strays = [])
    (unique : (books.limits.map LimitsRow.wallet).Nodup) {row : LimitsRow}
    (member : row ∈ books.limits) : books.limits? row.wallet = some row := by
  have usual : (fun other : LimitsRow =>
      other.wallet == row.wallet && books.isUsual (other.spot "wallet_id")) =
        fun other => other.wallet == row.wallet := by
    funext other
    rw [Books.isUsual_eq_true plain, Bool.and_true]
  rw [Books.limits?, usual]
  exact find?_eq_some_of_mem unique member

theorem mem_of_sequence? {name : String} {row : SequenceRow}
    (found : books.sequence? name = some row) : row ∈ books.sequences ∧ row.name = name :=
  (mem_of_find? found).imp_right eq_of_beq

/-- Where no row is found, none is under the key. -/
theorem ne_of_find?_and [BEq κ] [LawfulBEq κ] {key : ρ → κ} {id : κ} {rows : List ρ}
    {usual : ρ → Bool} (all : ∀ row, usual row = true)
    (missing : (rows.find? fun row => key row == id && usual row) = none) :
    ∀ row ∈ rows, key row ≠ id := by
  intro row member same
  have absent := List.find?_eq_none.mp missing row member
  rw [all, Bool.and_true, beq_iff_eq] at absent
  exact absent same

theorem ne_of_account? (plain : books.strays = []) {id : AccountId}
    (missing : books.account? id = none) : ∀ row ∈ books.accounts, row.id ≠ id :=
  ne_of_find?_and (fun _ => Books.isUsual_eq_true plain _) missing

theorem ne_of_header? (plain : books.strays = []) {id : EntryId}
    (missing : books.header? id = none) : ∀ row ∈ books.entries, row.id ≠ id :=
  ne_of_find?_and (fun _ => Books.isUsual_eq_true plain _) missing

theorem ne_of_sequence? {name : String} (missing : books.sequence? name = none) :
    ∀ row ∈ books.sequences, row.name ≠ name := by
  intro row member
  simpa using List.find?_eq_none.mp missing row member

/-! ### Markers -/

theorem mem_of_transfer? {key : String} {row : TransferRow}
    (found : books.transfer? key = some row) : row ∈ books.transfers ∧ row.key = key :=
  (mem_of_find? found).imp_right eq_of_beq

theorem mem_of_deposit? {key : String} {row : DepositRow}
    (found : books.deposit? key = some row) : row ∈ books.deposits ∧ row.key = key :=
  (mem_of_find? found).imp_right eq_of_beq

theorem mem_of_withdrawal? {key : String} {row : WithdrawalRow}
    (found : books.withdrawal? key = some row) : row ∈ books.withdrawals ∧ row.key = key :=
  (mem_of_find? found).imp_right eq_of_beq

theorem transfer?_of_mem (unique : (books.transfers.map TransferRow.key).Nodup) {row : TransferRow}
    (member : row ∈ books.transfers) : books.transfer? row.key = some row :=
  find?_eq_some_of_mem unique member

theorem deposit?_of_mem (unique : (books.deposits.map DepositRow.key).Nodup) {row : DepositRow}
    (member : row ∈ books.deposits) : books.deposit? row.key = some row :=
  find?_eq_some_of_mem unique member

theorem withdrawal?_of_mem (unique : (books.withdrawals.map WithdrawalRow.key).Nodup)
    {row : WithdrawalRow} (member : row ∈ books.withdrawals) :
    books.withdrawal? row.key = some row :=
  find?_eq_some_of_mem unique member

/-! ### Rows that a unit of work has to have -/

namespace Work

variable {ε : Type} [StorageCause ε] {cause : ε} {before after : Books}

/-- A row that has to be there is the one that a look-up finds. -/
theorem of_found_lookUp {sheet : Sheet ρ} {choose : Books → Option ρ} {row : ρ}
    (ran : (lookUp sheet choose >>= found cause : Work ε ρ) before = .ok (row, after)) :
    choose before = some row ∧ before = after := by
  obtain ⟨_, middle, ran, chosen⟩ := bind_eq_ok.mp ran
  obtain ⟨rfl, rfl⟩ := of_lookUp ran
  exact found_eq_ok.mp chosen

/-- Every row of plain books can be read. -/
theorem lookUp_of_plain (plain : before.strays = []) (sheet : Sheet ρ)
    (choose : Books → Option ρ) :
    (lookUp sheet choose : Work ε (Option ρ)) before = .ok (choose before, before) := by
  have legible : (choose before).all (sheet.isLegible before) = true := by
    cases choose before with
    | none => rfl
    | some row => exact Books.isLegible_eq_true plain _ _
  exact stored_eq_ok.mpr (if_pos legible)

theorem gather_of_plain (plain : before.strays = []) (sheet : Sheet ρ)
    (choose : Books → List ρ) :
    (gather sheet choose : Work ε (List ρ)) before = .ok (choose before, before) := by
  have legible : (choose before).all (sheet.isLegible before) = true :=
    List.all_eq_true.mpr fun _ _ => Books.isLegible_eq_true plain _ _
  exact stored_eq_ok.mpr (if_pos legible)

end Work

/-- The same by itself, where the storage can be reached. -/
theorem Action.lookUp_of_plain {ε : Type} [StorageCause ε] {session : Session} {world : World}
    (reached : session.faults.blocked = false) (plain : world.books.strays = []) (sheet : Sheet ρ)
    (choose : Books → Option ρ) :
    (Action.lookUp session sheet choose : Action ε (Option ρ)) world =
      (.ok (choose world.books), world) :=
  Action.atomically_of_ok reached (Work.lookUp_of_plain plain sheet choose)

end Passbook.Store
