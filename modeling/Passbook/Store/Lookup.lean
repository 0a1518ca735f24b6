/-
**Looking rows up.**

Rows are chosen by what their places hold: a place that holds a stray is not what the value of its
row says. A row is then read whole, and one with a place that cannot be read is a fault of the
storage.

* `Books.account?` and its like: the row that a look-up chooses;
* `readRow`, `readRows`, `readPage`: rows read whole. Of a listing only the page is read.
-/

import Passbook.Halt
import Passbook.Page
import Passbook.Store.Statement

namespace Passbook.Store

namespace Books

/-- The account of an identifier. -/
def account? (books : Books) (id : AccountId) : Option AccountRow :=
  books.accounts.find? fun row => row.id == id && books.isUsual (row.spot "id")

/-- The account of a code. -/
def accountByCode? (books : Books) (code : String) : Option AccountRow :=
  books.accounts.find? fun row => row.code == code

/-- The header of an entry. -/
def header? (books : Books) (id : EntryId) : Option EntryRow :=
  books.entries.find? fun row => row.id == id && books.isUsual (row.spot "id")

/-- The lines of an entry by their place. -/
def linesOf (books : Books) (entry : EntryId) : List LineRow :=
  (books.lines.filter (isLineOf books entry)).mergeSort fun first second =>
    decide (first.place ≤ second.place)

/-- The sequence of a name. -/
def sequence? (books : Books) (name : String) : Option SequenceRow :=
  books.sequences.find? fun row => row.name == name

/-- The wallet of an identifier. -/
def wallet? (books : Books) (id : WalletId) : Option WalletRow :=
  books.wallets.find? fun row => row.id == id && books.isUsual (row.spot "id")

/-- A wallet of an owner. -/
def isOwned (books : Books) (owner : UserId) (row : WalletRow) : Bool :=
  row.owner == owner && books.isUsual (row.spot "user_id")

/-- The wallet of an owner, type and currency. -/
def walletOf? (books : Books) (owner : UserId) (walletType : Wallet.WalletType)
    (currency : String) : Option WalletRow :=
  books.wallets.find? fun row =>
    books.isOwned owner row && row.walletType == walletType &&
      books.isUsual (row.spot "wallet_type") && row.currency == currency

/-- The limits of a wallet. -/
def limits? (books : Books) (wallet : WalletId) : Option LimitsRow :=
  books.limits.find? fun row => row.wallet == wallet && books.isUsual (row.spot "wallet_id")

/-- The transfer of a key. -/
def transfer? (books : Books) (key : String) : Option TransferRow :=
  books.transfers.find? fun row => row.key == key

/-- The deposit of a key. -/
def deposit? (books : Books) (key : String) : Option DepositRow :=
  books.deposits.find? fun row => row.key == key

/-- The withdrawal of a key. -/
def withdrawal? (books : Books) (key : String) : Option WithdrawalRow :=
  books.withdrawals.find? fun row => row.key == key

end Books

/-! ### Reading rows whole -/

/-- Reads the rows chosen, every one of which has to be legible. -/
def readRows {ρ : Type} (sheet : Sheet ρ) (choose : Books → List ρ) : Work StorageFault (List ρ) :=
  fun books =>
    let rows := choose books
    if rows.all (sheet.isLegible books) then .ok (rows, books) else .error .refused

/-- Reads the row chosen, if there is one. -/
def readRow {ρ : Type} (sheet : Sheet ρ) (choose : Books → Option ρ) :
    Work StorageFault (Option ρ) := fun books =>
  let row := choose books
  if row.all (sheet.isLegible books) then .ok (row, books) else .error .refused

/-- Reads a page of a listing. The place where it starts is taken for an amount. -/
def readPage {ρ : Type} (sheet : Sheet ρ) (choose : Books → List ρ) (request : PageRequest) :
    Work (Halt StorageFault) (Page ρ) := fun books =>
  match Amount.ofNat request.offset with
  | .error fault => .error (.overflowed fault)
  | .ok _ =>
    let page := Page.of (choose books) request
    if page.data.all (sheet.isLegible books) then .ok (page, books)
    else .error (.refused .refused)

end Passbook.Store
