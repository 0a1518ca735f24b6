/-
**The wallets in the books.**

* `createWallet`: an empty active wallet with its limits. The owner's wallets are looked at first;
  a rival that opens the same in between is found by the uniqueness of owner, type and currency;
* `updateStatus`, `closeWallet`: changes of status, each made known once it is committed;
* `placeHold`, `releaseHold`: a part of the balance is set aside or made available again;
* `provisionInStages`: the account that stands for a wallet in the chart is found or opened and
  linked to it. Nothing is held between these steps, and the last writes the link alone;
  `provisionWallet`: the whole under one session.
-/

import Passbook.Calendar.Stamp
import Passbook.Chart.Port
import Passbook.Holdings.Limits

namespace Passbook.Holdings

open Passbook.Chart (LedgerPort)
open Passbook.Ledger (LedgerAccount)
open Passbook.Store
open Passbook.Wallet (WalletBalance WalletError WalletStatus WalletType)

/-! ### Opening wallets -/

/-- The row of a wallet that is opened. -/
def newRow (id : WalletId) (now : Calendar.Instant) (owner : UserId) (walletType : WalletType)
    (currency : Currency) : WalletRow where
  id := id
  owner := owner
  walletType := walletType
  currency := currency.code
  balance := .zero
  status := .active
  ledgerAccount := none
  metadata := none
  closedAt := none
  closeReason := none
  createdAt := now
  updatedAt := now

/-- The owner must not have a wallet of the type and currency yet. -/
def ensureUnowned (session : Session) (owner : UserId) (walletType : WalletType)
    (currency : Currency) : Action HoldingError Unit := do
  let existing ← Action.lookUp session walletSheet fun books =>
    books.walletOf? owner walletType currency.code
  if existing.isSome then throw (.duplicate owner walletType currency)

/-- Adds a wallet with its limits. -/
def insertWallet (session : Session) (owner : UserId) (walletType : WalletType)
    (currency : Currency) : Work HoldingError WalletRow := do
  let id ← Work.fresh
  let row := newRow ⟨id⟩ session.now owner walletType currency
  Work.mapError (fun fault =>
      match fault with
      | .notUnique => .duplicate owner walletType currency
      | fault => .storage fault)
    (insert session.faults walletSheet row)
  Work.stored (insert session.faults limitsSheet (newLimitsRow session row.id))
  pure row

/-- Opens a wallet. -/
def createWallet (session : Session) (owner : UserId) (walletType : WalletType) (code : String) :
    Action HoldingError WalletRow := do
  let currency ← .found (.unsupportedCurrency code) (Currency.read? code)
  ensureUnowned session owner walletType currency
  let row ← .atomically session (insertWallet session owner walletType currency)
  .publish (.walletCreated row.id owner row.currency)
  pure row

/-! ### Looking wallets up -/

/-- The wallet of an identifier, if there is one. -/
def findWallet (session : Session) (id : WalletId) : Action HoldingError (Option WalletRow) :=
  .lookUp session walletSheet fun books => books.wallet? id

/-- The wallet of an identifier. -/
def getWallet (session : Session) (id : WalletId) : Action HoldingError WalletRow := do
  .found (.notFound id) (← findWallet session id)

/-- The balance of a wallet. -/
def walletBalance (session : Session) (id : WalletId) : Action HoldingError WalletBalance :=
  WalletRow.balance <$> getWallet session id

/-- The text by which a wallet stands among others: that of the moment when it was opened. -/
def openingText (books : Books) (row : WalletRow) : String :=
  ((books.stray? (row.spot "created_at")).bind Cell.text?).getD row.createdAt.storedText

/-- A wallet stands before another when it was opened earlier, as the text of the moment goes, or
at the same moment with a lower identifier. -/
def isEarlier (books : Books) (first second : WalletRow) : Bool :=
  let moment := openingText books first
  let moment' := openingText books second
  decide (moment < moment') || (moment == moment' && decide (first.id < second.id))

/-- The wallets of an owner, and of a status if one is asked for, the earliest first. -/
def ownedWallets (owner : UserId) (status : Option WalletStatus) (books : Books) :
    List WalletRow :=
  (books.wallets.filter fun row => books.isOwned owner row && status.all fun wanted =>
      wanted == row.status && books.isUsual (row.spot "status")).mergeSort
    fun first second => !isEarlier books second first

/-- The wallets of an owner. -/
def listWallets (session : Session) (owner : UserId) (status : Option WalletStatus) :
    Action HoldingError (List WalletRow) :=
  .gather session walletSheet (ownedWallets owner status)

/-! ### Changing the status -/

/-- The wallet has to be there. -/
def lockWallet (id : WalletId) : Work HoldingError WalletRow := do
  Work.found (.notFound id) (← Work.lookUp walletSheet fun books => books.wallet? id)

/-- Writes a wallet and gives the row as it stands then. -/
def writeWallet (session : Session) (id : WalletId) (alter : WalletRow → WalletRow) :
    Work HoldingError WalletRow := do
  Work.stored (changeOne session.faults walletSheet (fun row => row.id == id) alter)
  Work.found (.storage .refused) (← Work.lookUp walletSheet fun books => books.wallet? id)

/-- Sets the status of a wallet within a unit of work, unless it has the status already, and gives
the status before. -/
def bookStatus (session : Session) (id : WalletId) (status : WalletStatus) :
    Work HoldingError (WalletStatus × WalletRow) := do
  let row ← lockWallet id
  Work.verdict ((Wallet.validateStatusChange id row.status status).mapError .wallet)
  if row.status = status then pure (row.status, row)
  else
    let after ← writeWallet session row.id fun row =>
      { row with status := status, updatedAt := session.now }
    pure (row.status, after)

/-- Freezes a wallet or makes it active again. A status that it has already changes nothing. -/
def updateStatus (session : Session) (id : WalletId) (status : WalletStatus) :
    Action HoldingError WalletRow := do
  let (before, row) ← Action.atomically session (bookStatus session id status)
  if before ≠ status then .publish (.walletStatusChanged id before status)
  pure row

/-- Closes a wallet within a unit of work and gives the status before. -/
def bookClosing (session : Session) (id : WalletId) (reason : String) :
    Work HoldingError (WalletStatus × WalletRow) := do
  let row ← lockWallet id
  Work.verdict ((Wallet.validateClose id row.status row.balance).mapError .wallet)
  let reason := Text.trim reason
  let after ← writeWallet session row.id fun row =>
    { row with
      status := .closed
      closedAt := some session.now
      closeReason := if reason.isEmpty then none else some reason
      updatedAt := session.now }
  pure (row.status, after)

/-- Closes an empty wallet for good. -/
def closeWallet (session : Session) (id : WalletId) (reason : String) :
    Action HoldingError WalletRow := do
  let (before, row) ← Action.atomically session (bookClosing session id reason)
  .publish (.walletStatusChanged id before .closed)
  pure row

/-! ### Holding funds -/

/-- Writes the balance of a wallet. -/
def saveBalance (session : Session) (id : WalletId) (balance : WalletBalance) :
    Work StorageFault Unit :=
  changeOne session.faults walletSheet (fun row => row.id == id)
    fun row => { row with balance := balance, updatedAt := session.now }

/-- Changes the balance of a wallet that passes a check. -/
def bookBalance (session : Session) (id : WalletId)
    (check : Wallet.Snapshot → Except WalletError Unit)
    (move : WalletBalance → Except (Halt WalletError) WalletBalance) :
    Work (Halt HoldingError) WalletBalance := do
  let row ← Work.mapError .refused (lockWallet id)
  Work.verdict ((check row.snapshot).mapError fun cause => .refused (.wallet cause))
  let balance ← Work.verdict ((move row.balance).mapError (Halt.map .wallet))
  Work.stored (saveBalance session row.id balance)
  pure balance

/-- Sets a part of what an active wallet has available aside. -/
def placeHold (session : Session) (id : WalletId) (amount : Amount) :
    Action (Halt HoldingError) WalletBalance :=
  .atomically session (bookBalance session id Wallet.ensureActive fun state => state.hold amount)

/-- Makes a held amount available again. -/
def releaseHold (session : Session) (id : WalletId) (amount : Amount) :
    Action (Halt HoldingError) WalletBalance :=
  .atomically session (bookBalance session id (fun _ => .ok ()) fun state => state.release amount)

/-! ### The account of a wallet in the chart -/

/-- Links a wallet to an account. -/
def linkAccount (session : Session) (id : WalletId) (account : AccountId) :
    Work HoldingError Unit :=
  Work.stored (changeOne session.faults walletSheet (fun row => row.id == id)
    fun row => { row with ledgerAccount := some account, updatedAt := session.now })

/-- The answer of a ledger within an operation on wallets. -/
def asked {α : Type} (answer : StateM World (Except Problem α)) : Action HoldingError α :=
  fun world =>
    let (result, world) := answer world
    (result.mapError .ledger, world)

/-- Finds or opens the account that stands for a wallet and links it. The wallet is read and linked
under sessions of their own: time passes between them. -/
def provisionInStages (reading linking : Session) (port : LedgerPort (StateM World))
    (id : WalletId) : Action HoldingError LedgerAccount := do
  let wallet ← getWallet reading id
  let account ← asked (Chart.ensureAccount port (Chart.walletAccount id wallet.currency))
  if wallet.ledgerAccount ≠ some account.id then
    .atomically linking (linkAccount linking id account.id)
  pure account

/-- Finds or opens the account that stands for a wallet and links it. -/
def provisionWallet (session : Session) (port : LedgerPort (StateM World)) (id : WalletId) :
    Action HoldingError LedgerAccount :=
  provisionInStages session session port id

end Passbook.Holdings
