/-
**Wallets agree with the markers of movements.**

* `net`: what completed deposits, transfers and withdrawals leave in a wallet;
* `Reconciled`: every wallet holds that, and every marker names wallets that are there, a transfer
  two of one currency;
* `Balanced`: the same with a list of payments in the place of the markers of deposits
  (`reconciled_iff`);
* `Moved`: wallets stay in their currencies and each balance changes by its share. A deed that moves
  money changes what its marker or its payment adds to a wallet by the same share
  (`Balanced.moved`);
* `balanced_of_deed`, `Balanced.credit`: what deeds make of balanced books;
  `reconciled_of_deed`: one deed keeps the books reconciled;
* `Reconciled.currency`: in each currency, what wallets hold is what was deposited less what was
  withdrawn, since a transfer takes nothing out of its currency;
* `play_reconciled`: every run from fresh books leaves them reconciled, and no later operation
  changes the currency of a wallet.
-/

import Passbook.Proofs.Operation.Quiet
import Passbook.Proofs.Operation.Run

namespace Passbook.Reconciliation

open Passbook.Holdings (rebalanced)
open Passbook.Operation
open Passbook.Store
open Passbook.Wallet (WalletBalance)

/-! ### What markers come to -/

/-- What was deposited into a wallet. -/
def deposited (books : Books) (wallet : WalletId) : Int :=
  total (fun row => if row.wallet = wallet then row.amount.units else 0) books.completedDeposits

/-- What was transferred to a wallet. -/
def received (books : Books) (wallet : WalletId) : Int :=
  total (fun row => if row.destination = wallet then row.amount.units else 0) books.transfers

/-- What was transferred from a wallet. -/
def sent (books : Books) (wallet : WalletId) : Int :=
  total (fun row => if row.source = wallet then row.amount.units else 0) books.transfers

/-- What was withdrawn from a wallet. -/
def withdrawn (books : Books) (wallet : WalletId) : Int :=
  total (fun row => if row.wallet = wallet then row.amount.units else 0) books.withdrawals

/-- What the movements of a wallet leave in it. -/
def net (books : Books) (wallet : WalletId) : Int :=
  deposited books wallet + received books wallet - sent books wallet - withdrawn books wallet

/-- A wallet is there and in a currency. -/
def Keeps (books : Books) (wallet : WalletId) (currency : String) : Prop :=
  ∃ row ∈ books.wallets, row.id = wallet ∧ row.currency = currency

/-- Wallets agree with the markers. -/
structure Reconciled (books : Books) : Prop where
  balances : ∀ row ∈ books.wallets, row.balance.balance.units = net books row.id
  deposits : ∀ marker ∈ books.completedDeposits, ∃ currency, Keeps books marker.wallet currency
  transfers : ∀ marker ∈ books.transfers, ∃ currency,
    Keeps books marker.source currency ∧ Keeps books marker.destination currency
  withdrawals : ∀ marker ∈ books.withdrawals, ∃ currency, Keeps books marker.wallet currency

theorem Reconciled.fresh {supply : Supply} : Reconciled (.fresh supply) := by
  constructor <;> simp [Books.fresh, Books.completedDeposits]

/-! ### What payments come to -/

/-- What was paid into a wallet. -/
def paid (payments : List (WalletId × Amount)) (wallet : WalletId) : Int :=
  total (fun payment => if payment.1 = wallet then payment.2.units else 0) payments

/-- What transfers and withdrawals leave of what is paid into a wallet. -/
def traded (books : Books) (wallet : WalletId) : Int :=
  received books wallet - sent books wallet - withdrawn books wallet

/-- Wallets agree with payments and with the markers of transfers and withdrawals. -/
structure Balanced (payments : List (WalletId × Amount)) (books : Books) : Prop where
  balances : ∀ row ∈ books.wallets,
    row.balance.balance.units = paid payments row.id + traded books row.id
  payments : ∀ payment ∈ payments, ∃ currency, Keeps books payment.1 currency
  transfers : ∀ marker ∈ books.transfers, ∃ currency,
    Keeps books marker.source currency ∧ Keeps books marker.destination currency
  withdrawals : ∀ marker ∈ books.withdrawals, ∃ currency, Keeps books marker.wallet currency

theorem Balanced.fresh {supply : Supply} : Balanced [] (.fresh supply) := by
  constructor <;> simp [Books.fresh]

/-- The payment that the marker of a deposit tells of. -/
def payment (marker : DepositRow) : WalletId × Amount := (marker.wallet, marker.amount)

/-- **Books are reconciled if they are balanced with the payments that their markers tell of.** -/
theorem reconciled_iff {books : Books} :
    Reconciled books ↔ Balanced (books.completedDeposits.map payment) books := by
  have netted : ∀ wallet, net books wallet =
      paid (books.completedDeposits.map payment) wallet + traded books wallet := by
    intro wallet
    have deposits : paid (books.completedDeposits.map payment) wallet = deposited books wallet :=
      total_map _ _ _
    rw [net, traded, deposits]
    omega
  constructor
  · intro reconciled
    refine ⟨fun row member => (reconciled.balances row member).trans (netted row.id),
      fun told member => ?_, reconciled.transfers, reconciled.withdrawals⟩
    obtain ⟨marker, present, rfl⟩ := List.mem_map.mp member
    exact reconciled.deposits marker present
  · intro balanced
    exact ⟨fun row member => (balanced.balances row member).trans (netted row.id).symm,
      fun marker member => balanced.payments _ (List.mem_map_of_mem member), balanced.transfers,
      balanced.withdrawals⟩

/-- The order of payments makes no difference. -/
theorem Balanced.perm {payments payments' : List (WalletId × Amount)} {books : Books}
    (balanced : Balanced payments books) (same : payments.Perm payments') :
    Balanced payments' books where
  balances row member := by
    rw [balanced.balances row member, paid, paid, total_perm same]
  payments told member := balanced.payments told (same.mem_iff.mpr member)
  transfers := balanced.transfers
  withdrawals := balanced.withdrawals

/-! ### Balances that change by a share -/

/-- Wallets stay in their currencies and the balance of each changes by its share. -/
structure Moved (share : WalletId → Int) (before after : List WalletRow) : Prop where
  came : ∀ row ∈ after, ∃ old ∈ before, old.id = row.id ∧ old.currency = row.currency ∧
    row.balance.balance.units = old.balance.balance.units + share row.id
  stayed : ∀ old ∈ before, ∃ row ∈ after, row.id = old.id ∧ row.currency = old.currency

section Moved

variable {share share' : WalletId → Int} {wallets wallets' wallets'' : List WalletRow}

theorem Moved.andThen (first : Moved share wallets wallets')
    (second : Moved share' wallets' wallets'') :
    Moved (fun wallet => share wallet + share' wallet) wallets wallets'' where
  came row member := by
    obtain ⟨middle, there, sameId, sameCurrency, units⟩ := second.came row member
    obtain ⟨old, present, sameId', sameCurrency', units'⟩ := first.came middle there
    refine ⟨old, present, sameId'.trans sameId, sameCurrency'.trans sameCurrency, ?_⟩
    rw [units, units', sameId]
    omega
  stayed old member := by
    obtain ⟨middle, there, sameId, sameCurrency⟩ := first.stayed old member
    obtain ⟨row, present, sameId', sameCurrency'⟩ := second.stayed middle there
    exact ⟨row, present, sameId'.trans sameId, sameCurrency'.trans sameCurrency⟩

theorem moved_of_holding (same : wallets'.map WalletRow.holding = wallets.map WalletRow.holding) :
    Moved (fun _ => 0) wallets wallets' where
  came row member := by
    have held : row.holding ∈ wallets.map WalletRow.holding := by
      rw [← same]
      exact List.mem_map_of_mem member
    obtain ⟨old, present, is⟩ := List.mem_map.mp held
    simp only [WalletRow.holding, Prod.mk.injEq] at is
    obtain ⟨sameId, sameBalance, sameCurrency⟩ := is
    refine ⟨old, present, sameId, sameCurrency, ?_⟩
    rw [sameBalance, add_zero]
  stayed old member := by
    have held : old.holding ∈ wallets'.map WalletRow.holding := by
      rw [same]
      exact List.mem_map_of_mem member
    obtain ⟨row, present, is⟩ := List.mem_map.mp held
    simp only [WalletRow.holding, Prod.mk.injEq] at is
    exact ⟨row, present, is.1, is.2.2⟩

/-- One wallet with another balance. -/
theorem moved_of_rebalanced (now : Calendar.Instant) {old : WalletRow} {balance : WalletBalance}
    {id : WalletId} {amount : Int} (unique : (wallets.map WalletRow.id).Nodup)
    (member : old ∈ wallets) (named : old.id = id)
    (units : balance.balance.units = old.balance.balance.units + amount) :
    Moved (fun wallet => if id = wallet then amount else 0) wallets
      (altered WalletRow.id id (rebalanced now balance) wallets) where
  came row present := by
    obtain ⟨was, there, rfl⟩ := mem_altered.mp present
    refine ⟨was, there, ?_⟩
    by_cases chosen : was.id = id
    · obtain rfl := eq_of_key unique there member (chosen.trans named.symm)
      rw [if_pos chosen]
      refine ⟨rfl, rfl, ?_⟩
      rw [if_pos (show id = (rebalanced now balance was).id from chosen.symm)]
      exact units
    · rw [if_neg chosen]
      refine ⟨rfl, rfl, ?_⟩
      rw [if_neg fun same => chosen same.symm, add_zero]
  stayed was there := by
    by_cases chosen : was.id = id
    · exact ⟨_, alter_mem_altered there chosen, rfl, rfl⟩
    · exact ⟨was, mem_altered_of_ne there chosen, rfl, rfl⟩

theorem Moved.keeps {before after : Books} (moved : Moved share before.wallets after.wallets)
    {wallet : WalletId} {currency : String} (kept : Keeps before wallet currency) :
    Keeps after wallet currency := by
  obtain ⟨old, member, rfl, rfl⟩ := kept
  exact moved.stayed old member

end Moved

variable {session : Session} {before after : Books} {payments payments' : List (WalletId × Amount)}

/-- **Books stay balanced** when payments and markers add to each wallet what its balance changes
by. -/
theorem Balanced.moved {share : WalletId → Int} (balanced : Balanced payments before)
    (moved : Moved share before.wallets after.wallets)
    (shares : ∀ wallet, paid payments' wallet + traded after wallet =
      paid payments wallet + traded before wallet + share wallet)
    (told : ∀ payment ∈ payments', payment ∈ payments ∨ ∃ currency, Keeps before payment.1 currency)
    (transfers : ∀ marker ∈ after.transfers, marker ∈ before.transfers ∨ ∃ currency,
      Keeps before marker.source currency ∧ Keeps before marker.destination currency)
    (withdrawals : ∀ marker ∈ after.withdrawals, marker ∈ before.withdrawals ∨
      ∃ currency, Keeps before marker.wallet currency) : Balanced payments' after where
  balances row member := by
    obtain ⟨old, present, sameId, _, units⟩ := moved.came row member
    rw [units, balanced.balances old present, shares, sameId]
  payments payment member := by
    obtain ⟨currency, kept⟩ := (told payment member).elim (balanced.payments payment) id
    exact ⟨currency, moved.keeps kept⟩
  transfers marker member := by
    obtain ⟨currency, source, destination⟩ :=
      (transfers marker member).elim (balanced.transfers marker) id
    exact ⟨currency, moved.keeps source, moved.keeps destination⟩
  withdrawals marker member := by
    obtain ⟨currency, kept⟩ := (withdrawals marker member).elim (balanced.withdrawals marker) id
    exact ⟨currency, moved.keeps kept⟩

/-! ### Deeds -/

theorem Balanced.quiet (balanced : Balanced payments before) (quiet : Quiet before after) :
    Balanced payments after := by
  refine balanced.moved (moved_of_holding quiet.wallets) (fun wallet => ?_)
    (fun payment member => .inl member) (fun marker member => ?_) fun marker member => ?_
  · unfold traded received sent withdrawn
    rw [quiet.transfers, quiet.withdrawals, add_zero]
  · exact .inl (quiet.transfers ▸ member)
  · exact .inl (quiet.withdrawals ▸ member)

/-- Payments and markers name only wallets that are there, so nothing was moved to or from any
other. -/
theorem Balanced.eq_zero (balanced : Balanced payments before) {wallet : WalletId}
    (absent : ∀ row ∈ before.wallets, row.id ≠ wallet) :
    paid payments wallet + traded before wallet = 0 := by
  have unknown : ∀ {other currency}, Keeps before other currency → other ≠ wallet := by
    rintro _ _ ⟨row, member, rfl, _⟩
    exact absent row member
  have none : paid payments wallet = 0 := total_eq_zero fun payment member => by
    obtain ⟨_, kept⟩ := balanced.payments payment member
    exact if_neg (unknown kept)
  have received : received before wallet = 0 := total_eq_zero fun marker member => by
    obtain ⟨_, _, kept⟩ := balanced.transfers marker member
    exact if_neg (unknown kept)
  have sent : sent before wallet = 0 := total_eq_zero fun marker member => by
    obtain ⟨_, kept, _⟩ := balanced.transfers marker member
    exact if_neg (unknown kept)
  have withdrawn : withdrawn before wallet = 0 := total_eq_zero fun marker member => by
    obtain ⟨_, kept⟩ := balanced.withdrawals marker member
    exact if_neg (unknown kept)
  rw [none, traded, received, sent, withdrawn]
  rfl

theorem Keeps.opened {owner : UserId} {walletType : Wallet.WalletType} {own : Currency}
    {row : WalletRow} {wallet : WalletId} {currency : String}
    (kept : Keeps before wallet currency)
    (did : Holdings.Opened session owner walletType own before row after) :
    Keeps after wallet currency := by
  obtain ⟨old, member, named, same⟩ := kept
  rw [did.left]
  exact ⟨old, List.mem_append_left _ member, named, same⟩

theorem Balanced.opened {owner : UserId} {walletType : Wallet.WalletType} {currency : Currency}
    {row : WalletRow} (balanced : Balanced payments before)
    (did : Holdings.Opened session owner walletType currency before row after) :
    Balanced payments after := by
  have same : ∀ wallet, traded after wallet = traded before wallet := by
    intro wallet
    rw [did.left]
    rfl
  have markers : after.transfers = before.transfers ∧ after.withdrawals = before.withdrawals := by
    rw [did.left]
    exact ⟨rfl, rfl⟩
  have wallets : after.wallets = before.wallets ++ [row] := by
    rw [did.left]
  obtain ⟨_, _, new⟩ := did.issued
  refine ⟨fun other member => ?_, fun payment member => ?_, fun marker member => ?_,
    fun marker member => ?_⟩
  · rw [wallets] at member
    rw [same]
    rcases List.mem_append.mp member with present | single
    · exact balanced.balances other present
    · rw [List.mem_singleton.mp single, balanced.eq_zero did.newId, new]
      rfl
  · obtain ⟨currency, kept⟩ := balanced.payments payment member
    exact ⟨currency, kept.opened did⟩
  · rw [markers.1] at member
    obtain ⟨currency, source, destination⟩ := balanced.transfers marker member
    exact ⟨currency, source.opened did, destination.opened did⟩
  · rw [markers.2] at member
    obtain ⟨currency, kept⟩ := balanced.withdrawals marker member
    exact ⟨currency, kept.opened did⟩

/-- A credit moves its amount into one wallet. -/
theorem moved_in (now : Calendar.Instant) {wallets : List WalletRow} {wallet : WalletRow}
    {id : WalletId} {amount : Amount} {balance : WalletBalance}
    (unique : (wallets.map WalletRow.id).Nodup) (member : wallet ∈ wallets) (named : wallet.id = id)
    (planned : Transfer.planDeposit wallet.snapshot amount = .ok balance) :
    Moved (fun other => if id = other then amount.units else 0) wallets
      (altered WalletRow.id id (rebalanced now balance) wallets) := by
  obtain ⟨_, credited⟩ := Transfer.planDeposit_eq_ok.mp planned
  have into := (WalletBalance.credit_eq_ok.mp credited).2.1
  exact moved_of_rebalanced now unique member named into

/-- A debit moves its amount out of one wallet. -/
theorem moved_out (now : Calendar.Instant) {wallets : List WalletRow} {wallet : WalletRow}
    {id : WalletId} {amount : Amount} {balance : WalletBalance}
    (unique : (wallets.map WalletRow.id).Nodup) (member : wallet ∈ wallets) (named : wallet.id = id)
    (debited : wallet.balance.debit amount = .ok balance) :
    Moved (fun other => if id = other then -amount.units else 0) wallets
      (altered WalletRow.id id (rebalanced now balance) wallets) := by
  have out := (WalletBalance.debit_eq_ok.mp debited).2.2.1
  exact moved_of_rebalanced now unique member named (out.trans Int.sub_eq_add_neg)

/-- A transfer moves its amount out of one wallet and into another. -/
theorem moved_between {request : Payments.TransferRequest} {key : Transfer.TransactionKey}
    {source destination : WalletRow} {plan : Transfer.TransferPlan} {limits : LimitsRow}
    {state : Limits.LimitState} (sound : Sound before)
    (did : Payments.Transferred session request key source destination plan limits state
      before after) :
    Moved (fun wallet => (if request.source = wallet then -request.amount.units else 0) +
      if request.destination = wallet then request.amount.units else 0)
      before.wallets after.wallets := by
  obtain ⟨apart, _, _, _, debited, credited⟩ := Transfer.planTransfer_eq_ok.mp did.planned
  have different : destination.id ≠ request.source := by
    rw [← did.sourceNamed]
    exact fun same => apart same.symm
  have unique : ((altered WalletRow.id request.source (rebalanced session.now plan.source)
      before.wallets).map WalletRow.id).Nodup := by
    have same : (altered WalletRow.id request.source (rebalanced session.now plan.source)
        before.wallets).map WalletRow.id = before.wallets.map WalletRow.id :=
      map_altered WalletRow.id fun _ => rfl
    rw [same]
    exact sound.walletIds
  have taken := moved_out session.now sound.walletIds did.sourceMember did.sourceNamed debited
  have given := moved_of_rebalanced session.now unique
    (mem_altered_of_ne did.destinationMember different) did.destinationNamed
    (WalletBalance.credit_eq_ok.mp credited).2.1
  rw [did.left]
  exact taken.andThen given

theorem Balanced.transferred {request : Payments.TransferRequest} {key : Transfer.TransactionKey}
    {source destination : WalletRow} {plan : Transfer.TransferPlan} {limits : LimitsRow}
    {state : Limits.LimitState} (balanced : Balanced payments before) (sound : Sound before)
    (did : Payments.Transferred session request key source destination plan limits state
      before after) : Balanced payments after := by
  obtain ⟨_, _, _, sameCurrency, _, _⟩ := Transfer.planTransfer_eq_ok.mp did.planned
  have moved := moved_between sound did
  rw [did.left] at moved ⊢
  refine balanced.moved moved (fun wallet => ?_) (fun _ member => .inl member)
    (fun marker member => ?_) fun _ member => .inl member
  · simp only [traded, received, sent, withdrawn, total_append, total_cons, total_nil]
    by_cases taken : request.source = wallet <;> by_cases given : request.destination = wallet <;>
      simp only [taken, given, if_true, if_false] <;> omega
  · refine (List.mem_append.mp member).imp id fun single => ?_
    rw [List.mem_singleton.mp single]
    exact ⟨source.currency, ⟨source, did.sourceMember, did.sourceNamed, rfl⟩,
      ⟨destination, did.destinationMember, did.destinationNamed, sameCurrency.symm⟩⟩

theorem Balanced.withdrawn {request : Payments.MovementRequest} {key : Transfer.TransactionKey}
    {wallet : WalletRow} {balance : WalletBalance} (balanced : Balanced payments before)
    (sound : Sound before)
    (did : Payments.Withdrawn session request key wallet balance before after) :
    Balanced payments after := by
  obtain ⟨_, debited⟩ := Transfer.planWithdrawal_eq_ok.mp did.planned
  have moved := moved_out session.now sound.walletIds did.member did.named debited
  rw [did.left]
  refine balanced.moved moved (fun wallet => ?_) (fun _ member => .inl member)
    (fun _ member => .inl member) fun marker member => ?_
  · simp only [traded, received, sent, Reconciliation.withdrawn, total_append, total_cons,
      total_nil]
    by_cases taken : request.wallet = wallet <;> simp only [taken, if_true, if_false] <;> omega
  · refine (List.mem_append.mp member).imp id fun single => ?_
    rw [List.mem_singleton.mp single]
    exact ⟨wallet.currency, wallet, did.member, did.named, rfl⟩

/-- **A credit is one more payment**, whatever becomes of the markers of deposits. -/
theorem Balanced.credit (now : Calendar.Instant) {wallet : WalletRow} {id : WalletId}
    {amount : Amount} {balance : WalletBalance} (balanced : Balanced payments before)
    (sound : Sound before) (there : wallet ∈ before.wallets) (named : wallet.id = id)
    (planned : Transfer.planDeposit wallet.snapshot amount = .ok balance)
    (left : after = { before with
      wallets := altered WalletRow.id id (rebalanced now balance) before.wallets
      deposits := after.deposits }) : Balanced (payments ++ [(id, amount)]) after := by
  have moved := moved_in now sound.walletIds there named planned
  rw [left]
  refine balanced.moved moved (fun other => ?_) (fun told member => ?_)
    (fun _ member => .inl member) fun _ member => .inl member
  · have more : paid (payments ++ [(id, amount)]) other =
        paid payments other + if id = other then amount.units else 0 := by
      rw [paid, total_append, total_cons, total_nil, add_zero]
      rfl
    show paid (payments ++ [(id, amount)]) other + traded before other = _
    rw [more]
    omega
  · refine (List.mem_append.mp member).imp_right fun single => ?_
    rw [List.mem_singleton.mp single]
    exact ⟨wallet.currency, wallet, there, named, rfl⟩

theorem Balanced.deposited {request : Payments.MovementRequest} {key : Transfer.TransactionKey}
    {wallet : WalletRow} {balance : WalletBalance} (balanced : Balanced payments before)
    (sound : Sound before)
    (did : Payments.Deposited session request key wallet balance before after) :
    Balanced (payments ++ [(request.wallet, request.amount)]) after :=
  balanced.credit session.now sound did.member did.named did.planned (by rw [did.left])

theorem Balanced.credited {request : Payments.MovementRequest} {key : Transfer.TransactionKey}
    {marker : DepositRow} {wallet : WalletRow} {balance : WalletBalance}
    (balanced : Balanced payments before) (sound : Sound before)
    (did : Payments.Credited session request key marker wallet balance before after) :
    Balanced (payments ++ [(request.wallet, request.amount)]) after :=
  balanced.credit session.now sound did.member did.named did.planned (by rw [did.left])

/-- The kinds of deeds that pay into wallets. -/
def paymentKinds : List DeedKind := [.deposited, .credited]

/-- **A deed that pays nothing into a wallet keeps the books balanced.** -/
theorem balanced_of_deed {kind : DeedKind} (deed : Deed session kind before after)
    (sound : Sound before) (other : kind ∉ paymentKinds) (balanced : Balanced payments before) :
    Balanced payments after := by
  by_cases moving : kind ∈ movingKinds
  · cases deed with
    | walletOpened did => exact balanced.opened did
    | transferred did => exact balanced.transferred sound did
    | withdrawn did => exact balanced.withdrawn sound did
    | deposited did => exact absurd (by decide) other
    | credited _ _ did => exact absurd (by decide) other
    | _ => exact absurd moving (by decide)
  · exact balanced.quiet (deed.quiet sound moving)

/-- It leaves the markers of deposits that were credited. -/
theorem completedDeposits_of_deed {kind : DeedKind} (deed : Deed session kind before after)
    (sound : Sound before) (other : kind ∉ paymentKinds) :
    after.completedDeposits = before.completedDeposits := by
  by_cases moving : kind ∈ movingKinds
  · have apart : ∀ kind ∈ movingKinds, kind ∉ paymentKinds →
        Table.processedDeposits ∉ kind.writes := by decide
    exact congrArg (List.filter _) (deed.untouched (apart kind moving other))
  · exact (deed.quiet sound moving).deposits

/-- A deposit leaves a marker that is completed. -/
theorem completedDeposits_of_deposited {request : Payments.MovementRequest}
    {key : Transfer.TransactionKey} {wallet : WalletRow} {balance : WalletBalance}
    (did : Payments.Deposited session request key wallet balance before after) :
    after.completedDeposits =
      before.completedDeposits ++ [Payments.depositRow session request key .completed] := by
  rw [did.left]
  show List.filter _ (before.deposits ++ _) = before.deposits.filter _ ++ _
  rw [List.filter_append]
  rfl

/-- A credit completes the marker that it found. -/
theorem completedDeposits_of_credited {request : Payments.MovementRequest}
    {key : Transfer.TransactionKey} {marker : DepositRow} {wallet : WalletRow}
    {balance : WalletBalance} (sound : Sound before)
    (did : Payments.Credited session request key marker wallet balance before after) :
    after.completedDeposits.Perm
      (Payments.completed session.now marker :: before.completedDeposits) := by
  obtain ⟨member, named⟩ := mem_of_deposit? did.found
  obtain ⟨front, back, split⟩ := List.append_of_mem member
  have left : after.deposits = front ++ Payments.completed session.now marker :: back := by
    rw [did.left]
    show altered DepositRow.key key.text (Payments.completed session.now) before.deposits = _
    rw [← named, split]
    exact altered_middle (split ▸ sound.depositKeys)
  rw [Books.completedDeposits, Books.completedDeposits, left, split, List.filter_append,
    List.filter_append]
  have pending : (marker :: back).filter (fun row => row.status == .completed) =
      back.filter fun row => row.status == .completed :=
    List.filter_cons_of_neg (by rw [did.status]; decide)
  rw [pending]
  exact List.perm_middle

/-- **A deed keeps the books reconciled.** -/
theorem reconciled_of_deed {kind : DeedKind} (deed : Deed session kind before after)
    (sound : Sound before) (reconciled : Reconciled before) : Reconciled after := by
  have balanced := reconciled_iff.mp reconciled
  rw [reconciled_iff]
  by_cases pays : kind ∈ paymentKinds
  · cases deed with
    | deposited did =>
      rw [completedDeposits_of_deposited did, List.map_append]
      exact balanced.deposited sound did
    | @credited request key marker _ _ _ _ sameWallet sameAmount did =>
      -- the marker that is completed tells of this payment
      have told : payment (Payments.completed session.now marker) =
          (request.wallet, request.amount) := Prod.ext sameWallet sameAmount
      have marked := (completedDeposits_of_credited sound did).map payment
      rw [List.map_cons, told] at marked
      exact (balanced.credited sound did).perm
        ((List.perm_append_singleton _ _).trans marked.symm)
    | _ => exact absurd pays (by decide)
  · rw [completedDeposits_of_deed deed sound pays]
    exact balanced_of_deed deed sound pays balanced

/-- **No deed changes the currency of a wallet.** -/
theorem keeps_of_deed {kind : DeedKind} (deed : Deed session kind before after)
    (sound : Sound before) {wallet : WalletId} {currency : String}
    (kept : Keeps before wallet currency) :
    Keeps after wallet currency := by
  by_cases moving : kind ∈ movingKinds
  · cases deed with
    | walletOpened did => exact kept.opened did
    | transferred did => exact (moved_between sound did).keeps kept
    | deposited did =>
      rw [did.left]
      exact (moved_in session.now sound.walletIds did.member did.named did.planned).keeps kept
    | withdrawn did =>
      obtain ⟨_, debited⟩ := Transfer.planWithdrawal_eq_ok.mp did.planned
      rw [did.left]
      exact (moved_out session.now sound.walletIds did.member did.named debited).keeps kept
    | credited _ _ did =>
      rw [did.left]
      exact (moved_in session.now sound.walletIds did.member did.named did.planned).keeps kept
    | _ => exact absurd moving (by decide)
  · exact (moved_of_holding (deed.quiet sound moving).wallets).keeps kept

/-! ### Currencies -/

/-- A wallet is there and in a currency, as a test. -/
def isIn (books : Books) (currency : String) (wallet : WalletId) : Bool :=
  books.wallets.any fun row => wallet == row.id && row.currency == currency

/-- What all wallets of a currency hold. -/
def heldIn (books : Books) (currency : String) : Int :=
  total (fun row => if row.currency == currency then row.balance.balance.units else 0) books.wallets

/-- What was deposited into wallets of a currency. -/
def depositedIn (books : Books) (currency : String) : Int :=
  total (fun row => if isIn books currency row.wallet then row.amount.units else 0)
    books.completedDeposits

/-- What was withdrawn from wallets of a currency. -/
def withdrawnIn (books : Books) (currency : String) : Int :=
  total (fun row => if isIn books currency row.wallet then row.amount.units else 0)
    books.withdrawals

/-- A wallet that is kept in one currency is in no other. -/
theorem isIn_of_keeps {wallet : WalletId} {currency own : String} (sound : Sound before)
    (kept : Keeps before wallet own) : isIn before currency wallet = (own == currency) := by
  obtain ⟨row, member, rfl, rfl⟩ := kept
  unfold isIn
  by_cases same : row.currency = currency
  · rw [List.any_eq_true.mpr ⟨row, member, by simp [same]⟩, same, beq_self_eq_true]
  · rw [beq_eq_false_iff_ne.mpr same, List.any_eq_false]
    intro other present both
    obtain ⟨named, is⟩ := Bool.and_eq_true_iff.mp both
    obtain rfl := eq_of_key sound.walletIds member present (eq_of_beq named)
    exact same (eq_of_beq is)

/-- **In each currency wallets hold what was deposited less what was withdrawn.** -/
theorem Reconciled.currency (reconciled : Reconciled before) (sound : Sound before)
    (currency : String) :
    heldIn before currency = depositedIn before currency - withdrawnIn before currency := by
  let counts : WalletRow → Bool := fun row => row.currency == currency
  have shared : heldIn before currency =
      total (fun row => (if counts row then Reconciliation.deposited before row.id else 0) +
        (if counts row then received before row.id else 0) -
          (if counts row then sent before row.id else 0) -
            if counts row then Reconciliation.withdrawn before row.id else 0) before.wallets := by
    refine total_congr fun row member => ?_
    rw [reconciled.balances row member]
    show (if counts row then net before row.id else 0) = _
    cases counts row <;> simp [net]
  -- each sum over wallets is one over markers, a marker going to the wallet it names
  have deposits := total_by_key counts sound.walletIds DepositRow.wallet
    (fun marker => marker.amount.units) before.completedDeposits
  have receipts := total_by_key counts sound.walletIds TransferRow.destination
    (fun marker => marker.amount.units) before.transfers
  have payments := total_by_key counts sound.walletIds TransferRow.source
    (fun marker => marker.amount.units) before.transfers
  have withdrawals := total_by_key counts sound.walletIds WithdrawalRow.wallet
    (fun marker => marker.amount.units) before.withdrawals
  have inside : total (fun marker => if isIn before currency marker.destination
        then marker.amount.units else 0) before.transfers =
      total (fun marker => if isIn before currency marker.source
        then marker.amount.units else 0) before.transfers := by
    refine total_congr fun marker member => ?_
    obtain ⟨own, source, destination⟩ := reconciled.transfers marker member
    rw [isIn_of_keeps sound source, isIn_of_keeps sound destination]
  rw [shared, total_sub, total_sub, total_add]
  show total _ _ + total _ _ - total _ _ - total _ _ = _
  unfold Reconciliation.deposited received sent Reconciliation.withdrawn
  rw [deposits, receipts, payments, withdrawals]
  show total _ _ + total (fun marker => if isIn before currency marker.destination
        then marker.amount.units else 0) before.transfers -
      total (fun marker => if isIn before currency marker.source
        then marker.amount.units else 0) before.transfers - total _ _ = _
  rw [inside]
  show depositedIn before currency + _ - _ - withdrawnIn before currency = _
  omega

/-! ### Runs -/

theorem play_keeps (calls : List Call) {world : World} (sound : Sound world.books)
    {wallet : WalletId} {currency : String} (kept : Keeps world.books wallet currency) :
    Keeps (play calls world).books wallet currency :=
  (play_preserves (fun books => Keeps books wallet currency)
    (fun sound deed kept => keeps_of_deed deed sound kept) calls sound kept).2

/-- **After every run of operations from fresh books** each wallet holds what was deposited into it
and transferred to it less what was transferred from it and withdrawn from it; every marker names
wallets that are there, a transfer two of one currency; in each currency wallets hold what was
deposited less what was withdrawn; and no later operation changes the currency of a wallet. -/
theorem play_reconciled (supply : Supply) (calls later : List Call) :
    Reconciled (play calls (.fresh supply)).books ∧
      (∀ currency, heldIn (play calls (.fresh supply)).books currency =
        depositedIn (play calls (.fresh supply)).books currency -
          withdrawnIn (play calls (.fresh supply)).books currency) ∧
      ∀ wallet currency, Keeps (play calls (.fresh supply)).books wallet currency →
        Keeps (play (calls ++ later) (.fresh supply)).books wallet currency := by
  have start : Sound (World.fresh supply).books := Sound.fresh
  obtain ⟨sound, reconciled⟩ := play_preserves Reconciled
    (fun sound deed held => reconciled_of_deed deed sound held) calls start Reconciled.fresh
  refine ⟨reconciled, reconciled.currency sound, fun wallet currency kept => ?_⟩
  rw [play_append]
  exact play_keeps later sound kept

/-- A deposit of a hundred into a new wallet, asked for twice under one key, is there once. -/
theorem play_reconciled_deposit :
    (∀ row ∈ (play sampleDeposits .fresh).books.wallets, row.balance.balance.units = 100) ∧
      Keeps (play (sampleDeposits ++ sampleDeposits) .fresh).books sampleWallet "USD" := by
  obtain ⟨reconciled, _, keeps⟩ := play_reconciled .ascending sampleDeposits sampleDeposits
  have netted : ∀ row ∈ (play sampleDeposits .fresh).books.wallets,
      net (play sampleDeposits .fresh).books row.id = 100 := by decide
  have kept : ∃ row ∈ (play sampleDeposits .fresh).books.wallets,
      row.id = sampleWallet ∧ row.currency = "USD" := by decide
  exact ⟨fun row member => (reconciled.balances row member).trans (netted row member),
    keeps sampleWallet "USD" kept⟩

end Passbook.Reconciliation
