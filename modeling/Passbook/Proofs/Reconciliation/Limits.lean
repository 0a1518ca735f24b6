/-
**The counters of limits agree with the calendar.**

A counter is written only when something is spent of its wallet or its limits are set, and starts
again only when it is looked at. It is nevertheless what was spent in the day or the month of now,
in every run under a clock that does not go back.

* `Spend`: an amount that was spent of a wallet, by a transfer (`transferred`) or by a reservation
  that was kept (`reservations`);
* `Tallied`: the counters of all wallets, each as it stood at some earlier instant, are what was
  spent; `Tallied.opened` and `Tallied.restated`: they still are once a wallet is opened, and once
  counters are written;
* `Call.agrees`: every operation keeps them so, under the instants of its clock;
* `play_tallied`: so after every run the limits of a wallet show what was spent in the day and in
  the month of now, and no transfer takes those of its day or month beyond the limit.
-/

import Mathlib.Algebra.Order.BigOperators.Group.List
import Passbook.Proofs.Limits.State
import Passbook.Proofs.Operation.Frame
import Passbook.Proofs.Operation.Paired

namespace Passbook.Operation

/-- The instants at which the units of work of an operation run. -/
def Call.clocks : Call → List Calendar.Instant
  | command session _ => [session.now]
  | query session _ => [session.now]
  | provisionInStages reading opening linking _ => [reading.now, opening.now, linking.now]
  | provisionElsewhere reading linking _ _ _ => [reading.now, linking.now]
  | depositInStages confirming crediting undoing _ => [confirming.now, crediting.now, undoing.now]

end Passbook.Operation

namespace Passbook.Reconciliation

open Passbook.Calendar (Instant)
open Passbook.Holdings (HoldingError newLimitsRow restated)
open Passbook.Limits (LimitState Tallies Window)
open Passbook.Operation
open Passbook.Store
open Passbook.Store.Action (Ends)

/-! ### What is spent -/

/-- An amount that was spent of a wallet. -/
structure Spend where
  wallet : WalletId
  amount : Amount
  moment : Instant

/-- What the transfers in the books have spent. -/
def transferred (books : Books) : List Spend :=
  books.transfers.map fun row => ⟨row.source, row.amount, row.processedAt⟩

/-- The amounts of a wallet that were not refused. -/
def keptOf (wallet : WalletId) (now : Instant) :
    List Amount → List (Except HoldingError LimitState) → List Spend
  | amount :: rest, .ok _ :: outcomes => ⟨wallet, amount, now⟩ :: keptOf wallet now rest outcomes
  | _ :: rest, .error _ :: outcomes => keptOf wallet now rest outcomes
  | _, _ => []

/-- What an operation that has answered has reserved and kept. -/
def reservedBy : Call × Except Failure Answer → List Spend
  | (.command session (.reserve wallet amounts true), .ok (.reservations outcomes)) =>
    keptOf wallet session.now amounts outcomes
  | _ => []

/-- What the operations of a run have reserved and kept. -/
def reservations (past : List (Call × Except Failure Answer)) : List Spend :=
  past.flatMap reservedBy

/-- What was spent of a wallet in the day or the month of an instant. -/
def spentAround (window : Window) (now : Instant) (wallet : WalletId) (spends : List Spend) : Int :=
  total (fun spend => if spend.wallet = wallet ∧ window.shares spend.moment now then
    spend.amount.units else 0) spends

/-- What was spent of a wallet, told by the period in which it was. -/
def spentIn (spends : List Spend) (wallet : WalletId) (window : Window) (period : Int) : Int :=
  total (fun spend => if spend.wallet = wallet ∧ window.period spend.moment = period then
    spend.amount.units else 0) spends

section

variable {spends more : List Spend} {wallet : WalletId} {window : Window}

theorem spentAround_eq {now : Instant} :
    spentAround window now wallet spends = spentIn spends wallet window (window.period now) :=
  total_congr fun spend _ => by simp only [Window.shares_iff]

theorem spentIn_append (period : Int) : spentIn (more ++ spends) wallet window period =
    spentIn more wallet window period + spentIn spends wallet window period :=
  total_append _ _ _

/-- A spend more of a wallet. -/
theorem spentIn_cons {amount : Amount} {now : Instant} :
    spentIn (⟨wallet, amount, now⟩ :: spends) wallet =
      fun window => Limits.spentAlso window (spentIn spends wallet window) amount now := by
  funext window period
  rw [spentIn, total_cons, Limits.spentAlso, Int.add_comm]
  simp only [true_and]
  rfl

/-- What is spent of other wallets does not count. -/
theorem spentIn_eq_zero (others : ∀ spend ∈ spends, spend.wallet ≠ wallet) (period : Int) :
    spentIn spends wallet window period = 0 :=
  total_eq_zero fun spend member => if_neg fun both => others spend member both.1

theorem spentIn_nonneg (positive : ∀ spend ∈ spends, 0 < spend.amount.units) (period : Int) :
    0 ≤ spentIn spends wallet window period := by
  refine List.sum_nonneg fun figure member => ?_
  obtain ⟨spend, present, rfl⟩ := List.mem_map.mp member
  have := positive spend present
  split <;> omega

end

/-! ### Counters -/

/-- The counters of all wallets, each as it stood at an instant before those to come, are what was
spent. -/
structure Tallied (spends : List Spend) (upcoming : List Instant) (limits : List LimitsRow) :
    Prop where
  known : ∀ spend ∈ spends, ∃ row ∈ limits, row.wallet = spend.wallet
  positive : ∀ spend ∈ spends, 0 < spend.amount.units
  counted : ∀ row ∈ limits, ∃ seen : Instant, seen.Civil ∧ (∀ moment ∈ upcoming, seen ≤ moment) ∧
    Tallies (spentIn spends row.wallet) seen row.state

section

variable {spends : List Spend} {upcoming : List Instant} {limits : List LimitsRow}

theorem Tallied.perm {spends' : List Spend} (tallied : Tallied spends upcoming limits)
    (same : spends.Perm spends') : Tallied spends' upcoming limits := by
  have sums : spentIn spends' = spentIn spends := by
    funext wallet window period
    exact total_perm same.symm
  refine ⟨fun spend member => tallied.known spend (same.mem_iff.mpr member),
    fun spend member => tallied.positive spend (same.mem_iff.mpr member), ?_⟩
  rw [sums]
  exact tallied.counted

/-- Fewer instants are to come. -/
theorem Tallied.onward {fewer : List Instant} (tallied : Tallied spends upcoming limits)
    (subset : fewer ⊆ upcoming) : Tallied spends fewer limits :=
  { tallied with
    counted := fun row member => by
      obtain ⟨seen, civil, before, tallies⟩ := tallied.counted row member
      exact ⟨seen, civil, fun moment later => before moment (subset later), tallies⟩ }

/-- **A wallet that is opened** has spent nothing. -/
theorem Tallied.opened {session : Session} {wallet : WalletId}
    (tallied : Tallied spends upcoming limits) (unused : ∀ row ∈ limits, row.wallet ≠ wallet)
    (civil : session.now.Civil) (before : ∀ moment ∈ upcoming, session.now ≤ moment) :
    Tallied spends upcoming (limits ++ [newLimitsRow session wallet]) := by
  refine ⟨fun spend member => ?_, tallied.positive, fun row member => ?_⟩
  · obtain ⟨row, present, same⟩ := tallied.known spend member
    exact ⟨row, List.mem_append_left _ present, same⟩
  · rcases List.mem_append.mp member with present | added
    · exact tallied.counted row present
    · obtain rfl := List.mem_singleton.mp added
      refine ⟨session.now, civil, before, .start fun window period => spentIn_eq_zero ?_ period⟩
      intro spend member same
      obtain ⟨row, present, owns⟩ := tallied.known spend member
      exact unused row present (owns.trans same)

/-- **Counters that are written** count what was spent, and what is spent of their wallet now. -/
theorem Tallied.restated (more : List Spend) {old : LimitsRow} {now : Instant} {state : LimitState}
    (tallied : Tallied spends upcoming limits) (unique : (limits.map LimitsRow.wallet).Nodup)
    (member : old ∈ limits) (own : ∀ spend ∈ more, spend.wallet = old.wallet)
    (positive : ∀ spend ∈ more, 0 < spend.amount.units)
    (civil : now.Civil) (present : now ∈ upcoming) (before : ∀ moment ∈ upcoming, now ≤ moment)
    (tallies : ∀ seen : Instant, seen.Civil → seen ≤ now →
      Tallies (spentIn spends old.wallet) seen old.state →
        Tallies (spentIn (more ++ spends) old.wallet) now state) :
    Tallied (more ++ spends) upcoming
      (altered LimitsRow.wallet old.wallet (Holdings.restated now state) limits) := by
  have wallets : (altered LimitsRow.wallet old.wallet (Holdings.restated now state) limits).map
      LimitsRow.wallet = limits.map LimitsRow.wallet := map_altered LimitsRow.wallet fun _ => rfl
  refine ⟨fun spend spent => ?_, fun spend spent => ?_, fun row written => ?_⟩
  · have known : spend.wallet ∈ limits.map LimitsRow.wallet := by
      rcases List.mem_append.mp spent with now | earlier
      · rw [own spend now]
        exact List.mem_map_of_mem member
      · exact List.mem_map.mpr (tallied.known spend earlier)
    exact List.mem_map.mp (wallets ▸ known)
  · exact (List.mem_append.mp spent).elim (positive spend) (tallied.positive spend)
  · obtain ⟨was, there, rfl⟩ := mem_altered.mp written
    obtain ⟨seen, seenCivil, seenBefore, seenTallies⟩ := tallied.counted was there
    by_cases chosen : was.wallet = old.wallet
    · rw [if_pos chosen]
      obtain rfl := eq_of_key unique there member chosen
      exact ⟨now, civil, before, tallies seen seenCivil (seenBefore now present) seenTallies⟩
    · rw [if_neg chosen]
      refine ⟨seen, seenCivil, seenBefore, ?_⟩
      have same : spentIn (more ++ spends) was.wallet = spentIn spends was.wallet := by
        funext window period
        rw [spentIn_append, spentIn_eq_zero fun spend spent same =>
          chosen (same.symm.trans (own spend spent)), zero_add]
      rw [same]
      exact seenTallies

end

/-! ### What is done at one instant -/

section

variable {session : Session} {before after : Books} {spends : List Spend} {upcoming : List Instant}

/-- An instant that is now comes before those to come, and is one of them. -/
structure AtHand (now : Instant) (upcoming : List Instant) : Prop where
  civil : now.Civil
  present : now ∈ upcoming
  before : ∀ moment ∈ upcoming, now ≤ moment

theorem tallied_of_limitsSet {wallet : WalletId} {wanted : Limits.SpendLimits} {state : LimitState}
    (now : AtHand session.now upcoming) (sound : Sound before)
    (did : Holdings.LimitsSet session wallet wanted before state after)
    (tallied : Tallied spends upcoming before.limits) : Tallied spends upcoming after.limits := by
  obtain ⟨old, rfl, written⟩ := did.written
  rw [written.left, ← written.named]
  exact tallied.restated [] sound.limitsWallets written.member (fun _ none => nomatch none)
    (fun _ none => nomatch none) now.civil now.present now.before
    fun _ civil onward tallies => (tallies.refreshed civil onward).withLimits

/-- **An amount that is counted** is spent now. -/
theorem tallied_of_spent {old : LimitsRow} {amount : Amount} {state : LimitState}
    {limits : List LimitsRow} {moment : Instant}
    (now : AtHand moment upcoming) (unique : (limits.map LimitsRow.wallet).Nodup)
    (member : old ∈ limits) (counted : old.state.reserve amount moment = .ok state)
    (tallied : Tallied spends upcoming limits) :
    Tallied (⟨old.wallet, amount, moment⟩ :: spends) upcoming
      (altered LimitsRow.wallet old.wallet (restated moment state) limits) := by
  refine tallied.restated [⟨old.wallet, amount, moment⟩] unique member ?_ ?_ now.civil
    now.present now.before fun _ civil onward tallies => ?_
  · intro spend only
    rw [List.mem_singleton.mp only]
  · intro spend only
    rw [List.mem_singleton.mp only]
    exact (LimitState.of_reserve counted).positive
  · rw [List.singleton_append, spentIn_cons]
    exact tallies.reserve civil onward counted

/-- Amounts that are counted one after another are spent now, but for those refused. -/
theorem tallied_of_spentEach {wallet : WalletId} {amounts : List Amount}
    {outcomes : List (Except HoldingError LimitState)} (now : AtHand session.now upcoming)
    (sound : Sound before) (did : Holdings.SpentEach session wallet amounts before outcomes after)
    (tallied : Tallied spends upcoming before.limits) :
    Tallied (keptOf wallet session.now amounts outcomes ++ spends) upcoming after.limits ∧
      after.transfers = before.transfers := by
  induction did generalizing spends with
  | none => exact ⟨tallied, rfl⟩
  | @spent amount rest before middle after state outcomes first others ih =>
    obtain ⟨old, counted, written⟩ := first.written
    have once : Tallied (⟨wallet, amount, session.now⟩ :: spends) upcoming middle.limits := by
      rw [written.left, ← written.named]
      exact tallied_of_spent now sound.limitsWallets written.member counted tallied
    obtain ⟨each, same⟩ := ih (first.sound sound) once
    refine ⟨each.perm List.perm_middle, same.trans ?_⟩
    rw [written.left]
  | refused others ih => exact ih sound tallied

section

variable {request : Payments.TransferRequest} {key : Transfer.TransactionKey}
  {source destination : WalletRow} {plan : Transfer.TransferPlan} {limits : LimitsRow}
  {state : LimitState} {reserved : List Spend}

theorem transferred_append (did : Payments.Transferred session request key source destination plan
      limits state before after) :
    transferred after =
      transferred before ++ [⟨request.source, request.amount, session.now⟩] := by
  rw [did.left]
  exact List.map_append

/-- **A transfer** is spent now. -/
theorem tallied_of_transferred (now : AtHand session.now upcoming) (sound : Sound before)
    (did : Payments.Transferred session request key source destination plan limits state
      before after)
    (tallied : Tallied (transferred before ++ reserved) upcoming before.limits) :
    Tallied (transferred after ++ reserved) upcoming after.limits := by
  have once := tallied_of_spent now sound.limitsWallets did.limitsMember did.reserved tallied
  rw [transferred_append did, List.append_assoc, List.singleton_append]
  refine Tallied.perm ?_ List.perm_middle.symm
  rw [did.limitsNamed] at once
  rw [did.left]
  exact once

/-- **A transfer leaves those of its day and of its month within the limits of its source.** -/
theorem within_of_transferred (present : session.now ∈ upcoming)
    (did : Payments.Transferred session request key source destination plan limits state
      before after)
    (tallied : Tallied (transferred before ++ reserved) upcoming before.limits) (window : Window) :
    spentAround window session.now request.source (transferred after) ≤
      (state.limit window).units := by
  obtain ⟨seen, civil, earlier, tallies⟩ := tallied.counted limits did.limitsMember
  have counts := tallies.reserve civil (earlier _ present) did.reserved window
  have within : (state.spent window).units ≤ (state.limit window).units :=
    (LimitState.of_reserve did.reserved).within window
  have sum : (state.spent window).units =
      spentIn (⟨request.source, request.amount, session.now⟩ :: (transferred before ++ reserved))
        request.source window (window.period session.now) := by
    rw [spentIn_cons, ← did.limitsNamed]
    exact counts.sum
  have others : 0 ≤ spentIn reserved request.source window (window.period session.now) :=
    spentIn_nonneg (fun spend member => tallied.positive spend (List.mem_append_right _ member)) _
  rw [← List.cons_append, spentIn_append] at sum
  have reordered : spentIn (transferred after) request.source window
      (window.period session.now) =
        spentIn (⟨request.source, request.amount, session.now⟩ :: transferred before)
          request.source window (window.period session.now) := by
    rw [transferred_append did]
    exact total_perm (List.perm_append_singleton _ _)
  rw [spentAround_eq, reordered]
  omega

end

theorem AtHand.first {now : Instant} (civil : now.Civil)
    (onward : (now :: upcoming).Pairwise (· ≤ ·)) : AtHand now (now :: upcoming) := by
  refine ⟨civil, List.mem_cons_self, fun moment member => ?_⟩
  rcases List.mem_cons.mp member with rfl | later
  · exact .inr ⟨rfl, le_rfl⟩
  · exact List.rel_of_pairwise_cons onward later

end

/-! ### Whole operations -/

/-- The counters are what the transfers in the books and some reservations have spent. -/
def Agrees (reserved : List Spend) (upcoming : List Instant) (books : Books) : Prop :=
  Tallied (transferred books ++ reserved) upcoming books.limits

section

variable {session : Session} {world : World} {upcoming fewer : List Instant} {reserved : List Spend}

theorem Agrees.onward {books : Books} (agrees : Agrees reserved upcoming books)
    (subset : fewer ⊆ upcoming) : Agrees reserved fewer books :=
  Tallied.onward agrees subset

theorem Agrees.untouched {before after : Books} (agrees : Agrees reserved upcoming before)
    (limits : Untouched before after .walletLimits)
    (transfers : Untouched before after .processedTransfers) : Agrees reserved upcoming after := by
  unfold Agrees
  rw [transferred, show after.transfers = _ from transfers, show after.limits = _ from limits]
  exact agrees

/-- An operation that keeps the counters so whenever it is not refused keeps them so. -/
theorem agrees_of_ends {ε α : Type} {fail : ε → Failure} {answer : α → Answer}
    {action : Action ε α}
    (ends : Ends action fun before _ after => Sound before.books →
      Agrees reserved upcoming before.books → Agrees reserved upcoming after.books)
    (sound : Sound world.books) (agrees : Agrees reserved upcoming world.books) :
    Agrees reserved upcoming (answering fail answer action world).2.books := by
  rw [answering_run]
  rcases ends world with ⟨cause, same⟩ | ⟨value, after, same, did⟩
  · rw [same]
    exact agrees
  · rw [same]
    exact did sound agrees

theorem createWallet_agrees {owner : UserId} {walletType : Wallet.WalletType} {code : String}
    (now : AtHand session.now upcoming) (sound : Sound world.books)
    (agrees : Agrees reserved upcoming world.books) :
    Agrees reserved upcoming
      (Command.run session (.createWallet owner walletType code) world).2.books := by
  have run : Command.run session (.createWallet owner walletType code) = ofHolding
    (.wallet ∘ some) (Holdings.createWallet session owner walletType code) := rfl
  rw [run, ofHolding]
  refine agrees_of_ends ((Holdings.createWallet_ends session owner walletType code).mono
    fun before row after left sound held => ?_) sound agrees
  obtain ⟨_, _, did⟩ := left.changed sound
  rw [Agrees, transferred, did.left]
  exact held.opened did.newLimits now.civil now.before

theorem updateLimits_agrees {wallet : WalletId} {daily monthly : Amount}
    (now : AtHand session.now upcoming) (sound : Sound world.books)
    (agrees : Agrees reserved upcoming world.books) :
    Agrees reserved upcoming
      (Command.run session (.updateLimits wallet daily monthly) world).2.books := by
  have run : Command.run session (.updateLimits wallet daily monthly) = ofHolding .limits
    (Holdings.updateLimits session wallet daily monthly) := rfl
  rw [run, ofHolding]
  refine agrees_of_ends ((Holdings.updateLimits_ends session wallet daily monthly).mono
    fun before state after left sound held => ?_) sound agrees
  obtain ⟨_, _, did⟩ := left.changed sound
  have same : transferred after.books = transferred before.books := by
    obtain ⟨_, _, written⟩ := did.written
    rw [transferred, written.left]
    rfl
  rw [Agrees, same]
  exact tallied_of_limitsSet now sound did held

theorem transfer_agrees {request : Payments.TransferRequest} (now : AtHand session.now upcoming)
    (sound : Sound world.books) (agrees : Agrees reserved upcoming world.books) :
    Agrees reserved upcoming (Command.run session (.transfer request) world).2.books := by
  have run : Command.run session (.transfer request) =
    ofPayment (Payments.processTransfer session request) := rfl
  rw [run, ofPayment]
  refine agrees_of_ends ((Payments.processTransfer_ends session request).mono
    fun before receipt after receipted sound held => ?_) sound agrees
  obtain ⟨key, booked, _, _, books, _⟩ := receipted.booked
  have did := books sound
  generalize after.books = later at did ⊢
  cases did with
  | found _ => exact held
  | made did => exact tallied_of_transferred now sound did held

/-- A transfer that is made leaves those of its day and of its month within the limits of its
source. -/
theorem transfer_within {request : Payments.TransferRequest} {receipt : Transfer.Receipt}
    (sound : Sound world.books) (agrees : Agrees reserved upcoming world.books)
    (present : session.now ∈ upcoming)
    (ran : ((Call.command session (.transfer request)).run world).1 = .ok (.receipt receipt))
    (fresh : receipt.replayed = false) :
    ∃ limits ∈ ((Call.command session (.transfer request)).run world).2.books.limits,
      limits.wallet = request.source ∧ ∀ window,
        spentAround window session.now request.source
            (transferred ((Call.command session (.transfer request)).run world).2.books) ≤
          (limits.state.limit window).units := by
  have run : (Call.command session (.transfer request)).run =
    ofPayment (Payments.processTransfer session request) := rfl
  rw [run, ofPayment, answering_run] at ran ⊢
  rcases Payments.processTransfer_ends session request world with
    ⟨cause, same⟩ | ⟨given, later, same, receipted⟩
  · rw [same] at ran
    cases ran
  · rw [same] at ran ⊢
    cases ran
    obtain ⟨key, booked, _, rfl, books, _⟩ := receipted.booked
    have did := books sound
    generalize later.books = left at did ⊢
    cases did with
    | found _ => cases fresh
    | @made source destination plan limits state _ did =>
      refine ⟨restated session.now state limits, ?_, did.limitsNamed,
        within_of_transferred present did agrees⟩
      rw [did.left]
      exact alter_mem_altered did.limitsMember did.limitsNamed

/-- Amounts that are reserved and kept count from now on. -/
theorem reserve_agrees {wallet : WalletId} {amounts : List Amount} {commit : Bool}
    (now : AtHand session.now upcoming) (sound : Sound world.books)
    (agrees : Agrees reserved upcoming world.books) :
    Agrees (reserved ++ reservedBy (.command session (.reserve wallet amounts commit),
        (Command.run session (.reserve wallet amounts commit) world).1)) upcoming
      (Command.run session (.reserve wallet amounts commit) world).2.books := by
  cases commit with
  | false =>
    have none : reservedBy (.command session (.reserve wallet amounts false),
        (Command.run session (.reserve wallet amounts false) world).1) = [] := rfl
    rw [none, List.append_nil]
    exact agrees
  | true =>
    have run : Command.run session (.reserve wallet amounts true) =
        ofHolding .reservations
          (Action.atomically session (Holdings.reserveEach session wallet amounts)) := rfl
    rw [run, ofHolding, answering_run]
    rcases Holdings.reserveEach_ends session wallet amounts world with
      ⟨cause, same⟩ | ⟨outcomes, after, same, left⟩
    · rw [same]
      show Agrees (reserved ++ []) upcoming world.books
      rw [List.append_nil]
      exact agrees
    · rw [same]
      obtain ⟨each, transfers⟩ := tallied_of_spentEach now sound (left.changed sound) agrees
      have spent : transferred after.books = transferred world.books := by
        rw [transferred, transferred, transfers]
      show Agrees (reserved ++ keptOf wallet session.now amounts outcomes) upcoming after.books
      rw [Agrees, spent, ← List.append_assoc]
      exact each.perm List.perm_append_comm

/-- An operation that writes neither limits nor transfers keeps the counters so. -/
theorem Call.agrees_of_others (call : Call) (sound : Sound world.books)
    (others : ∀ kind ∈ call.kinds,
      Table.walletLimits ∉ kind.writes ∧ Table.processedTransfers ∉ kind.writes)
    (none : reservedBy (call, (call.run world).1) = [])
    (agrees : Agrees reserved upcoming world.books) :
    Agrees (reserved ++ reservedBy (call, (call.run world).1)) upcoming
      (call.run world).2.books := by
  have happened := call.happened sound
  rw [none, List.append_nil]
  exact agrees.untouched (happened.untouched fun kind member => (others kind member).1)
    (happened.untouched fun kind member => (others kind member).2)

theorem Command.agrees (wanted : Command) (now : AtHand session.now upcoming)
    (sound : Sound world.books) (agrees : Agrees reserved upcoming world.books) :
    Agrees (reserved ++ reservedBy (.command session wanted, (wanted.run session world).1)) upcoming
      (wanted.run session world).2.books := by
  have plain : ∀ {books : Books}, Agrees reserved upcoming books →
      Agrees (reserved ++ []) upcoming books := fun held => (List.append_nil reserved).symm ▸ held
  have others : (∀ kind ∈ wanted.kinds,
      Table.walletLimits ∉ kind.writes ∧ Table.processedTransfers ∉ kind.writes) →
      reservedBy (.command session wanted, (wanted.run session world).1) = [] →
        Agrees (reserved ++ reservedBy (.command session wanted, (wanted.run session world).1))
          upcoming (wanted.run session world).2.books := fun others none =>
    Call.agrees_of_others (.command session wanted) sound others none agrees
  cases wanted with
  | createWallet owner walletType code => exact plain (createWallet_agrees now sound agrees)
  | updateLimits wallet daily monthly => exact plain (updateLimits_agrees now sound agrees)
  | reserve wallet amounts commit => exact reserve_agrees now sound agrees
  | transfer request => exact plain (transfer_agrees now sound agrees)
  | _ => exact others (by simp [Command.kinds, DeedKind.writes]) rfl

/-- **An operation keeps the counters of all wallets what was spent**, if its clock does not go
back. -/
theorem Call.agrees (call : Call) (sound : Sound world.books)
    (onward : (call.clocks ++ upcoming).Pairwise (· ≤ ·))
    (civil : ∀ moment ∈ call.clocks, moment.Civil)
    (agrees : Agrees reserved (call.clocks ++ upcoming) world.books) :
    Agrees (reserved ++ reservedBy (call, (call.run world).1)) upcoming
      (call.run world).2.books := by
  have fewer : upcoming ⊆ call.clocks ++ upcoming := List.subset_append_right _ _
  cases call with
  | command session wanted =>
    exact (Command.agrees wanted (.first (civil _ List.mem_cons_self) onward) sound agrees).onward
      fewer
  | _ =>
    exact (Call.agrees_of_others _ sound (by simp [Call.kinds, DeedKind.writes]) rfl agrees).onward
      fewer

end

/-! ### Runs -/

/-- **A run keeps the counters of all wallets what was spent**, if its clock does not go back. -/
theorem play_agrees (calls : List Call) {world : World} {reserved : List Spend}
    {upcoming : List Instant} (sound : Sound world.books)
    (onward : (calls.flatMap Call.clocks ++ upcoming).Pairwise (· ≤ ·))
    (civil : ∀ moment ∈ calls.flatMap Call.clocks, moment.Civil)
    (agrees : Agrees reserved (calls.flatMap Call.clocks ++ upcoming) world.books) :
    Agrees (reserved ++ reservations (history calls world)) upcoming
      (play calls world).books := by
  induction calls generalizing world reserved with
  | nil =>
    rw [show reservations (history [] world) = [] from rfl, List.append_nil]
    exact agrees
  | cons call rest ih =>
    rw [List.flatMap_cons, List.append_assoc] at onward agrees
    rw [List.flatMap_cons] at civil
    have once := Call.agrees call sound onward
      (fun moment member => civil moment (List.mem_append_left _ member)) agrees
    have later := ih ((call.happened sound).sound sound) (List.pairwise_append.mp onward).2.1
      (fun moment member => civil moment (List.mem_append_right _ member)) once
    rw [List.append_assoc] at later
    exact later

theorem agrees_fresh {supply : Supply} (upcoming : List Instant) :
    Agrees [] upcoming (.fresh supply) :=
  ⟨fun _ none => (nomatch none), fun _ none => (nomatch none), fun _ none => (nomatch none)⟩

/-- **After every run from fresh books, under a clock that does not go back,** the limits of every
wallet show what its transfers and the reservations that were kept have spent in the day and in the
month of now. A transfer that is then made leaves the transfers of its day and of its month within
the limits of its source. -/
theorem play_tallied (supply : Supply) (calls : List Call) (session : Session)
    (onward : (calls.flatMap Call.clocks ++ [session.now]).Pairwise (· ≤ ·))
    (civil : ∀ moment ∈ calls.flatMap Call.clocks ++ [session.now], moment.Civil) :
    (session.faults.blocked = false → ∀ row ∈ (play calls (.fresh supply)).books.wallets, ∃ state,
      ((Call.query session (.getLimits row.id)).run (play calls (.fresh supply))).1 =
        .ok (.limits state) ∧
      ∀ window, (state.spent window).units =
        spentAround window session.now row.id (transferred (play calls (.fresh supply)).books) +
          spentAround window session.now row.id (reservations (history calls (.fresh supply)))) ∧
    ∀ (request : Payments.TransferRequest) (receipt : Transfer.Receipt),
      ((Call.command session (.transfer request)).run (play calls (.fresh supply))).1 =
        .ok (.receipt receipt) → receipt.replayed = false →
      ∃ limits ∈ (play (calls ++ [.command session (.transfer request)])
        (.fresh supply)).books.limits,
        limits.wallet = request.source ∧ ∀ window,
          spentAround window session.now request.source (transferred
            (play (calls ++ [.command session (.transfer request)]) (.fresh supply)).books) ≤
              (limits.state.limit window).units := by
  have start : Sound (World.fresh supply).books := Sound.fresh
  have sound := play_sound calls start
  have agrees := play_agrees calls start onward
    (fun moment member => civil moment (List.mem_append_left _ member)) (agrees_fresh _)
  rw [List.nil_append] at agrees
  have nowCivil := civil session.now (List.mem_append_right _ List.mem_cons_self)
  refine ⟨fun reached row member => ?_, fun request receipt ran fresh => ?_⟩
  · obtain ⟨limits, present, named⟩ := (play_paired calls start Paired.fresh).hasLimits member
    obtain ⟨seen, seenCivil, before, tallies⟩ := agrees.counted limits present
    refine ⟨limits.state.refreshed session.now, ?_, fun window => ?_⟩
    · show (ofHolding .limits (Holdings.getLimits session row.id) _).1 = _
      rw [← named, ofHolding, answering_run,
        Holdings.getLimits_of_mem sound reached present]
      rfl
    · have counts := tallies.refreshed seenCivil (before _ List.mem_cons_self) window
      rw [spentAround_eq, spentAround_eq, counts.sum, spentIn_append, named]
  · have last : ∀ call : Call,
        play (calls ++ [call]) (.fresh supply) = (call.run (play calls (.fresh supply))).2 :=
      fun call => play_append calls [call] (.fresh supply)
    rw [last]
    exact transfer_within sound agrees List.mem_cons_self ran fresh

/-- The session of the day after the epoch. -/
def sampleNextDay : Session :=
  { sampleSession with now := (Instant.atDay? 1).getD .epoch }

/-- A transfer of thirty between the first two wallets. -/
def sampleTransfer (key : String) : Payments.TransferRequest :=
  ⟨sampleWallet, sampleOther, sampleUnits 30, key, none, none⟩

/-- Of a hundred that were deposited thirty are transferred. The day after, ten are reserved, and
five hundred are refused. -/
def sampleSpends : List Call :=
  sampleDeposits ++
    [.command sampleSession (.createWallet (sampleOwner 8) .main "USD"),
      .command sampleSession (.transfer (sampleTransfer "second")),
      .command sampleNextDay (.reserve sampleWallet [sampleUnits 10, sampleUnits 500] true)]

/-- The day after, ten of the wallet are shown as spent in the day and forty in the month, and a
second transfer is within the limits. -/
theorem play_tallied_nextDay :
    (∀ row ∈ (play sampleSpends .fresh).books.wallets, ∃ state,
      ((Call.query sampleNextDay (.getLimits row.id)).run (play sampleSpends .fresh)).1 =
        .ok (.limits state) ∧
      (state.spent .daily).units = (if row.id = sampleWallet then 10 else 0) ∧
      (state.spent .monthly).units = if row.id = sampleWallet then 40 else 0) ∧
    ∃ limits ∈ (play (sampleSpends ++
        [.command sampleNextDay (.transfer (sampleTransfer "third"))]) .fresh).books.limits,
      limits.wallet = sampleWallet ∧ ∀ window,
        spentAround window sampleNextDay.now sampleWallet (transferred (play (sampleSpends ++
          [.command sampleNextDay (.transfer (sampleTransfer "third"))]) .fresh).books) ≤
            (limits.state.limit window).units := by
  obtain ⟨shown, within⟩ := play_tallied .ascending sampleSpends sampleNextDay (by decide)
    (by decide)
  have figures : ∀ row ∈ (play sampleSpends .fresh).books.wallets, ∀ window ∈
      [Window.daily, .monthly], spentAround window sampleNextDay.now row.id
          (transferred (play sampleSpends .fresh).books) +
        spentAround window sampleNextDay.now row.id
          (reservations (history sampleSpends .fresh)) =
        if row.id = sampleWallet then (if window = .daily then 10 else 40) else 0 := by decide
  refine ⟨fun row member => ?_, within (sampleTransfer "third")
    ⟨.transfer, ⟨"third"⟩, sampleUnits 30, false⟩ (by rfl) rfl⟩
  obtain ⟨state, answered, sums⟩ := shown rfl row member
  refine ⟨state, answered, ?_, ?_⟩
  · rw [sums, figures row member .daily (by decide)]
    rfl
  · rw [sums, figures row member .monthly (by decide)]
    rfl

end Passbook.Reconciliation
