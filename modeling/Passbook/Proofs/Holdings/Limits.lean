/-
**What the operations on limits leave.**

* `LimitsSet`: the limits of one wallet were set, its counters being kept;
* `Spent`: an amount was counted in both windows of one wallet; `SpentEach`: amounts one after
  another, those that are refused leaving nothing;
* `changeLimits_failsOnly`: a change of limits that lead to a wallet is refused by the storage only;
* `updateLimits_ends`, `reserveEach_ends`: the operations do one of these or nothing;
* `getLimits_of_mem`: limits that are kept are answered as they apply now.
-/

import Passbook.Holdings.Limits
import Passbook.Proofs.Store.Failing
import Passbook.Proofs.Store.Leaves
import Passbook.Proofs.Store.Tables
import Passbook.Proofs.Verdict

namespace Passbook.Holdings

open Passbook.Calendar (Instant)
open Passbook.Limits (LimitState SpendLimits)
open Passbook.Store
open Passbook.Store.Action (Ends Leaves)
open Passbook.Verdict (FailsOnly)

/-- Limits and counters as they are written. -/
def restated (now : Instant) (state : LimitState) (row : LimitsRow) : LimitsRow :=
  { row with state := state, updatedAt := now }

/-- The limits and counters of a wallet were written. -/
structure Restated (session : Session) (wallet : WalletId) (old : LimitsRow) (state : LimitState)
    (before after : Books) : Prop where
  member : old ∈ before.limits
  named : old.wallet = wallet
  left : after = { before with
    limits := altered LimitsRow.wallet wallet (restated session.now state) before.limits }

/-- The limits of a wallet were set. -/
structure LimitsSet (session : Session) (wallet : WalletId) (limits : SpendLimits) (before : Books)
    (state : LimitState) (after : Books) : Prop where
  written : ∃ old, state = (old.state.refreshed session.now).withLimits limits ∧
    Restated session wallet old state before after

/-- An amount was counted against the limits of a wallet. -/
structure Spent (session : Session) (wallet : WalletId) (amount : Amount) (before : Books)
    (state : LimitState) (after : Books) : Prop where
  written : ∃ old, old.state.reserve amount session.now = .ok state ∧
    Restated session wallet old state before after

/-- Amounts were counted one after another, or refused. -/
inductive SpentEach (session : Session) (wallet : WalletId) :
    List Amount → Books → List (Except HoldingError LimitState) → Books → Prop
  | none {before : Books} : SpentEach session wallet [] before [] before
  | spent {amount : Amount} {rest : List Amount} {before middle after : Books} {state : LimitState}
      {outcomes : List (Except HoldingError LimitState)}
      (first : Spent session wallet amount before state middle)
      (others : SpentEach session wallet rest middle outcomes after) :
      SpentEach session wallet (amount :: rest) before (.ok state :: outcomes) after
  | refused {amount : Amount} {rest : List Amount} {before after : Books} {cause : HoldingError}
      {outcomes : List (Except HoldingError LimitState)}
      (others : SpentEach session wallet rest before outcomes after) :
      SpentEach session wallet (amount :: rest) before (.error cause :: outcomes) after

variable {session : Session} {before after : Books}

/-! ### Soundness -/

theorem restated_sound (wallet : WalletId) (now : Instant) (state : LimitState)
    (sound : Sound before) : Sound { before with
      limits := altered LimitsRow.wallet wallet (restated now state) before.limits } :=
  sound.alterLimits fun _ => rfl

theorem Restated.sound {wallet : WalletId} {old : LimitsRow} {state : LimitState}
    (did : Restated session wallet old state before after) (sound : Sound before) :
    Sound after := by
  rw [did.left]
  exact restated_sound wallet session.now state sound

theorem Spent.sound {wallet : WalletId} {amount : Amount} {state : LimitState}
    (did : Spent session wallet amount before state after) (sound : Sound before) :
    Sound after := by
  obtain ⟨_, _, written⟩ := did.written
  exact written.sound sound

/-! ### Units of work -/

theorem of_lockLimits {wallet : WalletId} {row : LimitsRow}
    (ran : lockLimits wallet before = .ok (row, after)) :
    row ∈ before.limits ∧ row.wallet = wallet ∧ before = after := by
  obtain ⟨found, same⟩ := Work.of_found_lookUp ran
  obtain ⟨member, named⟩ := mem_of_limits? found
  exact ⟨member, named, same⟩

theorem of_saveLimits {wallet : WalletId} {state : LimitState} {done : Unit}
    (ran : saveLimits session wallet state before = .ok (done, after)) :
    after = { before with
      limits := altered LimitsRow.wallet wallet (restated session.now state) before.limits } :=
  (of_changeOne (Work.stored_eq_ok.mp ran)).2

theorem of_bookLimits {wallet : WalletId} {limits : SpendLimits} {state : LimitState}
    (ran : bookLimits session wallet limits before = .ok (state, after)) :
    LimitsSet session wallet limits before state after := by
  simp only [bookLimits, Work.bind_eq_ok, Work.pure_eq_ok] at ran
  obtain ⟨row, middle, locked, _, _, saved, rfl, rfl⟩ := ran
  obtain ⟨member, named, rfl⟩ := of_lockLimits locked
  have left := of_saveLimits saved
  rw [named] at left
  exact ⟨row, rfl, member, named, left⟩

theorem of_reserve {wallet : WalletId} {amount : Amount} {state : LimitState}
    (ran : reserve session wallet amount before = .ok (state, after)) :
    Spent session wallet amount before state after := by
  simp only [reserve, Work.bind_eq_ok, Work.verdict_eq_ok, Verdict.mapError_eq_ok,
    Work.pure_eq_ok] at ran
  obtain ⟨row, middle, locked, counted, _, ⟨is, rfl⟩, _, _, saved, rfl, rfl⟩ := ran
  obtain ⟨member, named, rfl⟩ := of_lockLimits locked
  have left := of_saveLimits saved
  rw [named] at left
  exact ⟨row, is, member, named, left⟩

/-- The outcome of counting an amount is what it leaves, or nothing is left. -/
theorem of_reserveEach {wallet : WalletId} {amounts : List Amount}
    {outcomes : List (Except HoldingError LimitState)}
    (ran : reserveEach session wallet amounts before = .ok (outcomes, after)) :
    SpentEach session wallet amounts before outcomes after := by
  induction amounts generalizing before outcomes with
  | nil =>
    obtain ⟨rfl, rfl⟩ := Work.pure_eq_ok.mp ran
    exact .none
  | cons amount rest ih =>
    simp only [reserveEach, Work.bind_eq_ok, Work.pure_eq_ok] at ran
    obtain ⟨outcome, middle, tried, others, _, ran, rfl, rfl⟩ := ran
    unfold Work.attempt at tried
    split at tried
    · rename_i state books counted
      obtain ⟨rfl, rfl⟩ := by simpa using tried
      exact .spent (of_reserve counted) (ih ran)
    · obtain ⟨rfl, rfl⟩ := by simpa using tried
      exact .refused (ih ran)

/-- A change of limits that are there, which stay those of a wallet that is there, is refused by the
storage only. -/
theorem changeLimits_failsOnly (faults : Faults) (alter : LimitsRow → LimitsRow) {row : LimitsRow}
    (sound : Sound before) (member : row ∈ before.limits)
    (leads : ∃ wallet ∈ before.wallets, wallet.id = row.wallet)
    (sameWallet : ∀ row, (alter row).wallet = row.wallet) :
    FailsOnly (fun fault => fault = .refused ∧ faults.refuses .walletLimits .update = true)
      (changeOne faults limitsSheet (fun other => other.wallet == row.wallet) alter before) := by
  have later : Sound { before with
      limits := altered LimitsRow.wallet row.wallet alter before.limits } :=
    sound.alterLimits sameWallet
  have same : (before.limits.map fun other =>
      if (other.wallet == row.wallet) = true then alter other else other) =
        altered LimitsRow.wallet row.wallet alter before.limits := by
    simp only [altered, beq_iff_eq]
  refine changeOne_failsOnly ⟨row, member, beq_self_eq_true row.wallet⟩ (fun _ _ _ => rfl) ?_ ?_
  · show allDistinct _ (before.limits.map fun other =>
      if (other.wallet == row.wallet) = true then alter other else other) = true
    rw [same]
    exact (limitsSheet_allDistinct sound.plain).mpr later.limitsWallets
  · intro other _ chosen
    obtain ⟨wallet, present, named⟩ := leads
    refine (limitsSheet_isLinked (show _ = [] from sound.plain)).mpr ⟨wallet, present, ?_⟩
    rw [sameWallet, eq_of_beq chosen, named]

/-! ### Operations -/

/-- **Setting limits** leaves the limits of one wallet set, or nothing. -/
theorem updateLimits_ends (session : Session) (wallet : WalletId) (daily monthly : Amount) :
    Ends (updateLimits session wallet daily monthly)
      (Leaves (fun before state after => ∃ limits, SpendLimits.make daily monthly = .ok limits ∧
        LimitsSet session wallet limits before state after) fun _ => []) :=
  Ends.leavesAfter _ (Ends.verdict _) (fun _ => Ends.leaves session fun _ => of_bookLimits)
    fun made _ _ did => ⟨_, Verdict.mapError_eq_ok.mp made, did⟩

/-- **Counting amounts** leaves those that are not refused. -/
theorem reserveEach_ends (session : Session) (wallet : WalletId) (amounts : List Amount) :
    Ends (Action.atomically session (reserveEach session wallet amounts))
      (Leaves (SpentEach session wallet amounts) fun _ => []) :=
  Ends.leaves session fun _ => of_reserveEach

theorem getLimits_looks (wallet : WalletId) :
    Ends (getLimits session wallet) fun world _ after => after = world := by
  refine ((Ends.lookUp session limitsSheet _).after fun row =>
    (Ends.found (HoldingError.limitsNotFound wallet) row).after fun row => Ends.pure _).mono ?_
  rintro world state after ⟨_, _, _, _, _, same⟩
  exact same

/-- **The limits of a wallet as they apply now** are answered wherever they are kept. -/
theorem getLimits_of_mem {world : World} (sound : Sound world.books)
    (reached : session.faults.blocked = false) {row : LimitsRow}
    (member : row ∈ world.books.limits) :
    getLimits session row.wallet world = (.ok (row.state.refreshed session.now), world) := by
  have found := limits?_of_mem sound.plain sound.limitsWallets member
  have read : (Work.lookUp limitsSheet fun books => books.limits? row.wallet :
      Work HoldingError (Option LimitsRow)) world.books = .ok (some row, world.books) := by
    rw [Work.lookUp_of_plain sound.plain, found]
  have looked : (Action.lookUp session limitsSheet fun books => books.limits? row.wallet :
      Action HoldingError (Option LimitsRow)) world = (.ok (some row), world) :=
    Action.atomically_of_ok reached read
  rw [getLimits, Action.bind_of_ok looked]
  rfl

end Passbook.Holdings
