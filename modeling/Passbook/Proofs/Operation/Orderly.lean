/-
**Units of work on wallets and their limits fail in order.**

* `Orderly`: a failure can be put into words, and if the storage refused a statement there is a
  reason outside the books. That the figures of a wallet do not fit together, or that limits lead
  nowhere, is none;
* `bookStatus_keeping`, `bookBalance_keeping`, `reserve_keeping` and their like: what the units of
  work fail for is in order, since every wallet of sound books fits and every limits lead to a
  wallet.
-/

import Passbook.Proofs.Operation.Paired

namespace Passbook.Operation

open Passbook.Holdings (HoldingError)
open Passbook.Payments (PaymentError)
open Passbook.Store
open Passbook.Verdict (FailsOnly)
open Passbook.Wallet (WalletBalance)

/-! ### Failures in order -/

/-- The storage has refused a statement of an operation on wallets. -/
def Failure.isRefusal : Failure → Bool
  | .holding (.refused (.storage .refused)) => true
  | .payment (.refused (.storage .refused)) => true
  | .payment (.refused (.holding (.storage .refused))) => true
  | _ => false

/-- A failure that can be put into words, and that has a reason if the storage refused. -/
structure Orderly (reason : Prop) (failure : Failure) : Prop where
  told : Tellable failure
  excused : failure.isRefusal → reason

/-- The same of a cause in keeping wallets. -/
abbrev Keeping (reason : Prop) (cause : HoldingError) : Prop :=
  Orderly reason (.holding (.refused cause))

/-- The same of the end of a movement. -/
abbrev Paying (reason : Prop) (halt : Halt PaymentError) : Prop := Orderly reason (.payment halt)

section

variable {reason : Prop} {allowed : Prop}

theorem Keeping.storage {fault : StorageFault} (excuse : allowed → reason)
    (fails : fault = .refused ∧ allowed) : Keeping reason (.storage fault) := by
  obtain ⟨rfl, allowed⟩ := fails
  exact ⟨⟨_, rfl⟩, fun _ => excuse allowed⟩

theorem Paying.storage {fault : StorageFault} (excuse : allowed → reason)
    (fails : fault = .refused ∧ allowed) : Paying reason (.refused (.storage fault)) := by
  obtain ⟨rfl, allowed⟩ := fails
  exact ⟨⟨_, rfl⟩, fun _ => excuse allowed⟩

/-- A wallet that refuses a change of its balance is told of, the storage having no part in it. -/
theorem halted_wallet {halt : Halt Wallet.WalletError} (told : Tellable halt) :
    Orderly reason (.holding (halt.map .wallet)) := by
  cases halt with
  | refused cause => exact ⟨told, fun refused => by cases refused⟩
  | overflowed fault => exact ⟨told, fun refused => by cases refused⟩

theorem Keeping.wallet {cause : Wallet.WalletError} (told : Tellable cause) :
    Keeping reason (.wallet cause) :=
  ⟨told, fun refused => by cases refused⟩

theorem Keeping.limit (cause : Limits.LimitError) : Keeping reason (.limit cause) :=
  ⟨⟨_, rfl⟩, fun refused => by cases refused⟩

theorem Paying.holding {cause : HoldingError} (orderly : Keeping reason cause) :
    Paying reason (.refused (.holding cause)) := by
  refine ⟨orderly.told, fun refused => orderly.excused ?_⟩
  cases cause with
  | storage fault => cases fault <;> first | rfl | cases refused
  | _ => cases refused

theorem Paying.transfer {halt : Halt Transfer.TransferError} (told : Tellable halt) :
    Paying reason (halt.map .transfer) := by
  cases halt with
  | refused cause => exact ⟨told, fun refused => by cases refused⟩
  | overflowed fault => exact ⟨told, fun refused => by cases refused⟩

/-- A movement that ran out of time ends in order too. -/
theorem Paying.expired {kind : Transfer.OperationKind} {limit : Calendar.Duration}
    {halt : Halt PaymentError} (orderly : Paying reason halt) :
    Paying reason (Payments.expired kind limit halt) := by
  unfold Payments.expired
  split
  · exact ⟨⟨_, rfl⟩, fun refused => by cases refused⟩
  · exact orderly

end

/-! ### Wallets -/

section

variable {reason : Prop} {session : Session} {books : Books}

theorem lockWallet_keeping (plain : books.strays = []) (id : WalletId) :
    FailsOnly (Keeping reason) (Holdings.lockWallet id books) :=
  Work.failsOnly_found_lookUp plain fun _ => ⟨⟨_, rfl⟩, fun refused => by cases refused⟩

theorem insertWallet_keeping (sound : Sound books) {owner : UserId}
    {walletType : Wallet.WalletType} {currency : Currency}
    (wallets : session.faults.refuses .wallets .insert → reason)
    (limits : session.faults.refuses .walletLimits .insert → reason)
    (exhausted : books.next? = none → reason) :
    FailsOnly (Keeping reason) (Holdings.insertWallet session owner walletType currency books) := by
  refine Work.failsOnly_bind (Work.failsOnly_fresh fun none =>
    ⟨⟨_, rfl⟩, fun _ => exhausted none⟩) fun uuid middle issued => ?_
  obtain ⟨_, rfl⟩ := Work.fresh_eq_ok.mp issued
  have fit : walletSheet.isFit { books with issued := books.issued + 1 }
      (Holdings.newRow ⟨uuid⟩ session.now owner walletType currency) = true :=
    (walletSheet_isFit sound.plain).mpr ⟨Int.le_refl 0, Int.le_refl 0⟩
  refine Work.failsOnly_bind (Work.failsOnly_mapError ((insert_failsOnly fit rfl).mono ?_))
    fun _ after added => ?_
  · rintro _ (rfl | ⟨rfl, refused⟩)
    · exact ⟨⟨_, rfl⟩, fun refused => by cases refused⟩
    · exact ⟨⟨_, rfl⟩, fun _ => wallets refused⟩
  obtain ⟨_, _, _, _, _, rfl⟩ := insert_eq_ok.mp (Work.mapError_eq_ok.mp added)
  refine Work.failsOnly_bind (Work.failsOnly_stored ((insert_failsOnly rfl ?_).mono ?_))
    fun _ _ _ => Work.failsOnly_pure _
  · -- the wallet that the limits lead to was added just now
    refine (limitsSheet_isLinked ?_).mpr ?_
    · exact sound.plain
    · exact ⟨_, List.mem_append_right _ List.mem_cons_self, rfl⟩
  · rintro _ (rfl | ⟨rfl, refused⟩)
    · exact ⟨⟨_, rfl⟩, fun refused => by cases refused⟩
    · exact ⟨⟨_, rfl⟩, fun _ => limits refused⟩

/-- A wallet that was changed is found again. -/
theorem writeWallet_keeping (sound : Sound books) {row : WalletRow} {alter : WalletRow → WalletRow}
    (member : row ∈ books.wallets) (fits : (alter row).balance.Fits)
    (sameId : ∀ row, (alter row).id = row.id) (sameSlot : ∀ row, (alter row).slot = row.slot)
    (wallets : session.faults.refuses .wallets .update → reason) :
    FailsOnly (Keeping reason) (Holdings.writeWallet session row.id alter books) := by
  have changes := Holdings.changeWallet_failsOnly session.faults alter sound member fits sameId
    sameSlot
  refine Work.failsOnly_bind (Work.failsOnly_stored
    (changes.mono fun _ => Keeping.storage wallets)) fun _ after changed => ?_
  obtain ⟨old, revised⟩ := Holdings.of_changeWallet sound (Work.stored_eq_ok.mp changed)
  have plain : after.strays = [] := by
    rw [revised.left]
    exact sound.plain
  refine Work.failsOnly_found_lookUp plain fun missing => ?_
  have present : alter row ∈ after.wallets := by
    rw [revised.left]
    exact alter_mem_altered member rfl
  have absent := List.find?_eq_none.mp missing (alter row) present
  rw [sameId, beq_self_eq_true, Books.isUsual_eq_true plain] at absent
  exact absurd rfl absent

theorem bookStatus_keeping (sound : Sound books) {id : WalletId} {status : Wallet.WalletStatus}
    (wallets : session.faults.refuses .wallets .update → reason) :
    FailsOnly (Keeping reason) (Holdings.bookStatus session id status books) := by
  refine Work.failsOnly_bind (lockWallet_keeping sound.plain id) fun row _ locked => ?_
  obtain ⟨member, rfl, rfl⟩ := Holdings.of_lockWallet locked
  refine Work.failsOnly_bind (Work.failsOnly_verdict (FailsOnly.mapError
    (Wallet.validateStatusChange_tellable.mono fun _ => Keeping.wallet))) fun _ _ checked => ?_
  obtain ⟨_, rfl⟩ := Work.verdict_eq_ok.mp checked
  by_cases already : row.status = status
  · rw [if_pos already]
    exact Work.failsOnly_pure _
  · rw [if_neg already]
    exact Work.failsOnly_bind (writeWallet_keeping sound member (sound.fits row member)
      (fun _ => rfl) (fun _ => rfl) wallets) fun _ _ _ => Work.failsOnly_pure _

theorem bookClosing_keeping (sound : Sound books) {id : WalletId} {reason' : String}
    (wallets : session.faults.refuses .wallets .update → reason) :
    FailsOnly (Keeping reason) (Holdings.bookClosing session id reason' books) := by
  refine Work.failsOnly_bind (lockWallet_keeping sound.plain id) fun row _ locked => ?_
  obtain ⟨member, rfl, rfl⟩ := Holdings.of_lockWallet locked
  refine Work.failsOnly_bind (Work.failsOnly_verdict (FailsOnly.mapError
    (Wallet.validateClose_tellable.mono fun _ => Keeping.wallet))) fun _ _ checked => ?_
  obtain ⟨_, rfl⟩ := Work.verdict_eq_ok.mp checked
  exact Work.failsOnly_bind (writeWallet_keeping sound member (sound.fits row member)
    (fun _ => rfl) (fun _ => rfl) wallets) fun _ _ _ => Work.failsOnly_pure _

/-- A balance that fits is changed within the range, and what is written fits. -/
theorem bookBalance_keeping (sound : Sound books) {id : WalletId}
    {check : Wallet.Snapshot → Except Wallet.WalletError Unit}
    {move : WalletBalance → Except (Halt Wallet.WalletError) WalletBalance}
    (checks : ∀ row, FailsOnly Tellable (check row))
    (moves : ∀ state, state.Fits → FailsOnly Tellable (move state))
    (fits : ∀ state after, state.Fits → move state = .ok after → after.Fits)
    (wallets : session.faults.refuses .wallets .update → reason) :
    FailsOnly (fun halt => Orderly reason (.holding halt))
      (Holdings.bookBalance session id check move books) := by
  refine Work.failsOnly_bind (Work.failsOnly_mapError (lockWallet_keeping sound.plain id))
    fun row _ locked => ?_
  obtain ⟨member, rfl, rfl⟩ := Holdings.of_lockWallet (Work.mapError_eq_ok.mp locked)
  refine Work.failsOnly_bind (Work.failsOnly_verdict (FailsOnly.mapError
    ((checks row.snapshot).mono fun _ => Keeping.wallet))) fun _ _ checked => ?_
  obtain ⟨_, rfl⟩ := Work.verdict_eq_ok.mp checked
  refine Work.failsOnly_bind (Work.failsOnly_verdict (FailsOnly.mapError
    ((moves row.balance (sound.fits row member)).mono fun _ => halted_wallet)))
    fun balance _ moved => ?_
  obtain ⟨did, rfl⟩ := Work.verdict_eq_ok.mp moved
  have after := fits row.balance balance (sound.fits row member) (Verdict.mapError_eq_ok.mp did)
  have changes := Holdings.changeWallet_failsOnly session.faults
    (Holdings.rebalanced session.now balance) sound member after (fun _ => rfl) fun _ => rfl
  exact Work.failsOnly_bind (Work.failsOnly_stored
    (changes.mono fun _ => Keeping.storage wallets)) fun _ _ _ => Work.failsOnly_pure _

theorem linkAccount_keeping (sound : Sound books) {row : WalletRow} {account : AccountId}
    (member : row ∈ books.wallets) (wallets : session.faults.refuses .wallets .update → reason) :
    FailsOnly (Keeping reason) (Holdings.linkAccount session row.id account books) :=
  Work.failsOnly_stored ((Holdings.changeWallet_failsOnly session.faults
    (Holdings.linked session.now account) sound member (sound.fits row member) (fun _ => rfl)
      fun _ => rfl).mono fun _ => Keeping.storage wallets)

/-! ### Limits -/

theorem lockLimits_keeping (plain : books.strays = []) (wallet : WalletId) :
    FailsOnly (Keeping reason) (Holdings.lockLimits wallet books) :=
  Work.failsOnly_found_lookUp plain fun _ => ⟨⟨_, rfl⟩, fun refused => by cases refused⟩

theorem saveLimits_keeping (sound : Sound books) (paired : Paired books) {row : LimitsRow}
    {state : Limits.LimitState} (member : row ∈ books.limits)
    (limits : session.faults.refuses .walletLimits .update → reason) :
    FailsOnly (Keeping reason) (Holdings.saveLimits session row.wallet state books) :=
  Work.failsOnly_stored ((Holdings.changeLimits_failsOnly session.faults
    (Holdings.restated session.now state) sound member (paired.hasWallet member)
      fun _ => rfl).mono fun _ => Keeping.storage limits)

theorem bookLimits_keeping (sound : Sound books) (paired : Paired books) {wallet : WalletId}
    {wanted : Limits.SpendLimits}
    (limits : session.faults.refuses .walletLimits .update → reason) :
    FailsOnly (Keeping reason) (Holdings.bookLimits session wallet wanted books) := by
  refine Work.failsOnly_bind (lockLimits_keeping sound.plain wallet) fun row _ locked => ?_
  obtain ⟨member, rfl, rfl⟩ := Holdings.of_lockLimits locked
  exact Work.failsOnly_bind (saveLimits_keeping sound paired member limits)
    fun _ _ _ => Work.failsOnly_pure _

theorem reserve_keeping (sound : Sound books) (paired : Paired books) {wallet : WalletId}
    {amount : Amount} (limits : session.faults.refuses .walletLimits .update → reason) :
    FailsOnly (Keeping reason) (Holdings.reserve session wallet amount books) := by
  refine Work.failsOnly_bind (lockLimits_keeping sound.plain wallet) fun row _ locked => ?_
  obtain ⟨member, rfl, rfl⟩ := Holdings.of_lockLimits locked
  refine Work.failsOnly_bind (Work.failsOnly_verdict (FailsOnly.mapError
    fun cause _ => Keeping.limit cause)) fun _ _ counted => ?_
  obtain ⟨_, rfl⟩ := Work.verdict_eq_ok.mp counted
  exact Work.failsOnly_bind (saveLimits_keeping sound paired member limits)
    fun _ _ _ => Work.failsOnly_pure _

/-- Counting amounts one after another is never refused as a whole. -/
theorem reserveEach_failsOnly {allowed : HoldingError → Prop} {wallet : WalletId}
    {amounts : List Amount} :
    FailsOnly allowed (Holdings.reserveEach session wallet amounts books) := by
  induction amounts generalizing books with
  | nil => exact Work.failsOnly_pure []
  | cons amount rest ih =>
    refine Work.failsOnly_bind ?_ fun _ _ _ => Work.failsOnly_bind ih fun _ _ _ =>
      Work.failsOnly_pure _
    unfold Work.attempt
    split
    · exact .ok _
    · exact .ok _

/-- Amounts that are not counted are refused in order. -/
theorem reserveEach_keeping {wallet : WalletId} {amounts : List Amount}
    {outcomes : List (Except HoldingError Limits.LimitState)} {after : Books} (sound : Sound books)
    (paired : Paired books)
    (limits : session.faults.refuses .walletLimits .update → reason)
    (ran : Holdings.reserveEach session wallet amounts books = .ok (outcomes, after)) :
    ∀ cause, .error cause ∈ outcomes → Keeping reason cause := by
  induction amounts generalizing books outcomes with
  | nil =>
    obtain ⟨rfl, rfl⟩ := Work.pure_eq_ok.mp ran
    intro cause none
    cases none
  | cons amount rest ih =>
    simp only [Holdings.reserveEach, Work.bind_eq_ok, Work.pure_eq_ok] at ran
    obtain ⟨outcome, middle, tried, others, _, ran, rfl, rfl⟩ := ran
    have first : FailsOnly (Keeping reason) (Holdings.reserve session wallet amount books) :=
      reserve_keeping sound paired limits
    intro cause member
    unfold Work.attempt at tried
    split at tried
    · rename_i state books' counted
      obtain ⟨rfl, rfl⟩ := by simpa using tried
      have spent := Holdings.of_reserve counted
      obtain ⟨_, _, restated⟩ := spent.written
      refine ih (spent.sound sound) (paired.restated restated) ran cause ?_
      rcases List.mem_cons.mp member with same | later
      · cases same
      · exact later
    · rename_i fault failed
      obtain ⟨rfl, rfl⟩ := by simpa using tried
      rcases List.mem_cons.mp member with same | later
      · cases same
        exact first _ failed
      · exact ih sound paired ran cause later

end

end Passbook.Operation
