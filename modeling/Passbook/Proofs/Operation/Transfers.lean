/-
**Which transfers go through, and what the others are refused for.**

* `Check`, `judge`: checks one after another, of which the first that fails refuses;
* `Follows`: a unit of work is refused by the first of some checks that fails, and gives a result if
  none does; `Follows.bind`: so are units of work one after another, by their checks one after
  another;
* `transferChecks`: the checks of a transfer in their order, each with what is refused where it
  fails;
* `judge_validChecks`, `judge_limitChecks`: the rules refuse by the first of theirs;
* `follows_lockPair`, `follows_plan`, `follows_reserve`: the parts of a transfer follow their parts
  of the checks; `follows_moveBetween`: and so does the whole;
* `Moved`: what a transfer leaves, and nothing else;
* `play_transfers`: after every run a transfer under an unused key goes through exactly when it
  passes all of its checks.
-/

import Passbook.Proofs.Limits.Reserve
import Passbook.Proofs.Operation.OrderlyMovements

namespace Passbook.Operation

open Passbook.Limits (LimitError LimitState)
open Passbook.Payments
open Passbook.Store
open Passbook.Transfer (TransactionKey TransferPlan)

/-! ### Checks one after another -/

/-- A check of a movement, and what is refused where it fails. -/
structure Check where
  passes : Bool
  refusal : PaymentError
deriving DecidableEq

/-- The verdict of checks: the first that fails refuses. -/
def judge : List Check → Except PaymentError Unit
  | [] => .ok ()
  | check :: rest => if check.passes then judge rest else .error check.refusal

theorem judge_eq_ok {checks : List Check} {done : Unit} :
    judge checks = .ok done ↔ ∀ check ∈ checks, check.passes = true := by
  induction checks with
  | nil => simp [judge]
  | cons check rest ih =>
    rw [judge, List.forall_mem_cons, ← ih]
    by_cases passes : check.passes = true
    · simp [passes]
    · simp [passes]

theorem judge_append {front back : List Check} :
    judge (front ++ back) = judge front >>= fun _ => judge back := by
  induction front with
  | nil => rfl
  | cons check rest ih =>
    rw [List.cons_append, judge, judge, ih]
    by_cases passes : check.passes = true
    · rw [if_pos passes, if_pos passes]
    · rw [if_neg passes, if_neg passes]
      rfl

/-- The first check that fails is the one that refuses. -/
theorem judge_of_first {front back : List Check} {check : Check}
    (earlier : ∀ other ∈ front, other.passes = true) (fails : check.passes = false) :
    judge (front ++ check :: back) = .error check.refusal := by
  have passed : judge front = .ok () := judge_eq_ok.mpr earlier
  rw [judge_append, passed]
  show (if check.passes = true then judge back else .error check.refusal) = _
  rw [fails, if_neg Bool.false_ne_true]

/-- A unit of work is refused by the first of some checks that fails, and gives a result if none
does. -/
def Follows {α : Type} (checks : List Check) (work : PaymentWork α) (books : Books)
    (gives : α → Books → Prop) : Prop :=
  match judge checks with
  | .error cause => work books = .error (.refused cause)
  | .ok _ => ∃ value after, work books = .ok (value, after) ∧ gives value after

section

variable {α β : Type} {checks rest : List Check} {work : PaymentWork α} {books : Books}
  {gives : α → Books → Prop}

theorem Follows.refused (passes : Bool) {cause : PaymentError} (fails : passes = false)
    (refused : work books = .error (.refused cause)) :
    Follows (⟨passes, cause⟩ :: rest) work books gives := by
  subst fails
  exact refused

/-- A check that passes says nothing. -/
theorem Follows.passed {passes : Bool} {cause : PaymentError} (passed : passes = true)
    (follows : Follows rest work books gives) :
    Follows (⟨passes, cause⟩ :: rest) work books gives := by
  subst passed
  exact follows

/-- Where nothing is asked a result is given. -/
theorem Follows.done {value : α} {after : Books} (ran : work books = .ok (value, after))
    (given : gives value after) : Follows [] work books gives :=
  ⟨value, after, ran, given⟩

/-- What is done before a check does not refuse by it. -/
theorem Follows.after_ok {next : α → PaymentWork β} {gives' : β → Books → Prop} {value : α}
    {after : Books} (ran : work books = .ok (value, after))
    (follows : Follows rest (next value) after gives') :
    Follows rest (work >>= next) books gives' := by
  unfold Follows at follows ⊢
  rw [Work.bind_of_ok ran]
  exact follows

/-- **Units of work one after another are refused by their checks one after another.** -/
theorem Follows.bind {next : α → PaymentWork β} {gives' : β → Books → Prop}
    (first : Follows checks work books gives)
    (second : ∀ value after, gives value after → Follows rest (next value) after gives') :
    Follows (checks ++ rest) (work >>= next) books gives' := by
  unfold Follows at first ⊢
  rw [judge_append]
  cases judged : judge checks with
  | error cause =>
    rw [judged] at first
    exact Work.bind_of_error first
  | ok done =>
    rw [judged] at first
    obtain ⟨value, after, ran, given⟩ := first
    exact (second value after given).after_ok ran

/-- What is done without a check of its own is refused by the checks before it. -/
theorem Follows.andThen {next : α → PaymentWork β} {gives' : β → Books → Prop}
    (first : Follows checks work books gives)
    (second : ∀ value after, gives value after →
      ∃ value' after', next value after = .ok (value', after') ∧ gives' value' after') :
    Follows checks (work >>= next) books gives' := by
  rw [← List.append_nil checks]
  exact first.bind second

end

/-! ### The checks of a transfer -/

section

variable {session : Session} {request : TransferRequest} {key : TransactionKey} {books : Books}
  {source destination : WalletRow} {limits : LimitsRow}

/-- The wallet of an identifier is there. -/
def existing (books : Books) (id : WalletId) : Check :=
  ⟨(books.wallet? id).isSome, .holding (.notFound id)⟩

/-- What the rules of a transfer ask of its wallets. -/
def validChecks (source destination : WalletRow) (amount : Amount) : List Check :=
  [⟨source.status == .active, .transfer (.wallet (.inactive source.id source.status))⟩,
    ⟨destination.status == .active,
      .transfer (.wallet (.inactive destination.id destination.status))⟩,
    ⟨source.currency == destination.currency,
      .transfer (.currencyMismatch source.currency destination.currency)⟩,
    ⟨decide (amount.units ≤ source.balance.available.units),
      .transfer (.wallet (.insufficientBalance source.balance.available amount))⟩]

/-- What is asked of both wallets of a transfer and of nothing else. -/
def planChecks (source destination : WalletRow) (amount : Amount) : List Check :=
  validChecks source destination amount ++
    [⟨decide (destination.balance.balance.units + amount.units ≤ Amount.greatest.units),
      .transfer (.wallet .overflow)⟩]

/-- What a limit is refused for: a counter that leaves the range has a cause of its own. -/
def limitRefusal (spent amount : Amount) (exceeded : LimitError) : PaymentError :=
  .holding (.limit (if (spent.add? amount).isSome then exceeded else .overflow))

/-- What is asked of limits as they apply now, those of the day first. -/
def limitChecks (state : LimitState) (amount : Amount) : List Check :=
  [⟨decide (amount ≤ state.remainingDaily),
      limitRefusal state.dailySpent amount (.dailyExceeded state.remainingDaily amount)⟩,
    ⟨decide (amount ≤ state.remainingMonthly),
      limitRefusal state.monthlySpent amount (.monthlyExceeded state.remainingMonthly amount)⟩]

/-- The initiator is absent or owns the source. -/
def ownerCheck (source : WalletRow) (initiator : Option UserId) : Check :=
  ⟨initiator.all fun caller => source.owner == caller, .holding (.wallet (.notOwner source.id))⟩

/-- What is asked of the wallets and limits that a transfer finds. -/
def foundChecks (books : Books) (request : TransferRequest) (now : Calendar.Instant) :
    List Check :=
  match books.wallet? request.source, books.wallet? request.destination,
    books.limits? request.source with
  | some source, some destination, some limits =>
    ownerCheck source request.initiator :: (planChecks source destination request.amount ++
      limitChecks (limits.state.refreshed now) request.amount)
  | _, _, _ => []

/-- **The checks of a transfer** in their order. -/
def transferChecks (books : Books) (request : TransferRequest) (now : Calendar.Instant) :
    List Check :=
  [⟨decide request.amount.Positive, .transfer (.invalidAmount request.amount)⟩,
    ⟨request.source != request.destination, .transfer .sameWallet⟩,
    existing books (lockOrder request.source request.destination).1,
    existing books (lockOrder request.source request.destination).2] ++
      foundChecks books request now

/-! ### The parts of a transfer -/

/-- The storage can be reached and refuses nothing that a transfer writes, and nobody takes the key
first. -/
structure ServesTransfers (session : Session) : Prop where
  reached : session.faults.blocked = false
  wallets : session.faults.refuses .wallets .update = false
  limits : session.faults.refuses .walletLimits .update = false
  markers : session.faults.refuses .processedTransfers .insert = false
  alone : session.faults.rivals .processedTransfers = false

theorem follows_lockWallet (plain : books.strays = []) (id : WalletId) :
    Follows [existing books id] (held (Holdings.lockWallet id)) books
      fun row after => books.wallet? id = some row ∧ books = after := by
  have read : (Work.lookUp walletSheet (fun books => books.wallet? id) :
      Work Holdings.HoldingError (Option WalletRow)) books = .ok (books.wallet? id, books) :=
    Work.lookUp_of_plain plain walletSheet _
  cases found : books.wallet? id with
  | none =>
    have missing : Holdings.lockWallet id books = .error (.notFound id) := by
      rw [Holdings.lockWallet, Work.bind_of_ok read, found]
      rfl
    refine .refused _ (by rw [found]; rfl) ?_
    rw [held, Work.mapError, missing]
    rfl
  | some row =>
    have locked : Holdings.lockWallet id books = .ok (row, books) := by
      rw [Holdings.lockWallet, Work.bind_of_ok read, found]
      rfl
    exact .passed (by rw [found]; rfl) (.done (held_eq_ok.mpr locked) ⟨rfl, rfl⟩)

/-- Both wallets are taken, the lower identifier first. -/
theorem follows_lockPair (plain : books.strays = [])
    (apart : request.source ≠ request.destination) :
    Follows [existing books (lockOrder request.source request.destination).1,
        existing books (lockOrder request.source request.destination).2]
      (lockPair request.source request.destination) books fun rows after =>
        books.wallet? request.source = some rows.1 ∧
          books.wallet? request.destination = some rows.2 ∧ books = after := by
  unfold lockPair
  by_cases first : request.source ≤ request.destination
  · simp only [lockOrder, if_pos first]
    refine Follows.bind (follows_lockWallet plain _) fun row after held => ?_
    obtain ⟨found, rfl⟩ := held
    refine (follows_lockWallet plain _).andThen fun row' after held => ?_
    obtain ⟨found', rfl⟩ := held
    exact ⟨_, _, rfl, found, found', rfl⟩
  · simp only [lockOrder, if_neg first, if_neg apart.symm]
    refine Follows.bind (follows_lockWallet plain _) fun row after held => ?_
    obtain ⟨found, rfl⟩ := held
    refine (follows_lockWallet plain _).andThen fun row' after held => ?_
    obtain ⟨found', rfl⟩ := held
    exact ⟨_, _, rfl, found', found, rfl⟩

theorem follows_initiator (initiator : Option UserId) :
    Follows [ownerCheck source initiator] (ensureInitiator source.snapshot initiator) books
      fun _ after => books = after := by
  cases initiator with
  | none => exact .passed rfl (.done rfl rfl)
  | some caller =>
    by_cases owns : source.owner = caller
    · have owned : Wallet.ensureOwner source.snapshot caller = .ok () := if_pos owns
      have ran : ensureInitiator source.snapshot (some caller) books = .ok ((), books) := by
        rw [ensureInitiator, owned]
        rfl
      exact .passed (by simp [owns]) (.done ran rfl)
    · have other : Wallet.ensureOwner source.snapshot caller = .error (.notOwner source.id) :=
        if_neg owns
      refine .refused _ (by simp [owns]) ?_
      rw [ensureInitiator, other]
      rfl

/-- The rules of a transfer refuse by the first of their checks that fails. -/
theorem judge_validChecks {amount : Amount} (positive : amount.Positive)
    (apart : source.id ≠ destination.id) :
    judge (validChecks source destination amount) =
      (Transfer.validateTransfer source.snapshot destination.snapshot amount).mapError
        .transfer := by
  have checked : Transfer.ensurePositive amount = .ok () :=
    Transfer.ensurePositive_eq_ok.mpr positive
  have unequal : source.snapshot.id ≠ destination.snapshot.id := apart
  simp only [validChecks, judge, Transfer.validateTransfer, checked, if_neg unequal, beq_iff_eq,
    decide_eq_true_iff]
  by_cases active : source.status = .active
  case neg =>
    have failed : Wallet.ensureActive source.snapshot =
        .error (.inactive source.id source.status) := if_neg active
    rw [failed, if_neg active]
    rfl
  have sourceActive : Wallet.ensureActive source.snapshot = .ok () := if_pos active
  rw [sourceActive, if_pos active]
  by_cases active' : destination.status = .active
  case neg =>
    have failed : Wallet.ensureActive destination.snapshot =
        .error (.inactive destination.id destination.status) := if_neg active'
    rw [failed, if_neg active']
    rfl
  have destinationActive : Wallet.ensureActive destination.snapshot = .ok () := if_pos active'
  rw [destinationActive, if_pos active']
  by_cases currency : source.currency = destination.currency
  case neg =>
    have other : source.snapshot.currency ≠ destination.snapshot.currency := currency
    rw [if_pos other, if_neg currency]
    rfl
  have same : ¬source.snapshot.currency ≠ destination.snapshot.currency := not_not.mpr currency
  rw [if_neg same, if_pos currency]
  by_cases enough : amount.units ≤ source.balance.available.units
  case neg =>
    have failed : source.snapshot.balance.ensureAvailable amount =
        .error (.insufficientBalance source.balance.available amount) :=
      if_pos (Amount.lt_iff.mpr (Int.not_le.mp enough))
    rw [failed, if_neg enough]
    rfl
  have available : source.snapshot.balance.ensureAvailable amount = .ok () :=
    if_neg fun less => Int.not_le.mpr (Amount.lt_iff.mp less) enough
  rw [available, if_pos enough]
  rfl

/-- The plan of a transfer moreover asks that the destination has room for the amount. -/
theorem follows_plan {amount : Amount} (fits : source.balance.Fits)
    (fits' : destination.balance.Fits) (positive : amount.Positive)
    (apart : source.id ≠ destination.id) :
    Follows (planChecks source destination amount)
      (planned (Transfer.planTransfer source.snapshot destination.snapshot amount)) books
      fun plan after => Transfer.planTransfer source.snapshot destination.snapshot amount =
        .ok plan ∧ books = after := by
  unfold Follows planChecks
  rw [judge_append, judge_validChecks positive apart]
  cases valid : Transfer.validateTransfer source.snapshot destination.snapshot amount with
  | error cause =>
    show planned _ books = _
    rw [Transfer.planTransfer, valid]
    rfl
  | ok done =>
    obtain ⟨_, _, active, active', currency, enough⟩ := Transfer.validateTransfer_eq_ok.mp valid
    obtain ⟨debited, debit⟩ : ∃ after, source.snapshot.balance.debit amount = .ok after :=
      Wallet.WalletBalance.exists_debit fits positive enough
    show Follows [_] _ books _
    by_cases room : destination.balance.balance.units + amount.units ≤ Amount.greatest.units
    case neg =>
      have failed : destination.snapshot.balance.credit amount = .error .overflow :=
        Wallet.WalletBalance.credit_of_full positive room
      refine .refused _ (decide_eq_false room) ?_
      rw [Transfer.planTransfer, valid, debit, failed]
      rfl
    refine .passed (decide_eq_true room) ?_
    obtain ⟨credited, credit⟩ : ∃ after, destination.snapshot.balance.credit amount = .ok after :=
      Wallet.WalletBalance.exists_credit fits' positive room
    have plan : Transfer.planTransfer source.snapshot destination.snapshot amount =
        .ok ⟨debited, credited⟩ :=
      Transfer.planTransfer_eq_ok.mpr ⟨apart, active, active', currency, debit, credit⟩
    exact .done (planned_eq_ok.mpr ⟨plan, rfl⟩) ⟨plan, rfl⟩

/-- Limits refuse by the first of their checks that fails. -/
theorem judge_limitChecks {state : LimitState} {amount : Amount} {now : Calendar.Instant}
    (positive : amount.Positive) :
    judge (limitChecks (state.refreshed now) amount) =
      ((state.reserve amount now).map fun _ => ()).mapError fun cause =>
        .holding (.limit cause) := by
  simp only [limitChecks, judge, decide_eq_true_iff]
  by_cases withinDay : amount ≤ (state.refreshed now).remainingDaily
  case neg =>
    rw [LimitState.reserve_beyond_day positive withinDay, if_neg withinDay]
    rfl
  rw [if_pos withinDay]
  by_cases withinMonth : amount ≤ (state.refreshed now).remainingMonthly
  case neg =>
    rw [LimitState.reserve_beyond_month positive withinDay withinMonth, if_neg withinMonth]
    rfl
  obtain ⟨after, reserved⟩ := LimitState.exists_reserve positive withinDay withinMonth
  rw [reserved, if_pos withinMonth]
  rfl

/-- Counting the amount is refused by the limits only. -/
theorem follows_reserve (serves : ServesTransfers session) (sound : Sound books)
    (paired : Paired books) (positive : request.amount.Positive)
    (found : books.limits? request.source = some limits) :
    Follows (limitChecks (limits.state.refreshed session.now) request.amount)
      (held (Holdings.reserve session request.source request.amount)) books
      (Holdings.Spent session request.source request.amount books) := by
  obtain ⟨member, named⟩ := mem_of_limits? found
  have read : (Work.lookUp limitsSheet (fun books => books.limits? request.source) :
      Work Holdings.HoldingError (Option LimitsRow)) books =
        .ok (books.limits? request.source, books) :=
    Work.lookUp_of_plain sound.plain limitsSheet _
  have locked : Holdings.lockLimits request.source books = .ok (limits, books) := by
    rw [Holdings.lockLimits, Work.bind_of_ok read, found]
    rfl
  unfold Follows
  rw [judge_limitChecks positive]
  cases counted : limits.state.reserve request.amount session.now with
  | error cause =>
    have refused : Holdings.reserve session request.source request.amount books =
        .error (.limit cause) := by
      rw [Holdings.reserve, Work.bind_of_ok locked, counted]
      exact Work.bind_of_error rfl
    show held _ books = _
    rw [held, Work.mapError, refused]
    rfl
  | ok state =>
    have fails := Holdings.changeLimits_failsOnly session.faults
      (Holdings.restated session.now state) sound member (paired.hasWallet member) fun _ => rfl
    obtain ⟨after, saved⟩ := exists_done fails serves.limits
    have stored : Holdings.saveLimits session limits.wallet state books = .ok ((), after) :=
      Work.stored_eq_ok.mpr saved
    have ran : Holdings.reserve session request.source request.amount books =
        .ok (state, after) := by
      rw [Holdings.reserve, Work.bind_of_ok locked, counted]
      exact (Work.bind_of_ok rfl).trans (Work.bind_of_ok stored)
    exact ⟨state, after, held_eq_ok.mpr ran, Holdings.of_reserve ran⟩

/-- The balance of a wallet that is there is written. -/
theorem exists_saved (serves : ServesTransfers session) (sound : Sound books)
    (member : source ∈ books.wallets) {balance : Wallet.WalletBalance} (fits : balance.Fits) :
    ∃ after, (Work.stored (Holdings.saveBalance session source.id balance) :
        PaymentWork Unit) books = .ok ((), after) ∧
      Holdings.Revised source.id (Holdings.rebalanced session.now balance) source books after := by
  have fails := Holdings.changeWallet_failsOnly session.faults
    (Holdings.rebalanced session.now balance) sound member fits (fun _ => rfl) fun _ => rfl
  obtain ⟨after, saved⟩ := exists_done fails serves.wallets
  exact ⟨after, Work.stored_eq_ok.mpr saved, Holdings.of_saveBalance sound member saved⟩

variable (request key) in
/-- Both balances and the marker are written. -/
theorem exists_written (serves : ServesTransfers session) (sound : Sound books)
    (member : source ∈ books.wallets) (member' : destination ∈ books.wallets)
    (apart : source.id ≠ destination.id) {debited credited : Wallet.WalletBalance}
    (fits : debited.Fits) (fits' : credited.Fits)
    (unused : ∀ other ∈ books.transfers, other.key ≠ key.text) (booked : Booked) :
    ∃ after, (do
      Work.stored (Holdings.saveBalance session source.id debited)
      Work.stored (Holdings.saveBalance session destination.id credited)
      insertMarker session transferSheet key
        ⟨key.text, request.source, request.destination, request.amount, session.now⟩
      pure booked : PaymentWork Booked) books = .ok (booked, after) := by
  obtain ⟨taken, saved, revised⟩ := exists_saved serves sound member fits
  have sound' := revised.sound sound (fun _ => rfl) fun _ => rfl
  have still : destination ∈ taken.wallets := by
    rw [revised.left]
    exact mem_altered_of_ne member' apart.symm
  obtain ⟨given, saved', revised'⟩ := exists_saved serves sound' still fits'
  have markers : given.transfers = books.transfers := by rw [revised'.left, revised.left]
  have marked : insertMarker session transferSheet key
      ⟨key.text, request.source, request.destination, request.amount, session.now⟩ given =
        .ok ((), { given with transfers := given.transfers ++
          [⟨key.text, request.source, request.destination, request.amount, session.now⟩] }) :=
    Work.mapError_eq_ok.mpr (insert_eq_ok.mpr ⟨serves.markers, rfl, serves.alone,
      fun other present => beq_eq_false_iff_ne.mpr (unused other (markers ▸ present)).symm,
      rfl, rfl⟩)
  rw [Work.bind_of_ok saved, Work.bind_of_ok saved', Work.bind_of_ok marked]
  exact ⟨_, rfl⟩

/-- A wallet that is found has its limits. -/
theorem exists_limits (sound : Sound books) (paired : Paired books) {id : WalletId}
    (found : books.wallet? id = some source) : ∃ limits, books.limits? id = some limits := by
  obtain ⟨member, named⟩ := mem_of_wallet? found
  obtain ⟨limits, present, owned⟩ := paired.hasLimits member
  refine ⟨limits, ?_⟩
  rw [← named, ← owned]
  exact limits?_of_mem sound.plain sound.limitsWallets present

theorem foundChecks_of_found {now : Calendar.Instant}
    (foundSource : books.wallet? request.source = some source)
    (foundDestination : books.wallet? request.destination = some destination)
    (foundLimits : books.limits? request.source = some limits) :
    foundChecks books request now = [ownerCheck source request.initiator] ++
      (planChecks source destination request.amount ++
        limitChecks (limits.state.refreshed now) request.amount) := by
  rw [foundChecks, foundSource, foundDestination, foundLimits]
  rfl

/-- **A transfer that is new is refused by the first of its checks that fails**, and moves the money
if none does. -/
theorem follows_moveBetween (serves : ServesTransfers session) (sound : Sound books)
    (paired : Paired books) (unused : ∀ other ∈ books.transfers, other.key ≠ key.text) :
    Follows (transferChecks books request session.now) (moveBetween session request key) books
      fun booked _ => booked.receipt = ⟨.transfer, key, request.amount, false⟩ := by
  unfold moveBetween transferChecks
  by_cases positive : request.amount.Positive
  case neg =>
    refine .refused _ (decide_eq_false positive) ?_
    rw [Transfer.ensurePositive_of_not positive]
    exact Work.bind_of_error rfl
  have checked : (judged (Transfer.ensurePositive request.amount) : PaymentWork Unit) books =
      .ok ((), books) := judged_eq_ok.mpr ⟨Transfer.ensurePositive_eq_ok.mpr positive, rfl⟩
  refine .passed (decide_eq_true positive) (.after_ok checked ?_)
  by_cases same : request.source = request.destination
  case pos =>
    refine .refused _ (by simp [same]) ?_
    rw [if_pos same]
    exact Work.bind_of_error rfl
  refine .passed (by simp [same]) ?_
  rw [if_neg same]
  refine Follows.bind (follows_lockPair sound.plain same) fun rows _ locked => ?_
  obtain ⟨source, destination⟩ := rows
  obtain ⟨foundSource, foundDestination, rfl⟩ := locked
  simp only at foundSource foundDestination ⊢
  obtain ⟨member, named⟩ := mem_of_wallet? foundSource
  obtain ⟨member', named'⟩ := mem_of_wallet? foundDestination
  obtain ⟨limits, foundLimits⟩ := exists_limits sound paired foundSource
  rw [foundChecks_of_found foundSource foundDestination foundLimits]
  have apart : source.id ≠ destination.id := fun equal => same (named ▸ named' ▸ equal)
  refine Follows.bind (follows_initiator request.initiator) fun _ _ still => ?_
  subst still
  refine Follows.bind (follows_plan (sound.fits source member) (sound.fits destination member')
    positive apart) fun plan _ did => ?_
  obtain ⟨planned, rfl⟩ := did
  obtain ⟨_, _, _, _, debited, credited⟩ := Transfer.planTransfer_eq_ok.mp planned
  -- every check has passed once the amount is counted, and what is left is writing
  refine (follows_reserve serves sound paired positive foundLimits).andThen
    fun state counted spent => ?_
  obtain ⟨_, _, restated⟩ := spent.written
  have wallets : counted.wallets = books.wallets := by rw [restated.left]
  have transfers : counted.transfers = books.transfers := by rw [restated.left]
  have wrote := exists_written request key serves (spent.sound sound)
    (wallets ▸ member) (wallets ▸ member') apart
    (Wallet.WalletBalance.debit_fits (sound.fits source member) debited)
    (Wallet.WalletBalance.credit_fits (sound.fits destination member') credited)
    (transfers ▸ unused)
  obtain ⟨after, ran⟩ := wrote _
  exact ⟨_, after, ran, rfl⟩

/-! ### Transfers -/

/-- No check of a transfer speaks of the storage, so what it refuses is told as it is. -/
theorem expired_of_check {now : Calendar.Instant} {check : Check}
    (member : check ∈ transferChecks books request now) (kind : Transfer.OperationKind)
    (limit : Calendar.Duration) :
    expired kind limit (.refused check.refusal) = .refused check.refusal := by
  rcases List.mem_append.mp member with early | late
  · simp only [List.mem_cons, List.not_mem_nil, or_false] at early
    rcases early with rfl | rfl | rfl | rfl <;> rfl
  · unfold foundChecks at late
    split at late
    · simp only [planChecks, validChecks, limitChecks, List.cons_append, List.nil_append,
        List.mem_cons, List.not_mem_nil, or_false] at late
      rcases late with rfl | rfl | rfl | rfl | rfl | rfl | rfl | rfl <;> rfl
    · exact absurd late List.not_mem_nil

/-- What a transfer leaves: the amount goes from one balance to the other and is counted in both
windows of the source, the marker stands under the key and the transfer is made known. -/
structure Moved (session : Session) (request : TransferRequest) (key : TransactionKey)
    (world after : World) : Prop where
  moved : ∃ source destination plan limits state,
    Transferred session request key source destination plan limits state world.books after.books ∧
      (plan.source.balance.units = source.balance.balance.units - request.amount.units ∧
        plan.source.available.units = source.balance.available.units - request.amount.units) ∧
      (plan.destination.balance.units =
          destination.balance.balance.units + request.amount.units ∧
        plan.destination.available.units =
          destination.balance.available.units + request.amount.units) ∧
      (Limits.Reserved limits.state request.amount session.now state ∧
        state.limits = limits.state.limits) ∧
      after.published = world.published ++ [.transferCompleted key.text request.source
        request.destination request.amount source.currency session.now]

theorem moved_of_transferred {plan : TransferPlan} {state : LimitState} {world after : World}
    (did : Transferred session request key source destination plan limits state world.books
      after.books)
    (published : after.published = world.published ++ [.transferCompleted key.text request.source
      request.destination request.amount source.currency session.now]) :
    Moved session request key world after := by
  obtain ⟨_, _, _, _, debited, credited⟩ := Transfer.planTransfer_eq_ok.mp did.planned
  obtain ⟨_, _, debit⟩ := Wallet.WalletBalance.debit_eq_ok.mp debited
  obtain ⟨_, credit⟩ := Wallet.WalletBalance.credit_eq_ok.mp credited
  exact ⟨source, destination, plan, limits, state, did, debit, credit,
    ⟨LimitState.of_reserve did.reserved, LimitState.limits_of_reserve did.reserved⟩, published⟩

/-- A transfer under an unused key ends as its checks say. -/
theorem processTransfer_judged {world : World} (serves : ServesTransfers session)
    (sound : Sound world.books) (paired : Paired world.books)
    (read : TransactionKey.read request.key = .ok key)
    (unmarked : world.books.transfer? key.text = none) :
    match judge (transferChecks world.books request session.now) with
    | .error cause => processTransfer session request world =
        (.error (expired .transfer (allowance session request.deadline) (.refused cause)), world)
    | .ok _ => ∃ after, processTransfer session request world =
        (.ok ⟨.transfer, key, request.amount, false⟩, after) ∧
          Moved session request key world after := by
  have unused : ∀ other ∈ world.books.transfers, other.key ≠ key.text := fun other member same =>
    List.find?_eq_none.mp unmarked other member (beq_iff_eq.mpr same)
  have fresh : bookTransfer session request key world.books =
      moveBetween session request key world.books := by
    rw [bookTransfer, Work.bind_of_ok (Work.get_eq_ok.mpr ⟨rfl, rfl⟩), unmarked]
  have follows : Follows (transferChecks world.books request session.now)
      (moveBetween session request key) world.books
      fun booked _ => booked.receipt = ⟨.transfer, key, request.amount, false⟩ :=
    follows_moveBetween serves sound paired unused
  unfold Follows at follows
  rw [← fresh] at follows
  rw [processTransfer, Action.bind_of_ok (readKey_of_ok read)]
  cases judged : judge (transferChecks world.books request session.now) with
  | error cause =>
    rw [judged] at follows
    exact Action.bind_of_error (withinDeadline_of_error serves.reached follows)
  | ok _ =>
    rw [judged] at follows
    obtain ⟨booked, after, ran, receipt⟩ := follows
    have ended : (withinDeadline session .transfer request.deadline
        (bookTransfer session request key) >>= settle) world =
          (.ok booked.receipt, ⟨after, world.published ++ booked.event.toList⟩) :=
      (Action.bind_of_ok (withinDeadline_of_ok serves.reached ran)).trans (settle_run booked _)
    rw [ended, receipt]
    cases of_bookTransfer ran with
    | found found =>
      rw [unmarked] at found
      cases found
    | made did => exact ⟨_, rfl, moved_of_transferred did rfl⟩

/-- **A transfer under an unused key** goes through exactly when it passes all of its checks, is
refused by the first that it fails, and leaves nothing else. -/
theorem processTransfer_checked {world : World} (serves : ServesTransfers session)
    (sound : Sound world.books) (paired : Paired world.books)
    (read : TransactionKey.read request.key = .ok key)
    (unmarked : world.books.transfer? key.text = none) :
    ((∃ receipt, (processTransfer session request world).1 = .ok receipt ∧
          receipt.replayed = false) ↔
        ∀ check ∈ transferChecks world.books request session.now, check.passes = true) ∧
      (∀ front check back, transferChecks world.books request session.now =
          front ++ check :: back → (∀ other ∈ front, other.passes = true) →
            check.passes = false → processTransfer session request world =
              (.error (.refused check.refusal), world)) ∧
      ∀ receipt, (processTransfer session request world).1 = .ok receipt →
        receipt = ⟨.transfer, key, request.amount, false⟩ ∧
          Moved session request key world (processTransfer session request world).2 := by
  have went := processTransfer_judged serves sound paired read unmarked
  cases judged : judge (transferChecks world.books request session.now) with
  | error cause =>
    rw [judged] at went
    simp only at went
    refine ⟨⟨?_, fun passes => ?_⟩, fun front check back checks earlier fails => ?_, ?_⟩
    · rintro ⟨receipt, done, _⟩
      rw [went] at done
      cases done
    · rw [show judge _ = .ok () from judge_eq_ok.mpr passes] at judged
      cases judged
    · have member : check ∈ transferChecks world.books request session.now := by
        rw [checks]
        exact List.mem_append_right _ List.mem_cons_self
      rw [checks, judge_of_first earlier fails] at judged
      rw [went, ← Except.error.inj judged, expired_of_check member]
    · intro receipt done
      rw [went] at done
      cases done
  | ok _ =>
    rw [judged] at went
    obtain ⟨after, went, moved⟩ := went
    refine ⟨⟨fun _ => judge_eq_ok.mp judged, fun _ => ?_⟩, ?_, ?_⟩
    · rw [went]
      exact ⟨_, rfl, rfl⟩
    · intro front check back checks _ fails
      have passes := judge_eq_ok.mp judged check (checks ▸ List.mem_append_right _
        List.mem_cons_self)
      rw [fails] at passes
      cases passes
    · intro receipt done
      rw [went] at done ⊢
      exact ⟨(Except.ok.inj done).symm, moved⟩

end

/-- **Transfers under unused keys, after every run from fresh books**, where the storage serves
them. A transfer goes through exactly when it passes all of its checks. One that fails some is
refused for what the first of them says, and leaves nothing. One that goes through moves the amount
and leaves nothing else. -/
theorem play_transfers (supply : Supply) (calls : List Call) {session : Session}
    (request : TransferRequest) (key : TransactionKey) (serves : ServesTransfers session)
    (read : TransactionKey.read request.key = .ok key)
    (unmarked : (play calls (.fresh supply)).books.transfer? key.text = none) :
    let world := play calls (.fresh supply)
    let checks := transferChecks world.books request session.now
    let ended := processTransfer session request world
    ((∃ receipt, ended.1 = .ok receipt ∧ receipt.replayed = false) ↔
        ∀ check ∈ checks, check.passes = true) ∧
      (∀ front check back, checks = front ++ check :: back →
        (∀ other ∈ front, other.passes = true) → check.passes = false →
          ended = (.error (.refused check.refusal), world)) ∧
      ∀ receipt, ended.1 = .ok receipt →
        receipt = ⟨.transfer, key, request.amount, false⟩ ∧
          Moved session request key world ended.2 := by
  have sound : Sound (play calls (.fresh supply)).books := play_sound calls Sound.fresh
  have paired : Paired (play calls (.fresh supply)).books :=
    play_paired calls Sound.fresh Paired.fresh
  exact processTransfer_checked serves sound paired read unmarked

/-- A session in which nothing goes wrong serves transfers. -/
theorem sampleSession_serves : ServesTransfers sampleSession := ⟨rfl, rfl, rfl, rfl, rfl⟩

/-- A hundred are deposited, and a second wallet is opened. -/
def sampleStocked : List Call :=
  sampleDeposits ++ [.command sampleSession (.createWallet (sampleOwner 8) .main "USD")]

/-- A transfer from the first wallet to the second. -/
def sampleMove (units : Int) : TransferRequest :=
  ⟨sampleWallet, sampleOther, sampleUnits units, "second", none, none⟩

/-- All that is available goes through; of one more the balance is the first to be short. -/
theorem play_transfers_samples :
    (∃ receipt, (processTransfer sampleSession (sampleMove 100) (play sampleStocked .fresh)).1 =
        .ok receipt ∧ receipt.replayed = false) ∧
      processTransfer sampleSession (sampleMove 101) (play sampleStocked .fresh) =
        (.error (.refused (.transfer (.wallet
          (.insufficientBalance (sampleUnits 100) (sampleUnits 101))))),
          play sampleStocked .fresh) := by
  have unmarked : (play sampleStocked .fresh).books.transfer? "second" = none := by decide
  obtain ⟨through, _, _⟩ :=
    play_transfers .ascending sampleStocked (sampleMove 100) ⟨"second"⟩ sampleSession_serves rfl
      unmarked
  obtain ⟨_, refused, _⟩ :=
    play_transfers .ascending sampleStocked (sampleMove 101) ⟨"second"⟩ sampleSession_serves rfl
      unmarked
  -- what is available is looked at after eight checks that pass
  have checks := refused ((transferChecks (play sampleStocked .fresh).books (sampleMove 101)
    sampleSession.now).take 8) ⟨false, .transfer (.wallet (.insufficientBalance (sampleUnits 100)
      (sampleUnits 101)))⟩ ((transferChecks (play sampleStocked .fresh).books (sampleMove 101)
        sampleSession.now).drop 9)
  exact ⟨through.mpr (by decide), checks (by decide) (by decide) rfl⟩

end Passbook.Operation
