/-
**Only active wallets move money, and closed is final.**

* `Fares`: what a deed of a kind may make of one wallet; `Deed.tends`: a deed makes no more than
  that of any wallet, and what it opens is active;
* `Emptied`: a closed wallet holds nothing, nothing of it is available, and the moment of its
  closing is on record; `Fares.emptied`: every deed keeps it so, as what is held of a wallet lies
  within its balance;
* `Fares.final`: no deed makes anything of an emptied wallet but a link to an account;
* `Guarded`: what one operation makes of a wallet; `Call.guarded`: of every operation;
* `play_closed`: so it is in every run from fresh books, whatever operations come later.
-/

import Passbook.Proofs.Operation.Frame
import Passbook.Proofs.Operation.Quiet
import Passbook.Proofs.Operation.Run

namespace Passbook.Operation

open Passbook.Calendar (Instant)
open Passbook.Holdings (closing linked rebalanced underStatus)
open Passbook.Store
open Passbook.Wallet (WalletBalance WalletStatus)

/-! ### What a deed makes of a wallet -/

/-- What a deed of a kind may make of one wallet. -/
inductive Fares (now : Instant) : DeedKind → WalletRow → WalletRow → Prop
  | kept {kind : DeedKind} {row : WalletRow} : Fares now kind row row
  | statusSet {old : WalletRow} {status : WalletStatus} (unclosed : old.status ≠ .closed)
      (wanted : status ≠ .closed) : Fares now .statusSet old (underStatus now status old)
  | closed {old : WalletRow} {reason : String} (unclosed : old.status ≠ .closed)
      (empty : old.balance.balance.units = 0) : Fares now .closed old (closing now reason old)
  | held {old : WalletRow} {amount : Amount} {balance : WalletBalance}
      (active : old.status = .active) (held : old.balance.hold amount = .ok balance) :
      Fares now .held old (rebalanced now balance old)
  | released {old : WalletRow} {amount : Amount} {balance : WalletBalance}
      (released : old.balance.release amount = .ok balance) :
      Fares now .released old (rebalanced now balance old)
  | linked {old : WalletRow} {account : AccountId} :
      Fares now .linked old (Holdings.linked now account old)
  | moved {kind : DeedKind} {old : WalletRow} {balance : WalletBalance}
      (moving : kind ∈ movingKinds) (active : old.status = .active) :
      Fares now kind old (rebalanced now balance old)

/-- What a deed makes of the wallets: it opens one, or each fares as its kind may. -/
inductive Tends (now : Instant) (kind : DeedKind) (before after : List WalletRow) : Prop
  | opened {row : WalletRow} (new : row.status = .active) (left : after = before ++ [row])
  | each (alter : WalletRow → WalletRow) (fares : ∀ old ∈ before, Fares now kind old (alter old))
      (left : after = before.map alter)

section Fares

variable {now : Instant} {kind : DeedKind} {old row : WalletRow} {before after : List WalletRow}

theorem Fares.id (fares : Fares now kind old row) : row.id = old.id := by
  cases fares <;> rfl

/-- One wallet that is altered fares so, and the others are kept. -/
theorem tends_of_altered {id : WalletId} {alter : WalletRow → WalletRow}
    (unique : (before.map WalletRow.id).Nodup) (member : old ∈ before) (named : old.id = id)
    (fares : Fares now kind old (alter old)) :
    Tends now kind before (altered WalletRow.id id alter before) := by
  refine .each _ (fun other present => ?_) rfl
  by_cases chosen : other.id = id
  · obtain rfl := eq_of_key unique present member (chosen.trans named.symm)
    rw [if_pos chosen]
    exact fares
  · rw [if_neg chosen]
    exact .kept

theorem Tends.of_same (same : after = before) : Tends now kind before after :=
  .each (fun row => row) (fun _ _ => .kept) (same.trans (List.map_id _).symm)

/-- Every wallet is there later. -/
theorem Tends.onward (tends : Tends now kind before after) (member : old ∈ before) :
    ∃ row ∈ after, Fares now kind old row := by
  cases tends with
  | opened _ left =>
    rw [left]
    exact ⟨old, List.mem_append_left _ member, .kept⟩
  | each alter fares left =>
    rw [left]
    exact ⟨alter old, List.mem_map_of_mem member, fares old member⟩

/-- Every wallet was there before, or is a new one. -/
theorem Tends.source (tends : Tends now kind before after) (member : row ∈ after) :
    (∃ old ∈ before, Fares now kind old row) ∨ row.status = .active := by
  cases tends with
  | opened new left =>
    rw [left] at member
    rcases List.mem_append.mp member with present | single
    · exact .inl ⟨row, present, .kept⟩
    · rw [List.mem_singleton.mp single]
      exact .inr new
  | each alter fares left =>
    rw [left] at member
    obtain ⟨old, present, rfl⟩ := List.mem_map.mp member
    exact .inl ⟨old, present, fares old present⟩

end Fares

section Deeds

variable {session : Session} {before after : Books}

/-- Money leaves one active wallet and comes into another. -/
theorem tends_of_transferred {request : Payments.TransferRequest} {key : Transfer.TransactionKey}
    {source destination : WalletRow} {plan : Transfer.TransferPlan} {limits : LimitsRow}
    {state : Limits.LimitState} (sound : Sound before)
    (did : Payments.Transferred session request key source destination plan limits state
      before after) :
    Tends session.now .transferred before.wallets after.wallets := by
  obtain ⟨apart, active, active', _, _, _⟩ := Transfer.planTransfer_eq_ok.mp did.planned
  rw [did.left]
  refine .each _ (fun other present => ?_) (List.map_map ..)
  by_cases taken : other.id = request.source
  · obtain rfl := eq_of_key sound.walletIds present did.sourceMember
      (taken.trans did.sourceNamed.symm)
    have different : (rebalanced session.now plan.source other).id ≠ request.destination := by
      rw [← did.destinationNamed]
      exact apart
    simp only [Function.comp_apply, if_pos taken, if_neg different]
    exact .moved (by decide) active
  · simp only [Function.comp_apply, if_neg taken]
    by_cases given : other.id = request.destination
    · obtain rfl := eq_of_key sound.walletIds present did.destinationMember
        (given.trans did.destinationNamed.symm)
      rw [if_pos given]
      exact .moved (by decide) active'
    · rw [if_neg given]
      exact .kept

/-- **What a deed makes of the wallets.** -/
theorem Deed.tends {kind : DeedKind} (deed : Deed session kind before after)
    (sound : Sound before) : Tends session.now kind before.wallets after.wallets := by
  have others : Table.wallets ∉ kind.writes → Tends session.now kind before.wallets after.wallets :=
    fun other => .of_same (deed.untouched other)
  have revised : ∀ {id alter old}, Holdings.Revised id alter old before after →
      Fares session.now kind old (alter old) →
        Tends session.now kind before.wallets after.wallets := by
    intro id alter old did fares
    rw [did.left]
    exact tends_of_altered sound.walletIds did.member did.named fares
  cases deed with
  | @walletOpened _ _ _ row _ _ did =>
    obtain ⟨_, _, new⟩ := did.issued
    have active : row.status = .active := by
      rw [new]
      rfl
    refine .opened active ?_
    rw [did.left]
  | statusSet unclosed wanted _ did => exact revised did (.statusSet unclosed wanted)
  | closed did =>
    obtain ⟨_, _, unclosed, empty, did⟩ := did.revised
    exact revised did (.closed unclosed empty)
  | held did =>
    obtain ⟨_, active, held, did⟩ := did.revised
    exact revised did (.held active held)
  | released did =>
    obtain ⟨_, released, did⟩ := did.revised
    exact revised did (.released released)
  | linked did =>
    obtain ⟨_, did⟩ := did.revised
    exact revised did .linked
  | transferred did => exact tends_of_transferred sound did
  | deposited did =>
    have active := (Transfer.planDeposit_eq_ok.mp did.planned).1
    rw [did.left]
    exact tends_of_altered sound.walletIds did.member did.named (.moved (by decide) active)
  | withdrawn did =>
    have active := (Transfer.planWithdrawal_eq_ok.mp did.planned).1
    rw [did.left]
    exact tends_of_altered sound.walletIds did.member did.named (.moved (by decide) active)
  | credited _ _ did =>
    have active := (Transfer.planDeposit_eq_ok.mp did.planned).1
    rw [did.left]
    exact tends_of_altered sound.walletIds did.member did.named (.moved (by decide) active)
  | _ => exact others (by decide)

end Deeds

/-! ### Closed wallets -/

/-- A wallet of which nothing is left and whose closing is on record. -/
structure Emptied (row : WalletRow) : Prop where
  balance : row.balance.balance.units = 0
  available : row.balance.available.units = 0
  closedAt : row.closedAt.isSome

/-- A wallet is as it was, as far as its status, its balance and its closing go. -/
structure Stays (old row : WalletRow) : Prop where
  id : row.id = old.id
  status : row.status = old.status
  balance : row.balance = old.balance
  closedAt : row.closedAt = old.closedAt
  closeReason : row.closeReason = old.closeReason

/-- Closed wallets are empty. -/
def Settled (books : Books) : Prop := ∀ row ∈ books.wallets, row.status = .closed → Emptied row

section Closed

variable {now : Instant} {kind : DeedKind} {old middle row : WalletRow}

theorem Stays.refl (row : WalletRow) : Stays row row := ⟨rfl, rfl, rfl, rfl, rfl⟩

theorem Stays.trans (first : Stays old middle) (second : Stays middle row) : Stays old row :=
  ⟨second.id.trans first.id, second.status.trans first.status, second.balance.trans first.balance,
    second.closedAt.trans first.closedAt, second.closeReason.trans first.closeReason⟩

/-- **A deed that leaves a wallet closed leaves it emptied.** -/
theorem Fares.emptied (fares : Fares now kind old row) (fits : row.balance.Fits)
    (emptied : old.status = .closed → Emptied old) (closed : row.status = .closed) :
    Emptied row := by
  -- what is available lies between nothing and the balance
  have of_empty : row.balance.balance.units = 0 → row.closedAt.isSome → Emptied row := by
    intro empty moment
    obtain ⟨least, most⟩ := fits
    exact ⟨empty, by omega, moment⟩
  cases fares with
  | kept => exact emptied closed
  | statusSet _ wanted => exact absurd closed wanted
  | closed _ empty => exact of_empty empty rfl
  | held active _ =>
    rw [show old.status = .closed from closed] at active
    cases active
  | @released _ amount balance released =>
    have was := emptied closed
    have same : balance.balance = old.balance.balance :=
      (WalletBalance.release_eq_ok.mp released).2.2.1
    refine of_empty ?_ was.closedAt
    show balance.balance.units = 0
    rw [same]
    exact was.balance
  | linked =>
    exact ⟨(emptied closed).balance, (emptied closed).available, (emptied closed).closedAt⟩
  | moved _ active =>
    rw [show old.status = .closed from closed] at active
    cases active

/-- **No deed makes anything of a closed wallet.** Nothing is held of it, so nothing can be
released. -/
theorem Fares.final (fares : Fares now kind old row) (closed : old.status = .closed)
    (emptied : Emptied old) : Stays old row := by
  cases fares with
  | kept => exact .refl old
  | statusSet unclosed _ => exact absurd closed unclosed
  | closed unclosed _ => exact absurd closed unclosed
  | held active _ =>
    rw [closed] at active
    cases active
  | @released _ amount _ released =>
    obtain ⟨positive, ⟨held, is, enough⟩, _⟩ := WalletBalance.release_eq_ok.mp released
    have none : held.units = old.balance.balance.units - old.balance.available.units :=
      Amount.sub_eq_ok.mp is
    rw [emptied.balance, emptied.available] at none
    have more : 0 < amount.units := positive
    omega
  | linked => exact ⟨rfl, rfl, rfl, rfl, rfl⟩
  | moved _ active =>
    rw [closed] at active
    cases active

variable {session : Session} {before after : Books}

/-- Every deed leaves closed wallets empty. -/
theorem Deed.settled (deed : Deed session kind before after) (sound : Sound before)
    (settled : Settled before) : Settled after := by
  intro row member closed
  rcases (deed.tends sound).source member with ⟨old, present, fares⟩ | active
  · exact fares.emptied ((deed.sound sound).fits row member) (settled old present) closed
  · rw [closed] at active
    cases active

/-- Every deed leaves a closed wallet as it was. -/
theorem Deed.final (deed : Deed session kind before after) (sound : Sound before)
    (settled : Settled before) (member : old ∈ before.wallets) (closed : old.status = .closed) :
    ∃ row ∈ after.wallets, Stays old row := by
  obtain ⟨row, present, fares⟩ := (deed.tends sound).onward member
  exact ⟨row, present, fares.final closed (settled old member closed)⟩

end Closed

/-! ### Operations -/

/-- The kinds of deeds that set the status of a wallet. -/
def statusKinds : List DeedKind := [.statusSet, .closed]

/-- A wallet under the same status, whose balance changes only if it is active, but for what is made
available again. -/
structure Carried (kinds : List DeedKind) (old row : WalletRow) : Prop where
  id : row.id = old.id
  status : row.status = old.status
  moved : row.balance.balance ≠ old.balance.balance → old.status = .active
  changed : row.balance ≠ old.balance → old.status = .active ∨ .released ∈ kinds

section Calls

variable {now : Instant} {kind : DeedKind} {kinds : List DeedKind} {old middle row : WalletRow}
  {before after : Books}

theorem Carried.trans (first : Carried kinds old middle) (second : Carried kinds middle row) :
    Carried kinds old row where
  id := second.id.trans first.id
  status := second.status.trans first.status
  moved changed := by
    by_cases still : row.balance.balance = middle.balance.balance
    · exact first.moved fun same => changed (still.trans same)
    · exact first.status ▸ second.moved still
  changed changed := by
    by_cases still : row.balance = middle.balance
    · exact first.changed fun same => changed (still.trans same)
    · exact first.status ▸ second.changed still

/-- Deeds that set no status carry a wallet on. -/
theorem Fares.carried (fares : Fares now kind old row) (member : kind ∈ kinds)
    (other : kind ∉ statusKinds) : Carried kinds old row := by
  cases fares with
  | kept => exact ⟨rfl, rfl, fun changed => absurd rfl changed, fun changed => absurd rfl changed⟩
  | statusSet _ _ => exact absurd (by decide) other
  | closed _ _ => exact absurd (by decide) other
  | held active _ => exact ⟨rfl, rfl, fun _ => active, fun _ => .inl active⟩
  | released released =>
    have same := (WalletBalance.release_eq_ok.mp released).2.2.1
    exact ⟨rfl, rfl, fun changed => absurd same changed, fun _ => .inr member⟩
  | linked => exact ⟨rfl, rfl, fun changed => absurd rfl changed, fun changed => absurd rfl changed⟩
  | moved _ active => exact ⟨rfl, rfl, fun _ => active, fun _ => .inl active⟩

/-- Deeds that set the status of a wallet leave its balance. -/
theorem Fares.unmoved (fares : Fares now kind old row) (member : kind ∈ statusKinds) :
    row.balance = old.balance := by
  cases fares with
  | held _ _ => exact absurd member (by decide)
  | released _ => exact absurd member (by decide)
  | moved moving _ =>
    have apart : ∀ kind ∈ statusKinds, kind ∉ movingKinds := by decide
    exact absurd moving (apart kind member)
  | _ => rfl

/-- Deeds one after another that set no status carry every wallet on. -/
theorem carried_of_happened (happened : Happened kinds before after) (sound : Sound before)
    (others : ∀ kind ∈ kinds, kind ∉ statusKinds) (member : old ∈ before.wallets) :
    ∃ row ∈ after.wallets, Carried kinds old row := by
  refine (happened.preserves (fun books => ∃ row ∈ books.wallets, Carried kinds old row) ?_ sound
    ⟨old, member, rfl, rfl, fun changed => absurd rfl changed, fun changed => absurd rfl changed⟩).2
  rintro _ kind _ _ allowed sound deed ⟨middle, there, carried⟩
  obtain ⟨row, present, fares⟩ := (deed.tends sound).onward there
  exact ⟨row, present, carried.trans (fares.carried allowed (others kind allowed))⟩

/-- Deeds one after another that set statuses leave every wallet its balance. -/
theorem unmoved_of_happened (happened : Happened kinds before after) (sound : Sound before)
    (only : ∀ kind ∈ kinds, kind ∈ statusKinds) (member : old ∈ before.wallets) :
    ∃ row ∈ after.wallets, row.id = old.id ∧ row.balance = old.balance := by
  refine (happened.preserves
    (fun books => ∃ row ∈ books.wallets, row.id = old.id ∧ row.balance = old.balance) ?_ sound
    ⟨old, member, rfl, rfl⟩).2
  rintro _ kind _ _ allowed sound deed ⟨middle, there, sameId, sameBalance⟩
  obtain ⟨row, present, fares⟩ := (deed.tends sound).onward there
  exact ⟨row, present, fares.id.trans sameId, (fares.unmoved (only kind allowed)).trans sameBalance⟩

/-- Deeds one after another leave a closed wallet as it was. -/
theorem stays_of_happened (happened : Happened kinds before after) (sound : Sound before)
    (settled : Settled before) (member : old ∈ before.wallets) (closed : old.status = .closed) :
    ∃ row ∈ after.wallets, Stays old row := by
  refine (happened.preserves (fun books => Settled books ∧ ∃ row ∈ books.wallets, Stays old row) ?_
    sound ⟨settled, old, member, .refl old⟩).2.2
  rintro _ _ _ _ _ sound deed ⟨settled, middle, there, stays⟩
  obtain ⟨row, present, stays'⟩ := deed.final sound settled there (stays.status.trans closed)
  exact ⟨deed.settled sound settled, row, present, stays.trans stays'⟩

end Calls

/-- What one operation makes of a wallet. -/
structure Guarded (call : Call) (old row : WalletRow) : Prop where
  id : row.id = old.id
  moved : row.balance.balance ≠ old.balance.balance → old.status = .active ∧ row.status = .active
  frozen : old.status = .frozen → row.balance.balance = old.balance.balance ∧
    (row.balance ≠ old.balance →
      ∃ session amount, call = .command session (.releaseHold old.id amount))
  closed : old.status = .closed → Stays old row

section Operations

variable {world : World} {old : WalletRow}

/-- Only the wallet that is named has a held amount made available again. -/
theorem released_only (session : Session) {id : WalletId} (amount : Amount)
    (sound : Sound world.books) (member : old ∈ world.books.wallets) (other : old.id ≠ id) :
    old ∈ ((Call.command session (.releaseHold id amount)).run world).2.books.wallets := by
  show old ∈ (ofHold (Holdings.releaseHold session id amount) world).2.books.wallets
  rw [ofHold, answering_run]
  rcases Holdings.releaseHold_ends session id amount world with
    ⟨_, same⟩ | ⟨_, after, same, left⟩
  · rw [same]
    exact member
  · rw [same]
    obtain ⟨_, _, revised⟩ := (left.changed sound).revised
    show old ∈ after.books.wallets
    rw [revised.left]
    exact mem_altered_of_ne member other

/-- An operation sets statuses only, or it sets none. -/
theorem Call.kinds_cases (call : Call) :
    (∀ kind ∈ call.kinds, kind ∈ statusKinds) ∨ ∀ kind ∈ call.kinds, kind ∉ statusKinds := by
  cases call with
  | command session wanted => cases wanted <;> simp [Call.kinds, Command.kinds, statusKinds]
  | _ => exact .inr (by simp [Call.kinds, statusKinds])

/-- Held amounts are made available again by one operation. -/
theorem Call.releases {call : Call} (member : .released ∈ call.kinds) :
    ∃ session id amount, call = .command session (.releaseHold id amount) := by
  cases call with
  | command session wanted =>
    cases wanted with
    | releaseHold id amount => exact ⟨session, id, amount, rfl⟩
    | _ => exact absurd member (by simp [Call.kinds, Command.kinds])
  | _ => exact absurd member (by simp [Call.kinds])

/-- **What one operation makes of a wallet.** -/
theorem Call.guarded (call : Call) (sound : Sound world.books) (settled : Settled world.books)
    (member : old ∈ world.books.wallets) :
    ∃ row ∈ (call.run world).2.books.wallets, Guarded call old row := by
  have happened := call.happened sound
  have unique := (happened.sound sound).walletIds
  have closed : ∀ row ∈ (call.run world).2.books.wallets, row.id = old.id →
      old.status = .closed → Stays old row := by
    intro row present same closed
    obtain ⟨other, present', stays⟩ := stays_of_happened happened sound settled member closed
    obtain rfl := eq_of_key unique present' present (stays.id.trans same.symm)
    exact stays
  rcases call.kinds_cases with only | others
  · obtain ⟨row, present, same, balance⟩ := unmoved_of_happened happened sound only member
    have still : row.balance.balance = old.balance.balance := by rw [balance]
    exact ⟨row, present, same, fun changed => absurd still changed,
      fun _ => ⟨still, fun changed => absurd balance changed⟩, closed row present same⟩
  · obtain ⟨row, present, carried⟩ := carried_of_happened happened sound others member
    refine ⟨row, present, carried.id, fun changed => ?_, fun frozen => ⟨?_, fun changed => ?_⟩,
      closed row present carried.id⟩
    · have active := carried.moved changed
      exact ⟨active, carried.status.trans active⟩
    · by_contra changed
      have active := carried.moved changed
      rw [frozen] at active
      cases active
    · rcases carried.changed changed with active | released
      · rw [frozen] at active
        cases active
      · obtain ⟨session, id, amount, rfl⟩ := call.releases released
        by_cases named : old.id = id
        · exact ⟨session, amount, by rw [named]⟩
        · have still := released_only session amount sound member named
          exact absurd (congrArg _ (eq_of_key unique present still carried.id)) changed

/-- Only a part of an active wallet is set aside. -/
theorem active_of_held {session : Session} {id : WalletId} {amount : Amount} {answer : Answer}
    (sound : Sound world.books)
    (done : ((Call.command session (.placeHold id amount)).run world).1 = .ok answer) :
    ∃ old ∈ world.books.wallets, old.id = id ∧ old.status = .active := by
  obtain ⟨balance, ended, _⟩ := ok_of_answering done
  obtain ⟨old, active, _, revised⟩ :=
    (((Holdings.placeHold_ends session id amount).part_of_ok ended).changed sound).revised
  exact ⟨old, revised.member, revised.named, active⟩

end Operations

/-! ### Runs -/

theorem Settled.fresh {supply : Supply} : Settled (.fresh supply) :=
  fun _ none => absurd none List.not_mem_nil

/-- Every run from fresh books leaves closed wallets empty. -/
theorem play_settled (supply : Supply) (calls : List Call) :
    Settled (play calls (.fresh supply)).books :=
  (play_preserves Settled (fun sound deed settled => deed.settled sound settled) calls Sound.fresh
    Settled.fresh).2

/-- **Only active wallets move money, and closed is final**, in every run from fresh books. Whatever
operation comes next leaves every wallet there: one whose balance it changes was active and is so
after it, of a frozen wallet it changes no more than what is available, and that by making a held
amount available again, and it sets a part of a balance aside only of an active wallet. A closed
wallet holds nothing and has nothing available, and the moment of its closing is on record; whatever
operations come later, its status, its balance, that moment and the reason are as they were. -/
theorem play_closed (supply : Supply) (calls later : List Call) (next : Call) :
    (∀ old ∈ (play calls (.fresh supply)).books.wallets,
        (∃ row ∈ (play (calls ++ [next]) (.fresh supply)).books.wallets, Guarded next old row) ∧
          (old.status = .closed → Emptied old ∧
            ∃ row ∈ (play (calls ++ later) (.fresh supply)).books.wallets, Stays old row)) ∧
      ∀ session id amount answer, next = .command session (.placeHold id amount) →
        (next.run (play calls (.fresh supply))).1 = .ok answer →
          ∃ old ∈ (play calls (.fresh supply)).books.wallets, old.id = id ∧
            old.status = .active := by
  have sound : Sound (play calls (.fresh supply)).books := play_sound calls Sound.fresh
  have settled := play_settled supply calls
  refine ⟨fun old member => ⟨?_, fun closed => ⟨settled old member closed, ?_⟩⟩, ?_⟩
  · rw [play_append]
    exact next.guarded sound settled member
  · rw [play_append]
    refine (play_preserves (fun books => Settled books ∧ ∃ row ∈ books.wallets, Stays old row)
      ?_ later sound ⟨settled, old, member, .refl old⟩).2.2
    rintro _ _ _ _ sound deed ⟨settled, middle, there, stays⟩
    obtain ⟨row, present, stays'⟩ := deed.final sound settled there (stays.status.trans closed)
    exact ⟨deed.settled sound settled, row, present, stays.trans stays'⟩
  · rintro session id amount answer rfl done
    exact active_of_held sound done

/-- A wallet is opened and closed. -/
def sampleClosing : List Call :=
  [.command sampleSession (.createWallet (sampleOwner 7) .main "USD"),
    .command sampleSession (.closeWallet sampleWallet " moved ")]

/-- A wallet that was closed for a reason stays so, whatever is deposited into it. -/
theorem play_closed_deposits :
    ∃ old ∈ (play sampleClosing .fresh).books.wallets,
      old.status = .closed ∧ old.closeReason = some "moved" ∧ Emptied old ∧
        ∃ row ∈ (play (sampleClosing ++ sampleDeposits) .fresh).books.wallets, Stays old row := by
  have there : ∃ old ∈ (play sampleClosing .fresh).books.wallets,
      old.status = .closed ∧ old.closeReason = some "moved" := by decide
  obtain ⟨old, member, closed, reason⟩ := there
  have closes := play_closed .ascending sampleClosing sampleDeposits sampleOverdraft
  have fate := (closes.1 old member).2 closed
  exact ⟨old, member, closed, reason, fate⟩

end Passbook.Operation
