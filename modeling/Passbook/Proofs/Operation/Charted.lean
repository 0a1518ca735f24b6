/-
**The chart of accounts only grows.**

* `Deed.keeps_chart`: a deed other than opening an account keeps what is written once of accounts;
* `Grows`: whatever an operation leaves, the chart has grown. `createAccount_grows`: an account is
  opened below none or below one that stood before. The tables would take one below itself, but its
  parent is looked up before it has an identifier;
* `Call.grows`: every operation lets the chart grow;
* `play_grows`, `play_shaped`: so every run leaves a chart of the shape it has to have, `Shaped`.
-/

import Passbook.Proofs.Chart.Descent
import Passbook.Proofs.Operation.Frame
import Passbook.Proofs.Operation.Run

namespace Passbook.Operation

open Passbook.Chart
open Passbook.Store
open Passbook.Store.Action (Ends Leaves)

variable {session : Session} {kind : DeedKind} {before after : Books}

/-! ### Deeds -/

/-- **A deed other than opening an account** keeps what is written once of accounts. -/
theorem Deed.keeps_chart (deed : Deed session kind before after) (other : kind ≠ .accountOpened) :
    charted after = charted before :=
  deed.keeps_accounts lasting other (fun _ _ _ _ => rfl) fun _ _ _ => rfl

/-- Deeds other than opening accounts keep what is written once of them. -/
theorem Happened.keeps_chart {kinds : List DeedKind} (happened : Happened kinds before after)
    (others : .accountOpened ∉ kinds) : charted after = charted before := by
  induction happened with
  | refl => rfl
  | tail _ deed ih =>
    obtain ⟨_, kind, member, did⟩ := deed
    exact (did.keeps_chart fun same => others (same ▸ member)).trans ih

/-- An account that was opened joins the chart, if it is below none or below one that stands. -/
theorem grown_of_opened {input : Ledger.NewAccount} {row : AccountRow}
    (did : Opened session input before row after) (valid : input.validate = .ok ())
    (below : ∀ parent ∈ input.parent, ∃ other ∈ before.accounts, other.id = parent) :
    Grown (charted before) (charted after) := by
  obtain ⟨uuid, _, new⟩ := did.issued
  have added : charted after = charted before ++ [lasting row] := by
    rw [charted, did.left, List.map_append, List.map_singleton]
    rfl
  rw [added, new]
  refine .add .same (allowed_newRow valid _ _) fun parent link => ?_
  obtain ⟨other, present, rfl⟩ := below parent link
  rw [charted, List.map_map]
  exact List.mem_map_of_mem (f := Lasting.id ∘ lasting) present

/-! ### Opening accounts -/

/-- Whatever an operation leaves of sound books, the chart has grown. -/
def Grows {ε α : Type} (action : Action ε α) : Prop :=
  ∀ world, Sound world.books →
    Grown (charted world.books) (charted (action world).2.books)

section

variable {ε α : Type} {action : Action ε α}

/-- An operation of a part of the books lets the chart grow for a caller as by itself. -/
theorem Grows.answering {fail : ε → Failure} {answer : α → Answer} (grows : Grows action) :
    Grows (Operation.answering fail answer action) :=
  grows

/-- An operation that leaves the chart grown, or leaves nothing. -/
theorem Grows.of_leaves {news : α → List Event}
    (ends : Ends action
      (Leaves (fun before _ after => Grown (charted before) (charted after)) news)) :
    Grows action := by
  intro world sound
  rcases ends world with ⟨cause, same⟩ | ⟨value, after, same, left⟩
  · rw [same]
    exact .same
  · rw [same]
    exact left.changed sound

/-- An operation that opens no accounts keeps what is written once of them. -/
theorem Grows.of_leads {kinds : List DeedKind} (leads : Leads kinds action)
    (others : .accountOpened ∉ kinds) : Grows action := by
  intro world sound
  rw [(leads world sound).happened.keeps_chart others]
  exact .same

end

/-- The parent of an account that is asked for stands. -/
theorem ensureParent_finds (session : Session) (parent : Option AccountId) :
    Ends (ensureParent session parent) fun world _ after =>
      (∀ id ∈ parent, ∃ row ∈ world.books.accounts, row.id = id) ∧ after = world := by
  cases parent with
  | none => exact (Ends.pure ()).mono fun _ _ _ did => ⟨fun _ absent => (nomatch absent), did.2⟩
  | some id =>
    refine ((findAccount_looks id).after fun row =>
      (Ends.found (.parentNotFound id) row).after fun _ => Ends.pure ()).mono ?_
    rintro world _ after ⟨found, seen, row, is, _, same⟩
    refine ⟨fun other chosen => ?_, same⟩
    rw [← Option.some.inj chosen]
    exact ⟨row, mem_of_account? (seen.trans is)⟩

/-- **An account is opened below none or below one that stood before.** -/
theorem createAccount_grows (session : Session) (input : Ledger.NewAccount) :
    Grows (createAccount session input) := by
  have opens : Ends (Action.atomically session (insertAccount session input))
      (Leaves (Opened session input) fun _ => []) := Ends.leaves session of_insertAccount
  refine Grows.of_leaves (show Ends _ (Leaves _ fun _ => []) from ?_)
  unfold createAccount
  refine Ends.leavesAfter
    (fun _ before _ after => input.validate = .ok () → Grown (charted before) (charted after))
    (Ends.verdict _) (fun _ => ?_) fun valid _ _ grows => grows (Verdict.mapError_eq_ok.mp valid)
  refine Ends.leavesAfter _ (findByCode_looks _) (fun row => ?_) fun _ _ _ grows => grows
  refine Ends.without _ fun _ => ?_
  refine Ends.leavesAfter (fun _ => Opened session input) (ensureParent_finds session _)
    (fun _ => opens) fun finds same _ did valid => ?_
  subst same
  exact grown_of_opened did valid finds

/-- An operation of the chart lets it grow for others as by itself. -/
theorem Grows.shown {α β : Type} {action : Action AccountError α} (view : α → β)
    (grows : Grows action) : Grows (ExceptT.mk (Chart.shown view action)) :=
  grows

theorem create_grows (session : Session) (input : Ledger.NewAccount) :
    Grows (ExceptT.mk ((port session).create input)) := by
  rw [port_create]
  exact (createAccount_grows session input).shown AccountRow.shown

/-- Finding or opening an account lets the chart grow. -/
theorem ensureAccount_grows (session : Session) (input : Ledger.NewAccount) :
    Grows (ExceptT.mk (ensureAccount (port session) input)) := by
  intro world sound
  show Grown _ (charted (ensureAccount (port session) input world).2.books)
  have grows := create_grows session input
  rcases ensureAccount_left (find_leaves session input.code) world with same | same
  · rw [same]
    exact .same
  · rw [same]
    generalize (port session).create input = create at grows
    exact grows world sound

/-- Whatever is left of providing a wallet with an account, the chart has grown: the account of a
wallet is below none. -/
theorem provisioned_grows {opening linking : Session} {id : WalletId} {world : World}
    {outcome : Except Holdings.HoldingError Ledger.LedgerAccount × World}
    (provisioned : Holdings.Provisioned linking id
      (fun row => Ensured opening (walletAccount id row.currency)) world outcome)
    (sound : Sound world.books) :
    Grown (charted world.books) (charted outcome.2.books) := by
  let grows : Books → Prop := fun books => Grown (charted world.books) (charted books)
  have kept : grows outcome.2.books := by
    refine provisioned.keeps sound .same fun {wallet account middle} _ _ did => ?_
    have grown : grows middle := by
      cases did with
      | stood _ _ _ left =>
        rw [left]
        exact .same
      | opened row valid did => exact grown_of_opened did valid fun _ absent => nomatch absent
    refine ⟨(ensured_happened did).sound sound, grown, fun later linked => ?_⟩
    have deed : Deed linking .linked middle later := .linked linked
    change Grown (charted world.books) (charted later)
    rw [deed.keeps_chart (by decide)]
    exact grown
  exact kept

theorem provisionInStages_grows (reading opening linking : Session) (id : WalletId) :
    Grows (Holdings.provisionInStages reading linking (port opening) id) := fun world sound =>
  provisioned_grows (Holdings.provisionHere_cases reading opening linking id world) sound

/-! ### Operations -/

theorem Command.grows (session : Session) (wanted : Command) : Grows (wanted.run session) := by
  by_cases opens : .accountOpened ∈ wanted.kinds
  · cases wanted with
    | createAccount input => exact (createAccount_grows session input).answering
    | openAccount input => exact (create_grows session input).answering
    | ensureAccount input => exact (ensureAccount_grows session input).answering
    | provisionWallet wallet =>
      exact (provisionInStages_grows session session session wallet).answering
    | _ => exact absurd opens (by simp [Command.kinds])
  · exact .of_leads (Command.leads session wanted) opens

/-- **Every operation lets the chart grow**, also when it is refused. -/
theorem Call.grows (call : Call) : Grows call.run := by
  cases call with
  | command session wanted => exact wanted.grows session
  | query session wanted =>
    exact .of_leads (Query.looks session wanted).leads List.not_mem_nil
  | provisionInStages reading opening linking wallet =>
    exact (provisionInStages_grows reading opening linking wallet).answering
  | provisionElsewhere reading linking find create wallet =>
    exact .of_leads (show Leads [.linked] _ from fun world sound =>
      (provisionElsewhere reading linking find create wallet).unfolded sound) (by decide)
  | depositInStages confirming crediting undoing request =>
    exact .of_leads (show Leads [.confirmed, .credited, .undone] _ from fun world sound =>
      (depositInStages confirming crediting undoing request).unfolded sound) (by decide)

/-! ### Runs -/

/-- **Every run lets the chart grow.** -/
theorem play_grows (calls : List Call) {world : World} (sound : Sound world.books) :
    Grown (charted world.books) (charted (play calls world).books) := by
  induction calls generalizing world with
  | nil => exact .same
  | cons call rest ih =>
    exact (call.grows world sound).andThen (ih ((call.happened sound).sound sound))

/-- The shape that a chart has to have. -/
structure Shaped (books : Books) : Prop where
  /-- Codes are trimmed and of 1 to 50 characters, and currencies are supported ones. -/
  allowed : ∀ account ∈ charted books, Allowed account
  codes : ((charted books).map Lasting.code).Nodup
  parents : ∀ account ∈ charted books, ∀ parent ∈ account.parent,
    parent ∈ (charted books).map Lasting.id
  ends : ∀ account ∈ charted books,
    ancestor (charted books) (charted books).length account.id = none
  acyclic : ∀ account ∈ charted books, ∀ steps, 0 < steps →
    ancestor (charted books) steps account.id ≠ some account.id

/-- **Every run leaves a chart of the shape that it has to have**, and whatever operations come
later, no account is removed and none has another code, type, currency or parent. -/
theorem play_shaped (supply : Supply) (calls later : List Call) :
    Shaped (play calls (.fresh supply)).books ∧
      charted (play calls (.fresh supply)).books <+:
        charted (play (calls ++ later) (.fresh supply)).books := by
  have start : Sound (World.fresh supply).books := Sound.fresh
  have sound := play_sound calls start
  have grown : Grown [] (charted (play calls (.fresh supply)).books) := play_grows calls start
  have rooted := grown.rooted .empty
  have codes : ((charted (play calls (.fresh supply)).books).map Lasting.code).Nodup := by
    rw [charted, List.map_map]
    exact sound.codes
  have ids : ((charted (play calls (.fresh supply)).books).map Lasting.id).Nodup := by
    rw [charted, List.map_map]
    exact sound.accountIds
  constructor
  · exact {
      allowed := grown.allowed fun _ absent => nomatch absent
      codes := codes
      parents := fun account member parent link => rooted.parent_mem member link
      ends := fun account member => rooted.ends ids (List.mem_map_of_mem member)
      acyclic := fun account member steps least =>
        rooted.acyclic ids (List.mem_map_of_mem member) least }
  · rw [play_append]
    exact (play_grows later sound).isPrefix

end Passbook.Operation
