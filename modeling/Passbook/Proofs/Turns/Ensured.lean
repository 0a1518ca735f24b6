/-
**Whoever asks for the account of a code gets the same one.**

* `IsFor`: an account that may be opened under a code; `Asks`: turns of which the calls are for the
  account of one code, while the storage does what it is told;
* `errand_step`: a step of a call leaves everything as it was, or opens the account that none had;
* `Ongoing`: calls that were beaten or have ended leave an account of the code behind them;
  `advance_ongoing`: so they do after every turn;
* `opened`: the accounts that calls open in the course of a run; `run_opened`: none where the code
  was taken, and one at most;
* `run_ensured`: **all calls that have ended found one and the same account**, whatever the turns.
-/

import Passbook.Proofs.Operation.Registered
import Passbook.Proofs.Text.Blank
import Passbook.Proofs.Turns.Ensuring

namespace Passbook.Turns

open Passbook.Chart
open Passbook.Ledger (LedgerAccount NewAccount)
open Passbook.Operation (Call Happened Registered)
open Passbook.Store

/-! ### What is asked for -/

/-- An account that may be opened under a code, whatever blanks stand around it. -/
def IsFor (code : String) (books : Books) (input : NewAccount) : Prop :=
  input.validate = .ok () ∧ Text.trim input.code = code ∧
    ∀ parent ∈ input.parent, ∃ row ∈ books.accounts, row.id = parent

/-- The storage can be reached, takes accounts, and has identifiers left. No rival goes away after
its account was in the way. -/
def Serves (session : Session) (books : Books) : Prop :=
  session.faults.blocked = false ∧ session.faults.refuses .accounts .insert = false ∧
    session.faults.rivals .accounts = false ∧ (books.next?).isSome

/-- Calls are for the account of a code, and the storage serves them. -/
def Asks (code : String) (world : World) : Turn NewAccount → Prop
  | .arrive input => IsFor code world.books input
  | .step _ session => Serves session world.books
  | .other _ => True

instance (code : String) (books : Books) (input : NewAccount) :
    Decidable (IsFor code books input) :=
  inferInstanceAs (Decidable (_ ∧ _ ∧ _))

instance (session : Session) (books : Books) : Decidable (Serves session books) :=
  inferInstanceAs (Decidable (_ ∧ _ ∧ _ ∧ _))

instance (code : String) (world : World) : ∀ turn, Decidable (Asks code world turn)
  | .arrive input => inferInstanceAs (Decidable (IsFor code world.books input))
  | .step _ session => inferInstanceAs (Decidable (Serves session world.books))
  | .other _ => inferInstanceAs (Decidable True)

/-- An account has a code. -/
def HasCode (books : Books) (code : String) (id : AccountId) : Prop :=
  (id, code) ∈ books.accounts.map AccountRow.tag

variable {code : String} {session : Session} {input : NewAccount} {world : World}
  {books before after : Books}

theorem hasCode_iff {id : AccountId} :
    HasCode books code id ↔ ∃ row ∈ books.accounts, row.id = id ∧ row.code = code := by
  simp [HasCode, AccountRow.tag]

theorem HasCode.of_mem {row : AccountRow} (member : row ∈ books.accounts) :
    HasCode books row.code row.id :=
  List.mem_map_of_mem member

/-- The account that has a code is the one that is found. -/
theorem HasCode.found {id : AccountId} (has : HasCode books code id) (sound : Sound books) :
    ∃ row, books.accountByCode? code = some row ∧ row.id = id := by
  obtain ⟨row, member, same, rfl⟩ := hasCode_iff.mp has
  exact ⟨row, accountByCode?_of_mem sound.codes member, same⟩

/-- What may be opened may still be opened when accounts have been added. -/
theorem IsFor.mono (fit : IsFor code before input)
    (kept : before.accounts.map AccountRow.tag ⊆ after.accounts.map AccountRow.tag) :
    IsFor code after input := by
  refine ⟨fit.1, fit.2.1, fun parent named => ?_⟩
  obtain ⟨row, member, rfl⟩ := fit.2.2 parent named
  obtain ⟨row', member', same⟩ := List.mem_map.mp (kept (List.mem_map_of_mem member))
  exact ⟨row', member', congrArg Prod.fst same⟩

/-! ### The steps of a call -/

theorem find_run (reached : session.faults.blocked = false) (plain : world.books.strays = [])
    (fit : Text.trim input.code = code) :
    (port session).find input.code world =
      (.ok ((world.books.accountByCode? code).map AccountRow.shown), world) := by
  rw [find_of_plain input.code reached plain, fit]

theorem ensureUncoded_run (reached : session.faults.blocked = false)
    (plain : world.books.strays = []) (fit : IsFor code world.books input) :
    ensureUncoded session input world =
      (if (world.books.accountByCode? code).isSome then .error (.duplicateCode code) else .ok (),
        world) := by
  have judged : (Action.verdict (input.validate.mapError .ledger) : Action AccountError Unit)
      world = (.ok (), world) := by
    rw [fit.1]
    rfl
  have looked : findByCode session code world = _ :=
    Action.lookUp_of_plain reached plain accountSheet _
  have trimmed : Text.trim code = code := by
    rw [← fit.2.1, Text.trim_trim]
  rw [ensureUncoded, Action.bind_of_ok judged, fit.2.1, Action.bind_of_ok looked, trimmed]
  cases (world.books.accountByCode? code).isSome <;> rfl

theorem ensureParent_run (reached : session.faults.blocked = false)
    (plain : world.books.strays = []) {parent : Option AccountId}
    (there : ∀ id ∈ parent, ∃ row ∈ world.books.accounts, row.id = id) :
    ensureParent session parent world = (.ok (), world) := by
  cases parent with
  | none => rfl
  | some id =>
    obtain ⟨row, member, same⟩ := there id rfl
    have looked : findAccount session id world = _ :=
      Action.lookUp_of_plain reached plain accountSheet _
    rw [ensureParent, Action.bind_of_ok looked]
    cases found : world.books.account? id with
    | none => exact absurd same (ne_of_account? plain found row member)
    | some parent => rfl

/-- The row of an account is added where no account has its code, and otherwise is a duplicate. -/
theorem addAccount_run (serves : Serves session world.books) (sound : Sound world.books)
    (registered : Registered world.books) (fit : IsFor code world.books input) :
    (addAccount session input world = (.error (.duplicateCode code), world) ∧
        ∃ id, HasCode world.books code id) ∨
      ∃ row books, addAccount session input world = (.ok row, { world with books := books }) ∧
        Opened session input world.books row books := by
  obtain ⟨reached, allowed, alone, left⟩ := serves
  obtain ⟨uuid, issued⟩ := Option.isSome_iff_exists.mp left
  let drawn := { world.books with issued := world.books.issued + 1 }
  have draws : (Work.fresh : Work AccountError Uuid) world.books = .ok (uuid, drawn) :=
    Work.fresh_eq_ok.mpr ⟨issued, rfl⟩
  have named : (newRow ⟨uuid⟩ session.now input).code = code := fit.2.1
  by_cases taken : ∃ row ∈ world.books.accounts, row.code = code
  · obtain ⟨row, member, same⟩ := taken
    have clash : (accountSheet.rows drawn).any
        (accountSheet.clashes drawn (newRow ⟨uuid⟩ session.now input)) = true :=
      List.any_eq_true.mpr ⟨row, member, by simp [accountSheet, named, same]⟩
    have refused : insertAccount session input world.books = .error (.duplicateCode code) := by
      rw [insertAccount, Work.bind_of_ok draws]
      refine Work.bind_of_error ?_
      rw [Work.mapError, insert_of_clash allowed rfl clash, ← named]
      rfl
    refine .inl ⟨?_, row.id, same ▸ .of_mem member⟩
    simp only [addAccount, Action.atomically, reached, refused]
    rfl
  · have added : insertAccount session input world.books = .ok (newRow ⟨uuid⟩ session.now input,
        { world.books with
          accounts := world.books.accounts ++ [newRow ⟨uuid⟩ session.now input]
          issued := world.books.issued + 1 }) := by
      simp only [insertAccount, Work.bind_eq_ok, Work.mapError_eq_ok, Work.pure_eq_ok]
      refine ⟨uuid, _, draws, (), _, insert_eq_ok.mpr ⟨allowed, rfl, alone, ?_, ?_, rfl⟩, rfl, rfl⟩
      · intro other member
        refine (accountSheet_clashes (by exact sound.plain)).mpr ⟨fun same => ?_, fun same => ?_⟩
        · exact (registered.accounts other member).ne issued (Nat.le_refl _)
            (congrArg Id.uuid same.symm)
        · exact taken ⟨other, member, same.symm.trans named⟩
      · refine (accountSheet_isLinked (by exact sound.plain)).mpr fun parent named => ?_
        obtain ⟨row, member, same⟩ := fit.2.2 parent named
        exact ⟨row, List.mem_append_left _ member, same⟩
    exact .inr ⟨_, _, Action.atomically_of_ok reached added, of_insertAccount sound added⟩

/-- What a call leaves behind it, once it was beaten or has ended: an account of the code. -/
def Errand.Stage.Leaves (code : String) (books : Books) : Errand.Stage → Prop
  | .beaten => ∃ id, HasCode books code id
  | .ended result => ∃ account : LedgerAccount, result = .ok account ∧
      HasCode books code account.id
  | _ => True

/-- A call stands where it should: it is for an account of the code, and leaves one behind it. -/
structure Errand.Right (code : String) (books : Books) (errand : Errand) : Prop where
  fit : IsFor code books errand.input
  leaves : errand.stage.Leaves code books

theorem Errand.Right.mono {errand : Errand} (right : errand.Right code before)
    (kept : before.accounts.map AccountRow.tag ⊆ after.accounts.map AccountRow.tag) :
    errand.Right code after := by
  obtain ⟨input, stage⟩ := errand
  refine ⟨right.fit.mono kept, ?_⟩
  have leaves := right.leaves
  cases stage with
  | beaten => exact leaves.imp fun _ has => kept has
  | ended result => exact leaves.imp fun _ found => ⟨found.1, kept found.2⟩
  | _ => trivial

/-- **A step of a call** leaves everything as it was, or opens the account that none had. -/
theorem errand_step {errand : Errand} (serves : Serves session world.books)
    (sound : Sound world.books) (registered : Registered world.books)
    (right : errand.Right code world.books) :
    ((ensuring.next session errand world).2 = world ∧
        (ensuring.next session errand world).1.Right code world.books) ∨
      (∀ id, ¬ HasCode world.books code id) ∧ ∃ row,
        Opened session errand.input world.books row (ensuring.next session errand world).2.books ∧
        (ensuring.next session errand world).1 = ⟨errand.input, .ended (.ok row.shown)⟩ := by
  obtain ⟨input, stage⟩ := errand
  obtain ⟨fit, leaves⟩ := right
  have reached := serves.1
  have plain := sound.plain
  cases stage with
  | asking =>
    refine .inl ?_
    simp only [ensuring, Errand.Stage.next, find_run reached plain fit.2.1]
    cases found : world.books.accountByCode? code with
    | none => exact ⟨trivial, fit, trivial⟩
    | some row =>
      obtain ⟨member, rfl⟩ := mem_of_accountByCode? found
      exact ⟨trivial, fit, row.shown, rfl, .of_mem member⟩
  | absent =>
    refine .inl ?_
    simp only [ensuring, Errand.Stage.next, ensureUncoded_run reached plain fit]
    cases found : world.books.accountByCode? code with
    | none => exact ⟨trivial, fit, trivial⟩
    | some row =>
      obtain ⟨member, rfl⟩ := mem_of_accountByCode? found
      exact ⟨trivial, fit, row.id, .of_mem member⟩
  | uncoded =>
    refine .inl ?_
    simp only [ensuring, Errand.Stage.next, ensureParent_run reached plain fit.2.2]
    exact ⟨trivial, fit, trivial⟩
  | rooted =>
    simp only [ensuring, Errand.Stage.next]
    rcases addAccount_run serves sound registered fit with
      ⟨refused, taken⟩ | ⟨row, books, did, opened⟩
    · rw [refused]
      exact .inl ⟨rfl, fit, taken⟩
    · rw [did]
      refine .inr ⟨fun id has => ?_, row, opened, rfl⟩
      obtain ⟨other, member, _, same⟩ := hasCode_iff.mp has
      obtain ⟨uuid, _, rfl⟩ := opened.issued
      exact opened.newCode other member (same.trans fit.2.1.symm)
  | beaten =>
    refine .inl ?_
    simp only [ensuring, Errand.Stage.next, find_run reached plain fit.2.1]
    -- the account that was in the way is still there
    obtain ⟨id, has⟩ := leaves
    obtain ⟨row, found, rfl⟩ := has.found sound
    rw [found]
    exact ⟨trivial, fit, row.shown, rfl, has⟩
  | ended result => exact .inl ⟨rfl, fit, leaves⟩

/-- An account that was opened has the code. -/
theorem hasCode_of_opened {row : AccountRow} (fit : IsFor code before input)
    (opened : Opened session input before row after) : HasCode after code row.id := by
  obtain ⟨uuid, _, rfl⟩ := opened.issued
  have member : newRow ⟨uuid⟩ session.now input ∈ after.accounts := by
    rw [opened.left]
    exact List.mem_append_right _ List.mem_cons_self
  rw [← fit.2.1]
  exact .of_mem member

/-! ### Calls that take turns -/

/-- Every call stands where it should, in books that keep what they have to. -/
structure Ongoing (code : String) (scene : Scene Errand) : Prop where
  sound : Sound scene.books
  registered : Registered scene.books
  right : ∀ errand ∈ scene.callers, errand.Right code scene.books

theorem advance_ensuring_happened {scene : Scene Errand} {turn : Turn NewAccount}
    (asks : Asks code scene.world turn) (ongoing : Ongoing code scene) :
    ∃ kinds, Happened kinds scene.books (advance ensuring scene turn).books := by
  refine advance_happened ongoing.sound fun place session errand is there => ?_
  subst is
  have right := ongoing.right errand (List.mem_of_getElem? there)
  rcases errand_step asks ongoing.sound ongoing.registered right with
    ⟨same, _⟩ | ⟨_, row, opened, _⟩
  · rw [same]
    exact ⟨[], .nothing⟩
  · exact ⟨[.accountOpened], .one (.accountOpened right.fit.1 opened) (by simp)⟩

/-- **Every call stands where it should after every turn.** -/
theorem advance_ongoing (scene : Scene Errand) (turn : Turn NewAccount)
    (asks : Asks code scene.world turn) (ongoing : Ongoing code scene) :
    Ongoing code (advance ensuring scene turn) := by
  obtain ⟨kinds, happened⟩ := advance_ensuring_happened asks ongoing
  have kept := happened.tags_subset ongoing.sound
  refine ⟨happened.sound ongoing.sound, happened.registered ongoing.sound ongoing.registered,
    fun errand member => ?_⟩
  rcases mem_advance member with ⟨input, rfl, rfl⟩ | ⟨place, session, was, old, rfl, is, left⟩ | old
  · exact ⟨asks, trivial⟩
  · have right := ongoing.right was old
    rcases errand_step asks ongoing.sound ongoing.registered right with
      ⟨same, right⟩ | ⟨_, row, opened, ended⟩
    · rw [Scene.books, left, same, is]
      exact right
    · have has : HasCode (advance ensuring scene (.step place session)).books code row.id := by
        rw [Scene.books, left]
        exact hasCode_of_opened right.fit opened
      rw [is, ended]
      exact ⟨right.fit.mono kept, row.shown, rfl, has⟩
  · exact (ongoing.right errand old).mono kept

/-! ### What is opened -/

/-- The accounts that calls open in the course of a run. -/
def opened : List (Turn NewAccount) → Scene Errand → List AccountRow
  | [], _ => []
  | turn :: rest, scene =>
    let after := advance ensuring scene turn
    (match turn with
      | .step _ _ => after.books.accounts.drop scene.books.accounts.length
      | _ => []) ++ opened rest after

/-- A step of a call opens the account that none had, or nothing. -/
theorem advance_opened {scene : Scene Errand} (place : Nat)
    (serves : Serves session scene.books) (ongoing : Ongoing code scene) :
    (advance ensuring scene (.step place session)).books.accounts = scene.books.accounts ∨
      (∀ id, ¬ HasCode scene.books code id) ∧ ∃ row,
        HasCode (advance ensuring scene (.step place session)).books code row.id ∧
        (advance ensuring scene (.step place session)).books.accounts =
          scene.books.accounts ++ [row] := by
  cases there : scene.callers[place]? with
  | none =>
    rw [advance_of_none session there]
    exact .inl rfl
  | some errand =>
    have right := ongoing.right errand (List.mem_of_getElem? there)
    rw [advance_step session there]
    rcases errand_step serves ongoing.sound ongoing.registered right with
      ⟨same, _⟩ | ⟨none, row, opened, _⟩
    · exact .inl (congrArg (fun world => world.books.accounts) same)
    · refine .inr ⟨none, row, hasCode_of_opened right.fit opened, ?_⟩
      rw [Scene.books, opened.left]

/-- **Calls open one account at most**, and none where the code is taken. -/
theorem run_opened (turns : List (Turn NewAccount)) {scene : Scene Errand}
    (granted : Granted ensuring (Asks code) turns scene) (ongoing : Ongoing code scene) :
    ((∃ id, HasCode scene.books code id) → opened turns scene = []) ∧
      (opened turns scene).length ≤ 1 ∧
      ((turns.all Turn.isCallers) → (run ensuring turns scene).books.accounts =
        scene.books.accounts ++ opened turns scene) := by
  induction turns generalizing scene with
  | nil => exact ⟨fun _ => rfl, Nat.zero_le 1, fun _ => (List.append_nil _).symm⟩
  | cons turn rest ih =>
    obtain ⟨asks, later⟩ := granted
    obtain ⟨taken, once, all⟩ := ih later (advance_ongoing scene turn asks ongoing)
    obtain ⟨kinds, happened⟩ := advance_ensuring_happened asks ongoing
    have kept := happened.tags_subset ongoing.sound
    cases turn with
    | arrive input =>
      exact ⟨taken, once, fun callers => all callers⟩
    | other call =>
      refine ⟨fun ⟨id, has⟩ => taken ⟨id, kept has⟩, once, fun callers => ?_⟩
      cases (Bool.and_eq_true_iff.mp callers).1
    | step place session =>
      rcases advance_opened place asks ongoing with same | ⟨none, row, has, added⟩
      · simp only [opened, same, List.drop_length, List.nil_append]
        refine ⟨fun ⟨id, has⟩ => taken ⟨id, kept has⟩, once, fun callers => ?_⟩
        rw [run, all callers, same]
      · simp only [opened, added, List.drop_left, taken ⟨_, has⟩, List.append_nil]
        refine ⟨fun ⟨id, has⟩ => absurd has (none id), Nat.le_refl 1, fun callers => ?_⟩
        rw [run, all callers, added, taken ⟨_, has⟩, List.append_nil]

/-! ### Whatever the turns -/

/-- The calls for the account of a code agree, however they take turns. -/
structure Unanimous (code : String) (begun : Scene Errand) (turns : List (Turn NewAccount)) :
    Prop where
  /-- Every call that has ended found the account that has the code. -/
  found : ∀ errand ∈ (run ensuring turns begun).callers, ∀ result,
    errand.stage = .ended result → ∃ account : LedgerAccount, result = .ok account ∧
      ((run ensuring turns begun).books.accountByCode? code).map AccountRow.id = some account.id
  /-- It is the same for any two of them. -/
  same : ∀ errand ∈ (run ensuring turns begun).callers,
    ∀ other ∈ (run ensuring turns begun).callers, ∀ account another : LedgerAccount,
      errand.stage = .ended (.ok account) → other.stage = .ended (.ok another) →
        account.id = another.id
  /-- A call has ended once it took five steps. -/
  ends : ∀ earlier later, turns = earlier ++ later → ∀ place,
    place < (run ensuring earlier begun).callers.length →
      5 ≤ later.countP (Turn.isStepOf place) → ∃ input account,
        (run ensuring turns begun).callers[place]? = some ⟨input, .ended (.ok account)⟩
  /-- The calls open one account at most. -/
  once : (opened turns begun).length ≤ 1
  /-- They open none where the code was taken. -/
  none : (∃ row ∈ begun.books.accounts, row.code = code) → opened turns begun = []
  /-- Where nothing else happens, no other account is added and none is changed. -/
  alone : turns.all Turn.isCallers → (run ensuring turns begun).books.accounts =
    begun.books.accounts ++ opened turns begun

/-- **Calls for the account of a code end with one and the same account**, however their steps take
turns with one another and with other operations. -/
theorem run_ensured (supply : Supply) (code : String) (calls : List Call)
    (turns : List (Turn NewAccount))
    (granted : Granted ensuring (Asks code) turns (quiet supply calls)) :
    Unanimous code (quiet supply calls) turns := by
  have begun : Ongoing code (quiet supply calls) :=
    ⟨Operation.play_sound calls Sound.fresh, Operation.play_registered supply calls, nofun⟩
  have ongoing := run_preserves advance_ongoing turns granted begun
  have found : ∀ errand ∈ (run ensuring turns (quiet supply calls)).callers, ∀ result,
      errand.stage = .ended result → ∃ account : LedgerAccount, result = .ok account ∧
        ((run ensuring turns (quiet supply calls)).books.accountByCode? code).map AccountRow.id =
          some account.id := by
    intro errand member result ended
    have leaves := (ongoing.right errand member).leaves
    rw [ended] at leaves
    obtain ⟨account, is, has⟩ := leaves
    obtain ⟨row, found, same⟩ := has.found ongoing.sound
    exact ⟨account, is, by rw [found, Option.map_some, same]⟩
  obtain ⟨taken, once, alone⟩ := run_opened turns granted begun
  refine ⟨found, fun errand member other member' account another ended ended' => ?_,
    fun earlier later parts place inside enough => ?_, once, fun ⟨row, member, same⟩ => ?_, alone⟩
  · obtain ⟨_, is, one⟩ := found errand member _ ended
    obtain ⟨_, is', two⟩ := found other member' _ ended'
    cases is
    cases is'
    exact Option.some.inj (one.symm.trans two)
  · subst parts
    obtain ⟨input, result, there⟩ :=
      run_errand_ends later (List.getElem?_eq_getElem inside) enough
    rw [← run_append] at there
    obtain ⟨account, rfl, _⟩ := found _ (List.mem_of_getElem? there) result rfl
    exact ⟨input, account, there⟩
  · exact taken ⟨row.id, same ▸ .of_mem member⟩

/-- An account that is asked for under a code. -/
def sampleInput (code : String) : NewAccount := ⟨code, "Cash", .asset, "usd", none⟩

/-- Two calls for one code find no account, a third comes later, and the second is first to add a
row. -/
def sampleRace : List (Turn NewAccount) :=
  let step place : Turn NewAccount := .step place Operation.sampleSession
  [.arrive (sampleInput " 1000"), .arrive (sampleInput "1000 "), step 0, step 1, step 0, step 1,
    step 0, step 1, step 1, .arrive (sampleInput "1000"), step 0, step 2, step 0]

/-- All three have ended then, and one account was opened. -/
theorem run_ensured_race :
    (run ensuring sampleRace (quiet .ascending [])).callers.map (fun errand => errand.stage.left) =
      [0, 0, 0] ∧
      (opened sampleRace (quiet .ascending [])).length = 1 ∧
        Unanimous "1000" (quiet .ascending []) sampleRace :=
  ⟨by decide, by decide, run_ensured .ascending "1000" [] sampleRace (by decide)⟩

end Passbook.Turns
