/-
**What asking a ledger leaves.**

* `Ensured`: the account of a code stood before, or was opened; `Ensured.account`: it is there then;
* `ensureAccount_run`: how finding or opening an account goes, whatever the ledger;
* `ensureAccount_ends`: in the chart it leaves the account there, or leaves nothing;
* `LedgerPort.elsewhere`: a ledger kept elsewhere, which changes nothing here;
* `walletCode_inj`: wallets are told apart by the codes of their accounts; `walletAccount_valid`: and
  these accounts may always be opened.
-/

import Passbook.Proofs.Chart.Accounts
import Passbook.Proofs.Text.Blank
import Passbook.Proofs.Text.Digits

namespace Passbook.Chart

open Passbook.Ledger (LedgerAccount NewAccount)
open Passbook.Store
open Passbook.Store.Action (Ends Leaves)

/-- The account of a code stood before, or was opened. -/
inductive Ensured (session : Session) (input : NewAccount) (before : Books)
    (account : LedgerAccount) (after : Books) : Prop
  | stood (row : AccountRow) (found : before.accountByCode? (Text.trim input.code) = some row)
      (shown : account = row.shown) (left : after = before)
  | opened (row : AccountRow) (valid : input.validate = .ok ())
      (opened : Opened session input before row after) (shown : account = row.shown)

/-- **The account of a code that was found or opened is there**, and is shown. -/
theorem Ensured.account {session : Session} {input : NewAccount} {before after : Books}
    {account : LedgerAccount} (did : Ensured session input before account after) :
    ∃ row ∈ after.accounts, row.shown = account ∧ row.code = Text.trim input.code := by
  cases did with
  | stood row found shown left =>
    obtain ⟨member, code⟩ := mem_of_accountByCode? found
    rw [left]
    exact ⟨row, member, shown.symm, code⟩
  | opened row _ opened shown =>
    obtain ⟨uuid, _, new⟩ := opened.issued
    rw [opened.left]
    exact ⟨row, List.mem_append_right _ List.mem_cons_self, shown.symm, by rw [new]; rfl⟩

/-- Finding or opening an account leaves wallets as they are. -/
theorem Ensured.wallets {session : Session} {input : NewAccount} {before after : Books}
    {account : LedgerAccount} (did : Ensured session input before account after) :
    after.wallets = before.wallets := by
  cases did with
  | stood _ _ _ left => rw [left]
  | opened _ _ opened _ => rw [opened.left]

/-! ### The chart asked as a ledger -/

theorem port_find (session : Session) (code : String) :
    (port session).find code = shown (Option.map AccountRow.shown) (findByCode session code) := rfl

theorem port_create (session : Session) (input : NewAccount) :
    (port session).create input = shown AccountRow.shown (createAccount session input) := rfl

/-- An operation of the chart ends for others as it does for itself. -/
theorem shown_ends {α β : Type} (view : α → β) {action : Action AccountError α}
    {part : World → α → World → Prop} (ends : Ends action part) :
    Ends (ExceptT.mk (shown view action))
      fun world value after => ∃ row, part world row after ∧ value = view row := by
  intro world
  have same : ExceptT.mk (shown view action) world =
      (((action world).1.map view).mapError AccountError.problem, (action world).2) := rfl
  rw [same]
  rcases ends world with ⟨cause, same⟩ | ⟨row, after, same, did⟩
  · rw [same]
    exact .inl ⟨cause.problem, rfl⟩
  · rw [same]
    exact .inr ⟨view row, after, rfl, row, did, rfl⟩

theorem find_looks (session : Session) (code : String) :
    Ends (ExceptT.mk ((port session).find code)) fun world account after =>
      account = (world.books.accountByCode? (Text.trim code)).map AccountRow.shown ∧
        after = world := by
  rw [port_find]
  refine (shown_ends _ (findByCode_looks code)).mono fun _ _ _ ⟨_, ⟨found, still⟩, shown⟩ => ?_
  exact ⟨by rw [shown, found], still⟩

/-- Looking for an account leaves everything as it is. -/
theorem find_leaves (session : Session) (code : String) (world : World) :
    ((port session).find code world).2 = world :=
  (find_looks session code).left world

theorem create_ends (session : Session) (input : NewAccount) :
    Ends (ExceptT.mk ((port session).create input))
      (Leaves (fun before account after => ∃ row, (input.validate = .ok () ∧
        Opened session input before row after) ∧ account = row.shown) fun _ => []) := by
  rw [port_create]
  refine (shown_ends AccountRow.shown (createAccount_ends session input)).mono
    fun _ _ _ ⟨row, did, shown⟩ => ⟨fun sound => ⟨row, did.changed sound, shown⟩, did.published⟩

/-! ### Finding or opening -/

/-- How asking for an account goes. -/
theorem ensureAccount_run (port : LedgerPort (StateM World)) (input : NewAccount) (world : World) :
    ensureAccount port input world =
      match port.find input.code world with
      | (.error problem, after) => (.error problem, after)
      | (.ok (some account), after) => (.ok account, after)
      | (.ok none, after) =>
        match port.create input after with
        | (.ok account, after) => (.ok account, after)
        | (.error problem, after) =>
          if problem.category = .conflict then
            ((settleConflict input.code (port.find input.code after).1),
              (port.find input.code after).2)
          else (.error problem, after) := by
  unfold ensureAccount
  simp only [bind, StateT.bind]
  rcases port.find input.code world with ⟨_ | _ | _, middle⟩
  · rfl
  · simp only [StateT.bind]
    rcases port.create input middle with ⟨problem | account, after⟩
    · simp only [bind]
      by_cases conflict : problem.category = .conflict
      · rw [if_pos conflict, if_pos conflict]
        rfl
      · rw [if_neg conflict, if_neg conflict]
        rfl
    · rfl
  · rfl

/-- Finding or opening an account leaves nothing, or what opening it leaves. -/
theorem ensureAccount_left {ledger : LedgerPort (StateM World)} {input : NewAccount}
    (looks : ∀ world, (ledger.find input.code world).2 = world) (world : World) :
    (ensureAccount ledger input world).2 = world ∨
      (ensureAccount ledger input world).2 = (ledger.create input world).2 := by
  rw [ensureAccount_run]
  have still := looks world
  cases seen : ledger.find input.code world with
  | mk result middle =>
    obtain rfl : middle = world := by rw [← still, seen]
    rcases result with problem | _ | account
    · exact .inl rfl
    · right
      simp only
      rcases ledger.create input middle with ⟨problem | account, after⟩
      · by_cases conflict : problem.category = .conflict
        · simp only [if_pos conflict]
          exact looks after
        · simp only [if_neg conflict]
      · rfl
    · exact .inl rfl

/-- **Finding or opening an account** in the chart leaves it there, or leaves nothing. -/
theorem ensureAccount_ends (session : Session) (input : NewAccount) :
    Ends (ExceptT.mk (ensureAccount (port session) input))
      (Leaves (Ensured session input) fun _ => []) := by
  intro world
  show (∃ cause, ensureAccount (port session) input world = _) ∨
    ∃ value after, ensureAccount (port session) input world = _ ∧ _
  rw [ensureAccount_run]
  rcases find_looks session input.code world with
    ⟨problem, same⟩ | ⟨found, middle, same, is, still⟩
  · rw [show (port session).find input.code world = _ from same]
    exact .inl ⟨problem, rfl⟩
  · have asked : (port session).find input.code world = (.ok found, world) := by
      rw [← still]
      exact still ▸ same
    rw [asked]
    cases found with
    | some account =>
      obtain ⟨row, found, shown⟩ := Option.map_eq_some_iff.mp is.symm
      exact .inr ⟨account, world, rfl, fun _ => .stood row found shown.symm rfl,
        (List.append_nil _).symm⟩
    | none =>
      simp only
      rcases create_ends session input world with ⟨problem, same⟩ | ⟨account, after, same, did⟩
      · rw [show (port session).create input world = _ from same]
        -- whoever loses the race for the code looks again, and finds what stood before
        by_cases conflict : problem.category = .conflict
        · simp only [conflict, if_true, asked]
          exact .inl ⟨vanished input.code, rfl⟩
        · simp only [conflict, if_false]
          exact .inl ⟨problem, rfl⟩
      · rw [show (port session).create input world = _ from same]
        refine .inr ⟨account, after, rfl, fun sound => ?_, did.published⟩
        obtain ⟨row, ⟨valid, opened⟩, shown⟩ := did.changed sound
        exact .opened row valid opened shown

/-- In books that can be read the account of a code is found, if there is one. -/
theorem find_of_plain {session : Session} {world : World} (code : String)
    (reached : session.faults.blocked = false) (plain : world.books.strays = []) :
    (port session).find code world =
      (.ok ((world.books.accountByCode? (Text.trim code)).map AccountRow.shown), world) := by
  have looked : findByCode session code world = _ :=
    Action.lookUp_of_plain reached plain accountSheet _
  rw [port_find, shown, looked]
  rfl

/-- Where the code of an account is taken, the account is found and nothing is left. -/
theorem ensureAccount_found {session : Session} {input : NewAccount} {world : World}
    {row : AccountRow} (reached : session.faults.blocked = false)
    (plain : world.books.strays = [])
    (found : world.books.accountByCode? (Text.trim input.code) = some row) :
    ensureAccount (port session) input world = (.ok row.shown, world) := by
  rw [ensureAccount_run, find_of_plain input.code reached plain, found]
  rfl

/-- Where the storage is out of reach no account is found or opened. -/
theorem ensureAccount_of_blocked {session : Session} (blocked : session.faults.blocked = true)
    (input : NewAccount) (world : World) :
    ∃ problem, ExceptT.mk (ensureAccount (port session) input) world =
      (.error problem, world) := by
  have looked : findByCode session input.code world =
      (.error (StorageCause.ofFault .unreachable), world) := Action.atomically_of_blocked blocked
  refine ⟨(StorageCause.ofFault .unreachable : AccountError).problem, ?_⟩
  show ensureAccount (port session) input world = _
  rw [ensureAccount_run, port_find, shown, looked]
  rfl

/-! ### Ledgers kept elsewhere -/

/-- A ledger kept elsewhere, which changes nothing here. -/
def LedgerPort.elsewhere (find : String → Except Problem (Option LedgerAccount))
    (create : NewAccount → Except Problem LedgerAccount) : LedgerPort (StateM World) where
  find code := pure (find code)
  create input := pure (create input)

theorem elsewhere_looks (find : String → Except Problem (Option LedgerAccount))
    (create : NewAccount → Except Problem LedgerAccount) (input : NewAccount) :
    Ends (ExceptT.mk (ensureAccount (LedgerPort.elsewhere find create) input))
      fun world _ after => after = world := by
  intro world
  show (∃ cause, ensureAccount (LedgerPort.elsewhere find create) input world = _) ∨
    ∃ value after, ensureAccount (LedgerPort.elsewhere find create) input world = _ ∧ _
  rw [ensureAccount_run]
  have found :
      (LedgerPort.elsewhere find create).find input.code world = (find input.code, world) :=
    rfl
  have created :
      (LedgerPort.elsewhere find create).create input world = (create input, world) := rfl
  simp only [found]
  cases answered : find input.code with
  | error problem => exact .inl ⟨problem, rfl⟩
  | ok account =>
    cases account with
    | some account => exact .inr ⟨account, world, rfl, rfl⟩
    | none =>
      simp only [created]
      cases create input with
      | ok account => exact .inr ⟨account, world, rfl, rfl⟩
      | error problem =>
        by_cases conflict : problem.category = .conflict
        · simp only [conflict, if_true, found, answered]
          exact .inl ⟨vanished input.code, rfl⟩
        · simp only [conflict, if_false]
          exact .inl ⟨problem, rfl⟩

/-! ### Codes of wallets -/

theorem walletCode_toList (wallet : WalletId) :
    (walletCode wallet).toList = ['W', 'A', 'L', '-'] ++ wallet.uuid.digits := by
  have front : "WAL-".toList = ['W', 'A', 'L', '-'] := by decide
  rw [walletCode, Uuid.compactText, String.toList_append, front, String.toList_ofList]

/-- The code of a wallet is as it is stored. -/
theorem trim_walletCode (wallet : WalletId) :
    Text.trim (walletCode wallet) = walletCode wallet := by
  have filled : ['W', 'A', 'L', '-'].all fun char => !Text.isBlank char := by decide
  refine Text.trim_of_filled fun char member => ?_
  rw [walletCode_toList] at member
  rcases List.mem_append.mp member with front | digit
  · simpa using List.all_eq_true.mp filled char front
  · exact Text.isBlank_hexadecimal char digit

/-- **Wallets are told apart by the codes of their accounts.** -/
theorem walletCode_inj {first second : WalletId} (same : walletCode first = walletCode second) :
    first = second := by
  have digits : first.uuid.digits = second.uuid.digits := by
    have spelled := congrArg String.toList same
    rw [walletCode_toList, walletCode_toList] at spelled
    exact List.append_cancel_left spelled
  exact Id.ext (Uuid.ext (Text.hexadecimal_inj first.uuid.fits second.uuid.fits digits))

/-- **The account that stands for a wallet may always be opened**, whatever its identifier. -/
theorem walletAccount_valid (wallet : WalletId) {currency : String}
    (known : (Currency.read? currency).isSome) :
    (walletAccount wallet currency).validate = .ok () := by
  have length : (walletCode wallet).length = 36 := by
    rw [← String.length_toList, walletCode_toList, List.length_append, Uuid.digits,
      Text.length_hexadecimal]
    rfl
  have code : ((walletCode wallet).isEmpty ||
      decide (Ledger.greatestCodeLength < (walletCode wallet).length)) = false := by
    rw [Bool.or_eq_false_iff, String.isEmpty_eq_false_iff, length]
    refine ⟨fun none => ?_, rfl⟩
    rw [none] at length
    cases length
  have name : (Text.trim (walletAccount wallet currency).name).isEmpty = false := by
    have first : 'W' ∈ (walletAccount wallet currency).name.toList := by
      rw [walletAccount, String.toList_append]
      exact List.mem_append_left _ (by decide)
    exact String.isEmpty_eq_false_iff.mpr (Text.trim_ne_empty first (by decide))
  have spelled : Text.trim (walletAccount wallet currency).code = walletCode wallet :=
    trim_walletCode wallet
  unfold NewAccount.validate
  simp only [spelled, code, name, Bool.false_eq_true, if_false]
  refine if_neg fun unknown => ?_
  have none : Currency.read? currency = none := Option.isNone_iff_eq_none.mp unknown
  rw [none] at known
  cases known

end Passbook.Chart
