/-
**What the operations of the chart leave.**

* `Opened`: one account more, under an identifier and a code of its own, with nothing on it;
* `Changed`: the name or the status of one account, and nothing else of it;
* `createAccount_ends`, `updateAccount_ends`: the operations do one of these or nothing.
-/

import Passbook.Chart.Accounts
import Passbook.Proofs.Store.Leaves
import Passbook.Proofs.Store.Tables
import Passbook.Proofs.Verdict

namespace Passbook.Chart

open Passbook.Ledger (NewAccount)
open Passbook.Store
open Passbook.Store.Action (Ends Leaves)

/-- An account was opened. -/
structure Opened (session : Session) (input : NewAccount) (before : Books) (row : AccountRow)
    (after : Books) : Prop where
  issued : ∃ uuid, before.next? = some uuid ∧ row = newRow ⟨uuid⟩ session.now input
  newId : ∀ other ∈ before.accounts, other.id ≠ row.id
  newCode : ∀ other ∈ before.accounts, other.code ≠ row.code
  parent : ∀ parent ∈ input.parent, ∃ other ∈ after.accounts, other.id = parent
  left : after = { before with
    accounts := before.accounts ++ [row], issued := before.issued + 1 }

/-- The name or the status of an account was changed. -/
structure Changed (session : Session) (id : AccountId) (wanted : AccountChange) (before : Books)
    (row : AccountRow) (after : Books) : Prop where
  member : ∃ old ∈ before.accounts, old.id = id
  found : after.account? id = some row
  left : after = { before with
    accounts := altered AccountRow.id id (wanted.applyTo session.now) before.accounts }

variable {session : Session} {before after : Books}

/-! ### Units of work -/

theorem of_insertAccount {input : NewAccount} {row : AccountRow} (sound : Sound before)
    (ran : insertAccount session input before = .ok (row, after)) :
    Opened session input before row after := by
  simp only [insertAccount, Work.bind_eq_ok, Work.fresh_eq_ok, Work.mapError_eq_ok,
    Work.pure_eq_ok] at ran
  obtain ⟨uuid, _, ⟨issued, rfl⟩, _, middle, inserted, rfl, rfl⟩ := ran
  obtain ⟨_, _, _, alone, linked, rfl⟩ := insert_eq_ok.mp inserted
  have apart := fun other member => (accountSheet_clashes sound.plain).mp (alone other member)
  have parent := (accountSheet_isLinked (by exact sound.plain)).mp linked
  exact {
    issued := ⟨uuid, issued, rfl⟩
    newId := fun other member => (apart other member).1.symm
    newCode := fun other member => (apart other member).2.symm
    parent := parent
    left := rfl }

theorem of_writeAccount {id : AccountId} {wanted : AccountChange} {row : AccountRow}
    (ran : writeAccount session id wanted before = .ok (row, after)) :
    Changed session id wanted before row after := by
  simp only [writeAccount, Work.bind_eq_ok, Work.stored_eq_ok] at ran
  obtain ⟨_, middle, changed, rest⟩ := ran
  obtain ⟨⟨old, member, same, _⟩, left⟩ := of_changeOne changed
  obtain ⟨found, rfl⟩ := Work.of_found_lookUp (Work.bind_eq_ok.mpr rest)
  exact ⟨⟨old, member, same⟩, found, left⟩

/-! ### Soundness -/

theorem Opened.sound {input : NewAccount} {row : AccountRow}
    (did : Opened session input before row after) (sound : Sound before) : Sound after := by
  rw [did.left]
  exact (sound.addAccount did.newId did.newCode).reissued _

theorem Changed.sound {id : AccountId} {wanted : AccountChange} {row : AccountRow}
    (did : Changed session id wanted before row after) (sound : Sound before) : Sound after := by
  rw [did.left]
  refine sound.mapAccounts (fun row => ?_) fun row => ?_
  · by_cases chosen : row.id = id
    · rw [if_pos chosen]
      rfl
    · rw [if_neg chosen]
  · by_cases chosen : row.id = id
    · rw [if_pos chosen]
      rfl
    · rw [if_neg chosen]

/-! ### Operations -/

theorem findAccount_looks (id : AccountId) :
    Ends (findAccount session id) fun world row after =>
      world.books.account? id = row ∧ after = world :=
  .lookUp session accountSheet _

theorem getAccount_looks (id : AccountId) :
    Ends (getAccount session id) fun world row after =>
      world.books.account? id = some row ∧ after = world :=
  ((findAccount_looks id).after fun row => .found _ row).mono
    fun _ _ _ ⟨_, same, is, still⟩ => ⟨same.trans is, still⟩

theorem findByCode_looks (code : String) :
    Ends (findByCode session code) fun world row after =>
      world.books.accountByCode? (Text.trim code) = row ∧ after = world :=
  .lookUp session accountSheet _

theorem getByCode_looks (code : String) :
    Ends (getByCode session code) fun world row after =>
      world.books.accountByCode? (Text.trim code) = some row ∧ after = world :=
  ((findByCode_looks code).after fun row => .found _ row).mono
    fun _ _ _ ⟨_, same, is, still⟩ => ⟨same.trans is, still⟩

theorem ensureParent_looks (parent : Option AccountId) :
    Ends (ensureParent session parent) fun world _ after => True ∧ after = world := by
  cases parent with
  | none => exact (Ends.pure ()).mono fun _ _ _ did => ⟨trivial, did.2⟩
  | some id =>
    refine ((findAccount_looks id).after fun row =>
      (Ends.found (.parentNotFound id) row).after fun _ => Ends.pure ()).mono ?_
    rintro world _ after ⟨_, _, _, _, _, same⟩
    exact ⟨trivial, same⟩

/-- **Opening an account** leaves one account more or nothing. -/
theorem createAccount_ends (session : Session) (input : NewAccount) :
    Ends (createAccount session input)
      (Leaves (fun before row after => input.validate = .ok () ∧
        Opened session input before row after) fun _ => []) := by
  have writes : Ends (Action.atomically session (insertAccount session input))
      (Leaves (Opened session input) fun _ => []) := Ends.leaves session of_insertAccount
  unfold createAccount
  refine Ends.leavesAfter (fun _ => Opened session input) (Ends.verdict _) (fun _ => ?_)
    fun valid _ _ did => ⟨Verdict.mapError_eq_ok.mp valid, did⟩
  refine Ends.leavesAfter _ (findByCode_looks _) (fun row => ?_) fun _ _ _ did => did
  refine Ends.without _ fun _ => ?_
  exact Ends.leavesAfter _ (ensureParent_looks _) (fun _ => writes) fun _ _ _ did => did

/-- **Changing an account** leaves its name and status changed or nothing. -/
theorem updateAccount_ends (session : Session) (id : AccountId) (wanted : AccountChange) :
    Ends (updateAccount session id wanted) (Leaves (Changed session id wanted) fun _ => []) := by
  refine Ends.leavesAfter _ (getAccount_looks id)
    (fun row => Ends.leaves session fun _ => of_writeAccount) fun found same _ did => ?_
  subst same
  rw [(mem_of_account? found).2] at did
  exact did

end Passbook.Chart
