/-
**The names of accounts.**

An account is opened under a name that is not blank. Whoever changes it may name it anything.

* `Call.renaming?`: the name that an operation gives an account that stands;
* `Titled`: the name of an account is not blank, unless it is one of those given to it;
* `Deed.titled`: a deed other than changing an account keeps it so; `Call.titled`: and so does every
  operation, for the name that it gives;
* `play_titled`: so every blank name is one that an operation of the run gave.
-/

import Passbook.Proofs.Operation.Frame
import Passbook.Proofs.Operation.Run
import Passbook.Proofs.Text.Blank

namespace Passbook.Store

/-- The identifier of an account with its name. -/
def AccountRow.title (row : AccountRow) : AccountId × String := (row.id, row.name)

end Passbook.Store

namespace Passbook.Ledger

/-- A valid account that is asked for has a name. -/
theorem NewAccount.named_of_validate {account : NewAccount} (valid : account.validate = .ok ()) :
    Text.trim account.name ≠ "" := by
  intro blank
  unfold NewAccount.validate at valid
  simp only at valid
  split at valid
  · cases valid
  · rw [blank] at valid
    cases valid

end Passbook.Ledger

namespace Passbook.Operation

open Passbook.Store

/-- The name of an account is not blank, unless it is one of those given to it. -/
def Titled (given : List (AccountId × String)) (books : Books) : Prop :=
  ∀ title ∈ books.accounts.map AccountRow.title, Text.trim title.2 ≠ "" ∨ title ∈ given

section

variable {session : Session} {kind : DeedKind} {before after : Books}
  {given : List (AccountId × String)}

/-! ### Deeds -/

/-- An account that is opened has a name. -/
theorem titled_of_opened {input : Ledger.NewAccount} {row : AccountRow}
    (did : Chart.Opened session input before row after) (valid : input.validate = .ok ())
    (titled : Titled given before) : Titled given after := by
  obtain ⟨uuid, _, new⟩ := did.issued
  have named : Text.trim row.name ≠ "" := by
    rw [new]
    show Text.trim (Text.trim input.name) ≠ ""
    rw [Text.trim_trim]
    exact Ledger.NewAccount.named_of_validate valid
  intro title member
  rw [did.left, List.map_append, List.mem_append] at member
  rcases member with present | single
  · exact titled title present
  · rw [List.mem_singleton.mp single]
    exact .inl named

/-- An account that is changed keeps its name, or has the name that was given. -/
theorem titled_of_changed {id : AccountId} {wanted : Chart.AccountChange} {row : AccountRow}
    (did : Chart.Changed session id wanted before row after)
    (known : ∀ name ∈ wanted.name, (id, name) ∈ given) (titled : Titled given before) :
    Titled given after := by
  intro title member
  obtain ⟨account, present, rfl⟩ := List.mem_map.mp member
  rw [did.left] at present
  obtain ⟨old, stood, rfl⟩ := mem_altered.mp present
  by_cases chosen : old.id = id
  · rw [if_pos chosen]
    cases named : wanted.name with
    | none =>
      have kept : (wanted.applyTo session.now old).title = old.title := by
        simp [AccountRow.title, Chart.AccountChange.applyTo, named]
      rw [kept]
      exact titled _ (List.mem_map_of_mem stood)
    | some name =>
      have changed : (wanted.applyTo session.now old).title = (id, name) := by
        simp [AccountRow.title, Chart.AccountChange.applyTo, named, chosen]
      rw [changed]
      exact .inr (known name named)
  · rw [if_neg chosen]
    exact titled _ (List.mem_map_of_mem stood)

/-- **A deed other than changing an account** leaves no name blank that was not. -/
theorem Deed.titled (deed : Deed session kind before after) (other : kind ≠ .accountChanged)
    (titled : Titled given before) : Titled given after := by
  by_cases opening : kind = .accountOpened
  · subst opening
    cases deed with
    | accountOpened valid did => exact titled_of_opened did valid titled
  · have kept := deed.keeps_accounts AccountRow.title opening (fun is => absurd is other)
      fun _ _ _ => rfl
    rw [Titled, kept]
    exact titled

/-! ### Operations -/

/-- The name that an operation gives an account that stands. -/
def Call.renaming? : Call → Option (AccountId × String)
  | command _ (.updateAccount account wanted) => wanted.name.map fun name => (account, name)
  | _ => none

/-- Accounts are changed by one operation. -/
theorem Call.changes {call : Call} (member : .accountChanged ∈ call.kinds) :
    ∃ session account wanted, call = .command session (.updateAccount account wanted) := by
  cases call with
  | command session wanted =>
    cases wanted with
    | updateAccount account wanted => exact ⟨session, account, wanted, rfl⟩
    | _ => exact absurd member (by simp [Call.kinds, Command.kinds])
  | _ => exact absurd member (by simp [Call.kinds])

/-- **An operation leaves no name blank** but the one that it gives. -/
theorem Call.titled (call : Call) (known : ∀ title ∈ call.renaming?, title ∈ given) :
    Upholds (Titled given) call.run := by
  by_cases changing : .accountChanged ∈ call.kinds
  · obtain ⟨session, account, wanted, rfl⟩ := call.changes changing
    have named : ∀ name ∈ wanted.name, (account, name) ∈ given := fun name is =>
      known (account, name) (by simp [Call.renaming?, Option.mem_def.mp is])
    exact (Upholds.of_leaves (Chart.updateAccount_ends session account wanted) fun did =>
      titled_of_changed did named).answering
  · exact call.upholds fun allowed _ deed => deed.titled fun is => changing (is ▸ allowed)

end

/-! ### Runs -/

/-- **No account is without a name, but by an operation that named it so.** In every run from fresh
books the name of an account has a character that is not blank, unless it is, as it is written, the
name that some operation of the run gave the account. -/
theorem play_titled (supply : Supply) (calls : List Call) :
    ∀ row ∈ (play calls (.fresh supply)).books.accounts,
      Text.trim row.name ≠ "" ∨ (row.id, row.name) ∈ calls.filterMap Call.renaming? := by
  have start : Titled (calls.filterMap Call.renaming?) (World.fresh supply).books :=
    fun _ absent => nomatch absent
  have titled := play_upholds _ calls (fun call member =>
    call.titled fun title is => List.mem_filterMap.mpr ⟨call, member, is⟩) Sound.fresh start
  exact fun row member => titled row.title (List.mem_map_of_mem member)

/-- An account is opened, and then its name is changed to blanks. -/
def sampleRenaming : List Call :=
  [.command sampleSession (.createAccount ⟨"1000", "Cash", .asset, "USD", none⟩),
    .command sampleSession (.updateAccount ⟨sampleWallet.uuid⟩ ⟨some "  ", none⟩)]

/-- The account has a name when it is opened, and when it has none, this was given to it. -/
theorem play_titled_renaming :
    (∃ row ∈ (play (sampleRenaming.take 1) .fresh).books.accounts, Text.trim row.name ≠ "") ∧
      ∃ row ∈ (play sampleRenaming .fresh).books.accounts,
        Text.trim row.name = "" ∧ (row.id, row.name) ∈ sampleRenaming.filterMap Call.renaming? := by
  constructor
  · have there : ∃ row ∈ (play (sampleRenaming.take 1) .fresh).books.accounts, row.name = "Cash" := by
      decide
    have ungiven : (sampleRenaming.take 1).filterMap Call.renaming? = [] := rfl
    obtain ⟨row, member, _⟩ := there
    have titled := play_titled .ascending (sampleRenaming.take 1) row member
    rw [ungiven] at titled
    exact ⟨row, member, titled.resolve_right List.not_mem_nil⟩
  · have there : ∃ row ∈ (play sampleRenaming .fresh).books.accounts, Text.trim row.name = "" := by
      decide
    obtain ⟨row, member, blank⟩ := there
    have titled := play_titled .ascending sampleRenaming row member
    exact ⟨row, member, blank, titled.resolve_left fun named => named blank⟩

/-- **An account that was opened under a name may be left without one**: its opening asks for a
name, and its change does not. -/
theorem renamed_blank :
    ¬ ∀ row ∈ (play sampleRenaming .fresh).books.accounts, Text.trim row.name ≠ "" := by
  decide

end Passbook.Operation
