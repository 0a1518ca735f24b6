/-
**How the accounts of a chart stand below one another.**

* `Lasting`: what of an account is written once, its code, type, currency and parent;
* `Allowed`: the code is trimmed and of 1 to 50 characters, and the currency is a supported one;
* `Grown`: accounts keep what is written once and their order, and others come after them, each
  allowed and below none or below one that stands by then;
* `Rooted`: accounts in the order in which they came, each below none or below an earlier one;
* `Rooted.ends`: from any of them the parents come to an end after at most as many steps as there
  are accounts; `Rooted.acyclic`: so no account is above itself.
-/

import Passbook.Proofs.Chart.Port
import Passbook.Proofs.Text.Blank

namespace Passbook.Chart

open Passbook.Ledger (AccountType NewAccount)
open Passbook.Store

/-- What of an account is written once. -/
structure Lasting where
  id : AccountId
  code : String
  accountType : AccountType
  currency : String
  parent : Option AccountId
deriving DecidableEq

/-- What of an account is written once. -/
def lasting (row : AccountRow) : Lasting :=
  ⟨row.id, row.code, row.accountType, row.currency, row.parent⟩

/-- The same of all accounts, in the order in which they came. -/
def charted (books : Books) : List Lasting := books.accounts.map lasting

/-! ### What an account may be -/

/-- The code is trimmed and of 1 to 50 characters, and the currency is a supported one. -/
structure Allowed (account : Lasting) : Prop where
  trimmed : Text.trim account.code = account.code
  least : 1 ≤ account.code.length
  most : account.code.length ≤ 50
  supported : account.currency ∈ Currency.all.map Currency.code

/-- The capitals of a code that is read are the code of a supported currency. -/
theorem capitals_of_read? {text : String} {currency : Currency}
    (read : Currency.read? text = some currency) :
    Text.capitals text ∈ Currency.all.map Currency.code := by
  obtain ⟨member, same⟩ := mem_of_find? read
  rw [← eq_of_beq same]
  exact List.mem_map_of_mem member

/-- **An account that is asked for validly is written as an allowed one**: the rules look at the
code without its blanks and at the currency in capitals, and so they are stored. -/
theorem allowed_newRow {input : NewAccount} (valid : input.validate = .ok ()) (id : AccountId)
    (now : Calendar.Instant) : Allowed (lasting (newRow id now input)) := by
  unfold NewAccount.validate at valid
  simp only at valid
  split at valid
  · cases valid
  rename_i code
  split at valid
  · cases valid
  split at valid
  · cases valid
  rename_i currency
  simp only [Bool.or_eq_true, decide_eq_true_eq, not_or, Nat.not_lt, Bool.not_eq_true] at code
  obtain ⟨filled, most⟩ := code
  have nonempty : Text.trim input.code ≠ "" := fun same => by
    rw [same] at filled
    cases filled
  rw [Bool.not_eq_true, Option.isNone_eq_false_iff, Option.isSome_iff_exists] at currency
  obtain ⟨_, read⟩ := currency
  exact {
    trimmed := Text.trim_trim _
    least := Nat.one_le_iff_ne_zero.mpr fun none => nonempty (String.length_eq_zero_iff.mp none)
    most := most
    supported := capitals_of_read? read }

/-! ### Charts that grow -/

/-- Accounts keep what is written once and their order, and others come after them, each allowed
and below none or below one that stands by then. -/
inductive Grown (before : List Lasting) : List Lasting → Prop
  | same : Grown before before
  | add {accounts : List Lasting} {account : Lasting} (grown : Grown before accounts)
      (allowed : Allowed account)
      (below : ∀ parent ∈ account.parent, parent ∈ accounts.map Lasting.id) :
      Grown before (accounts ++ [account])

namespace Grown

variable {before middle after : List Lasting}

theorem andThen (first : Grown before middle) (second : Grown middle after) :
    Grown before after := by
  induction second with
  | same => exact first
  | add _ allowed below ih => exact .add ih allowed below

/-- No account is removed or changed. -/
theorem isPrefix (grown : Grown before after) : before <+: after := by
  induction grown with
  | same => exact List.prefix_rfl
  | add _ _ _ ih => exact ih.trans (List.prefix_append _ _)

/-- Allowed accounts are joined by allowed ones only. -/
theorem allowed (grown : Grown before after) (start : ∀ account ∈ before, Allowed account) :
    ∀ account ∈ after, Allowed account := by
  induction grown with
  | same => exact start
  | add _ allowed _ ih =>
    intro account member
    rcases List.mem_append.mp member with present | single
    · exact ih account present
    · rw [List.mem_singleton.mp single]
      exact allowed

end Grown

/-! ### Following parents -/

/-- Accounts in the order in which they came, each below none or below an earlier one. -/
inductive Rooted : List Lasting → Prop
  | empty : Rooted []
  | add {accounts : List Lasting} {account : Lasting} (rooted : Rooted accounts)
      (below : ∀ parent ∈ account.parent, parent ∈ accounts.map Lasting.id) :
      Rooted (accounts ++ [account])

theorem Grown.rooted {before after : List Lasting} (grown : Grown before after)
    (start : Rooted before) : Rooted after := by
  induction grown with
  | same => exact start
  | add _ _ below ih => exact .add ih below

/-- The parent of the account of an identifier. -/
def parentOf (accounts : List Lasting) (id : AccountId) : Option AccountId :=
  (accounts.find? fun account => account.id == id).bind Lasting.parent

/-- The account that so many steps from parent to parent lead to. -/
def ancestor (accounts : List Lasting) : Nat → AccountId → Option AccountId
  | 0, id => some id
  | steps + 1, id => (parentOf accounts id).bind (ancestor accounts steps)

variable {accounts : List Lasting} {id : AccountId}

theorem ancestor_add (first second : Nat) :
    ancestor accounts (first + second) id =
      (ancestor accounts first id).bind (ancestor accounts second) := by
  induction first generalizing id with
  | zero =>
    rw [Nat.zero_add]
    rfl
  | succ first ih =>
    rw [Nat.succ_add, ancestor, ancestor, Option.bind_assoc]
    congr 1
    funext parent
    exact ih

/-- Where the parents have come to an end, there are none further up. -/
theorem ancestor_of_le {first second : Nat} (ended : ancestor accounts first id = none)
    (later : first ≤ second) : ancestor accounts second id = none := by
  obtain ⟨more, rfl⟩ := Nat.exists_eq_add_of_le later
  rw [ancestor_add, ended]
  rfl

/-- An account that comes later is the parent of none that stand. -/
theorem parentOf_append (account : Lasting) (member : id ∈ accounts.map Lasting.id) :
    parentOf (accounts ++ [account]) id = parentOf accounts id := by
  obtain ⟨old, present, rfl⟩ := List.mem_map.mp member
  have found : (accounts.find? fun other => other.id == old.id).isSome :=
    List.find?_isSome.mpr ⟨old, present, beq_self_eq_true _⟩
  unfold parentOf
  rw [List.find?_append, Option.or_of_isSome found]

/-- The parent of the last account is the one written on it. -/
theorem parentOf_last {account : Lasting} (new : account.id ∉ accounts.map Lasting.id) :
    parentOf (accounts ++ [account]) account.id = account.parent := by
  have missing : (accounts.find? fun other => other.id == account.id) = none := by
    refine List.find?_eq_none.mpr fun other present same => new ?_
    rw [← eq_of_beq same]
    exact List.mem_map_of_mem present
  unfold parentOf
  rw [List.find?_append, missing, Option.none_or, List.find?_singleton,
    if_pos (beq_self_eq_true _), Option.bind_some]

namespace Rooted

/-- The parent of an account is an account. -/
theorem parent_mem (rooted : Rooted accounts) {account : Lasting} (member : account ∈ accounts)
    {parent : AccountId} (link : account.parent = some parent) :
    parent ∈ accounts.map Lasting.id := by
  induction rooted with
  | empty => cases member
  | add _ below ih =>
    rw [List.map_append]
    rcases List.mem_append.mp member with present | single
    · exact List.mem_append_left _ (ih present)
    · rw [List.mem_singleton.mp single] at link
      exact List.mem_append_left _ (below parent link)

theorem parentOf_mem (rooted : Rooted accounts) {parent : AccountId}
    (link : parentOf accounts id = some parent) : parent ∈ accounts.map Lasting.id := by
  obtain ⟨account, found, named⟩ := Option.bind_eq_some_iff.mp link
  exact rooted.parent_mem (List.mem_of_find?_eq_some found) named

/-- Ancestors of accounts that stand are not changed by one that comes later. -/
theorem ancestor_append (rooted : Rooted accounts) (account : Lasting) (steps : Nat)
    (member : id ∈ accounts.map Lasting.id) :
    ancestor (accounts ++ [account]) steps id = ancestor accounts steps id := by
  induction steps generalizing id with
  | zero => rfl
  | succ steps ih =>
    rw [ancestor, ancestor, parentOf_append account member]
    cases link : parentOf accounts id with
    | none => rfl
    | some parent => exact ih (rooted.parentOf_mem link)

/-- **From any account the parents come to an end**, after at most as many steps as there are
accounts. -/
theorem ends (rooted : Rooted accounts) (unique : (accounts.map Lasting.id).Nodup)
    (member : id ∈ accounts.map Lasting.id) : ancestor accounts accounts.length id = none := by
  -- by the order in which the accounts came: the last one is the parent of no other
  induction rooted generalizing id with
  | empty => cases member
  | @add accounts account rooted below ih =>
    rw [List.map_append, List.map_singleton, List.nodup_append] at unique
    obtain ⟨unique, -, apart⟩ := unique
    have new : account.id ∉ accounts.map Lasting.id := fun present =>
      apart _ present _ (List.mem_singleton_self _) rfl
    rw [List.length_append, List.length_singleton]
    rw [List.map_append] at member
    rcases List.mem_append.mp member with present | single
    · rw [rooted.ancestor_append account _ present]
      exact ancestor_of_le (ih unique present) (Nat.le_succ _)
    · rw [List.mem_singleton.mp single, ancestor, parentOf_last new]
      cases link : account.parent with
      | none => rfl
      | some parent =>
        have stands := below parent link
        rw [Option.bind_some, rooted.ancestor_append account _ stands]
        exact ih unique stands

/-- **No account is above itself.** -/
theorem acyclic (rooted : Rooted accounts) (unique : (accounts.map Lasting.id).Nodup)
    (member : id ∈ accounts.map Lasting.id) {steps : Nat} (least : 0 < steps) :
    ancestor accounts steps id ≠ some id := by
  intro cycle
  -- a way round could be gone any number of times
  have round : ∀ times, ancestor accounts (steps * times) id = some id := by
    intro times
    induction times with
    | zero => rfl
    | succ times ih =>
      rw [Nat.mul_succ, ancestor_add, ih]
      exact cycle
  have ended := ancestor_of_le (rooted.ends unique member)
    (Nat.le_mul_of_pos_left accounts.length least)
  rw [round] at ended
  cases ended

end Rooted

end Passbook.Chart
