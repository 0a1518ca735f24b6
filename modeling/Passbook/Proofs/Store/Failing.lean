/-
**What units of work and operations fail for.**

* `Work.failsOnly_bind`, `Action.failsOnly_bind`: from given books, or in a given world, a sequence
  fails only for what its parts fail for, and the like for what it is made of;
* `insert_failsOnly`, `insert_failsOnly_of_alone`, `changeOne_failsOnly`: where the rules of a table
  are kept, a statement fails only because the storage refuses it, or because a key is taken;
* `exists_done`: so it is done where the storage refuses nothing.
-/

import Passbook.Proofs.Store.Lookup

namespace Passbook.Store

open Passbook.Verdict (FailsOnly)

/-! ### Units of work -/

namespace Work

variable {ε ε' α β ρ : Type} {allowed : ε → Prop} {books : Books}

theorem failsOnly_bind {work : Work ε α} {next : α → Work ε β}
    (first : FailsOnly allowed (work books))
    (second : ∀ value after, work books = .ok (value, after) →
      FailsOnly allowed (next value after)) :
    FailsOnly allowed ((work >>= next) books) :=
  FailsOnly.bind first fun outcome ran => second outcome.1 outcome.2 ran

theorem failsOnly_pure (value : α) : FailsOnly allowed ((pure value : Work ε α) books) :=
  FailsOnly.ok (value, books)

theorem failsOnly_map {work : Work ε α} {change : α → β} (fails : FailsOnly allowed (work books)) :
    FailsOnly allowed ((change <$> work) books) := by
  rw [← bind_pure_comp]
  exact failsOnly_bind fails fun _ _ _ => failsOnly_pure _

theorem failsOnly_mapError {change : ε' → ε} {work : Work ε' α}
    (fails : FailsOnly (fun cause => allowed (change cause)) (work books)) :
    FailsOnly allowed (mapError change work books) :=
  fails.mapError

theorem failsOnly_stored [StorageCause ε] {work : Work StorageFault α}
    (fails : FailsOnly (fun fault => allowed (StorageCause.ofFault fault)) (work books)) :
    FailsOnly allowed ((stored work : Work ε α) books) :=
  fails.mapError

theorem failsOnly_verdict {result : Except ε α} (fails : FailsOnly allowed result) :
    FailsOnly allowed (verdict result books) :=
  fails.map

theorem failsOnly_found {cause : ε} {row : Option α} (may : row = none → allowed cause) :
    FailsOnly allowed (found cause row books) := by
  cases row with
  | none => exact .error (may rfl)
  | some value => exact .ok (value, books)

theorem failsOnly_get : FailsOnly allowed ((get : Work ε Books) books) := .ok (books, books)

theorem failsOnly_fresh [StorageCause ε]
    (may : books.next? = none → allowed (StorageCause.ofFault .refused)) :
    FailsOnly allowed ((fresh : Work ε Uuid) books) := by
  unfold fresh
  cases issued : books.next? with
  | none => exact .error (may issued)
  | some uuid => exact .ok _

theorem failsOnly_lookUp [StorageCause ε] (plain : books.strays = []) {sheet : Sheet ρ}
    {choose : Books → Option ρ} :
    FailsOnly allowed ((lookUp sheet choose : Work ε (Option ρ)) books) :=
  .of_eq_ok (lookUp_of_plain plain sheet choose)

theorem failsOnly_gather [StorageCause ε] (plain : books.strays = []) {sheet : Sheet ρ}
    {choose : Books → List ρ} :
    FailsOnly allowed ((gather sheet choose : Work ε (List ρ)) books) :=
  .of_eq_ok (gather_of_plain plain sheet choose)

/-- A row that has to be there is missed or found. -/
theorem failsOnly_found_lookUp [StorageCause ε] (plain : books.strays = []) {sheet : Sheet ρ}
    {choose : Books → Option ρ} {cause : ε} (may : choose books = none → allowed cause) :
    FailsOnly allowed ((lookUp sheet choose >>= found cause : Work ε ρ) books) :=
  failsOnly_bind (failsOnly_lookUp plain) fun row after ran => by
    obtain ⟨rfl, rfl⟩ := of_lookUp ran
    exact failsOnly_found may

end Work

/-! ### Statements -/

section

variable {ρ : Type} {faults : Faults} {sheet : Sheet ρ} {books : Books}

/-- A statement that only the storage can refuse is done where the storage does not. -/
theorem exists_done {statement : Work StorageFault Unit} {refuses : Bool}
    (fails : FailsOnly (fun fault => fault = .refused ∧ refuses = true) (statement books))
    (allowed : refuses = false) : ∃ after, statement books = .ok ((), after) := by
  obtain ⟨outcome, ran⟩ := fails.exists_ok fun _ refused =>
    Bool.false_ne_true (allowed.symm.trans refused.2)
  exact ⟨outcome.2, ran⟩

/-- A statement that keeps the rules of its table is refused by the storage only, or finds its key
taken. -/
theorem insert_failsOnly {row : ρ} (fit : sheet.isFit books row = true)
    (linked : sheet.isLinked (sheet.replace books (sheet.rows books ++ [row])) row = true) :
    FailsOnly (fun fault => fault = .notUnique ∨
        fault = .refused ∧ faults.refuses sheet.table .insert = true)
      (insert faults sheet row books) := by
  unfold insert
  simp only [fit, linked, Bool.not_true, Bool.or_false, if_true]
  cases refused : faults.refuses sheet.table .insert with
  | true => exact .error (.inr ⟨rfl, rfl⟩)
  | false =>
    simp only [Bool.false_eq_true, if_false]
    split
    · exact .error (.inl rfl)
    · exact .ok _

/-- A row that moreover clashes with no other finds its key taken only by a rival. -/
theorem insert_failsOnly_of_alone {row : ρ} (fit : sheet.isFit books row = true)
    (alone : ∀ other ∈ sheet.rows books, sheet.clashes books row other = false)
    (linked : sheet.isLinked (sheet.replace books (sheet.rows books ++ [row])) row = true) :
    FailsOnly (fun fault => fault = .notUnique ∧ faults.rivals sheet.table = true ∨
        fault = .refused ∧ faults.refuses sheet.table .insert = true)
      (insert faults sheet row books) := by
  intro fault failed
  rcases insert_failsOnly fit linked fault failed with rfl | refused
  · refine .inl ⟨rfl, ?_⟩
    by_contra none
    rw [Bool.not_eq_true] at none
    unfold insert at failed
    simp only [fit, linked, none, Bool.not_true, Bool.or_false, Bool.false_or, if_true] at failed
    have unused : (sheet.rows books).any (sheet.clashes books row) = false :=
      List.any_eq_false.mpr fun other member => by simp [alone other member]
    rw [unused] at failed
    split at failed <;> cases failed
  · exact .inr refused

/-- A change of rows that are there which keeps the rules of their table is refused by the storage
only. -/
theorem changeOne_failsOnly {chosen : ρ → Bool} {alter : ρ → ρ}
    (present : ∃ row ∈ sheet.rows books, chosen row = true)
    (fit : ∀ row ∈ sheet.rows books, chosen row = true → sheet.isFit books (alter row) = true)
    (distinct : allDistinct (sheet.clashes books)
      ((sheet.rows books).map fun row => if chosen row then alter row else row) = true)
    (linked : ∀ row ∈ sheet.rows books, chosen row = true →
      sheet.isLinked (sheet.replace books
        ((sheet.rows books).map fun row => if chosen row then alter row else row))
        (alter row) = true) :
    FailsOnly (fun fault => fault = .refused ∧ faults.refuses sheet.table .update = true)
      (changeOne faults sheet chosen alter books) := by
  cases refused : faults.refuses sheet.table .update with
  | false =>
    have done : changeOne faults sheet chosen alter books = .ok ((), _) :=
      changeOne_eq_ok.mpr ⟨present, refused, fit, distinct, linked, rfl⟩
    exact .of_eq_ok done
  | true =>
    obtain ⟨row, member, picked⟩ := present
    have some : (sheet.rows books).filter chosen ≠ [] :=
      List.ne_nil_of_mem (List.mem_filter.mpr ⟨member, picked⟩)
    refine Work.failsOnly_bind ?_ fun count after ran => ?_
    · unfold change
      simp only [List.isEmpty_iff, if_neg some, refused, Bool.true_or, if_true]
      exact .error ⟨rfl, trivial⟩
    · rw [((change_eq_ok some).mp ran).1] at refused
      cases refused

end

/-! ### Operations -/

namespace Action

variable {ε ε' α β ρ : Type} {allowed : ε → Prop} {world : World}

theorem failsOnly_bind {action : Action ε α} {next : α → Action ε β}
    (first : FailsOnly allowed (action world).1)
    (second : ∀ value after, action world = (.ok value, after) →
      FailsOnly allowed (next value after).1) :
    FailsOnly allowed ((action >>= next) world).1 := by
  cases ended : action world with
  | mk result after =>
    rw [ended] at first
    cases result with
    | error cause =>
      rw [bind_of_error ended]
      exact .error (first cause rfl)
    | ok value =>
      rw [bind_of_ok ended]
      exact second value after ended

/-- An operation after one of which it is known what it does. -/
theorem failsOnly_after {part : World → α → World → Prop} {action : Action ε α}
    {next : α → Action ε β} (ends : Ends action part) (first : FailsOnly allowed (action world).1)
    (second : ∀ value after, part world value after → FailsOnly allowed (next value after).1) :
    FailsOnly allowed ((action >>= next) world).1 :=
  failsOnly_bind first fun value after done => by
    have did := ends.part_of_ok (congrArg Prod.fst done)
    rw [done] at did
    exact second value after did

/-- A unit of work fails for what it fails for by itself, or because the storage is out of reach. -/
theorem failsOnly_atomically_of [StorageCause ε] {session : Session} {work : Work ε α}
    (unreachable : session.faults.blocked = true → allowed (StorageCause.ofFault .unreachable))
    (fails : FailsOnly allowed (work world.books)) :
    FailsOnly allowed (atomically session work world).1 := by
  unfold atomically
  cases blocked : session.faults.blocked with
  | true => exact .error (unreachable blocked)
  | false =>
    simp only [Bool.false_eq_true, if_false]
    cases ran : work world.books with
    | error cause => exact .error (fails cause ran)
    | ok outcome => exact .ok _

theorem failsOnly_atomically [StorageCause ε] {session : Session} {work : Work ε α}
    (unreachable : allowed (StorageCause.ofFault .unreachable))
    (fails : FailsOnly allowed (work world.books)) :
    FailsOnly allowed (atomically session work world).1 :=
  failsOnly_atomically_of (fun _ => unreachable) fails

theorem failsOnly_mapError {change : ε' → ε} {action : Action ε' α}
    (fails : FailsOnly (fun cause => allowed (change cause)) (action world).1) :
    FailsOnly allowed (mapError change action world).1 :=
  fails.mapError

theorem failsOnly_verdict {result : Except ε α} (fails : FailsOnly allowed result) :
    FailsOnly allowed (verdict result world).1 :=
  fails

theorem failsOnly_found {cause : ε} {row : Option α} (may : row = none → allowed cause) :
    FailsOnly allowed (found cause row world).1 := by
  cases row with
  | none => exact .error (may rfl)
  | some value => exact .ok value

theorem failsOnly_lookUp [StorageCause ε] {session : Session} (plain : world.books.strays = [])
    (unreachable : allowed (StorageCause.ofFault .unreachable)) {sheet : Sheet ρ}
    {choose : Books → Option ρ} :
    FailsOnly allowed (lookUp session sheet choose world : Except ε (Option ρ) × World).1 :=
  failsOnly_atomically unreachable (Work.failsOnly_lookUp plain)

end Action

end Passbook.Store
