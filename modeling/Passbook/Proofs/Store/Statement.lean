/-
**What the statements ask and what they leave.**

* `insert_eq_ok`, `changeOne_eq_ok`, `remove_eq_ok`: a statement is carried out exactly when the
  storage does not refuse it and the rules of the table are kept, and then only the rows meant are
  changed;
* `of_changeOne`: what a change of the row under a key leaves.
-/

import Passbook.Proofs.Store.Rows
import Passbook.Proofs.Store.Work

namespace Passbook.Store

variable {ρ : Type} {faults : Faults} {sheet : Sheet ρ} {before after : Books}

/-- A row is added when the storage allows it, its figures fit together, it clashes with no other
row, and what it refers to is there. -/
theorem insert_eq_ok {row : ρ} {done : Unit} :
    insert faults sheet row before = .ok (done, after) ↔
      faults.refuses sheet.table .insert = false ∧ sheet.isFit before row = true ∧
        faults.rivals sheet.table = false ∧
        (∀ other ∈ sheet.rows before, sheet.clashes before row other = false) ∧
        sheet.isLinked (sheet.replace before (sheet.rows before ++ [row])) row = true ∧
        sheet.replace before (sheet.rows before ++ [row]) = after := by
  unfold insert
  simp only
  split
  · rename_i refused
    simp only [Bool.or_eq_true, Bool.not_eq_true'] at refused
    constructor
    · simp
    · rintro ⟨allowed, fit, _⟩
      simp [allowed, fit] at refused
  · rename_i allowed
    simp only [Bool.or_eq_true, Bool.not_eq_true', not_or, Bool.not_eq_true,
      Bool.not_eq_false] at allowed
    split
    · rename_i taken
      constructor
      · simp
      · rintro ⟨_, _, alone, unused, _⟩
        simp only [alone, Bool.false_or, List.any_eq_true] at taken
        obtain ⟨other, member, clash⟩ := taken
        rw [unused other member] at clash
        cases clash
    · rename_i unused
      simp only [Bool.or_eq_true, List.any_eq_true, not_or, not_exists, not_and,
        Bool.not_eq_true] at unused
      split
      · rename_i linked
        simp only [allowed, unused.1, linked, true_and, Except.ok.injEq, Prod.mk.injEq]
        exact ⟨fun same => ⟨unused.2, same⟩, fun same => same.2⟩
      · rename_i loose
        simp only [reduceCtorEq, false_iff]
        rintro ⟨_, _, _, _, linked, _⟩
        exact loose linked

/-- A row that clashes with another is no addition. -/
theorem insert_of_clash {row : ρ} (allowed : faults.refuses sheet.table .insert = false)
    (fit : sheet.isFit before row = true)
    (clash : (sheet.rows before).any (sheet.clashes before row) = true) :
    insert faults sheet row before = .error .notUnique := by
  simp [insert, allowed, fit, clash]

theorem allDistinct_iff {clashes : ρ → ρ → Bool} {rows : List ρ} :
    allDistinct clashes rows = true ↔
      rows.Pairwise fun first second => clashes first second = false := by
  induction rows with
  | nil => simp [allDistinct]
  | cons row rest ih =>
    rw [allDistinct, List.pairwise_cons, ← ih]
    simp

/-- Where no row is meant, nothing is changed. -/
theorem change_of_none {chosen : ρ → Bool} {alter : ρ → ρ}
    (none : (sheet.rows before).filter chosen = []) :
    change faults sheet chosen alter before = .ok (0, before) := by
  unfold change
  simp only [none, List.isEmpty_nil, if_true]

/-- Rows that are there are changed when the storage allows it and the rules of the table are
kept. -/
theorem change_eq_ok {chosen : ρ → Bool} {alter : ρ → ρ} {count : Nat}
    (some : (sheet.rows before).filter chosen ≠ []) :
    change faults sheet chosen alter before = .ok (count, after) ↔
      faults.refuses sheet.table .update = false ∧
        (∀ row ∈ sheet.rows before, chosen row = true → sheet.isFit before (alter row) = true) ∧
        allDistinct (sheet.clashes before)
          ((sheet.rows before).map fun row => if chosen row then alter row else row) = true ∧
        (∀ row ∈ sheet.rows before, chosen row = true →
          sheet.isLinked (sheet.replace before
            ((sheet.rows before).map fun row => if chosen row then alter row else row))
            (alter row) = true) ∧
        ((sheet.rows before).filter chosen).length = count ∧
        sheet.replace before
          ((sheet.rows before).map fun row => if chosen row then alter row else row) = after := by
  unfold change
  simp only [List.isEmpty_iff, if_neg some]
  split
  · rename_i refused
    simp only [reduceCtorEq, false_iff]
    rintro ⟨allowed, fit, _⟩
    rw [allowed, Bool.false_or] at refused
    obtain ⟨row, touched, unfit⟩ := List.any_eq_true.mp refused
    obtain ⟨member, picked⟩ := List.mem_filter.mp touched
    rw [fit row member picked] at unfit
    cases unfit
  · rename_i allowed
    simp only [Bool.or_eq_true, not_or, Bool.not_eq_true, List.any_eq_false, List.mem_filter,
      Bool.not_eq_true', Bool.not_eq_false, and_imp] at allowed
    split
    · rename_i clash
      simp only [reduceCtorEq, false_iff]
      rintro ⟨_, _, distinct, _⟩
      rw [distinct] at clash
      cases clash
    · rename_i distinct
      split
      · rename_i linked
        simp only [List.all_eq_true, List.mem_filter, and_imp] at linked
        simp only [Bool.not_eq_true, Bool.not_eq_false'] at distinct
        simp only [Except.ok.injEq, Prod.mk.injEq]
        exact ⟨fun same => ⟨allowed.1, allowed.2, distinct, linked, same⟩, fun same => same.2.2.2.2⟩
      · rename_i loose
        simp only [reduceCtorEq, false_iff]
        rintro ⟨_, _, _, linked, _⟩
        refine loose (List.all_eq_true.mpr fun row touched => ?_)
        exact linked row (List.mem_filter.mp touched).1 (List.mem_filter.mp touched).2

/-- One row is changed when it is there, the storage allows it, and the rules of the table are
kept. -/
theorem changeOne_eq_ok {chosen : ρ → Bool} {alter : ρ → ρ} {done : Unit} :
    changeOne faults sheet chosen alter before = .ok (done, after) ↔
      (∃ row ∈ sheet.rows before, chosen row = true) ∧
        faults.refuses sheet.table .update = false ∧
        (∀ row ∈ sheet.rows before, chosen row = true → sheet.isFit before (alter row) = true) ∧
        allDistinct (sheet.clashes before)
          ((sheet.rows before).map fun row => if chosen row then alter row else row) = true ∧
        (∀ row ∈ sheet.rows before, chosen row = true →
          sheet.isLinked (sheet.replace before
            ((sheet.rows before).map fun row => if chosen row then alter row else row))
            (alter row) = true) ∧
        sheet.replace before
          ((sheet.rows before).map fun row => if chosen row then alter row else row) = after := by
  unfold changeOne
  rw [Work.bind_eq_ok]
  constructor
  · rintro ⟨count, middle, ran, rest⟩
    by_cases none : (sheet.rows before).filter chosen = []
    · rw [change_of_none none] at ran
      cases ran
      rw [if_pos rfl] at rest
      exact absurd (Work.throw_eq_ok.mp rest) id
    · obtain ⟨allowed, fit, distinct, linked, rfl, rfl⟩ := (change_eq_ok none).mp ran
      rw [if_neg (List.length_eq_zero_iff.not.mpr none)] at rest
      obtain ⟨_, same⟩ := Work.pure_eq_ok.mp rest
      obtain ⟨row, touched⟩ := List.exists_mem_of_ne_nil _ none
      exact ⟨⟨row, List.mem_filter.mp touched⟩, allowed, fit, distinct, linked, same⟩
  · rintro ⟨⟨row, member, picked⟩, allowed, fit, distinct, linked, rfl⟩
    have some : (sheet.rows before).filter chosen ≠ [] :=
      List.ne_nil_of_mem (List.mem_filter.mpr ⟨member, picked⟩)
    refine ⟨_, _, (change_eq_ok some).mpr ⟨allowed, fit, distinct, linked, rfl, rfl⟩, ?_⟩
    rw [if_neg (List.length_eq_zero_iff.not.mpr some)]
    exact Work.pure_eq_ok.mpr ⟨rfl, rfl⟩

/-- **A change of the row under a key** finds the row, which fits with its change, and alters it. -/
theorem of_changeOne {κ : Type} [BEq κ] [LawfulBEq κ] [DecidableEq κ] {key : ρ → κ} {id : κ}
    {alter : ρ → ρ} {done : Unit}
    (ran : changeOne faults sheet (fun row => key row == id) alter before = .ok (done, after)) :
    (∃ row ∈ sheet.rows before, key row = id ∧ sheet.isFit before (alter row) = true) ∧
      after = sheet.replace before (altered key id alter (sheet.rows before)) := by
  obtain ⟨⟨row, member, chosen⟩, _, fit, _, _, same⟩ := changeOne_eq_ok.mp ran
  refine ⟨⟨row, member, eq_of_beq chosen, fit row member chosen⟩, ?_⟩
  rw [← same, altered]
  simp only [beq_iff_eq]

/-- Rows are removed when there are none, or the storage allows it and nothing refers to them. -/
theorem remove_eq_ok {referred : Books → ρ → Bool} {chosen : ρ → Bool} {count : Nat}
    (plain : before.strays = []) :
    remove faults sheet referred chosen before = .ok (count, after) ↔
      count = ((sheet.rows before).filter chosen).length ∧
        (((sheet.rows before).filter chosen = [] ∧ before = after) ∨
          ((sheet.rows before).filter chosen ≠ [] ∧
            faults.refuses sheet.table .delete = false ∧
            (∀ row ∈ sheet.rows before, chosen row = true → referred before row = false) ∧
            { sheet.replace before ((sheet.rows before).filter fun row => !chosen row) with
              strays := [] } = after)) := by
  unfold remove
  simp only [plain, List.filter_nil]
  split
  · rename_i none
    rw [List.isEmpty_iff] at none
    simp only [none, List.length_nil, Except.ok.injEq, Prod.mk.injEq, true_and, ne_eq,
      not_true_eq_false, false_and, or_false]
    exact ⟨fun same => ⟨same.1.symm, same.2⟩, fun same => ⟨same.1.symm, same.2⟩⟩
  · rename_i some
    rw [Bool.not_eq_true, List.isEmpty_eq_false_iff] at some
    split
    · rename_i refused
      simp [some, refused]
    · rename_i allowed
      split
      · rename_i used
        simp only [reduceCtorEq, false_iff]
        rintro ⟨_, ⟨none, _⟩ | ⟨_, _, free, _⟩⟩
        · exact some none
        · obtain ⟨row, member, refers⟩ := List.any_eq_true.mp used
          rw [free row (List.mem_filter.mp member).1 (List.mem_filter.mp member).2] at refers
          cases refers
      · rename_i free
        have unused :
            ∀ row ∈ sheet.rows before, chosen row = true → referred before row = false := by
          intro row member picked
          have := List.any_eq_false.mp (Bool.not_eq_true _ ▸ free) row
            (List.mem_filter.mpr ⟨member, picked⟩)
          simpa using this
        simp only [Except.ok.injEq, Prod.mk.injEq, some, false_and, false_or, ne_eq,
          not_false_eq_true, true_and]
        constructor
        · rintro ⟨rfl, rfl⟩
          exact ⟨rfl, by simpa using allowed, unused, rfl⟩
        · rintro ⟨rfl, _, _, same⟩
          exact ⟨rfl, same⟩

end Passbook.Store
