/-
**Rows of a table: those under a key, and sums over them.**

* `altered`: the rows with those under a key altered. What an alteration keeps of a row it keeps of
  the table (`map_altered`);
* `eq_of_key`: where keys are unique, a key is one row;
* `total`: the sum of a figure over rows, and what altering, adding and removing rows does to it;
  `total_at_key`: that over the rows under a key;
* `total_by_key`: a sum over items may be taken row by row, an item going to the row it belongs to.
-/

import Mathlib.Algebra.BigOperators.Group.List.Basic
import Mathlib.Algebra.Ring.Int.Defs
import Mathlib.Data.List.Nodup

namespace Passbook.Store

variable {κ ρ σ ι : Type}

/-! ### Rows by their keys -/

/-- Where keys are unique, a key is one row. -/
theorem eq_of_key {key : ρ → κ} {rows : List ρ} (unique : (rows.map key).Nodup) {row other : ρ}
    (member : row ∈ rows) (member' : other ∈ rows) (same : key row = key other) : row = other :=
  List.inj_on_of_nodup_map unique member member' same

/-- A row added under an unused key leaves keys unique. -/
theorem nodup_append_row {key : ρ → κ} {rows : List ρ} {row : ρ} (unique : (rows.map key).Nodup)
    (unused : ∀ other ∈ rows, key other ≠ key row) : ((rows ++ [row]).map key).Nodup := by
  rw [List.map_append, List.nodup_append]
  refine ⟨unique, List.nodup_singleton _, fun first member second single => ?_⟩
  obtain ⟨other, present, rfl⟩ := List.mem_map.mp member
  rw [List.mem_singleton.mp single]
  exact unused other present

/-- Where no row is chosen, all are left. -/
theorem filter_not_of_none {chosen : ρ → Bool} {rows : List ρ} (none : rows.filter chosen = []) :
    (rows.filter fun row => !chosen row) = rows := by
  rw [List.filter_eq_self]
  intro row member
  have absent := List.filter_eq_nil_iff.mp none row member
  rw [Bool.not_eq_true] at absent
  rw [absent]
  rfl

section Altered

variable [DecidableEq κ]

/-- The rows with those under a key altered. -/
def altered (key : ρ → κ) (id : κ) (alter : ρ → ρ) (rows : List ρ) : List ρ :=
  rows.map fun row => if key row = id then alter row else row

variable {key : ρ → κ} {id : κ} {alter : ρ → ρ} {rows : List ρ}

theorem mem_altered {row : ρ} :
    row ∈ altered key id alter rows ↔
      ∃ old ∈ rows, (if key old = id then alter old else old) = row :=
  List.mem_map

/-- The rows under a key may be told by a test. -/
theorem map_eq_altered [BEq κ] [LawfulBEq κ] :
    (rows.map fun row => if (key row == id) = true then alter row else row) =
      altered key id alter rows := by
  simp only [altered, beq_iff_eq]

/-- What an alteration keeps of a row it keeps of the table. -/
theorem map_altered (view : ρ → σ) (keeps : ∀ row, view (alter row) = view row) :
    (altered key id alter rows).map view = rows.map view := by
  rw [altered, List.map_map]
  refine List.map_congr_left fun row _ => ?_
  by_cases chosen : key row = id
  · simp [chosen, keeps]
  · simp [chosen]

/-- What is kept of the one row under a key is kept of the table. -/
theorem map_altered_row (view : ρ → σ) (unique : (rows.map key).Nodup) {row : ρ}
    (member : row ∈ rows) (keeps : view (alter row) = view row) :
    (altered key (key row) alter rows).map view = rows.map view := by
  rw [altered, List.map_map]
  refine List.map_congr_left fun other present => ?_
  by_cases chosen : key other = key row
  · obtain rfl := eq_of_key unique present member chosen
    simp [keeps]
  · simp [chosen]

/-- Where keys are unique, altering the rows under the key of a row alters this row only. -/
theorem altered_middle {front back : List ρ} {row : ρ}
    (unique : ((front ++ row :: back).map key).Nodup) :
    altered key (key row) alter (front ++ row :: back) = front ++ alter row :: back := by
  have apart : ∀ other, other ∈ front ∨ other ∈ back → key other ≠ key row := by
    rw [List.map_append, List.map_cons, List.nodup_middle, List.nodup_cons, ← List.map_append]
      at unique
    intro other member same
    exact unique.1 (same ▸ List.mem_map_of_mem (List.mem_append.mpr member))
  have rest : ∀ rows, (∀ other ∈ rows, key other ≠ key row) →
      altered key (key row) alter rows = rows := fun rows others =>
    (List.map_congr_left fun other member => if_neg (others other member)).trans (List.map_id _)
  rw [altered, List.map_append, List.map_cons, if_pos rfl]
  exact congrArg₂ _ (rest front fun other member => apart other (.inl member))
    (congrArg _ (rest back fun other member => apart other (.inr member)))

/-- Rows elsewhere stay. -/
theorem mem_altered_of_ne {row : ρ} (member : row ∈ rows) (other : key row ≠ id) :
    row ∈ altered key id alter rows :=
  mem_altered.mpr ⟨row, member, if_neg other⟩

/-- The row under the key is altered. -/
theorem alter_mem_altered {row : ρ} (member : row ∈ rows) (chosen : key row = id) :
    alter row ∈ altered key id alter rows :=
  mem_altered.mpr ⟨row, member, if_pos chosen⟩

end Altered

/-! ### Sums -/

/-- The sum of a figure over rows. -/
def total (figure : ρ → Int) (rows : List ρ) : Int := (rows.map figure).sum

@[simp]
theorem total_nil (figure : ρ → Int) : total figure [] = 0 := rfl

@[simp]
theorem total_cons (figure : ρ → Int) (row : ρ) (rows : List ρ) :
    total figure (row :: rows) = figure row + total figure rows := by
  simp [total]

@[simp]
theorem total_append (figure : ρ → Int) (rows rows' : List ρ) :
    total figure (rows ++ rows') = total figure rows + total figure rows' := by
  simp [total]

theorem total_congr {figure figure' : ρ → Int} {rows : List ρ}
    (same : ∀ row ∈ rows, figure row = figure' row) : total figure rows = total figure' rows := by
  rw [total, total, List.map_congr_left same]

theorem total_eq_zero {figure : ρ → Int} {rows : List ρ} (none : ∀ row ∈ rows, figure row = 0) :
    total figure rows = 0 := by
  induction rows with
  | nil => rfl
  | cons row rows ih =>
    rw [total_cons, none row List.mem_cons_self,
      ih fun other member => none other (List.mem_cons_of_mem _ member), add_zero]

theorem total_nonneg {figure : ρ → Int} {rows : List ρ} (each : ∀ row ∈ rows, 0 ≤ figure row) :
    0 ≤ total figure rows := by
  induction rows with
  | nil => exact Int.le_refl 0
  | cons row rows ih =>
    rw [total_cons]
    exact Int.add_nonneg (each row List.mem_cons_self)
      (ih fun other member => each other (List.mem_cons_of_mem _ member))

theorem total_add (figure figure' : ρ → Int) (rows : List ρ) :
    total (fun row => figure row + figure' row) rows = total figure rows + total figure' rows := by
  induction rows with
  | nil => rfl
  | cons row rows ih =>
    rw [total_cons, total_cons, total_cons, ih]
    omega

theorem total_sub (figure figure' : ρ → Int) (rows : List ρ) :
    total (fun row => figure row - figure' row) rows = total figure rows - total figure' rows := by
  induction rows with
  | nil => rfl
  | cons row rows ih =>
    rw [total_cons, total_cons, total_cons, ih]
    omega

theorem total_map (figure : σ → Int) (change : ρ → σ) (rows : List ρ) :
    total figure (rows.map change) = total (figure ∘ change) rows := by
  rw [total, total, List.map_map]

theorem total_perm {figure : ρ → Int} {rows rows' : List ρ} (same : rows.Perm rows') :
    total figure rows = total figure rows' :=
  (same.map figure).sum_eq

/-- A sum over some of the rows is one over all of them in which the others count nothing. -/
theorem total_filter (figure : ρ → Int) (chosen : ρ → Bool) (rows : List ρ) :
    total figure (rows.filter chosen) =
      total (fun row => if chosen row then figure row else 0) rows := by
  induction rows with
  | nil => rfl
  | cons row rows ih =>
    rw [List.filter_cons, total_cons, ← ih]
    by_cases kept : chosen row
    · rw [if_pos kept, if_pos kept, total_cons]
    · rw [if_neg kept, if_neg kept, zero_add]

/-- Altering the one row under a key changes a sum by what the row changes. -/
theorem total_altered [DecidableEq κ] {key : ρ → κ} {alter : ρ → ρ} {rows : List ρ} {row : ρ}
    (figure : ρ → Int) (unique : (rows.map key).Nodup) (member : row ∈ rows) :
    total figure (altered key (key row) alter rows) =
      total figure rows + (figure (alter row) - figure row) := by
  induction rows with
  | nil => cases member
  | cons first rest ih =>
    rw [List.map_cons, List.nodup_cons] at unique
    rw [altered, List.map_cons, total_cons, total_cons]
    rcases List.mem_cons.mp member with rfl | later
    · have others : altered key (key row) alter rest = rest := by
        refine (List.map_congr_left fun other present => if_neg fun same => ?_).trans
          (List.map_id _)
        exact unique.1 (same ▸ List.mem_map_of_mem present)
      rw [if_pos rfl]
      rw [altered] at others
      rw [others]
      omega
    · have different : key first ≠ key row := fun same =>
        unique.1 (same ▸ List.mem_map_of_mem later)
      have rest := ih unique.2 later
      rw [altered] at rest
      rw [if_neg different, rest]
      omega

/-- Where keys are unique, a sum over the rows under a key is the figure of the one row. -/
theorem total_at_key [DecidableEq κ] {key : ρ → κ} {rows : List ρ} {row : ρ} (figure : ρ → Int)
    (unique : (rows.map key).Nodup) (member : row ∈ rows) :
    total (fun other => if key other = key row then figure other else 0) rows = figure row := by
  induction rows with
  | nil => cases member
  | cons first rest ih =>
    rw [List.map_cons, List.nodup_cons] at unique
    rw [total_cons]
    rcases List.mem_cons.mp member with rfl | later
    · have others :
          total (fun other => if key other = key row then figure other else 0) rest = 0 := by
        refine total_eq_zero fun other present => if_neg fun same => unique.1 ?_
        rw [← same]
        exact List.mem_map_of_mem present
      rw [if_pos rfl, others, add_zero]
    · have different : key first ≠ key row := fun same =>
        unique.1 (same ▸ List.mem_map_of_mem later)
      rw [if_neg different, zero_add, ih unique.2 later]

/-- One item goes to the one row that it belongs to. -/
theorem total_single [DecidableEq κ] {key : ρ → κ} {rows : List ρ} (counts : ρ → Bool)
    (unique : (rows.map key).Nodup) (owner : κ) (amount : Int) :
    total (fun row => if counts row then (if owner = key row then amount else 0) else 0) rows =
      if rows.any (fun row => owner == key row && counts row) then amount else 0 := by
  induction rows with
  | nil => rfl
  | cons row rows ih =>
    rw [List.map_cons, List.nodup_cons] at unique
    rw [total_cons, ih unique.2, List.any_cons]
    by_cases own : owner = key row
    · subst own
      have absent : rows.any (fun other => key row == key other && counts other) = false := by
        rw [List.any_eq_false]
        intro other present both
        have same : key row = key other := by simpa using (Bool.and_eq_true_iff.mp both).1
        exact unique.1 (same ▸ List.mem_map_of_mem present)
      simp [absent]
    · simp [own]

/-- **A sum over items may be taken row by row**, an item going to the row it belongs to. -/
theorem total_by_key [DecidableEq κ] {key : ρ → κ} {rows : List ρ} (counts : ρ → Bool)
    (unique : (rows.map key).Nodup) (owner : ι → κ) (figure : ι → Int) (items : List ι) :
    total (fun row => if counts row then
        total (fun item => if owner item = key row then figure item else 0) items else 0) rows =
      total (fun item => if rows.any (fun row => owner item == key row && counts row)
        then figure item else 0) items := by
  induction items with
  | nil => simp [total_eq_zero]
  | cons item items ih =>
    rw [total_cons, ← ih, ← total_single counts unique, ← total_add]
    refine total_congr fun row _ => ?_
    by_cases counted : counts row <;> simp [counted]

end Passbook.Store
