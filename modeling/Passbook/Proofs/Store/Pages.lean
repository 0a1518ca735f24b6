/-
**Walking through the pages of a listing.**

* `Page.hasMore_of`: where a listing has no more rows than an unsigned number counts, a page says
  that there are more exactly if rows lie beyond it; `Page.data_append`: a page and the rows beyond
  it are the rows from its start on;
* `Walk`: pages asked for one after another, each where the one before it ends, until one says that
  it is the last; `Walk.unique`: they can be no others;
* `walk_of`: where every page that begins within the listing is given, a walk ends, whatever the
  limit, and has shown every row from its start on;
* `ascending_mergeSort`: rows of distinct keys are sorted so that the keys rise;
  `pair_sublist_iff`: and then one row stands before another if its key is the lower one.
-/

import Passbook.Proofs.Store.Work

namespace Passbook

variable {ρ : Type}

/-! ### One page -/

namespace PageRequest

variable {request : PageRequest}

theorem clamped_pos : 0 < request.clamped := Nat.le_max_left 1 _

end PageRequest

namespace Page

variable {rows : List ρ} {request : PageRequest}

/-- **A page says that there are more rows** exactly if some lie beyond it. -/
theorem hasMore_of (counted : rows.length ≤ greatestUnsigned) :
    (Page.of rows request).info.hasMore = true ↔
      request.offset + request.clamped < rows.length := by
  change decide (min (request.offset + request.clamped) greatestUnsigned < rows.length) = true ↔ _
  rw [decide_eq_true_iff]
  omega

theorem hasMore_of_eq_false (counted : rows.length ≤ greatestUnsigned) :
    (Page.of rows request).info.hasMore = false ↔
      rows.drop (request.offset + request.clamped) = [] := by
  rw [← Bool.not_eq_true, hasMore_of counted, List.drop_eq_nil_iff, Nat.not_lt]

/-- The rows of a page, and then those that lie beyond it. -/
theorem data_append :
    (Page.of rows request).data ++ rows.drop (request.offset + request.clamped) =
      rows.drop request.offset := by
  rw [← List.drop_drop]
  exact List.take_append_drop _ _

end Page

namespace Store

/-! ### Page after page -/

/-- Pages asked for one after another from a start on, each where the one before it ends, until one
says that no more rows follow. -/
inductive Walk {ε : Type} (ask : Nat → Action ε (Page ρ)) :
    (start : Nat) → (before : World) → List (Page ρ) → (after : World) → Prop
  | last {start : Nat} {page : Page ρ} {before after : World}
      (asked : ask start before = (.ok page, after)) (ends : page.info.hasMore = false) :
      Walk ask start before [page] after
  | next {start : Nat} {page : Page ρ} {rest : List (Page ρ)} {before between after : World}
      (asked : ask start before = (.ok page, between)) (goes : page.info.hasMore = true)
      (walk : Walk ask (page.info.offset + page.info.limit) between rest after) :
      Walk ask start before (page :: rest) after

section Walks

variable {ε : Type} {ask : Nat → Action ε (Page ρ)} {start : Nat} {before after after' : World}
  {pages pages' : List (Page ρ)}

/-- The first page of a walk is the one that was asked for. -/
theorem page_of_asked {page page' : Page ρ} (asked : ask start before = (.ok page, after))
    (asked' : ask start before = (.ok page', after')) : page = page' ∧ after = after' := by
  obtain ⟨page, after⟩ := Prod.mk.inj (asked.symm.trans asked')
  exact ⟨Except.ok.inj page, after⟩

/-- **There is only one way to walk.** -/
theorem Walk.unique (walk : Walk ask start before pages after)
    (walk' : Walk ask start before pages' after') : pages = pages' ∧ after = after' := by
  induction walk generalizing pages' with
  | last asked ends =>
    cases walk' with
    | last asked' _ =>
      obtain ⟨rfl, rfl⟩ := page_of_asked asked asked'
      exact ⟨rfl, rfl⟩
    | next asked' goes _ =>
      obtain ⟨rfl, rfl⟩ := page_of_asked asked asked'
      rw [ends] at goes
      cases goes
  | next asked goes _ ih =>
    cases walk' with
    | last asked' ends =>
      obtain ⟨rfl, rfl⟩ := page_of_asked asked asked'
      rw [ends] at goes
      cases goes
    | next asked' _ rest =>
      obtain ⟨rfl, rfl⟩ := page_of_asked asked asked'
      obtain ⟨rfl, rfl⟩ := ih rest
      exact ⟨rfl, rfl⟩

variable {world : World} {rows : List ρ} {limit : Nat}

/-- **A walk ends and shows everything.** The rows from its start on are there once each, and every
page on the way is cut from the same listing. -/
theorem walk_of (counted : rows.length ≤ greatestUnsigned)
    (gives : ∀ start ≤ rows.length, ask start world = (.ok (Page.of rows ⟨limit, start⟩), world))
    (within : start ≤ rows.length) :
    ∃ pages, Walk ask start world pages world ∧ pages.flatMap Page.data = rows.drop start ∧
      ∀ page ∈ pages, ∃ place, page = Page.of rows ⟨limit, place⟩ := by
  -- every page that is not the last brings the start nearer to the end of the listing
  induction left : rows.length - start using Nat.strongRecOn generalizing start with
  | _ left ih =>
    have shown : (Page.of rows ⟨limit, start⟩).data ++
        rows.drop (start + (PageRequest.mk limit start).clamped) = rows.drop start :=
      Page.data_append
    by_cases goes : (Page.of rows ⟨limit, start⟩).info.hasMore = true
    · have beyond := (Page.hasMore_of counted).mp goes
      have further : 0 < (PageRequest.mk limit start).clamped := PageRequest.clamped_pos
      dsimp only at beyond
      obtain ⟨rest, walk, data, cut⟩ := ih _ (by omega) (Nat.le_of_lt beyond) rfl
      refine ⟨_ :: rest, .next (gives start within) goes walk, ?_, fun page member => ?_⟩
      · rw [List.flatMap_cons, data]
        exact shown
      · rcases List.mem_cons.mp member with first | later
        · exact ⟨start, first⟩
        · exact cut page later
    · have ends := Bool.eq_false_iff.mpr goes
      have none := (Page.hasMore_of_eq_false counted).mp ends
      refine ⟨_, .last (gives start within) ends, ?_, fun page member =>
        ⟨start, List.mem_singleton.mp member⟩⟩
      rw [none, List.append_nil] at shown
      rw [List.flatMap_singleton, shown]

end Walks

/-! ### Reading and sorting -/

/-- A page of plain books is read, if its start fits in a column. -/
theorem gatherPage_of_plain {ε : Type} [StorageCause ε] {session : Session} {sheet : Sheet ρ}
    {choose : Books → List ρ} {request : PageRequest} {world : World}
    (plain : world.books.strays = []) (reached : session.faults.blocked = false)
    (small : (request.offset : Int) ≤ Amount.greatest.units) :
    (Action.gatherPage session sheet choose request : Action (Halt ε) (Page ρ)) world =
      (.ok (Page.of (choose world.books) request), world) := by
  obtain ⟨amount, fits⟩ : ∃ amount, Amount.ofNat request.offset = .ok amount := by
    have range : -9223372036854775808 ≤ (request.offset : Int) ∧
        (request.offset : Int) ≤ 9223372036854775807 := ⟨by omega, small⟩
    exact ⟨_, by rw [Amount.ofNat, Amount.ofInt?, dif_pos range]⟩
  have legible : (Page.of (choose world.books) request).data.all (sheet.isLegible world.books) =
      true := List.all_eq_true.mpr fun _ _ => Books.isLegible_eq_true plain _ _
  have read : readPage sheet choose request world.books =
      .ok (Page.of (choose world.books) request, world.books) := by
    rw [readPage, fits]
    exact if_pos legible
  exact Action.atomically_of_ok reached (by rw [Work.mapError, read]; rfl)

/-- **Rows of distinct keys are sorted so that the keys rise.** -/
theorem ascending_mergeSort {key : ρ → String} {rows : List ρ} (distinct : (rows.map key).Nodup) :
    (rows.mergeSort fun first second => !decide (key second < key first)).Pairwise
      fun first second => key first < key second := by
  let order : ρ → ρ → Bool := fun first second => !decide (key second < key first)
  have order_iff : ∀ {first second}, order first second = true ↔ key first ≤ key second := by
    simp only [order, Bool.not_eq_true', decide_eq_false_iff_not, String.not_lt, implies_true]
  have trans : ∀ first second third, order first second = true → order second third = true →
      order first third = true := fun _ _ _ lower higher =>
    order_iff.mpr (Std.le_trans (order_iff.mp lower) (order_iff.mp higher))
  have total : ∀ first second, (order first second || order second first) = true :=
    fun first second => (Bool.or_eq_true ..).mpr
      ((String.le_total (key first) (key second)).imp order_iff.mpr order_iff.mpr)
  have sorted := List.pairwise_mergeSort trans total rows
  have apart : ((rows.mergeSort order).map key).Nodup :=
    ((List.mergeSort_perm rows order).map key).nodup_iff.mpr distinct
  exact (sorted.and (List.pairwise_map.mp apart)).imp fun ⟨lower, other⟩ =>
    Std.lt_of_le_of_ne (order_iff.mp lower) other

/-- Where keys rise, one row stands before another exactly if its key is the lower one. -/
theorem pair_sublist_iff {key : ρ → String} {rows : List ρ}
    (ascending : rows.Pairwise fun first second => key first < key second) {row other : ρ}
    (member : row ∈ rows) (member' : other ∈ rows) :
    [row, other].Sublist rows ↔ key row < key other := by
  refine ⟨fun before => ?_, fun lower => ?_⟩
  · have pair : [row, other].Pairwise fun first second => key first < key second :=
      ascending.sublist before
    exact List.rel_of_pairwise_cons pair List.mem_cons_self
  obtain ⟨front, back, rfl⟩ := List.append_of_mem member
  rcases List.mem_append.mp member' with earlier | later
  · have higher := (List.pairwise_append.mp ascending).2.2 other earlier row List.mem_cons_self
    exact absurd higher (Std.not_gt_of_lt lower)
  · rcases List.mem_cons.mp later with rfl | later
    · exact absurd lower Std.lt_irrefl
    · exact ((List.singleton_sublist.mpr later).cons_cons row).trans (List.sublist_append_right ..)

end Store
end Passbook
