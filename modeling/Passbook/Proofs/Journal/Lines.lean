/-
**The lines of an entry by their place.**

* `linesOf_eq`, `mem_linesOf`, `linesOf_congr`: in plain books they are the lines under its
  identifier, and stay while these stay; `linesOf_of_ordered`: they are taken as they stand if they
  stand in order;
* `Written.places`, `Written.ids`: lines that are written are numbered without gaps and bear
  identifiers of their own;
* `Entered.linesOf`: an entry that is entered has the lines it was entered with, in their order;
  `Entered.linesOf_of_ne`, `Dropped.linesOf_of_ne`: the lines of other entries stay.
-/

import Passbook.Proofs.Journal.Entries
import Passbook.Proofs.Store.Issued

namespace Passbook.Journal

open Passbook.Ledger (Line)
open Passbook.Store

variable {before after : Books}

/-! ### Lines under an identifier -/

theorem linesOf_eq (plain : before.strays = []) (id : EntryId) :
    before.linesOf id = (before.lines.filter fun row => row.entry == id).mergeSort
      fun first second => decide (first.place ≤ second.place) := by
  unfold Books.linesOf
  congr 1
  refine List.filter_congr fun row _ => ?_
  rw [isLineOf, Books.isUsual_eq_true plain, Bool.and_true]

/-- Lines that stand in the order of their places are taken as they stand. -/
theorem linesOf_of_ordered (plain : before.strays = []) {id : EntryId}
    (ordered : (before.lines.filter fun row => row.entry == id).Pairwise
      fun first second => first.place ≤ second.place) :
    before.linesOf id = before.lines.filter fun row => row.entry == id := by
  rw [linesOf_eq plain]
  exact List.mergeSort_of_pairwise (ordered.imp decide_eq_true)

theorem mem_linesOf (plain : before.strays = []) {id : EntryId} {row : LineRow} :
    row ∈ before.linesOf id ↔ row ∈ before.lines ∧ row.entry = id := by
  rw [linesOf_eq plain, List.mem_mergeSort, List.mem_filter, beq_iff_eq]

/-- The lines of an entry stay while those under its identifier do. -/
theorem linesOf_congr (plain : before.strays = []) (plain' : after.strays = []) {id : EntryId}
    (same : (after.lines.filter fun row => row.entry == id) =
      before.lines.filter fun row => row.entry == id) :
    after.linesOf id = before.linesOf id := by
  rw [linesOf_eq plain, linesOf_eq plain', same]

/-! ### Lines that are written -/

section Written

variable {supply : Supply} {entry : EntryId} {place issued : Nat} {lines : List Line}
    {rows : List LineRow}

/-- Lines are numbered from a place on without gaps. -/
theorem Written.places (written : Written supply entry place issued lines rows) :
    rows.map LineRow.place = (List.range' place rows.length).map Int.ofNat := by
  induction written with
  | none => rfl
  | line _ _ ih =>
    rw [List.map_cons, ih]
    rfl

theorem Written.sorted (written : Written supply entry place issued lines rows) :
    rows.Pairwise fun first second => decide (first.place ≤ second.place) := by
  have ascending : (rows.map LineRow.place).Pairwise (· ≤ ·) := by
    rw [written.places, List.pairwise_map]
    exact List.pairwise_le_range'.imp fun order => Int.ofNat_le.mpr order
  exact (List.pairwise_map.mp ascending).imp decide_eq_true

/-- Lines bear identifiers that were not handed out before. -/
theorem Written.ids (written : Written supply entry place issued lines rows) :
    ∀ row ∈ rows, row.id.uuid.Before supply (issued + lines.length) := by
  induction written with
  | none => simp
  | line is _ ih =>
    intro row member
    rw [List.length_cons]
    rcases List.mem_cons.mp member with rfl | later
    · exact (Uuid.before_of_issued? is).mono (by omega)
    · exact (ih row later).mono (by omega)

end Written

/-! ### Entries that come and go -/

section Entered

variable {lines : List Line} {entered : FullEntry}

/-- **An entry that is entered has its lines in their order.** -/
theorem Entered.linesOf (did : Entered lines before entered after) (sound : Sound before) :
    after.linesOf entered.entry.id = entered.lines := by
  have plain : after.strays = [] := (did.sound sound).plain
  -- no line was under the identifier, since lines lead to entries
  have none : (before.lines.filter fun row => row.entry == entered.entry.id) = [] := by
    refine List.filter_eq_nil_iff.mpr fun row member same => ?_
    obtain ⟨entry, present, named⟩ := sound.lineEntries row member
    exact did.newId entry present (named.trans (eq_of_beq same))
  have all : (entered.lines.filter fun row => row.entry == entered.entry.id) = entered.lines :=
    List.filter_eq_self.mpr fun row member => beq_iff_eq.mpr (did.written.entry_eq row member)
  have own : after.lines = before.lines ++ entered.lines := by rw [did.left]
  rw [linesOf_eq plain, own, List.filter_append, none, all, List.nil_append]
  exact List.mergeSort_of_pairwise did.written.sorted

theorem Entered.linesOf_of_ne (did : Entered lines before entered after) (sound : Sound before)
    {id : EntryId} (other : id ≠ entered.entry.id) : after.linesOf id = before.linesOf id := by
  refine linesOf_congr sound.plain (did.sound sound).plain ?_
  have none : (entered.lines.filter fun row => row.entry == id) = [] := by
    refine List.filter_eq_nil_iff.mpr fun row member same => other ?_
    rw [← eq_of_beq same, did.written.entry_eq row member]
  have own : after.lines = before.lines ++ entered.lines := by rw [did.left]
  rw [own, List.filter_append, none, List.append_nil]

/-- An entry and its lines bear identifiers that have been handed out. -/
theorem Entered.issued (did : Entered lines before entered after) (issued : Issued before)
    (own : entered.entry.id.uuid.Before before.supply before.issued) : Issued after := by
  have order : before.issued ≤ before.issued + lines.length := Nat.le_add_right _ _
  rw [did.left]
  refine ⟨fun row member => ?_, fun row member => ?_⟩
  · rcases List.mem_append.mp member with present | single
    · exact (issued.entries row present).mono order
    · rw [List.mem_singleton.mp single]
      exact own.mono order
  · rcases List.mem_append.mp member with present | new
    · exact (issued.lines row present).mono order
    · exact did.written.ids row new

end Entered

theorem Dropped.linesOf_of_ne {id other : EntryId} {entry : EntryRow}
    (did : Dropped id entry before after) (sound : Sound before) (apart : other ≠ id) :
    after.linesOf other = before.linesOf other := by
  refine linesOf_congr sound.plain (did.sound sound).plain ?_
  have own : after.lines = before.lines.filter fun row => !(row.entry == id) := by rw [did.left]
  rw [own, List.filter_filter]
  refine List.filter_congr fun row _ => ?_
  by_cases same : row.entry = other
  · simp [same, apart]
  · simp [same]

end Passbook.Journal
