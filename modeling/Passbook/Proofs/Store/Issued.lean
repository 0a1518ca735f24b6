/-
**Identifiers are handed out once.**

* `Uuid.Before`: an identifier from among the first ones of a supply, which none handed out later
  is;
* `Books.Onward`: no identifier is taken back;
* `Issued`: entries and lines bear identifiers that have been handed out.
-/

import Passbook.Proofs.Store.Rows
import Passbook.Store.Books

namespace Passbook

/-- The identifier is among the first ones of a supply, up to so many. -/
def Uuid.Before (uuid : Uuid) (supply : Supply) (count : Nat) : Prop :=
  ∃ earlier < count, supply.issued? earlier = some uuid

variable {supply : Supply} {uuid fresh : Uuid} {count later : Nat}

theorem Uuid.Before.mono (before : uuid.Before supply count) (order : count ≤ later) :
    uuid.Before supply later := by
  obtain ⟨earlier, below, issued⟩ := before
  exact ⟨earlier, Nat.lt_of_lt_of_le below order, issued⟩

theorem Uuid.before_of_issued? (issued : supply.issued? count = some uuid) :
    uuid.Before supply (count + 1) :=
  ⟨count, Nat.lt_succ_self count, issued⟩

/-- What is handed out is none of those handed out before. -/
theorem Uuid.Before.ne (before : uuid.Before supply count)
    (issued : supply.issued? later = some fresh) (order : count ≤ later) : uuid ≠ fresh := by
  rintro rfl
  obtain ⟨earlier, below, first⟩ := before
  have same := supply.distinct first issued
  omega

end Passbook

namespace Passbook.Store

variable {before middle after : Books}

/-- Identifiers come from the same supply, and none is taken back. -/
structure Books.Onward (before after : Books) : Prop where
  supply : after.supply = before.supply
  issued : before.issued ≤ after.issued

theorem Books.Onward.refl (books : Books) : books.Onward books := ⟨rfl, Nat.le_refl _⟩

theorem Books.Onward.trans (first : before.Onward middle) (second : middle.Onward after) :
    before.Onward after :=
  ⟨second.supply.trans first.supply, Nat.le_trans first.issued second.issued⟩

theorem Books.Onward.handedOut {uuid : Uuid} (onward : before.Onward after)
    (earlier : uuid.Before before.supply before.issued) :
    uuid.Before after.supply after.issued := by
  rw [onward.supply]
  exact earlier.mono onward.issued

/-- Entries and lines bear identifiers that have been handed out. -/
structure Issued (books : Books) : Prop where
  entries : ∀ row ∈ books.entries, row.id.uuid.Before books.supply books.issued
  lines : ∀ row ∈ books.lines, row.id.uuid.Before books.supply books.issued

namespace Issued

theorem fresh {supply : Supply} : Issued (.fresh supply) := by
  constructor <;> simp [Books.fresh]

/-- Where no entries and lines come and no identifiers are taken back, nothing has to be looked
at. -/
theorem mono (issued : Issued before) (entries : after.entries.map EntryRow.id ⊆
    before.entries.map EntryRow.id) (lines : after.lines ⊆ before.lines)
    (onward : before.Onward after) : Issued after := by
  refine ⟨fun row member => ?_,
    fun row member => onward.handedOut (issued.lines row (lines member))⟩
  obtain ⟨old, present, same⟩ := List.mem_map.mp (entries (List.mem_map_of_mem member))
  rw [← same]
  exact onward.handedOut (issued.entries old present)

/-- Entries may be altered as long as they keep their identifiers. -/
theorem alterEntries (issued : Issued before) {id : EntryId} {alter : EntryRow → EntryRow}
    (sameId : ∀ row, (alter row).id = row.id)
    (entries : after.entries = altered EntryRow.id id alter before.entries)
    (lines : after.lines = before.lines) (onward : before.Onward after) :
    Issued after := by
  refine issued.mono ?_ ?_ onward
  · rw [entries, map_altered EntryRow.id sameId]
    exact List.Subset.refl _
  · rw [lines]
    exact List.Subset.refl _

end Issued

end Passbook.Store
