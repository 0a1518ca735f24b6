/-
**Entries are listed by the text of their numbers.**

* `entryNumber_lt_iff`: of two places in the sequence the earlier one comes first in the order of
  texts exactly if it is no greater than what is left of the later one without the figures that this
  one has more; so numbers of eight figures are in order (`entryNumber_lt`);
* `matchingEntries_ascending`: the entries of a status are listed in the order of these texts;
* `play_number_order`: so after any run two entries are listed in the order in which their numbers
  were given exactly in that case, and a listing is in this order as long as the sequence has given
  no value of more than eight figures;
* `wider_number_before`: the first number of nine figures comes before the last one of eight.
-/

import Passbook.Proofs.Bookkeeping.Numbering
import Passbook.Proofs.Store.Pages

namespace Passbook.Bookkeeping

open Passbook.Operation
open Passbook.Store
open Passbook.Text (digits)

/-! ### The order of numbers as texts -/

section Places

variable {first second : Amount}

/-- The figures that the number of a place in the sequence has. -/
def figures (place : Amount) : Nat := max 8 (digits place.units.toNat).length

/-- **The earlier of two places comes first** exactly if it is no greater than what is left of the
later one without the figures that this one has more. -/
theorem entryNumber_lt_iff (least : 0 ≤ first.units) (earlier : first.units < second.units) :
    Ledger.entryNumber first < Ledger.entryNumber second ↔
      first.units ≤ second.units / 10 ^ (figures second - figures first) := by
  obtain ⟨number, units⟩ := Int.eq_ofNat_of_zero_le least
  obtain ⟨other, units'⟩ := Int.eq_ofNat_of_zero_le (Int.le_of_lt (Int.lt_of_le_of_lt least earlier))
  rw [units, units', Int.ofNat_lt] at earlier
  rw [String.lt_iff, Ledger.entryNumber, Ledger.entryNumber, String.toList_ofList,
    String.toList_ofList, figures, figures, units, units', Int.toNat_natCast, Int.toNat_natCast]
  simp only [List.cons_lt_cons_iff, Char.lt_irrefl, false_or, true_and]
  refine (Text.zeroFill_lt_iff 8 earlier).trans ?_
  norm_cast

/-- A place of up to eight figures. -/
theorem figures_of_small (small : first.units < 100000000) : figures first = 8 := by
  have fits : first.units.toNat < 10 ^ 8 := by omega
  exact Nat.max_eq_left ((Nat.length_toDigits_le_iff (by decide) (by decide)).mpr fits)

/-- **Numbers of eight figures are in the order of their places.** -/
theorem entryNumber_lt (least : 0 ≤ first.units) (earlier : first.units < second.units)
    (small : second.units < 100000000) :
    Ledger.entryNumber first < Ledger.entryNumber second := by
  refine (entryNumber_lt_iff least earlier).mpr ?_
  rw [figures_of_small small, figures_of_small (Int.lt_trans earlier small), Nat.sub_self,
    pow_zero, Int.ediv_one]
  exact Int.le_of_lt earlier

end Places

/-! ### Listings -/

/-- The entries of a status are listed in the order of their numbers as texts. -/
theorem matchingEntries_ascending {books : Books} (sound : Sound books)
    (status : Option Ledger.EntryStatus) :
    (Journal.matchingEntries status books).Pairwise
      fun first second => first.number < second.number :=
  ascending_mergeSort (sound.numbers.sublist (List.filter_sublist.map EntryRow.number))

/-- What is listed is one of the entries. -/
theorem mem_of_matchingEntries {books : Books} {status : Option Ledger.EntryStatus} {row : EntryRow}
    (member : row ∈ Journal.matchingEntries status books) : row ∈ books.entries :=
  List.mem_of_mem_filter ((List.mergeSort_perm ..).mem_iff.mp member)

/-- **Entries are listed by the text of their numbers**, which is the order in which the numbers were
given exactly as far as widths allow: of two places in the sequence the earlier one comes first if it
is no greater than what is left of the later one without the figures that this one has more, and only
then. So after any run two entries that are listed stand in the order in which they were numbered in
this case only; and a listing is in this order throughout as long as no number has more than eight
figures. -/
theorem play_number_order (supply : Supply) (calls : List Call)
    (status : Option Ledger.EntryStatus) :
    (∀ first second : Amount, 1 ≤ first.units → first.units < second.units →
      (Ledger.entryNumber first < Ledger.entryNumber second ↔
        first.units ≤ second.units / 10 ^ (figures second - figures first))) ∧
    (∀ row ∈ Journal.matchingEntries status (play calls (.fresh supply)).books,
      ∀ other ∈ Journal.matchingEntries status (play calls (.fresh supply)).books,
        ∀ first second : Amount, 1 ≤ first.units → first.units < second.units →
          row.number = Ledger.entryNumber first → other.number = Ledger.entryNumber second →
            ([row, other].Sublist
                (Journal.matchingEntries status (play calls (.fresh supply)).books) ↔
              first.units ≤ second.units / 10 ^ (figures second - figures first))) ∧
    (entryCount supply calls ≤ 99999999 →
      (Journal.matchingEntries status (play calls (.fresh supply)).books).Pairwise fun row other =>
        ∃ first second : Amount, row.number = Ledger.entryNumber first ∧
          other.number = Ledger.entryNumber second ∧ 1 ≤ first.units ∧
            first.units < second.units) := by
  have sound : Sound (play calls (.fresh supply)).books := play_sound calls Sound.fresh
  have ascending := matchingEntries_ascending sound status
  refine ⟨fun first second least earlier => entryNumber_lt_iff (by omega) earlier,
    fun row member other member' first second least earlier number number' => ?_, fun few => ?_⟩
  · rw [pair_sublist_iff ascending member member', number, number']
    exact entryNumber_lt_iff (by omega) earlier
  · have numbered := (play_numbered supply calls).numbers
    refine ascending.imp_of_mem fun {row other} member member' lower => ?_
    obtain ⟨first, least, most, number⟩ := numbered row (mem_of_matchingEntries member)
    obtain ⟨second, least', most', number'⟩ := numbered other (mem_of_matchingEntries member')
    refine ⟨first, second, number, number', least, ?_⟩
    -- were the place of the second no later, its number would come first
    by_contra later
    rw [number, number'] at lower
    rcases Int.lt_or_eq_of_le (Int.not_lt.mp later) with before | same
    · exact absurd lower (Std.not_gt_of_lt (entryNumber_lt (by omega) before (by omega)))
    · rw [Amount.ext same] at lower
      exact Std.lt_irrefl lower

/-- Two sales are entered. -/
def sampleSales : List Call := sampleDropped.take 3 ++ [sampleDraft]

/-- The one that was entered first is listed first. -/
theorem play_number_order_sales :
    Ledger.entryNumber (sampleUnits 1) < Ledger.entryNumber (sampleUnits 2) ∧
      entryCount .ascending sampleSales ≤ 99999999 ∧
      (Journal.matchingEntries none (play sampleSales .fresh).books).Pairwise (fun row other =>
        ∃ first second : Amount, row.number = Ledger.entryNumber first ∧
          other.number = Ledger.entryNumber second ∧ 1 ≤ first.units ∧
            first.units < second.units) ∧
      ∃ row other : EntryRow, row.number = Ledger.entryNumber (sampleUnits 1) ∧
        other.number = Ledger.entryNumber (sampleUnits 2) ∧
          [row, other].Sublist (Journal.matchingEntries none (play sampleSales .fresh).books) := by
  obtain ⟨order, listed, small⟩ := play_number_order .ascending sampleSales none
  have few : entryCount .ascending sampleSales ≤ 99999999 := by decide +kernel
  have there : ∀ units ∈ [1, 2], ∃ row ∈ (play sampleSales .fresh).books.entries,
      row.number = Ledger.entryNumber (sampleUnits units) := by
    decide +kernel
  have matching : ∀ row ∈ (play sampleSales .fresh).books.entries,
      row ∈ Journal.matchingEntries none (play sampleSales .fresh).books := fun row member =>
    (List.mergeSort_perm ..).mem_iff.mpr (List.mem_filter.mpr ⟨member, rfl⟩)
  obtain ⟨row, member, number⟩ := there 1 (by decide)
  obtain ⟨other, member', number'⟩ := there 2 (by decide)
  exact ⟨(order _ _ (by decide) (by decide)).mpr (by decide), few, small few, row, other, number,
    number', (listed row (matching row member) other (matching other member') _ _ (by decide)
      (by decide) number number').mpr (by decide)⟩

/-- **The first number of nine figures comes before the last one of eight**, although it is given
after it. -/
theorem wider_number_before :
    ¬ ∀ first second : Amount, 1 ≤ first.units → first.units < second.units →
      Ledger.entryNumber first < Ledger.entryNumber second := by
  intro each
  have before := each (sampleUnits 99999999) (sampleUnits 100000000) (by decide) (by decide)
  exact absurd before (by decide)

end Passbook.Bookkeeping
