/-
**Trimming once is enough.**

* `trimStart_eq_self_iff`: nothing is trimmed where the first character is not blank;
* `trim_trim`: a text that was trimmed has no blanks around it any more;
* `trim_of_filled`: a text without blanks is trimmed;
* `trim_ne_empty`: a text is blank altogether, or something is left of it.
-/

import Mathlib.Data.List.DropRight
import Mathlib.Data.List.TakeWhile
import Passbook.Text.Blank

namespace Passbook.Text

variable {chars : List Char}

/-- Nothing is trimmed at the start of characters of which the first is not blank. -/
theorem trimStart_eq_self_iff :
    trimStart chars = chars ↔ ∀ filled : 0 < chars.length, ¬isBlank chars[0] :=
  List.dropWhile_eq_self_iff

theorem trimStart_trimStart : trimStart (trimStart chars) = trimStart chars :=
  List.dropWhile_idempotent isBlank chars

theorem trimEnd_trimEnd : trimEnd (trimEnd chars) = trimEnd chars :=
  List.rdropWhile_idempotent isBlank chars

/-- What is trimmed at the end keeps its start. -/
theorem trimStart_trimEnd (trimmed : trimStart chars = chars) :
    trimStart (trimEnd chars) = trimEnd chars := by
  have front : trimEnd chars <+: chars := List.rdropWhile_prefix isBlank chars
  refine trimStart_eq_self_iff.mpr fun filled => ?_
  rw [front.getElem filled]
  exact trimStart_eq_self_iff.mp trimmed (Nat.lt_of_lt_of_le filled front.length_le)

/-- **A text that was trimmed stays as it is.** -/
theorem trim_trim (text : String) : trim (trim text) = trim text := by
  have start : trimStart (trimEnd (trimStart text.toList)) = trimEnd (trimStart text.toList) :=
    trimStart_trimEnd trimStart_trimStart
  unfold trim
  rw [String.toList_ofList, start, trimEnd_trimEnd]

/-- Characters of which none is blank have none at their start. -/
theorem trimStart_of_filled (filled : ∀ char ∈ chars, isBlank char = false) :
    trimStart chars = chars := by
  refine trimStart_eq_self_iff.mpr fun _ => ?_
  rw [filled _ (List.getElem_mem _)]
  decide

/-- **A text without blanks is trimmed.** -/
theorem trim_of_filled {text : String} (filled : ∀ char ∈ text.toList, isBlank char = false) :
    trim text = text := by
  have back : trimStart text.toList.reverse = text.toList.reverse :=
    trimStart_of_filled fun char member => filled char (List.mem_reverse.mp member)
  have whole : trimEnd text.toList = text.toList := by
    rw [trimStart] at back
    rw [trimEnd, back, List.reverse_reverse]
  rw [trim, trimStart_of_filled filled, whole, String.ofList_toList]

/-- **A text with a character that is not blank is not trimmed away.** -/
theorem trim_ne_empty {text : String} {char : Char} (member : char ∈ text.toList)
    (filled : isBlank char = false) : trim text ≠ "" := by
  intro none
  have rest : trimEnd (trimStart text.toList) = [] := by
    have spelled := congrArg String.toList none
    rwa [trim, String.toList_ofList] at spelled
  have blank : ∀ other ∈ trimStart text.toList, isBlank other = true :=
    List.rdropWhile_eq_nil_iff.mp rest
  -- the character is in front of what is left at the start, or in it
  rw [← List.takeWhile_append_dropWhile (p := isBlank) (l := text.toList)] at member
  rcases List.mem_append.mp member with front | back
  · rw [List.mem_takeWhile_imp front] at filled
    cases filled
  · rw [blank char back] at filled
    cases filled

end Passbook.Text
