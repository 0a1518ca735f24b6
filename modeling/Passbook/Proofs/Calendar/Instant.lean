/-
**Instants in their order, and the midnights among them.**

* `Instant.le_trans`, `Instant.not_le`: of two instants one comes before the other;
* `Instant.day_mono`: later instants lie in later days, and none lies beyond the day of the last
  instant (`Instant.day_le_last`);
* `Instant.Opens`: an instant is the midnight that starts a day; `Instant.Opens.le_iff`: midnight
  has come once its day has; `Instant.Midnight`, `Instant.midnight_iff`: so does an instant of which
  no time of day has passed;
* `Instant.atDay?_cases`: a day after that of an instant has its midnight, or lies beyond the day of
  the last instant.
-/

import Passbook.Calendar.Instant

namespace Passbook.Calendar.Instant

/-! ### The order -/

theorem le_iff {first second : Instant} : first ≤ second ↔ first.second < second.second ∨
    (first.second = second.second ∧ first.nano ≤ second.nano) := Iff.rfl

theorem lt_iff {first second : Instant} : first < second ↔ first.second < second.second ∨
    (first.second = second.second ∧ first.nano < second.nano) := Iff.rfl

theorem le_refl (instant : Instant) : instant ≤ instant := .inr ⟨rfl, Nat.le_refl _⟩

theorem le_trans {first second third : Instant} (once : first ≤ second) (again : second ≤ third) :
    first ≤ third := by
  rw [le_iff] at once again ⊢
  omega

theorem not_le {first second : Instant} : ¬first ≤ second ↔ second < first := by
  rw [le_iff, lt_iff]
  omega

/-! ### Days -/

/-- Later instants lie in later days. -/
theorem day_mono {first second : Instant} (onward : first ≤ second) : first.day ≤ second.day := by
  have seconds : first.second ≤ second.second := by
    rcases onward with before | ⟨same, _⟩
    · exact Int.le_of_lt before
    · exact Int.le_of_eq same
  exact Int.ediv_le_ediv (by decide) seconds

theorem day_last : last.day = 95026236 := by decide

/-- No instant lies beyond the day of the last one, leap seconds included. -/
theorem day_le_last (instant : Instant) : instant.day ≤ last.day := by
  have untilLast := instant.untilLast
  rw [day_last]
  unfold day
  omega

/-- The instant is the midnight that starts a day. -/
structure Opens (midnight : Instant) (day : Int) : Prop where
  starts : midnight.second = day * 86400
  whole : midnight.nano = 0

namespace Opens

variable {midnight later : Instant} {day : Int}

/-- Midnight lies in the day that it starts. -/
theorem day_eq (opens : midnight.Opens day) : midnight.day = day := by
  rw [Instant.day, opens.starts]
  omega

/-- Midnight has come once its day has. -/
theorem le_iff (opens : midnight.Opens day) : midnight ≤ later ↔ day ≤ later.day := by
  rw [Instant.le_iff, opens.starts, opens.whole]
  unfold Instant.day
  omega

end Opens

/-- No time of day has passed yet. -/
def Midnight (instant : Instant) : Prop := instant.secondOfDay = 0 ∧ instant.nano = 0

instance (instant : Instant) : Decidable instant.Midnight := inferInstanceAs (Decidable (_ ∧ _))

/-- A midnight starts its day. -/
theorem midnight_iff {instant : Instant} : instant.Midnight ↔ instant.Opens instant.day := by
  have whole : instant.secondOfDay = 0 ↔ instant.second = instant.day * 86400 := by
    unfold secondOfDay day
    omega
  rw [Midnight, whole]
  exact ⟨fun ⟨starts, whole⟩ => ⟨starts, whole⟩, fun opens => ⟨opens.starts, opens.whole⟩⟩

/-- A day after that of an instant has its midnight, or lies beyond the day of the last instant. -/
theorem atDay?_cases {earlier : Instant} {day : Int} (ahead : earlier.day < day) :
    (∃ midnight, atDay? day = some midnight ∧ midnight.Opens day) ∨
      (atDay? day = none ∧ last.day < day) := by
  have fromFirst := earlier.fromFirst
  have after : -8334601228800 ≤ day * 86400 := by
    unfold Instant.day at ahead
    omega
  rw [day_last, atDay?, of?]
  by_cases reached : day * 86400 ≤ 8210266876799
  · exact .inl ⟨_, dif_pos ⟨after, reached, by decide⟩, rfl, rfl⟩
  · refine .inr ⟨dif_neg fun bounds => reached bounds.2.1, ?_⟩
    omega

end Passbook.Calendar.Instant
