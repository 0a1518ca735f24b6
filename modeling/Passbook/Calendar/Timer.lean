/-
**The clock of deadlines.**

How long a movement may take is told in nanoseconds. Its deadline is set on a clock that counts
from some moment before, whatever the time of day.

* `Duration.ofMilliseconds`, `Duration.milliseconds`: times in milliseconds, held at the ends of
  what 64 bits can tell;
* `Timer.deadline`: the reading of the clock when a time is over. The clock shows no more seconds
  than a signed number of 64 bits, and a deadline beyond that cannot be set.
-/

import Passbook.Amount
import Passbook.Page

namespace Passbook.Calendar

/-- A length of time, its seconds an unsigned number of 64 bits. -/
structure Duration where
  nanoseconds : Nat
  /-- The seconds have no more than 64 bits. -/
  fits : nanoseconds < 18446744073709551616000000000
deriving DecidableEq

namespace Duration

/-- No time at all. -/
def zero : Duration := ⟨0, by decide⟩

/-- The longest time that can be told. -/
def longest : Duration := ⟨18446744073709551615999999999, by decide⟩

/-- So many milliseconds, as far as an unsigned number of 64 bits goes. -/
def ofMilliseconds (count : Nat) : Duration where
  nanoseconds := min count greatestUnsigned * 1000000
  fits := by
    have most := Nat.min_le_right count greatestUnsigned
    rw [greatestUnsigned] at most ⊢
    omega

/-- The whole milliseconds, as far as an unsigned number of 64 bits goes. -/
def milliseconds (duration : Duration) : Nat :=
  min (duration.nanoseconds / 1000000) greatestUnsigned

end Duration

/-- A time may be given in milliseconds. -/
instance : Coe (Option Nat) (Option Duration) := ⟨Option.map .ofMilliseconds⟩

/-- The clock on which deadlines are set. -/
structure Timer where
  /-- The time that a movement may take, unless it has one of its own. -/
  usual : Duration
  /-- What the clock shows. -/
  reading : Duration

/-- So many milliseconds for a movement, on a clock that has just been started. -/
instance : Coe Nat Timer := ⟨fun milliseconds => ⟨.ofMilliseconds milliseconds, .zero⟩⟩

/-- What the clock shows when a time that starts now is over. -/
def Timer.deadline (timer : Timer) (limit : Duration) : Except Overflow Duration :=
  if shown : timer.reading.nanoseconds + limit.nanoseconds < 9223372036854775808000000000 then
    .ok ⟨timer.reading.nanoseconds + limit.nanoseconds, Nat.lt_trans shown (by decide)⟩
  else
    .error .clock

/-- **A deadline cannot be set** exactly if it is beyond what the clock will show. -/
theorem Timer.deadline_eq_error {timer : Timer} {limit : Duration} :
    timer.deadline limit = .error .clock ↔
      9223372036854775808000000000 ≤ timer.reading.nanoseconds + limit.nanoseconds := by
  rw [← Nat.not_lt]
  unfold Timer.deadline
  split
  · next shown => exact iff_of_false (fun none => nomatch none) (not_not_intro shown)
  · next beyond => exact iff_of_true rfl beyond

end Passbook.Calendar
