/-
**Spend windows.**

Spending is counted by the UTC day and by the UTC month.

* `Window.nextReset`: the first midnight that starts another day or month, or the last instant
  where there is none;
* `roll`: a counter that starts again once its reset is reached.
-/

import Passbook.Amount
import Passbook.Calendar.Instant
import Passbook.Named

namespace Passbook.Limits

open Passbook.Calendar (Instant Date)

/-- The two windows. -/
inductive Window where
  | daily
  | monthly
deriving DecidableEq

instance : Named Window where
  all := [.daily, .monthly]
  name
    | .daily => "daily"
    | .monthly => "monthly"

/-- The day that starts the window after the one of an instant. -/
def Window.nextStart (window : Window) (now : Instant) : Int :=
  match window with
  | .daily => now.day + 1
  | .monthly => now.date.nextMonth.dayNumber

/-- The instant at which the counter of a window starts again. -/
def Window.nextReset (window : Window) (now : Instant) : Instant :=
  (Instant.atDay? (window.nextStart now)).getD .last

/-- A counter and its reset as they stand at an instant. -/
def roll (window : Window) (spent : Amount) (resetAt now : Instant) : Amount × Instant :=
  if resetAt ≤ now then (.zero, window.nextReset now) else (spent, resetAt)

end Passbook.Limits
