/-
**Instants.**

An instant is a second counted from the start of 1970 in UTC and a part of it in nanoseconds. The
part may go on for a second more: that is how a leap second is told, as the last second of a minute
prolonged. Instants reach from the start of the year -262143 to the end of the year 262142.

* the order compares the second, then the part;
* `Instant.plus?`: a duration later, unless that is out of range;
* `Instant.atDay?`: the midnight that starts a day;
* `Instant.last`: the last instant that is no leap second.
-/

import Passbook.Amount
import Passbook.Calendar.Date

namespace Passbook.Calendar

/-- A moment in UTC. -/
@[ext]
structure Instant where
  /-- Seconds from the start of 1970. -/
  second : Int
  /-- Nanoseconds into the second, two thousand million and more being out of reach. -/
  nano : Nat
  fromFirst : -8334601228800 ≤ second
  untilLast : second ≤ 8210266876799
  nanoBound : nano < 2000000000
deriving DecidableEq

/-- A length of time, its seconds and nanoseconds of one sign. -/
structure Span where
  seconds : Int
  nanos : Int

namespace Span

/-- A number of seconds. -/
def ofSeconds (count : Amount) : Span := ⟨count.units, 0⟩

/-- A number of milliseconds. -/
def ofMillis (count : Amount) : Span :=
  ⟨Int.tdiv count.units 1000, Int.tmod count.units 1000 * 1000000⟩

end Span

namespace Instant

/-- The instant of a second and a part, if there is one. -/
def of? (second : Int) (nano : Nat) : Option Instant :=
  if bounds : -8334601228800 ≤ second ∧ second ≤ 8210266876799 ∧ nano < 2000000000 then
    some ⟨second, nano, bounds.1, bounds.2.1, bounds.2.2⟩
  else
    none

/-- The last instant that is no leap second. -/
def last : Instant := ⟨8210266876799, 999999999, by decide, by decide, by decide⟩

/-- The start of 1970. -/
def epoch : Instant := ⟨0, 0, by decide, by decide, by decide⟩

instance : Inhabited Instant := ⟨epoch⟩

/-- The second decides, then the part. -/
instance : LE Instant :=
  ⟨fun first second => first.second < second.second ∨
    (first.second = second.second ∧ first.nano ≤ second.nano)⟩

instance : LT Instant :=
  ⟨fun first second => first.second < second.second ∨
    (first.second = second.second ∧ first.nano < second.nano)⟩

instance (first second : Instant) : Decidable (first ≤ second) :=
  inferInstanceAs (Decidable (first.second < second.second ∨
    (first.second = second.second ∧ first.nano ≤ second.nano)))

instance (first second : Instant) : Decidable (first < second) :=
  inferInstanceAs (Decidable (first.second < second.second ∨
    (first.second = second.second ∧ first.nano < second.nano)))

/-- The day counted from the first of January 1970. -/
def day (instant : Instant) : Int := instant.second / 86400

/-- The date in UTC. -/
def date (instant : Instant) : Date := Date.ofDayNumber instant.day

/-- The seconds since midnight in UTC. -/
def secondOfDay (instant : Instant) : Nat := (instant.second % 86400).toNat

/-- The midnight that starts a day, if there is one. -/
def atDay? (day : Int) : Option Instant := of? (day * 86400) 0

/-- The instant of a second and a part that may lie up to a second to either side of it. -/
def settle? (second part : Int) : Option Instant :=
  if part < 0 then of? (second - 1) (part + 1000000000).toNat
  else if 1000000000 ≤ part then of? (second + 1) (part - 1000000000).toNat
  else of? second part.toNat

/-- The instant a duration later, if there is one. A duration that leads out of a leap second is
counted from the ordinary second before it when it leads forwards, and from the second after it
when it leads backwards. -/
def plus? (instant : Instant) (span : Span) : Option Instant :=
  let part : Int := instant.nano
  if 1000000000 ≤ part then
    if 0 < span.seconds ∨ (0 < span.nanos ∧ 2000000000 - span.nanos ≤ part) then
      settle? (instant.second + span.seconds) (part - 1000000000 + span.nanos)
    else if span.seconds < 0 then
      settle? (instant.second + 1 + span.seconds) (part - 1000000000 + span.nanos)
    else of? instant.second (part + span.nanos).toNat
  else settle? (instant.second + span.seconds) (part + span.nanos)

end Instant

end Passbook.Calendar
