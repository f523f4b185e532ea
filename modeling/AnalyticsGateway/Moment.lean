import AnalyticsGateway.Duration

/-!
# Moments

A moment is read off two clocks: one that only measures spans of time, and the calendar's.
-/

namespace AnalyticsGateway

/-- A point of the clock that measures spans, as the time since its start. -/
abbrev Instant := Duration

namespace Instant

/-- The last instant that the clock can tell. -/
def last : Instant := ⟨wordSize 63 * 1000000000 - 1⟩

/-- The instant after a span, if the clock can tell it. -/
def after? (t : Instant) (span : Duration) : Option Instant :=
  let t := t.add span
  if t ≤ last then some t else none

theorem after?_eq_some {t : Instant} {span : Duration} (h : t.add span ≤ last) :
    t.after? span = some (t.add span) := by simp [after?, h]

end Instant

/-- A point of the calendar, in nanoseconds since 1970. -/
structure Timestamp where
  nanoseconds : Int
deriving DecidableEq, Repr, Inhabited

namespace Timestamp

def ofMilliseconds (n : Int) : Timestamp := ⟨n * 1000000⟩

/-- A number stands for milliseconds. -/
instance : Coe Int Timestamp := ⟨ofMilliseconds⟩

instance (n : Nat) : OfNat Timestamp n := ⟨ofMilliseconds n⟩

/-- Whole milliseconds since 1970. -/
def milliseconds (t : Timestamp) : Int := t.nanoseconds / 1000000

theorem milliseconds_ofMilliseconds (n : Int) : (ofMilliseconds n).milliseconds = n :=
  Int.mul_ediv_cancel n (by decide)

end Timestamp

structure Moment where
  clock : Instant
  time : Timestamp
deriving DecidableEq, Repr, Inhabited

namespace Moment

/-- Whole milliseconds of the calendar since 1970. -/
def calendar (m : Moment) : Int := m.time.milliseconds

/-- By both clocks. -/
instance : LE Moment := ⟨fun a b => a.clock ≤ b.clock ∧ a.calendar ≤ b.calendar⟩

instance (a b : Moment) : Decidable (a ≤ b) :=
  inferInstanceAs (Decidable (a.clock ≤ b.clock ∧ a.calendar ≤ b.calendar))

end Moment

end AnalyticsGateway
