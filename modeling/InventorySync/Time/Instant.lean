/-
# Time.Instant — points of a monotonic clock

The clock counts seconds in a signed 64-bit word and nanoseconds beside it, and
never shows a negative time here. Adding a span may run past the last second the
word can hold, which has no result. The distance to an earlier point is a span;
to a later one it is zero.
-/
import InventorySync.Time.Duration

namespace InventorySync.Time

set_option autoImplicit false

/-- A result that has no place on the clock, or among spans. -/
inductive RangeFault where
  /-- A point past the last one that the clock can show. -/
  | instant
  /-- A number of seconds that no span has. -/
  | duration
  deriving DecidableEq, Repr

namespace RangeFault

def message : RangeFault → String
  | instant => "overflow when adding duration to instant"
  | duration => "cannot convert float seconds to Duration: value is either too big or NaN"

end RangeFault

/-- Nanoseconds on the clock. -/
structure Instant where
  nanos : Nat
  deriving DecidableEq, Repr

namespace Instant

/-- The clock's seconds stay below this. -/
def secondsLimit : Nat := Numeral.wordLimit 63

instance : LE Instant := ⟨fun a b => a.nanos ≤ b.nanos⟩
instance : LT Instant := ⟨fun a b => a.nanos < b.nanos⟩
instance (a b : Instant) : Decidable (a ≤ b) := Nat.decLe a.nanos b.nanos
instance (a b : Instant) : Decidable (a < b) := Nat.decLt a.nanos b.nanos

/-- The point a span later, if the clock can show it. -/
def add? (t : Instant) (d : Duration) : Option Instant :=
  let sum := t.nanos + d.nanos
  if sum / Duration.nanosPerSecond < secondsLimit then some ⟨sum⟩ else none

/-- The span since an earlier point; zero if it is not earlier. -/
def since (later earlier : Instant) : Duration := ⟨later.nanos - earlier.nanos⟩

theorem since_self (t : Instant) : t.since t = Duration.zero := by simp [since, Duration.zero]

theorem nanos_add? {t u : Instant} {d : Duration} (h : t.add? d = some u) :
    u.nanos = t.nanos + d.nanos := by
  simp only [add?] at h
  split at h
  · rw [← Option.some.inj h]
  · simp at h

theorem isSome_add?_iff (t : Instant) (d : Duration) :
    (t.add? d).isSome ↔ (t.nanos + d.nanos) / Duration.nanosPerSecond < secondsLimit := by
  simp only [add?, Option.isSome_ite]

end Instant

end InventorySync.Time
