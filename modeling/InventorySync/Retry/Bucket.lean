/-
# Retry.Bucket — a shared limit on the rate of retries

A bucket holds up to `burst` tokens and gains `qps` of them per second. A reservation
always takes one; if none is left, the count goes negative and the caller waits until
the bucket would be back at zero.

The arithmetic is a parameter. Doubles run the controller; over exact numbers the
same definition can be reasoned about.
-/
import InventorySync.Time.Instant

namespace InventorySync.Retry

set_option autoImplicit false

open InventorySync.Time

/-- Numbers that count tokens and seconds. -/
class Quantity (α : Type) extends Add α, Sub α, Mul α, Div α, Neg α, LE α where
  ofNat : Nat → α
  /-- The seconds of a span. -/
  ofDuration : Duration → α
  /-- The smaller of two; the other one, if one is not a number. -/
  lesser : α → α → α
  decideLe : (a b : α) → Decidable (a ≤ b)

instance Quantity.decidableLe {α : Type} [Quantity α] (a b : α) : Decidable (a ≤ b) :=
  Quantity.decideLe a b

instance : Quantity Float where
  ofNat n := n.toUInt64.toFloat
  ofDuration := Duration.toReal
  lesser a b := if a.isNaN then b else if b.isNaN then a else if a ≤ b then a else b
  decideLe _ _ := inferInstance

structure Bucket (α : Type) where
  burst : α
  qps : α
  tokens : α
  lastRefill : Instant

namespace Bucket

variable {α : Type} [Quantity α]

/-- A full bucket. -/
def new (burst : Nat) (qps : α) (now : Instant) : Bucket α :=
  ⟨Quantity.ofNat burst, qps, Quantity.ofNat burst, now⟩

/-- The span that a reservation is credited for. -/
def credit (b : Bucket α) (now : Instant) : Duration := now.since b.lastRefill

/-- Take a token: the seconds until it is there, and the bucket after it. The point
of the last refill is that of the latest call, even if it lies before the previous
one. -/
def reserve (b : Bucket α) (now : Instant) : α × Bucket α :=
  let filled := Quantity.lesser (b.tokens + Quantity.ofDuration (b.credit now) * b.qps) b.burst
  let tokens := filled - Quantity.ofNat 1
  let zero : α := Quantity.ofNat 0
  let wait := if zero ≤ tokens ∨ b.qps ≤ zero then zero else -tokens / b.qps
  (wait, { b with tokens := tokens, lastRefill := now })

/-- Take a token; the wait as a span, if it is one. -/
def reserveSpan (b : Bucket Float) (now : Instant) : Except RangeFault Duration × Bucket Float :=
  let (wait, after) := b.reserve now
  match Duration.ofReal? wait with
  | some d => (.ok d, after)
  | none => (.error .duration, after)

end Bucket

end InventorySync.Retry
