/-
# Retry.Backoff — a delay that doubles with every failure of a key

The n-th failure in a row of a key, counted from zero, waits `base · 2^n`, but never
longer than `max`; from the thirty-third on it waits `max`, whatever the base. A
success clears the key.

Keys of objects that are gone would stay for ever, so each failure first drops the
keys whose retry was due longer than `max` ago.

The due time of a retry may lie past the end of the clock. The failure is counted
even then, but has no delay and leaves the due time as it was.
-/
import InventorySync.Time.Instant

namespace InventorySync.Retry

set_option autoImplicit false

open InventorySync.Time

/-- Consecutive failures of one key, and when it is due again. -/
structure Streak where
  count : Nat
  retryAt : Instant
  deriving DecidableEq, Repr

structure Backoff where
  base : Duration
  max : Duration
  streaks : List (String × Streak)

namespace Backoff

/-- Counts stop here. -/
def countLimit : Nat := Numeral.wordLimit 32 - 1

/-- Doublings of the base stop here. -/
def doublingLimit : Nat := 32

def new (base max : Duration) : Backoff := ⟨base, max, []⟩

/-- The delay after `n` failures before this one. -/
def delayFor (b : Backoff) (n : Nat) : Duration :=
  if n < doublingLimit then
    match b.base.times? (Nat.pow 2 n) with
    | some delay => min delay b.max
    | none => b.max
  else b.max

def streak? (b : Backoff) (key : String) : Option Streak :=
  (b.streaks.find? (·.1 == key)).map (·.2)

/-- Consecutive failures of a key. -/
def failures (b : Backoff) (key : String) : Nat := ((b.streak? key).map (·.count)).getD 0

/-- Clear a key. -/
def forget (b : Backoff) (key : String) : Backoff :=
  { b with streaks := b.streaks.filter (·.1 != key) }

/-- Set the streak of a key. -/
def record (b : Backoff) (key : String) (s : Streak) : Backoff :=
  { b with streaks := (key, s) :: b.streaks.filter (·.1 != key) }

/-- Drop the keys whose retry was due longer than `max` ago. -/
def dropStale (b : Backoff) (now : Instant) : Backoff :=
  { b with streaks := b.streaks.filter fun e => now.since e.2.retryAt ≤ b.max }

/-- Count a failure of a key: how long it waits, and the backoff after it. -/
def fail (b : Backoff) (key : String) (now : Instant) : Except RangeFault Duration × Backoff :=
  let b := b.dropStale now
  let s := (b.streak? key).getD ⟨0, now⟩
  let delay := b.delayFor s.count
  let count := min (s.count + 1) countLimit
  match now.add? delay with
  | some due => (.ok delay, b.record key ⟨count, due⟩)
  | none => (.error .instant, b.record key ⟨count, s.retryAt⟩)

end Backoff

end InventorySync.Retry
