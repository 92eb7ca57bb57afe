/-
# Retry.Requeue — when a failing object is tried again

Two limits apply, and the later one wins: the key's own backoff, and the next token of
the bucket that all keys share. The backoff is asked first, and the bucket only if the
backoff has a delay.
-/
import InventorySync.Retry.Backoff
import InventorySync.Retry.Bucket

namespace InventorySync.Retry

set_option autoImplicit false

open InventorySync.Time

structure Requeue where
  items : Backoff
  bucket : Bucket Float

namespace Requeue

def new (base max : Duration) (burst : Nat) (qps : Float) (now : Instant) : Requeue :=
  ⟨.new base max, .new burst qps now⟩

/-- Count a failure of a key: how long it waits, and the policy after it. -/
def fail (r : Requeue) (key : String) (now : Instant) : Except RangeFault Duration × Requeue :=
  match r.items.fail key now with
  | (.error e, items) => (.error e, { r with items := items })
  | (.ok own, items) =>
    match r.bucket.reserveSpan now with
    | (.error e, bucket) => (.error e, ⟨items, bucket⟩)
    | (.ok shared, bucket) => (.ok (max own shared), ⟨items, bucket⟩)

def forget (r : Requeue) (key : String) : Requeue := { r with items := r.items.forget key }

def failures (r : Requeue) (key : String) : Nat := r.items.failures key

end Requeue

end InventorySync.Retry
