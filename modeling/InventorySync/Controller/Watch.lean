/-
# Controller.Watch — when an object is visited

A visit is requested when the object appears or changes, when a resync tick comes, and
when the delay after a failure is over. It is made five seconds after the request, so
that requests in quick succession are one visit: a request that comes before the visit
is made puts it off, and a request for a later time than the visit is dropped.

A retry that has no place on the clock ends the watch.
-/
import InventorySync.Controller.Visit

namespace InventorySync

set_option autoImplicit false

open Retry (Requeue)
open Time (Duration Instant Timestamp)

/-- The watch over one object. -/
structure Watch where
  reconciler : Reconciler
  /-- What the wall clock shows at a point of the monotonic one. -/
  calendar : Instant → Timestamp
  /-- What the cluster's API server does with a patch. -/
  write : StatusPatch → Except String Unit
  object : SyncObject
  /-- When the next visit is made, if one is requested. -/
  due : Option Instant
  isOver : Bool
  requeue : Requeue
  store : Store

namespace Watch

/-- How long a visit waits for more requests. -/
def debounce : Duration := .ofSeconds 5

/-- Request a visit at a point in time. -/
def request (w : Watch) (time : Instant) : Watch :=
  let visitAt : Instant := ⟨time.nanos + debounce.nanos⟩
  if w.isOver then w
  else
    match w.due with
    | none => { w with due := some visitAt }
    | some due => if time ≤ due then { w with due := some visitAt } else w

/-- The object was changed. -/
def change (w : Watch) (o : SyncObject) (now : Instant) : Watch := { w with object := o }.request now

/-- Make the visit that is due, and request the retry of a failure. -/
def visit (w : Watch) (now : Instant) : Watch × Visit.Done :=
  let done := Visit.run w.reconciler w.write now (w.calendar now) w.object w.requeue w.store
  let w := { w with due := none, requeue := done.requeue, store := done.store }
  match done.retry with
  | .ok none => (w, done)
  | .ok (some delay) => (w.request ⟨now.nanos + delay.nanos⟩, done)
  | .error _ => ({ w with isOver := true }, done)

/-- At most `n` visits that are due by `deadline`, the first one in front. -/
def visits (deadline : Instant) : Nat → Watch → Watch × List Visit.Done
  | 0, w => (w, [])
  | n + 1, w =>
    match w.due with
    | none => (w, [])
    | some due =>
      if due ≤ deadline then
        let (w, done) := w.visit due
        let (w, more) := visits deadline n w
        (w, done :: more)
      else (w, [])

/-- Let time pass, and make the visits that are due. Two visits are at least a debounce
apart, which bounds their number. -/
def waitUntil (w : Watch) (now deadline : Instant) : Watch × List Visit.Done :=
  w.visits deadline ((deadline.since now).nanos / debounce.nanos + 2)

/-- Begin to watch an object. -/
def start (reconciler : Reconciler) (calendar : Instant → Timestamp)
    (write : StatusPatch → Except String Unit) (o : SyncObject) (requeue : Requeue) (store : Store)
    (now : Instant) : Watch × List Log.Entry :=
  let w : Watch := ⟨reconciler, calendar, write, o, none, false, requeue, store⟩
  (w.request now, [Log.info "Starting ClusterSync watcher"])

end Watch

end InventorySync
