/-
# Controller.Visit — one object and the pass over its clusters

After a pass the object's status is written, if it would change. The verdict is that of
the pass, unless the write is refused. A good verdict clears the object's failures; a
bad one counts one more, and the retry policy says how long the object waits before it
is visited again. An object without a name has a bad verdict before any pass.

`Visit` is what there is to decide on, once the pass is over, and `Visit.settle` decides;
`Visit.run` makes the pass as well, over a store.
-/
import InventorySync.Controller.Fault
import InventorySync.Inventory.Store
import InventorySync.Resource.Outcome

namespace InventorySync

set_option autoImplicit false

open Retry (Requeue)
open Time (Duration Instant RangeFault Timestamp)

/-- A merge patch of the status of one object. -/
structure StatusPatch where
  path : String
  body : Json

namespace StatusPatch

def contentType : String := "application/merge-patch+json"

/-- The status of an object, by namespace and name. An object without a namespace is
in the default one. -/
def pathOf (o : ObjectName) : String :=
  "namespaces/" ++ o.namespaceName.getD "default" ++ "/clustersyncs/" ++ o.name.getD "" ++ "/status"

end StatusPatch

/-- An object, and the result of the pass over its clusters. -/
structure Visit where
  object : SyncObject
  result : Except PassFault Report

namespace Visit

def key (v : Visit) : String := v.object.metadata.key

def outcome (v : Visit) : Outcome := .ofResult v.result

/-- The patch to send, unless the status says the same already. -/
def patch? (v : Visit) (now : Timestamp) : Option StatusPatch :=
  if v.outcome.needsUpdate v.object.status v.object.generation then
    some ⟨StatusPatch.pathOf v.object.metadata, v.outcome.statusPatch now v.object.generation⟩
  else none

/-- The verdict, given what came of the patch if there was one. -/
def verdict (v : Visit) (written : Except String Unit) : Except ControllerFault Report :=
  match written with
  | .error text => .error (.api text)
  | .ok () => v.result.mapError .pass

end Visit

/-- Clear the failures of a key, or count one more: how long it waits, if it has to. -/
def Retry.Requeue.settle {α : Type} (r : Requeue) (key : String) (now : Instant) :
    Except ControllerFault α → Except RangeFault (Option Duration) × Requeue
  | .ok _ => (.ok none, r.forget key)
  | .error _ =>
    let (delay, r) := r.fail key now
    (delay.map some, r)

namespace Visit

/-- What the operator hears of a verdict. -/
def lines (key : String) (r : Requeue) : Except ControllerFault Report →
    Except RangeFault (Option Duration) → List Log.Entry
  | .ok report, _ => [Log.info ("ClusterSync " ++ key ++ " ready: " ++ report.display)]
  | .error f, .ok (some delay) =>
    [Log.error ("Reconciliation failed for ClusterSync " ++ key ++ " (failure " ++
      toString (r.failures key) ++ "), retrying in " ++ delay.text ++ ": " ++ f.message)]
  | _, _ => []

/-- How a visit is settled. -/
structure Settled where
  /-- The patch that was sent. -/
  patch : Option StatusPatch
  verdict : Except ControllerFault Report
  /-- How long the object waits for its next visit, if it has to. -/
  retry : Except RangeFault (Option Duration)
  requeue : Requeue

/-- Settle a verdict. -/
def conclude (key : String) (now : Instant) (requeue : Requeue) (patch : Option StatusPatch)
    (verdict : Except ControllerFault Report) : Settled :=
  let (retry, requeue) := requeue.settle key now verdict
  ⟨patch, verdict, retry, requeue⟩

/-- Write the status, and settle the verdict. `write` says what the cluster's API server does
with a patch. -/
def settle (v : Visit) (write : StatusPatch → Except String Unit) (now : Instant)
    (clock : Timestamp) (requeue : Requeue) : Settled :=
  let patch := v.patch? clock
  conclude v.key now requeue patch (v.verdict (patch.elim (.ok ()) write))

/-! ## A whole visit -/

/-- What a visit leaves. -/
structure Done extends Settled where
  store : Store
  notes : List Log.Entry

def Settled.done (settled : Settled) (key : String) (store : Store) (notes : List Log.Entry) :
    Done :=
  ⟨settled, store, notes ++ lines key settled.requeue settled.verdict settled.retry⟩

/-- Make a pass over an object's clusters, write its status, and settle the verdict. -/
def run (reconciler : Reconciler) (write : StatusPatch → Except String Unit) (now : Instant)
    (clock : Timestamp) (o : SyncObject) (requeue : Requeue) (store : Store) : Done :=
  let key := o.metadata.key
  if o.metadata.name.isNone then
    (conclude key now requeue none (.error .unnamedObject)).done key store []
  else
    let ran := (reconciler.clusters o.clusters).runOn store
    let v : Visit := ⟨o, ran.result⟩
    let settled := v.settle write now clock requeue
    let status :=
      match settled.patch with
      | none => [Log.debug ("ClusterSync " ++ key ++ " status unchanged, skipping update")]
      | some patch =>
        match write patch with
        | .ok () =>
          [Log.debug ("Updated ClusterSync " ++ key ++ " status to " ++ v.outcome.state.name)]
        | .error _ => []
    let started :=
      Log.info
        ("Reconciling ClusterSync " ++ key ++ " (" ++ toString o.clusters.length ++ " clusters)")
    settled.done key ran.store (started :: ran.notes ++ status)

/-- A visit of an object with a name is settled by what its pass came to. -/
theorem toSettled_run (reconciler : Reconciler) (write : StatusPatch → Except String Unit)
    (now : Instant) (clock : Timestamp) (o : SyncObject) (requeue : Requeue) (store : Store)
    (named : o.metadata.name.isNone = false) :
    (run reconciler write now clock o requeue store).toSettled =
      (⟨o, ((reconciler.clusters o.clusters).runOn store).result⟩ : Visit).settle write now clock
        requeue := by
  unfold run
  rw [if_neg (Bool.eq_false_iff.1 named)]
  rfl

end Visit

end InventorySync
