/-
# Resource.Outcome — the status that a pass deserves

A successful pass makes the object ready and is described by its summary; a failed
one makes it an error, described by the fault's message. The status is written only
if its state, its description or the observed generation would change, so that a
steady pass writes nothing.
-/
import InventorySync.Pass.Fault
import InventorySync.Pass.Report

namespace InventorySync

set_option autoImplicit false

open Time (Timestamp)

structure Outcome where
  state : SyncState
  description : String
  deriving DecidableEq, Repr

namespace Outcome

def ofResult : Except PassFault Report → Outcome
  | .ok report => ⟨.ready, report.summary⟩
  | .error fault => ⟨.error, fault.message⟩

/-- The stored status says something else. -/
def needsUpdate (o : Outcome) (current : Option SyncStatus) (generation : Option Int64) : Bool :=
  match current with
  | none => true
  | some status =>
    status.state != o.state || status.description != some o.description ||
      status.observedGeneration != generation

/-- The merge patch that writes the outcome into the status. -/
def statusPatch (o : Outcome) (now : Timestamp) (generation : Option Int64) : Json :=
  .obj [("status", .obj [
    ("state", .str o.state.name),
    ("description", .str o.description),
    ("lastReconciled", .str (now.render .numeric)),
    ("observedGeneration", Json.ofOption (fun n => .int n.toInt) generation)])]

end Outcome

end InventorySync
