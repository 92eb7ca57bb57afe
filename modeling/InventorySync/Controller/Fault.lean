/-
# Controller.Fault — what ends the controller, or a reconciliation

Faults of the settings, of the inventory, of a pass, of the cluster's own API and of
the watch. Three causes count as an invalid configuration: settings that are refused,
an expected platform that the inventory does not have exactly once, and an object
without a name.
-/
import InventorySync.Config

namespace InventorySync

set_option autoImplicit false

inductive ControllerFault where
  /-- The API server of the cluster refused, or did not answer. -/
  | api (text : String)
  | inventory (cause : Fault)
  | pass (cause : PassFault)
  | settings (cause : ConfigFault)
  | platform (name : String) (cause : Fault)
  | unnamedObject
  | watch (text : String)

namespace ControllerFault

/-- The text of an invalid configuration. -/
def invalidText? : ControllerFault → Option String
  | settings cause => some cause.message
  | platform name cause =>
    some ("expected platform '" ++ name ++ "' cannot be resolved: " ++ cause.message)
  | unnamedObject => some "ClusterSync missing name"
  | _ => none

def message (f : ControllerFault) : String :=
  match f with
  | api text => "Kubernetes error: " ++ text
  | inventory cause => "NetBox error: " ++ cause.message
  | pass cause => cause.message
  | watch text => "Resource watch failed: " ++ text
  | f => "Invalid configuration: " ++ f.invalidText?.getD ""

/-- The fault as diagnostic text: its kind around the quoted text of its cause. -/
def diagnostic (f : ControllerFault) : String :=
  let wrapped (kind text : String) : String := kind ++ "(" ++ text ++ ")"
  match f with
  | api text => wrapped "Kube" (Text.quoted text)
  | inventory cause => wrapped "NetBox" cause.diagnostic
  | pass cause => wrapped "Reconcile" (Text.quoted cause.message)
  | watch text => wrapped "Watch" (Text.quoted text)
  | f => wrapped "InvalidConfig" (Text.quoted (f.invalidText?.getD ""))

end ControllerFault

end InventorySync
