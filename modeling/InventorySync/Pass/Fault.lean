/-
# Pass.Fault — where a pass stopped, and why

A fault names the cluster, the role, the listing or the device at which the pass
stopped, around the cause: a fault of the inventory, or data of a device that has no
single answer. Its message becomes the description in the status.
-/
import InventorySync.Drift.Resolve
import InventorySync.Inventory.Fault
import InventorySync.Resource.ClusterSync

namespace InventorySync

set_option autoImplicit false

/-- Why one device could not be brought in line. -/
inductive DeviceFault where
  | inventory (cause : Fault)
  | drift (cause : Drift.Ambiguity)
  deriving DecidableEq, Repr

namespace DeviceFault

def message : DeviceFault → String
  | inventory cause => cause.message
  | drift cause => cause.message

end DeviceFault

inductive PassFault where
  | cluster (descriptor : Descriptor) (cause : Fault)
  | deviceRole (role : String) (cause : Fault)
  | devices (cluster : String) (clusterId : Id) (cause : Fault)
  | device (device : String) (deviceId : Id) (cluster : String) (clusterId : Id)
      (cause : DeviceFault)
  deriving DecidableEq, Repr

namespace PassFault

/-- A name with its id. -/
def named (name : String) (id : Id) : String := name ++ " (" ++ toString id ++ ")"

def message : PassFault → String
  | .cluster descriptor cause =>
    "unable to find cluster " ++ descriptor.display ++ ": " ++ cause.message
  | .deviceRole role cause => "unable to find device role " ++ role ++ ": " ++ cause.message
  | .devices name id cause =>
    "unable to reconcile devices on cluster " ++ named name id ++ ": " ++ cause.message
  | .device label id clusterName clusterId cause =>
    "unable to reconcile device " ++ named label id ++ " on cluster " ++
      named clusterName clusterId ++ ": " ++ cause.message

end PassFault

end InventorySync
