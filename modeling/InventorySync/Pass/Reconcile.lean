/-
# Pass.Reconcile — one pass over the listed clusters

For every descriptor in order: find the cluster, find the device role if one is set,
list the devices, and for every active device take a snapshot, decide, and carry out
the actions. The first fault ends the pass, and what has been written stays. A dry
run notes the actions and writes nothing.

A pass is a `Program`: it can be run on any inventory, and its decisions depend on
answers alone.
-/
import InventorySync.Inventory.Program
import InventorySync.Pass.Fault
import InventorySync.Pass.Report

namespace InventorySync

set_option autoImplicit false

open Drift (Action Policy Snapshot)

/-- How passes are made. -/
structure Reconciler where
  policy : Policy
  /-- Only devices of this role are listed, if it is set. -/
  deviceRole : Option String := none
  dryRun : Bool := false
  deriving DecidableEq, Repr

namespace Reconciler

/-- The reconciler as diagnostic text. -/
def describe (r : Reconciler) : String :=
  "Reconciler \x7b policy: " ++ r.policy.describe ++ ", device_role: " ++
    Text.quotedOption r.deviceRole ++ ", dry_run: " ++ toString r.dryRun ++ ", .. \x7d"

/-! ## One device -/

/-- Fetch the addresses of the interfaces that matter, one listing each. -/
def gatherBound (p : Policy) : List Interface → (Id → List Address) →
    Program Fault (Id → List Address)
  | [], bound => .done bound
  | i :: rest, bound =>
    if p.readsAddresses i.name then do
      let found ← Program.ask (.listAddresses (.ofInterface i.id))
      gatherBound p rest fun id => if id = i.id then found else bound id
    else gatherBound p rest bound

def snapshot (p : Policy) (d : Device) : Program Fault Snapshot := do
  let interfaces ← Program.ask (.listInterfaces (.ofDevice d.id))
  let bound ← gatherBound p interfaces fun _ => []
  let platforms ← Program.ask (.listPlatforms ⟨p.expectedPlatform⟩)
  return ⟨d, interfaces, bound, platforms⟩

def apply : Action → Program Fault Unit
  | .renameInterface id name => do
    let _ ← Program.ask (.updateInterface id ⟨some name⟩)
  | .updateDevice id platform oobIp => do
    let _ ← Program.ask (.updateDevice id ⟨some platform, some oobIp⟩)
  | .deleteAddress id => Program.ask (.deleteAddress id)
  | .deleteInterface id => Program.ask (.deleteInterface id)

/-- Carry out actions in order, or note them in a dry run. -/
def carryOut (dryRun : Bool) (d : Device) : List Action → Program Fault Unit
  | [] => .done ()
  | a :: rest =>
    let whom := " for device " ++ PassFault.named d.label d.id
    if dryRun then do
      Program.say (Log.warn ("Dry run: would " ++ a.describe ++ whom))
      carryOut dryRun d rest
    else do
      apply a
      Program.say (Log.info ("Applied " ++ a.describe ++ whom))
      carryOut dryRun d rest

/-- Bring one device in line, and count the actions. -/
def device (r : Reconciler) (d : Device) : Program DeviceFault Nat := do
  let found ← (snapshot r.policy d).mapFailure .inventory
  let actions ← Program.ofExcept ((Drift.resolve r.policy found).mapError .drift)
  if actions.isEmpty then
    Program.say (Log.debug ("Device " ++ PassFault.named d.label d.id ++ " matches policy"))
    return 0
  else
    (carryOut r.dryRun d actions).mapFailure .inventory
    return actions.length

/-! ## One cluster -/

/-- Visit devices in order, counting them. -/
def devices (r : Reconciler) (c : Cluster) : List Device → Report → Program PassFault Report
  | [], report => .done report
  | d :: rest, report =>
    let report := { report with devices := report.devices + 1 }
    if d.isActive then do
      let actions ← (r.device d).mapFailure (.device d.label d.id c.name c.id)
      devices r c rest { report with actions := report.actions + actions }
    else do
      Program.say (Log.debug ("Skipping device " ++ PassFault.named d.label d.id ++ " with status " ++
        d.status.label))
      devices r c rest { report with skipped := report.skipped + 1 }

/-- The id of the role that devices must have, zero if any will do. -/
def roleId (r : Reconciler) : Program PassFault Id :=
  match r.deviceRole with
  | some role => do
    let found ← (Program.findDeviceRole role).mapFailure (.deviceRole role)
    return found.id
  | none => .done 0

def cluster (r : Reconciler) (d : Descriptor) : Program PassFault Report := do
  let c ← (Program.findCluster ⟨d.name, d.region, d.kind⟩).mapFailure (.cluster d)
  Program.say (Log.debug ("Resolved cluster " ++ d.display ++ " to " ++ PassFault.named c.name c.id))
  let role ← r.roleId
  let found ← (Program.ask (.listDevices { clusterId := c.id, roleId := role })).mapFailure
    (.devices c.name c.id)
  let report ← r.devices c found { clusters := 1, dryRun := r.dryRun }
  Program.say (Log.info ("Reconciled cluster " ++ PassFault.named c.name c.id ++ ": " ++
    toString report.devices ++ " devices, " ++ toString report.skipped ++ " skipped, " ++
    toString report.actions ++ " actions"))
  return report

/-! ## All clusters -/

def clustersFrom (r : Reconciler) : List Descriptor → Report → Program PassFault Report
  | [], report => .done report
  | d :: rest, report => do
    let one ← r.cluster d
    clustersFrom r rest (report.merge one)

/-- One pass over the descriptors in order. -/
def clusters (r : Reconciler) (descriptors : List Descriptor) : Program PassFault Report :=
  r.clustersFrom descriptors { dryRun := r.dryRun }

end Reconciler

end InventorySync
