/-
# Inventory.Call — what can be asked of an inventory

Eleven calls: listings, a fetch by id, and writes. `Call.Answer` is the type of a
call's answer. Four calls change the inventory; a fault of one of them is wrapped
with its verb, kind and id, whichever inventory answers it.
-/
import InventorySync.Inventory.Query

namespace InventorySync

set_option autoImplicit false

/-- The kinds of calls, without their arguments. -/
inductive Operation where
  | listClusters
  | listDevices
  | getDevice
  | updateDevice
  | listInterfaces
  | updateInterface
  | deleteInterface
  | listAddresses
  | deleteAddress
  | listPlatforms
  | listDeviceRoles
  deriving DecidableEq, Repr

inductive Call where
  | listClusters (filter : ClusterFilter)
  | listDevices (filter : DeviceFilter)
  | getDevice (id : Id)
  | updateDevice (id : Id) (patch : DevicePatch)
  | listInterfaces (filter : InterfaceFilter)
  | updateInterface (id : Id) (patch : InterfacePatch)
  | deleteInterface (id : Id)
  | listAddresses (filter : AddressFilter)
  | deleteAddress (id : Id)
  | listPlatforms (filter : NameFilter)
  | listDeviceRoles (filter : NameFilter)
  deriving DecidableEq, Repr

namespace Call

@[reducible] def Answer : Call → Type
  | listClusters _ => List Cluster
  | listDevices _ => List Device
  | getDevice _ => Device
  | updateDevice _ _ => Device
  | listInterfaces _ => List Interface
  | updateInterface _ _ => Interface
  | deleteInterface _ => Unit
  | listAddresses _ => List Address
  | deleteAddress _ => Unit
  | listPlatforms _ => List Platform
  | listDeviceRoles _ => List DeviceRole

def operation : Call → Operation
  | listClusters _ => .listClusters
  | listDevices _ => .listDevices
  | getDevice _ => .getDevice
  | updateDevice _ _ => .updateDevice
  | listInterfaces _ => .listInterfaces
  | updateInterface _ _ => .updateInterface
  | deleteInterface _ => .deleteInterface
  | listAddresses _ => .listAddresses
  | deleteAddress _ => .deleteAddress
  | listPlatforms _ => .listPlatforms
  | listDeviceRoles _ => .listDeviceRoles

/-- Calls that change the inventory. -/
def isWrite : Call → Bool
  | updateDevice _ _ => true
  | updateInterface _ _ => true
  | deleteInterface _ => true
  | deleteAddress _ => true
  | _ => false

/-- The fault of a call, given its cause. -/
def fault : Call → Fault → Fault
  | updateDevice id _, cause => .operation "update" "device" id cause
  | updateInterface id _, cause => .operation "update" "interface" id cause
  | deleteInterface id, cause => .operation "delete" "interface" id cause
  | deleteAddress id, cause => .operation "delete" "ip address" id cause
  | _, cause => cause

/-- The filter of a listing, as people read it. -/
def filterText? : Call → Option String
  | listClusters f => some f.query.display
  | listDevices f => some f.query.display
  | listInterfaces f => some f.query.display
  | listAddresses f => some f.query.display
  | listPlatforms f => some f.query.display
  | listDeviceRoles f => some f.query.display
  | _ => none

end Call

end InventorySync
