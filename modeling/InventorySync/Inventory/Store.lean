/-
# Inventory.Store — an inventory in memory

`Inventory.answer` says what each call does to the records: listings select, writes
change one record, and a write to a record that is not there is a fault. A `Store`
adds a log of the calls and faults to inject: a call is logged whether or not it
succeeds, and one whose operation is set to fail changes nothing.

`Program.runOn` runs a program on a store, and gives the result, the store it leaves
and the lines it noted.
-/
import InventorySync.Inventory.Fixture
import InventorySync.Inventory.Program
import InventorySync.Inventory.Table

namespace InventorySync

set_option autoImplicit false

/-- A cluster and the slug of the region that it is in. -/
structure SitedCluster where
  cluster : Cluster
  region : String
  deriving DecidableEq, Repr, Inhabited

instance : Identified SitedCluster := ⟨fun c => c.cluster.id⟩

structure Inventory where
  baseUrl : String
  clusters : Table SitedCluster
  devices : Table Device
  interfaces : Table Interface
  addresses : Table Address
  platforms : Table Platform
  deviceRoles : Table DeviceRole

/-! ## What a filter lets through -/

namespace ClusterFilter

def admits (f : ClusterFilter) (c : SitedCluster) : Bool :=
  (f.name.isEmpty || c.cluster.name == f.name) &&
    (f.region.isEmpty || c.region == f.region) &&
    (f.kind.isEmpty || c.cluster.kind.any fun k => k.slug == f.kind || k.name == f.kind)

end ClusterFilter

namespace DeviceFilter

def admits (f : DeviceFilter) (d : Device) : Bool :=
  (f.clusterId == 0 || d.cluster.any (·.id == f.clusterId)) &&
    (f.roleId == 0 || d.role.any (·.id == f.roleId)) &&
    (f.siteId == 0 || d.siteId == f.siteId) &&
    (f.name.isEmpty || d.name == some f.name)

end DeviceFilter

namespace InterfaceFilter

def admits (f : InterfaceFilter) (i : Interface) : Bool :=
  (f.deviceId == 0 || i.device.id == f.deviceId) &&
    (f.lagId == 0 || i.lag.any (·.id == f.lagId)) &&
    (f.name.isEmpty || i.name == f.name)

end InterfaceFilter

namespace AddressFilter

/-- An address knows its interface only; the device is that of the interface. -/
def admits (f : AddressFilter) (interfaces : Table Interface) (a : Address) : Bool :=
  (f.interfaceId == 0 || a.assignedId == some f.interfaceId) &&
    (f.deviceId == 0 ||
      (a.assignedId.bind interfaces.get?).any fun i => i.device.id == f.deviceId)

end AddressFilter

namespace NameFilter

def admits (f : NameFilter) (e : CatalogEntry) : Bool := f.name.isEmpty || e.name == f.name

end NameFilter

/-! ## Answers -/

namespace Inventory

def empty (baseUrl : String) : Inventory := ⟨baseUrl, .empty, .empty, .empty, .empty, .empty, .empty⟩

/-- The fault of a write to a record that is not there. -/
def absent (kind : String) (id : Id) : Fault := .notFound (kind ++ " " ++ toString id ++ " not found")

/-- A device with the references of a patch. What the inventory knows of a platform
or an address goes into the reference. -/
def patchedDevice (inv : Inventory) (patch : DevicePatch) (d : Device) : Device :=
  { d with
    platform :=
      match patch.platform with
      | some id => some (Fixture.platformRef inv.baseUrl id ((inv.platforms.get? id).map (·.name)))
      | none => d.platform
    oobIp :=
      match patch.oobIp with
      | some id => some (Fixture.addressRef inv.baseUrl id ((inv.addresses.get? id).map (·.address)))
      | none => d.oobIp }

/-- An interface under the name of a patch. -/
def patchedInterface (patch : InterfacePatch) (i : Interface) : Interface :=
  match patch.name with
  | some name => { i with name := name, display := name }
  | none => i

theorem idOf_patchedDevice (inv : Inventory) (patch : DevicePatch) (d : Device) :
    idOf (inv.patchedDevice patch d) = idOf d := rfl

theorem idOf_patchedInterface (patch : InterfacePatch) (i : Interface) :
    idOf (patchedInterface patch i) = idOf i := by
  unfold patchedInterface
  split <;> rfl

/-- The answer to a call, or the cause of its fault, and the inventory after it. -/
def answer : (c : Call) → Inventory → Except Fault c.Answer × Inventory
  | .listClusters f, inv => (.ok ((inv.clusters.select f.admits).map (·.cluster)), inv)
  | .listDevices f, inv => (.ok (inv.devices.select f.admits), inv)
  | .getDevice id, inv =>
    match inv.devices.get? id with
    | some d => (.ok d, inv)
    | none => (.error (absent "Device" id), inv)
  | .updateDevice id patch, inv =>
    match inv.devices.get? id with
    | some d =>
      (.ok (inv.patchedDevice patch d),
        { inv with
          devices := inv.devices.modify id (inv.patchedDevice patch) (inv.idOf_patchedDevice patch) })
    | none => (.error (absent "Device" id), inv)
  | .listInterfaces f, inv => (.ok (inv.interfaces.select f.admits), inv)
  | .updateInterface id patch, inv =>
    match inv.interfaces.get? id with
    | some i =>
      (.ok (patchedInterface patch i),
        { inv with
          interfaces :=
            inv.interfaces.modify id (patchedInterface patch) (idOf_patchedInterface patch) })
    | none => (.error (absent "Interface" id), inv)
  | .deleteInterface id, inv =>
    match inv.interfaces.get? id with
    | some _ => (.ok (), { inv with interfaces := inv.interfaces.erase id })
    | none => (.error (absent "Interface" id), inv)
  | .listAddresses f, inv => (.ok (inv.addresses.select (f.admits inv.interfaces)), inv)
  | .deleteAddress id, inv =>
    match inv.addresses.get? id with
    | some _ => (.ok (), { inv with addresses := inv.addresses.erase id })
    | none => (.error (absent "IP address" id), inv)
  | .listPlatforms f, inv => (.ok (inv.platforms.select f.admits), inv)
  | .listDeviceRoles f, inv => (.ok (inv.deviceRoles.select f.admits), inv)

end Inventory

/-! ## The store -/

/-- The message with which calls of an operation fail, if they do. -/
abbrev Failures := Operation → Option String

namespace Failures

def none : Failures := fun _ => Option.none

def set (failures : Failures) (op : Operation) (message : String) : Failures :=
  fun other => if other = op then some message else failures other

end Failures

structure Store where
  inventory : Inventory
  /-- Every call so far, the first one in front. -/
  calls : List Call
  failures : Failures

namespace Store

def empty (baseUrl : String) : Store := ⟨.empty baseUrl, [], .none⟩

/-- The calls so far that change the inventory. -/
def writes (s : Store) : List Call := s.calls.filter (·.isWrite)

/-- Make one call. -/
def perform (c : Call) (s : Store) : Except Fault c.Answer × Store :=
  let logged := { s with calls := s.calls ++ [c] }
  match s.failures c.operation with
  | some message => (.error (c.fault (.api message)), logged)
  | none =>
    let (result, inventory) := s.inventory.answer c
    (result.mapError c.fault, { logged with inventory := inventory })

end Store

/-- What a program leaves when it has run on a store. -/
structure Ran (ε α : Type) where
  result : Except ε α
  store : Store
  notes : List Log.Entry

/-- Run a program on a store. -/
def Program.runOn {ε α : Type} : Program ε α → Store → Ran ε α
  | .done a, s => ⟨.ok a, s, []⟩
  | .fail e, s => ⟨.error e, s, []⟩
  | .note line rest, s =>
    let ran := rest.runOn s
    { ran with notes := line :: ran.notes }
  | .call c onFault next, s =>
    match s.perform c with
    | (.ok a, s) => (next a).runOn s
    | (.error f, s) => ⟨.error (onFault f), s, []⟩

end InventorySync
