/-
# Inventory.Record — what the inventory holds

Clusters, devices, their interfaces and addresses, and the catalogues of platforms
and device roles. Every record has an id, which is never zero in an inventory that
is in use, and zero stands for an unset reference. A record refers to others by
embedded copies that carry at least their id.

A patch names the fields of a record that a write may change, and leaves alone the
ones it does not set.
-/

namespace InventorySync

set_option autoImplicit false

/-- The number of a record within its kind. -/
abbrev Id := UInt64

/-! ## Embedded references -/

/-- An entry of a catalogue: a platform, a device role, a site or a cluster type. -/
structure CatalogEntry where
  id : Id
  url : String
  display : String
  name : String
  slug : String
  deriving DecidableEq, Repr, Inhabited

structure NamedRef where
  id : Id
  url : String
  display : String
  name : String
  deriving DecidableEq, Repr, Inhabited

/-- A device may have no name. -/
structure DeviceRef where
  id : Id
  url : String
  display : String
  name : Option String
  deriving DecidableEq, Repr, Inhabited

structure AddressRef where
  id : Id
  url : String
  display : String
  address : String
  deriving DecidableEq, Repr, Inhabited

/-! ## Records -/

abbrev Platform := CatalogEntry

abbrev DeviceRole := CatalogEntry

structure Cluster where
  id : Id
  url : String
  display : String
  name : String
  kind : Option CatalogEntry
  site : Option CatalogEntry
  deviceCount : Option UInt64
  deriving DecidableEq, Repr, Inhabited

inductive DeviceStatus where
  | offline
  | active
  | planned
  | staged
  | failed
  | inventory
  | decommissioning
  /-- A status of the operator's own. -/
  | other
  deriving DecidableEq, Repr, Inhabited

namespace DeviceStatus

def name : DeviceStatus → String
  | offline => "offline"
  | active => "active"
  | planned => "planned"
  | staged => "staged"
  | failed => "failed"
  | inventory => "inventory"
  | decommissioning => "decommissioning"
  | other => "other"

/-- Every word names a status; those not listed are all the same. -/
def ofName (s : String) : DeviceStatus :=
  match s with
  | "offline" => offline
  | "active" => active
  | "planned" => planned
  | "staged" => staged
  | "failed" => failed
  | "inventory" => inventory
  | "decommissioning" => decommissioning
  | _ => other

theorem ofName_name (s : DeviceStatus) : ofName s.name = s := by cases s <;> rfl

end DeviceStatus

/-- A value with the label that people see. -/
structure Choice (α : Type) where
  value : α
  label : String
  deriving DecidableEq, Repr, Inhabited

structure Device where
  id : Id
  url : String
  display : String
  name : Option String
  status : Choice DeviceStatus
  role : Option CatalogEntry
  platform : Option CatalogEntry
  oobIp : Option AddressRef
  site : Option CatalogEntry
  cluster : Option NamedRef
  deriving DecidableEq, Repr, Inhabited

namespace Device

/-- The name, or the display text of a device without one. -/
def label (d : Device) : String := d.name.getD d.display

def isActive (d : Device) : Bool := d.status.value == .active

/-- The platform's id, zero if unset. -/
def platformId (d : Device) : Id := (d.platform.map (·.id)).getD 0

/-- The id of the out-of-band address, zero if unset. -/
def oobIpId (d : Device) : Id := (d.oobIp.map (·.id)).getD 0

/-- The site's id, zero if unset. -/
def siteId (d : Device) : Id := (d.site.map (·.id)).getD 0

end Device

structure Interface where
  id : Id
  url : String
  display : String
  name : String
  device : DeviceRef
  /-- The aggregate that this interface is a member of. -/
  lag : Option NamedRef
  managementOnly : Bool
  macAddress : Option String
  deriving DecidableEq, Repr, Inhabited

structure Address where
  id : Id
  url : String
  display : String
  address : String
  assignedType : Option String
  /-- The interface that the address is bound to. -/
  assignedId : Option Id
  dnsName : String
  deriving DecidableEq, Repr, Inhabited

/-! ## Patches -/

structure DevicePatch where
  platform : Option Id := none
  oobIp : Option Id := none
  deriving DecidableEq, Repr, Inhabited

structure InterfacePatch where
  name : Option String := none
  deriving DecidableEq, Repr, Inhabited

/-- One page of a listing, and where the next one is. -/
structure Page (α : Type) where
  count : UInt64
  next : Option String
  previous : Option String
  results : List α
  deriving DecidableEq, Repr, Inhabited

end InventorySync
