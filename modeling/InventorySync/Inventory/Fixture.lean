/-
# Inventory.Fixture — records made from a few values

Every record gets the address that the inventory would show it under, so that
records made one by one agree on how they refer to each other. A slug is the name in
lower case with hyphens for spaces.
-/
import InventorySync.Inventory.Record
import InventorySync.Text.Lowercase

namespace InventorySync.Fixture

set_option autoImplicit false

def recordUrl (baseUrl endpoint : String) (id : Id) : String :=
  baseUrl ++ "/api/" ++ endpoint ++ "/" ++ toString id ++ "/"

def entry (baseUrl endpoint : String) (id : Id) (name : String) : CatalogEntry :=
  ⟨id, recordUrl baseUrl endpoint id, name, name, Text.slug name⟩

/-- A platform; without a name it is called by its id. -/
def platformRef (baseUrl : String) (id : Id) (name : Option String) : CatalogEntry :=
  entry baseUrl "dcim/platforms" id (name.getD ("Platform " ++ toString id))

def platform (baseUrl : String) (id : Id) (name : String) : Platform :=
  entry baseUrl "dcim/platforms" id name

def deviceRole (baseUrl : String) (id : Id) (name : String) : DeviceRole :=
  entry baseUrl "dcim/device-roles" id name

/-- A reference to an address; without a text it is one of a block kept for
examples. -/
def addressRef (baseUrl : String) (id : Id) (address : Option String) : AddressRef :=
  let text := address.getD ("192.0.2." ++ toString (id % 255) ++ "/24")
  ⟨id, recordUrl baseUrl "ipam/ip-addresses" id, text, text⟩

def clusterRef (baseUrl : String) (id : Id) : NamedRef :=
  let name := "Cluster " ++ toString id
  ⟨id, recordUrl baseUrl "virtualization/clusters" id, name, name⟩

def cluster (baseUrl : String) (id : Id) (name kind : String) : Cluster :=
  ⟨id, recordUrl baseUrl "virtualization/clusters" id, name, name,
    some (entry baseUrl "virtualization/cluster-types" id kind), none, none⟩

/-- A value, if the id is set. -/
def ifSet {α : Type} (id : Id) (a : α) : Option α := if id = 0 then none else some a

/-- A device with a reference for each id that is not zero. -/
def device (baseUrl : String) (id : Id) (name : String) (status : DeviceStatus)
    (clusterId platformId oobIpId : Id) : Device where
  id := id
  url := recordUrl baseUrl "dcim/devices" id
  display := name
  name := some name
  status := ⟨status, status.name⟩
  role := none
  platform := ifSet platformId (platformRef baseUrl platformId none)
  oobIp := ifSet oobIpId (addressRef baseUrl oobIpId none)
  site := none
  cluster := ifSet clusterId (clusterRef baseUrl clusterId)

def interface (baseUrl : String) (id : Id) (name : String) (deviceId : Id) : Interface where
  id := id
  url := recordUrl baseUrl "dcim/interfaces" id
  display := name
  name := name
  device := ⟨deviceId, recordUrl baseUrl "dcim/devices" deviceId, "Device " ++ toString deviceId, none⟩
  lag := none
  managementOnly := false
  macAddress := none

/-- An address, bound to an interface unless the interface's id is zero. -/
def address (baseUrl : String) (id : Id) (text : String) (interfaceId : Id) : Address where
  id := id
  url := recordUrl baseUrl "ipam/ip-addresses" id
  display := text
  address := text
  assignedType := ifSet interfaceId "dcim.interface"
  assignedId := ifSet interfaceId interfaceId
  dnsName := ""

end InventorySync.Fixture
