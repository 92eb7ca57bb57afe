/-
# Inventory.Query — filters and the parameters they become

A filter has a field for each property that a listing can be narrowed by. An empty
text and a zero id do not narrow: only the other fields become parameters, in the
order of the filter. The parameters of a listing have two texts: one for people,
and the query string of a request.

`exactlyOne` is the contract of every lookup by identity.
-/
import InventorySync.Inventory.Fault
import InventorySync.Text.Percent

namespace InventorySync

set_option autoImplicit false

/-- Parameters of a listing, in order. -/
structure Query where
  pairs : List (String × String)
  deriving DecidableEq, Repr

namespace Query

def empty : Query := ⟨[]⟩

/-- Narrow by a text, unless it is empty. -/
def text (q : Query) (key value : String) : Query :=
  if value.isEmpty then q else ⟨q.pairs ++ [(key, value)]⟩

/-- Narrow by an id, unless it is zero. -/
def id (q : Query) (key : String) (value : Id) : Query :=
  if value = 0 then q else ⟨q.pairs ++ [(key, toString value)]⟩

def isEmpty (q : Query) : Bool := q.pairs.isEmpty

/-- The value of the first parameter of that name. -/
def get? (q : Query) (key : String) : Option String :=
  (q.pairs.find? (·.1 == key)).map (·.2)

/-- The text for people. -/
def display (q : Query) : String :=
  String.intercalate ", " (q.pairs.map fun p => p.1 ++ "=" ++ p.2)

/-- A parameter of a query string. -/
def component (p : String × String) : List Char :=
  Text.Percent.encodeChars p.1.toList ++ '=' :: Text.Percent.encodeChars p.2.toList

/-- Components with `&` between them. -/
def joinComponents : List (String × String) → List Char
  | [] => []
  | [p] => component p
  | p :: rest => component p ++ '&' :: joinComponents rest

/-- The query string of a request. -/
def queryString (pairs : List (String × String)) : String := String.ofList (joinComponents pairs)

end Query

/-! ## Filters -/

structure ClusterFilter where
  name : String := ""
  /-- The slug of the region. -/
  region : String := ""
  kind : String := ""
  deriving DecidableEq, Repr

structure DeviceFilter where
  clusterId : Id := 0
  roleId : Id := 0
  siteId : Id := 0
  name : String := ""
  deriving DecidableEq, Repr

structure InterfaceFilter where
  deviceId : Id := 0
  lagId : Id := 0
  name : String := ""
  deriving DecidableEq, Repr

structure AddressFilter where
  interfaceId : Id := 0
  deviceId : Id := 0
  deriving DecidableEq, Repr

/-- Platforms and device roles are narrowed by name only. -/
structure NameFilter where
  name : String := ""
  deriving DecidableEq, Repr

namespace ClusterFilter

def query (f : ClusterFilter) : Query :=
  Query.empty.text "name" f.name |>.text "region" f.region |>.text "type" f.kind

end ClusterFilter

namespace DeviceFilter

def ofCluster (clusterId : Id) : DeviceFilter := { clusterId := clusterId }

def query (f : DeviceFilter) : Query :=
  Query.empty.id "cluster_id" f.clusterId |>.id "role_id" f.roleId |>.id "site_id" f.siteId
    |>.text "name" f.name

end DeviceFilter

namespace InterfaceFilter

def ofDevice (deviceId : Id) : InterfaceFilter := { deviceId := deviceId }

def ofLag (lagId : Id) : InterfaceFilter := { lagId := lagId }

def query (f : InterfaceFilter) : Query :=
  Query.empty.id "device_id" f.deviceId |>.id "lag_id" f.lagId |>.text "name" f.name

end InterfaceFilter

namespace AddressFilter

def ofInterface (interfaceId : Id) : AddressFilter := { interfaceId := interfaceId }

def query (f : AddressFilter) : Query :=
  Query.empty.id "interface_id" f.interfaceId |>.id "device_id" f.deviceId

end AddressFilter

namespace NameFilter

def query (f : NameFilter) : Query := Query.empty.text "name" f.name

end NameFilter

/-- The only record of a listing; a fault that gives the number if there is not
exactly one. -/
def exactlyOne {α : Type} (kind : String) (q : Query) : List α → Except Fault α
  | [a] => .ok a
  | found => .error (.notFoundCount kind q.display found.length)

end InventorySync
