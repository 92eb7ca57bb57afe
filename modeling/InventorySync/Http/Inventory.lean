/-
# Http.Inventory — the inventory behind its web interface

Each call becomes requests on the endpoint of its kind: listings fetch all pages, a
fetch and a patch decode the record in the reply, a delete needs only a success. A
program runs over a session as it runs over a store, except that it has no result if
a listing does not end.
-/
import InventorySync.Http.Listing
import InventorySync.Inventory.Program

namespace InventorySync

set_option autoImplicit false

namespace Http.Client

variable {σ : Type}

/-- The path of one record. -/
def recordPath (endpoint : String) (id : Id) : String :=
  "/api/" ++ endpoint ++ "/" ++ toString id ++ "/"

/-- Note what a listing asks for. -/
def noteQuery (what : String) (q : Query) : StateM (Session σ) Unit :=
  Session.note (Log.debug ("Querying " ++ what ++ " [" ++ q.display ++ "]"))

/-- Make one call. -/
def perform (c : Client) (server : Server σ) (pages : Nat) :
    (call : Call) → StateM (Session σ) (Option (Except Fault call.Answer))
  | .listClusters f => do
    noteQuery "clusters" f.query
    c.list server pages "virtualization/clusters" f.query Cluster.codec
  | .listDevices f => do
    noteQuery "devices" f.query
    c.list server pages "dcim/devices" f.query Device.codec
  | .getDevice id => do
    Session.note (Log.debug ("Fetching device " ++ toString id ++ " from NetBox"))
    return some (← c.fetch server (recordPath "dcim/devices" id) (decodeBody Device.codec))
  | .updateDevice id patch => do
    let result ← c.update server (recordPath "dcim/devices" id) (DevicePatch.codec.write patch)
      Device.codec
    return some (result.mapError (Call.updateDevice id patch).fault)
  | .listInterfaces f => do
    noteQuery "interfaces" f.query
    c.list server pages "dcim/interfaces" f.query Interface.codec
  | .updateInterface id patch => do
    let result ← c.update server (recordPath "dcim/interfaces" id) (InterfacePatch.codec.write patch)
      Interface.codec
    return some (result.mapError (Call.updateInterface id patch).fault)
  | .deleteInterface id => do
    return some ((← c.remove server (recordPath "dcim/interfaces" id)).mapError
      (Call.deleteInterface id).fault)
  | .listAddresses f => do
    noteQuery "IP addresses" f.query
    c.list server pages "ipam/ip-addresses" f.query Address.codec
  | .deleteAddress id => do
    return some ((← c.remove server (recordPath "ipam/ip-addresses" id)).mapError
      (Call.deleteAddress id).fault)
  | .listPlatforms f => c.list server pages "dcim/platforms" f.query CatalogEntry.codec
  | .listDeviceRoles f => c.list server pages "dcim/device-roles" f.query CatalogEntry.codec

end Http.Client

/-- Run a program over a session, with a bound on the pages of each listing. -/
def Program.runOver {ε α σ : Type} (c : Http.Client) (server : Http.Server σ) (pages : Nat) :
    Program ε α → StateM (Http.Session σ) (Option (Except ε α))
  | .done a => return some (.ok a)
  | .fail e => return some (.error e)
  | .note line rest => do
    Http.Session.note line
    rest.runOver c server pages
  | .call asked onFault next => do
    match ← c.perform server pages asked with
    | none => return none
    | some (.error f) => return some (.error (onFault f))
    | some (.ok a) => (next a).runOver c server pages

end InventorySync
