/-
# Inventory.Codec — records of the inventory in JSON

The layouts of all records. A reference that may be unset is null or left out. A
device's role has an older name that is still read. Patches leave out what they do
not set, so that the inventory keeps it.
-/
import InventorySync.Json.Codec
import InventorySync.Inventory.Record

namespace InventorySync

set_option autoImplicit false

open Json (Codec Layout Member)

namespace CatalogEntry

def layout : Layout [Id, String, String, String, String] :=
  .cons (.needed "id" .word) <| .cons (.needed "url" .string) <|
  .cons (.needed "display" .string) <| .cons (.needed "name" .string) <|
  .cons (.needed "slug" .string) .nil

def codec : Codec CatalogEntry :=
  .record layout (fun r => (r.id, r.url, r.display, r.name, r.slug, ()))
    fun (id, url, display, name, slug, ()) => ⟨id, url, display, name, slug⟩

end CatalogEntry

namespace NamedRef

def layout : Layout [Id, String, String, String] :=
  .cons (.needed "id" .word) <| .cons (.needed "url" .string) <|
  .cons (.needed "display" .string) <| .cons (.needed "name" .string) .nil

def codec : Codec NamedRef :=
  .record layout (fun r => (r.id, r.url, r.display, r.name, ()))
    fun (id, url, display, name, ()) => ⟨id, url, display, name⟩

end NamedRef

namespace DeviceRef

def layout : Layout [Id, String, String, Option String] :=
  .cons (.needed "id" .word) <| .cons (.needed "url" .string) <|
  .cons (.needed "display" .string) <| .cons (.nullable "name" .string) .nil

def codec : Codec DeviceRef :=
  .record layout (fun r => (r.id, r.url, r.display, r.name, ()))
    fun (id, url, display, name, ()) => ⟨id, url, display, name⟩

end DeviceRef

namespace AddressRef

def layout : Layout [Id, String, String, String] :=
  .cons (.needed "id" .word) <| .cons (.needed "url" .string) <|
  .cons (.needed "display" .string) <| .cons (.needed "address" .string) .nil

def codec : Codec AddressRef :=
  .record layout (fun r => (r.id, r.url, r.display, r.address, ()))
    fun (id, url, display, address, ()) => ⟨id, url, display, address⟩

end AddressRef

namespace Cluster

def layout : Layout [Id, String, String, String, Option CatalogEntry, Option CatalogEntry,
    Option UInt64] :=
  .cons (.needed "id" .word) <| .cons (.needed "url" .string) <|
  .cons (.needed "display" .string) <| .cons (.needed "name" .string) <|
  .cons (.nullable "type" CatalogEntry.codec) <| .cons (.nullable "site" CatalogEntry.codec) <|
  .cons (.nullable "device_count" .word) .nil

def codec : Codec Cluster :=
  .record layout
    (fun r => (r.id, r.url, r.display, r.name, r.kind, r.site, r.deviceCount, ()))
    fun (id, url, display, name, kind, site, deviceCount, ()) =>
      ⟨id, url, display, name, kind, site, deviceCount⟩

end Cluster

namespace DeviceStatus

def codec : Codec DeviceStatus := .variant name fun s => some (ofName s)

end DeviceStatus

namespace Choice

def layout {α : Type} (value : Codec α) : Layout [α, String] :=
  .cons (.needed "value" value) <| .cons (.needed "label" .string) .nil

def codec {α : Type} (value : Codec α) : Codec (Choice α) :=
  .record (layout value) (fun r => (r.value, r.label, ())) fun (value, label, ()) => ⟨value, label⟩

end Choice

namespace Device

def layout : Layout [Id, String, String, Option String, Choice DeviceStatus, Option CatalogEntry,
    Option CatalogEntry, Option AddressRef, Option CatalogEntry, Option NamedRef] :=
  .cons (.needed "id" .word) <| .cons (.needed "url" .string) <|
  .cons (.needed "display" .string) <| .cons (.nullable "name" .string) <|
  .cons (.needed "status" (Choice.codec DeviceStatus.codec)) <|
  .cons { Member.nullable "role" CatalogEntry.codec with alternative := some "device_role" } <|
  .cons (.nullable "platform" CatalogEntry.codec) <| .cons (.nullable "oob_ip" AddressRef.codec) <|
  .cons (.nullable "site" CatalogEntry.codec) <| .cons (.nullable "cluster" NamedRef.codec) .nil

def codec : Codec Device :=
  .record layout
    (fun r => (r.id, r.url, r.display, r.name, r.status, r.role, r.platform, r.oobIp, r.site,
      r.cluster, ()))
    fun (id, url, display, name, status, role, platform, oobIp, site, cluster, ()) =>
      ⟨id, url, display, name, status, role, platform, oobIp, site, cluster⟩

end Device

namespace Interface

def layout : Layout [Id, String, String, String, DeviceRef, Option NamedRef, Bool,
    Option String] :=
  .cons (.needed "id" .word) <| .cons (.needed "url" .string) <|
  .cons (.needed "display" .string) <| .cons (.needed "name" .string) <|
  .cons (.needed "device" DeviceRef.codec) <| .cons (.nullable "lag" NamedRef.codec) <|
  .cons { name := "mgmt_only", presence := .default false, codec := .bool } <|
  .cons (.nullable "mac_address" .string) .nil

def codec : Codec Interface :=
  .record layout
    (fun r => (r.id, r.url, r.display, r.name, r.device, r.lag, r.managementOnly, r.macAddress, ()))
    fun (id, url, display, name, device, lag, managementOnly, macAddress, ()) =>
      ⟨id, url, display, name, device, lag, managementOnly, macAddress⟩

end Interface

namespace Address

def layout : Layout [Id, String, String, String, Option String, Option Id, String] :=
  .cons (.needed "id" .word) <| .cons (.needed "url" .string) <|
  .cons (.needed "display" .string) <| .cons (.needed "address" .string) <|
  .cons (.nullable "assigned_object_type" .string) <| .cons (.nullable "assigned_object_id" .word) <|
  .cons { name := "dns_name", presence := .default "", codec := .string } .nil

def codec : Codec Address :=
  .record layout
    (fun r => (r.id, r.url, r.display, r.address, r.assignedType, r.assignedId, r.dnsName, ()))
    fun (id, url, display, address, assignedType, assignedId, dnsName, ()) =>
      ⟨id, url, display, address, assignedType, assignedId, dnsName⟩

end Address

namespace DevicePatch

def layout : Layout [Option Id, Option Id] :=
  .cons (.patched "platform" .word) <| .cons (.patched "oob_ip" .word) .nil

def codec : Codec DevicePatch :=
  .record layout (fun r => (r.platform, r.oobIp, ())) fun (platform, oobIp, ()) => ⟨platform, oobIp⟩

end DevicePatch

namespace InterfacePatch

def layout : Layout [Option String] := .cons (.patched "name" .string) .nil

def codec : Codec InterfacePatch :=
  .record layout (fun r => (r.name, ())) fun (name, ()) => ⟨name⟩

end InterfacePatch

namespace Page

def layout {α : Type} (item : Codec α) : Layout [UInt64, Option String, Option String, List α] :=
  .cons (.needed "count" .word) <|
  .cons { name := "next", presence := .optional none, codec := Codec.string.option } <|
  .cons { name := "previous", presence := .optional none, codec := Codec.string.option } <|
  .cons (.needed "results" item.list) .nil

def codec {α : Type} (item : Codec α) : Codec (Page α) :=
  .record (layout item) (fun r => (r.count, r.next, r.previous, r.results, ()))
    fun (count, next, previous, results, ()) => ⟨count, next, previous, results⟩

end Page

end InventorySync
