/-
# Proofs.Scope — what a pass leaves alone

A pass works on the devices that are active, in a cluster that a descriptor stands for,
and of the role if one is set (`InScope`). Those are the devices it visits
(`visits_itinerary_iff`).

`Confined` is what a pass may have done to an inventory so far. It holds before the
first write, every write keeps it (`Confined.step`), and so it holds wherever the pass
stops (`clusters_confined`). A rename cannot bring an interface into reach of the
cleanup, since no name of a policy is ephemeral: that is what the step rests on.
-/
import InventorySync.Proofs.Itinerary

namespace InventorySync

set_option autoImplicit false

open Drift (Action Policy)

theorem exactlyOne_eq_ok_iff {α : Type} {kind : String} {q : Query} {found : List α} {a : α} :
    exactlyOne kind q found = .ok a ↔ found = [a] := by
  rcases found with _ | ⟨b, _ | ⟨c, rest⟩⟩ <;> simp [exactlyOne]

namespace Reconciler

/-- A device that a pass works on: it is active, in a cluster that one of the descriptors
stands for, and of the role if one is set. -/
structure Covers (r : Reconciler) (inv : Inventory) (ds : List Descriptor) (d : Device) : Prop where
  row : d ∈ inv.devices.rows
  active : d.isActive = true
  cluster : ∃ e ∈ ds, ∃ c, inv.cluster? e = .ok c ∧ d.cluster.map (·.id) = some c.id
  role : ∀ name, r.deviceRole = some name →
    ∃ role, inv.role? name = .ok role ∧ d.role.map (·.id) = some role.id

/-- The id of such a device. -/
def InScope (r : Reconciler) (inv : Inventory) (ds : List Descriptor) (id : Id) : Prop :=
  ∃ d, r.Covers inv ds d ∧ d.id = id

variable {inv : Inventory}

/-- Scope does not change on the way. -/
theorem Covers.inScope_of_alike {r : Reconciler} {inv' : Inventory} {ds : List Descriptor}
    {d : Device} (covers : r.Covers inv' ds d) (alike : inv.Alike inv') :
    r.InScope inv ds d.id := by
  obtain ⟨e, row, bare⟩ : ∃ e ∈ inv.devices.rows, e.bare = d.bare :=
    List.mem_map.1 (alike.devices ▸ List.mem_map_of_mem covers.row)
  refine ⟨e, ⟨row, ?_, ?_, ?_⟩, Device.congr_bare bare (·.id) fun _ => rfl⟩
  · exact (Device.congr_bare bare (·.isActive) fun _ => rfl).trans covers.active
  · obtain ⟨descriptor, member, c, found, same⟩ := covers.cluster
    refine ⟨descriptor, member, c, (cluster?_of_alike alike descriptor).symm.trans found, ?_⟩
    exact (congrArg (·.map (·.id)) (Device.congr_bare bare (·.cluster) fun _ => rfl)).trans same
  · intro name wanted
    obtain ⟨role, found, same⟩ := covers.role name wanted
    have sameRole := congrArg (·.map (·.id)) (Device.congr_bare bare (·.role) fun _ => rfl)
    refine ⟨role, ?_, sameRole.trans same⟩
    rwa [Inventory.role?, ← alike.deviceRoles]

/-! ## The devices that are visited -/

theorem admits_iff {c : Cluster} {role : Id} (nonzero : c.id ≠ 0) (d : Device) :
    (deviceFilter c role).admits d = true ↔
      d.cluster.map (·.id) = some c.id ∧ (role = 0 ∨ d.role.map (·.id) = some role) := by
  have empty : "".isEmpty = true := rfl
  simp [DeviceFilter.admits, deviceFilter, empty, nonzero, Option.map_eq_some_iff, Option.any_eq_true]

theorem exists_row_of_cluster? {d : Descriptor} {c : Cluster} (found : inv.cluster? d = .ok c) :
    ∃ sited ∈ inv.clusters.rows, sited.cluster = c := by
  have only := exactlyOne_eq_ok_iff.1 found
  obtain ⟨sited, listed, same⟩ := List.mem_map.1 (only ▸ List.mem_singleton_self c)
  exact ⟨sited, (Table.mem_select.1 listed).1, same⟩

theorem cluster?_id_ne {d : Descriptor} {c : Cluster} (ids : inv.IdsSet)
    (found : inv.cluster? d = .ok c) : c.id ≠ 0 := by
  obtain ⟨sited, row, rfl⟩ := exists_row_of_cluster? found
  exact ids.clusters sited row

theorem role?_id_ne {name : String} {role : DeviceRole} (ids : inv.IdsSet)
    (found : inv.role? name = .ok role) : role.id ≠ 0 := by
  have only := exactlyOne_eq_ok_iff.1 found
  exact ids.deviceRoles role (Table.mem_select.1 (only ▸ List.mem_singleton_self role)).1

/-- The role that a listing is narrowed by is the one that is set. -/
theorem role?_admits_iff {r : Reconciler} (ids : inv.IdsSet) (d : Device) :
    (∃ role, r.role? inv = .ok role ∧ (role = 0 ∨ d.role.map (·.id) = some role)) ↔
      ∀ name, r.deviceRole = some name →
        ∃ role, inv.role? name = .ok role ∧ d.role.map (·.id) = some role.id := by
  cases wanted : r.deviceRole with
  | none => simp [role?, wanted]
  | some name =>
      simp only [role?, wanted, Option.some.injEq, forall_eq']
      cases found : inv.role? name with
      | error f => simp [Except.map]
      | ok role => simp [Except.map, role?_id_ne ids found]

theorem mem_listed_iff {r : Reconciler} (ids : inv.IdsSet) {d : Descriptor} {e : Device} :
    e ∈ r.listed inv d ↔ e ∈ inv.devices.rows ∧
      (∃ c, inv.cluster? d = .ok c ∧ e.cluster.map (·.id) = some c.id) ∧
      ∀ name, r.deviceRole = some name →
        ∃ role, inv.role? name = .ok role ∧ e.role.map (·.id) = some role.id := by
  rw [← role?_admits_iff ids]
  cases clusterFound : inv.cluster? d with
  | error f => simp [listed, clusterFound]
  | ok c =>
      cases roleFound : r.role? inv with
      | error f => simp [listed, clusterFound, roleFound]
      | ok role =>
          simp [listed, clusterFound, roleFound, Table.mem_select,
            admits_iff (cluster?_id_ne ids clusterFound)]

theorem visits_clusterStops_iff {r : Reconciler} {d : Descriptor} {id : Id} :
    Visits (r.clusterStops inv d) id ↔ ∃ e ∈ r.listed inv d, e.isActive = true ∧ e.id = id := by
  have noVisit : ∀ report, Stop.visit id report ∉ r.roleStops inv := fun report => by
    simp only [roleStops]
    split <;> simp
  have listing : ∀ e, e ∈ r.listed inv d ↔ ∃ c, inv.cluster? d = .ok c ∧
      ∃ role, r.role? inv = .ok role ∧ e ∈ inv.devices.select (deviceFilter c role).admits := by
    intro e
    simp only [listed]
    cases inv.cluster? d <;> cases r.role? inv <;> simp
  simp only [Visits, clusterStops, deviceStops, listing, List.mem_cons, List.mem_append,
    List.mem_map, List.mem_filter, mem_following, noVisit, false_or, reduceCtorEq]
  constructor
  · rintro ⟨report, c, clusterFound, role, roleFound, e, ⟨found, active⟩, same⟩
    cases same
    exact ⟨e, ⟨c, clusterFound, role, roleFound, found⟩, active, rfl⟩
  · rintro ⟨e, ⟨c, clusterFound, role, roleFound, found⟩, active, rfl⟩
    exact ⟨_, c, clusterFound, role, roleFound, e, ⟨found, active⟩, rfl⟩

/-- **The devices that a pass visits are those in scope.** -/
theorem visits_itinerary_iff {r : Reconciler} (ids : inv.IdsSet) {ds : List Descriptor} {id : Id} :
    Visits (r.itinerary inv ds) id ↔ r.InScope inv ds id := by
  have whole : Visits (r.itinerary inv ds) id ↔ ∃ d ∈ ds, Visits (r.clusterStops inv d) id := by
    simp only [Visits, itinerary, List.mem_flatMap]
    constructor
    · rintro ⟨report, d, member, stop⟩
      exact ⟨d, member, report, stop⟩
    · rintro ⟨d, member, report, stop⟩
      exact ⟨report, d, member, stop⟩
  simp only [whole, visits_clusterStops_iff, mem_listed_iff ids]
  constructor
  · rintro ⟨d, member, e, ⟨row, cluster, role⟩, active, same⟩
    exact ⟨e, ⟨row, active, ⟨d, member, cluster⟩, role⟩, same⟩
  · rintro ⟨e, ⟨row, active, ⟨d, member, cluster⟩, role⟩, same⟩
    exact ⟨d, member, e, ⟨row, cluster, role⟩, active, same⟩

end Reconciler

/-! ## What a pass may have done -/

/-- An interface under the canonical name. -/
def Interface.renamed (p : Policy) (i : Interface) : Interface :=
  { i with name := p.oobName, display := p.oobName }

/-- What a pass may have done to an inventory: devices in scope have other references,
some of their legacy interfaces are renamed, and some of their ephemeral interfaces are
gone, or addresses of these. -/
structure Confined (p : Policy) (scope : Id → Prop) (inv inv' : Inventory) : Prop where
  baseUrl : inv'.baseUrl = inv.baseUrl
  clusters : inv'.clusters = inv.clusters
  platforms : inv'.platforms = inv.platforms
  deviceRoles : inv'.deviceRoles = inv.deviceRoles
  /-- The same devices in the same order; one out of scope is the same in everything. -/
  devices : List.Forall₂ (fun d d' => d' = d ∨ scope d.id ∧ d'.bare = d.bare)
    inv.devices.rows inv'.devices.rows
  interfaces : ∀ i' ∈ inv'.interfaces.rows, ∃ i ∈ inv.interfaces.rows,
    i' = i ∨ scope i.device.id ∧ i.name = p.legacyOobName ∧ i' = i.renamed p
  interfacesGone : ∀ i ∈ inv.interfaces.rows, (∀ i' ∈ inv'.interfaces.rows, i'.id ≠ i.id) →
    scope i.device.id ∧ p.ephemeralStart.toList <+: i.name.toList
  addresses : ∀ a ∈ inv'.addresses.rows, a ∈ inv.addresses.rows
  addressesGone : ∀ a ∈ inv.addresses.rows, a ∉ inv'.addresses.rows →
    ∃ i ∈ inv.interfaces.rows, a.assignedId = some i.id ∧ scope i.device.id ∧
      p.ephemeralStart.toList <+: i.name.toList

namespace Confined

variable {p : Policy} {scope : Id → Prop} {inv inv' inv'' : Inventory}

theorem refl (p : Policy) (scope : Id → Prop) (inv : Inventory) : Confined p scope inv inv where
  baseUrl := rfl
  clusters := rfl
  platforms := rfl
  deviceRoles := rfl
  devices := List.forall₂_same.2 fun _ _ => .inl rfl
  interfaces i row := ⟨i, row, .inl rfl⟩
  interfacesGone i row gone := (gone i row rfl).elim
  addresses _ row := row
  addressesGone _ row gone := (gone row).elim

/-- An interface that may be removed now was as it is from the beginning. -/
theorem mem_of_ephemeral (confined : Confined p scope inv inv') (separate : p.Separate)
    {i : Interface} (row : i ∈ inv'.interfaces.rows) (ephemeral : p.isEphemeral i.name = true) :
    i ∈ inv.interfaces.rows := by
  obtain ⟨j, rowJ, rfl | ⟨-, -, rfl⟩⟩ := confined.interfaces i row
  · exact rowJ
  · have never : p.isEphemeral p.oobName = true := ephemeral
    rw [separate.oob] at never
    cases never

/-- An interface that may be renamed now was as it is from the beginning. -/
theorem mem_of_legacy (confined : Confined p scope inv inv') (separate : p.Separate)
    {i : Interface} (row : i ∈ inv'.interfaces.rows) (legacy : i.name = p.legacyOobName) :
    i ∈ inv.interfaces.rows := by
  obtain ⟨j, rowJ, rfl | ⟨-, -, rfl⟩⟩ := confined.interfaces i row
  · exact rowJ
  · exact (separate.names legacy.symm).elim

theorem renameInterface (confined : Confined p scope inv inv') (separate : p.Separate)
    {i : Interface} (row : i ∈ inv'.interfaces.rows) (inScope : scope i.device.id)
    (legacy : i.name = p.legacyOobName) :
    Confined p scope inv (inv'.act (.renameInterface i.id p.oobName)) := by
  have rowsAfter : ∀ j', j' ∈ (inv'.act (.renameInterface i.id p.oobName)).interfaces.rows ↔
      ∃ j ∈ inv'.interfaces.rows, (if j.id = i.id then j.renamed p else j) = j' :=
    fun _ => List.mem_map
  refine { confined with interfaces := fun j' after => ?_, interfacesGone := fun j rowJ gone => ?_ }
  · obtain ⟨j, rowJ, rfl⟩ := (rowsAfter j').1 after
    split
    · rename_i same
      obtain rfl : j = i := Table.eq_of_idOf_eq rowJ row same
      exact ⟨j, confined.mem_of_legacy separate row legacy, .inr ⟨inScope, legacy, rfl⟩⟩
    · exact confined.interfaces j rowJ
  · refine confined.interfacesGone j rowJ fun k rowK => ?_
    have there := gone _ ((rowsAfter _).2 ⟨k, rowK, rfl⟩)
    split at there
    · exact there
    · exact there

theorem updateDevice (confined : Confined p scope inv inv') {id : Id} (inScope : scope id)
    (platform oobIp : Id) : Confined p scope inv (inv'.act (.updateDevice id platform oobIp)) := by
  refine { confined with devices := ?_ }
  refine List.forall₂_map_right_iff.2 (confined.devices.imp fun d d' same => ?_)
  have sameBare : d'.bare = d.bare := by
    obtain rfl | ⟨-, bare⟩ := same
    · rfl
    · exact bare
  have sameId : d'.id = d.id := Device.congr_bare sameBare (·.id) fun _ => rfl
  split
  · rename_i here
    obtain rfl : d.id = id := sameId.symm.trans here
    exact .inr ⟨inScope, sameBare⟩
  · exact same

theorem deleteAddress (confined : Confined p scope inv inv') (separate : p.Separate) {a : Address}
    {i : Interface} (row : a ∈ inv'.addresses.rows) (bound : a.assignedId = some i.id)
    (on : i ∈ inv'.interfaces.rows) (inScope : scope i.device.id)
    (ephemeral : p.isEphemeral i.name = true) :
    Confined p scope inv (inv'.act (.deleteAddress a.id)) := by
  refine { confined with addresses := fun b after => ?_, addressesGone := fun b rowB gone => ?_ }
  · exact confined.addresses b (Table.mem_erase.1 after).1
  · by_cases still : b ∈ inv'.addresses.rows
    · have erased : b.id = a.id := by
        by_contra ne
        exact gone (Table.mem_erase.2 ⟨still, ne⟩)
      obtain rfl : b = a := Table.eq_of_idOf_eq still row erased
      exact ⟨i, confined.mem_of_ephemeral separate on ephemeral, bound, inScope,
        Policy.isEphemeral_iff.1 ephemeral⟩
    · exact confined.addressesGone b rowB still

theorem deleteInterface (confined : Confined p scope inv inv') (separate : p.Separate)
    {i : Interface} (row : i ∈ inv'.interfaces.rows) (inScope : scope i.device.id)
    (ephemeral : p.isEphemeral i.name = true) :
    Confined p scope inv (inv'.act (.deleteInterface i.id)) := by
  refine { confined with interfaces := fun j after => ?_, interfacesGone := fun j rowJ gone => ?_ }
  · exact confined.interfaces j (Table.mem_erase.1 after).1
  · -- An interface that was gone before is accounted for by an earlier write.
    by_cases still : ∀ k ∈ inv'.interfaces.rows, k.id ≠ j.id
    · exact confined.interfacesGone j rowJ still
    · simp only [not_forall, not_not] at still
      obtain ⟨k, rowK, sameId⟩ := still
      have erased : k.id = i.id := by
        by_contra ne
        exact gone k (Table.mem_erase.2 ⟨rowK, ne⟩) sameId
      obtain rfl : k = i := Table.eq_of_idOf_eq rowK row erased
      have was := confined.mem_of_ephemeral separate row ephemeral
      obtain rfl : k = j := Table.eq_of_idOf_eq was rowJ sameId
      exact ⟨inScope, Policy.isEphemeral_iff.1 ephemeral⟩

/-- **Every write of a pass keeps it confined.** -/
theorem step (confined : Confined p scope inv inv') (separate : p.Separate)
    (write : Inventory.Corrects p scope inv' inv'') : Confined p scope inv inv'' := by
  obtain ⟨id, x, rest, inScope, planned, rfl⟩ := write
  cases Inventory.sanctioned_of_plan planned with
  | renameInterface row owned legacy =>
      exact confined.renameInterface separate row (owned ▸ inScope) legacy
  | updateDevice platform oobIp => exact confined.updateDevice inScope platform oobIp
  | deleteAddress row bound on owned ephemeral =>
      exact confined.deleteAddress separate row bound on (owned ▸ inScope) ephemeral
  | deleteInterface row owned ephemeral =>
      exact confined.deleteInterface separate row (owned ▸ inScope) ephemeral

theorem of_correctsMany (separate : p.Separate) (writes : Inventory.CorrectsMany p scope inv inv') :
    Confined p scope inv inv' := by
  induction writes with
  | refl => exact refl p scope inv
  | tail _ write ih => exact ih.step separate write

end Confined

/-! ## The calls of a pass -/

/-- The device that a call singles out. -/
def Call.device? : Call → Option Id
  | .getDevice id => some id
  | .updateDevice id _ => some id
  | .listInterfaces f => if f.deviceId = 0 then none else some f.deviceId
  | .listAddresses f => if f.deviceId = 0 then none else some f.deviceId
  | _ => none

theorem Inventory.Sanctioned.device {inv : Inventory} {p : Policy} {id target : Id} {x : Action}
    (sanctioned : inv.Sanctioned p id x) (singled : x.call.device? = some target) : target = id := by
  cases sanctioned <;> cases singled
  rfl

namespace Reconciler

variable {inv : Inventory} {F : Failures} {c : Call} {id target : Id}

/-- A visit singles out the device that is visited, and no other. -/
theorem visited_device {r : Reconciler} (made : c ∈ (r.visited F id inv).calls)
    (singled : c.device? = some target) : target = id := by
  obtain reading | ⟨actions, planned, x, member, rfl⟩ := mem_visited_calls made
  · obtain rfl | ⟨i, -, rfl⟩ | rfl := mem_readCalls reading
    · simp only [Call.device?, InterfaceFilter.ofDevice] at singled
      by_cases zero : id = 0
      · simp [zero] at singled
      · simpa [zero, eq_comm] using singled
    · cases singled
    · cases singled
  · exact (Inventory.sanctioned_of_mem_plan planned member).device singled

/-- Calls on the way single out devices that are visited, lookups apart. -/
theorem travel_device {r : Reconciler} {stops : List Stop}
    (lookups : ∀ c report refusal, Stop.ask c report refusal ∈ stops → c.device? = none)
    (made : c ∈ (r.travel F stops inv).calls) (singled : c.device? = some target) :
    Visits stops target := by
  induction stops generalizing inv with
  | nil => cases made
  | cons stop rest ih =>
      obtain here | ⟨n, -, later⟩ := Effect.calls_andThen made
      · cases stop with
        | ask c' report refusal =>
            obtain rfl : c = c' := by simpa [stopAt, Effect.calls] using here
            rw [lookups c report refusal List.mem_cons_self] at singled
            cases singled
        | visit id report =>
            obtain rfl := visited_device here singled
            exact ⟨report, List.mem_cons_self⟩
      · obtain ⟨report, member⟩ := ih (fun c report refusal member =>
          lookups c report refusal (List.mem_cons_of_mem _ member)) later
        exact ⟨report, List.mem_cons_of_mem _ member⟩

/-- A lookup singles out no device. -/
theorem lookup_device {r : Reconciler} {ds : List Descriptor} {report : Fault → PassFault}
    {refusal : Option Fault} (member : Stop.ask c report refusal ∈ r.itinerary inv ds) :
    c.device? = none := by
  obtain ⟨_, rfl⟩ | ⟨_, rfl⟩ | ⟨_, rfl⟩ := ask_mem_itinerary member <;> rfl

/-- **A pass touches nothing outside its scope**, whether it succeeds or not and after
every number of calls, and it singles out no device that is not active. -/
theorem clusters_confined (platform : String) (deviceRole : Option String) (dryRun : Bool)
    (ds : List Descriptor) (s : Store) (ids : s.inventory.IdsSet) :
    let r : Reconciler := ⟨.standard platform, deviceRole, dryRun⟩
    let after := ((r.clusters ds).runOn s).store
    Confined r.policy (r.InScope s.inventory ds) s.inventory after.inventory ∧
      (∀ n, Confined r.policy (r.InScope s.inventory ds) s.inventory
        (((r.clusters ds).upTo n).runOn s).store.inventory) ∧
      ∃ made, after.calls = s.calls ++ made ∧
        ∀ d ∈ s.inventory.devices.rows, d.isActive = false → ∀ c ∈ made, c.device? ≠ some d.id := by
  intro r after
  have separate : r.policy.Separate := Policy.standard_separate platform
  have walked := effect_clusters separate s.failures ids ds
  have confined : ∀ inv' ∈ ((r.clusters ds).effect s.failures s.inventory).passes s.inventory,
      Confined r.policy (r.InScope s.inventory ds) s.inventory inv' := by
    intro inv' passed
    rw [walked] at passed
    have writes : Inventory.CorrectsMany r.policy (Visits (r.itinerary s.inventory ds)) _ inv' :=
      travel_correctsMany separate passed
    exact .of_correctsMany separate (writes.mono fun id => (visits_itinerary_iff ids).1)
  refine ⟨?_, fun n => ?_, ((r.clusters ds).effect s.failures s.inventory).calls, ?_, ?_⟩
  · simp only [after, Program.runOn_store]
    exact confined _ (Program.inventory_passes s.failures (r.clusters ds) s.inventory)
  · simp only [Program.runOn_store]
    exact confined _ (Program.upTo_passes s.failures (r.clusters ds) n s.inventory)
  · simp only [after, Program.runOn_store]
  · intro d row inactive c made singled
    rw [walked] at made
    have visited := travel_device (fun _ _ _ => lookup_device) made singled
    obtain ⟨e, covered, same⟩ := (visits_itinerary_iff ids).1 visited
    rw [Table.eq_of_idOf_eq covered.row row same] at covered
    rw [covered.active] at inactive
    cases inactive

theorem clusters_confined_drifted :
    let r : Reconciler := ⟨.standard "esxi", none, false⟩
    let ds : List Descriptor := [⟨"east", "", ""⟩]
    let after := ((r.clusters ds).runOn ⟨.drifted, [], .none⟩).store
    Inventory.drifted.IdsSet ∧
      Confined r.policy (r.InScope .drifted ds) .drifted after.inventory ∧
        after.inventory.interfaces.rows.map (·.name) = ["remoteboard"] :=
  ⟨Inventory.drifted_idsSet,
    (clusters_confined "esxi" none false [⟨"east", "", ""⟩] ⟨.drifted, [], .none⟩
      Inventory.drifted_idsSet).1,
    rfl⟩

end Reconciler

end InventorySync
