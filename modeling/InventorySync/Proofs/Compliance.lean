/-
# Proofs.Compliance — a device is in line if and only if nothing is left to do

`Compliant` is what a policy asks of a device, said of the tables alone: one interface
under the canonical name, none under the legacy one, none that is ephemeral, and both
references set to the only candidates. A device is `Settled` exactly if it is compliant
(`settled_iff_compliant`); so a pass that succeeds leaves every device in scope compliant
(`clusters_compliant`).
-/
import InventorySync.Proofs.Scope

namespace InventorySync

set_option autoImplicit false

open Drift (Action Policy)

/-- What a policy asks of a device, with the interface, the address and the platform
that there are to refer to. -/
structure Compliant (p : Policy) (inv : Inventory) (d : Device) (i : Interface) (a : Address)
    (e : Platform) : Prop where
  canonical : (inv.interfacesOf d.id).filter (·.name == p.oobName) = [i]
  legacy : ∀ j ∈ inv.interfacesOf d.id, j.name ≠ p.legacyOobName
  ephemeral : ∀ j ∈ inv.interfacesOf d.id, ¬ p.ephemeralStart.toList <+: j.name.toList
  address : inv.boundTo i.id = [a]
  oobIp : d.oobIpId = a.id
  platform : inv.platforms.rows.filter (·.name == p.expectedPlatform) = [e]
  platformId : d.platformId = e.id

variable {p : Policy} {inv : Inventory}

/-- A platform of the expected name is looked up by that name alone. -/
theorem select_platforms (named : p.expectedPlatform ≠ "") :
    inv.platforms.select (NameFilter.mk p.expectedPlatform).admits =
      inv.platforms.rows.filter (·.name == p.expectedPlatform) := by
  refine List.filter_congr fun e _ => ?_
  simp [NameFilter.admits, named]

/-- **Nothing is left to do on a device if and only if it is compliant.** -/
theorem settled_iff_compliant (named : p.expectedPlatform ≠ "") {d : Device}
    (row : d ∈ inv.devices.rows) :
    inv.Settled p d.id ↔ ∃ i a e, Compliant p inv d i a e := by
  have planned := Inventory.plan_of_get? (p := p) (Table.get?_of_mem row)
  rw [Inventory.Settled, show inv.plan p d.id = _ from planned, Drift.resolve_eq_nil_iff]
  constructor
  · rintro ⟨i, a, e, found, platformSet, oobIpSet, clean⟩
    refine ⟨i, a, e, found.canonical, fun j mine legacy => ?_,
      fun j mine => Policy.isEphemeral_eq_false_iff.1 (clean j mine), found.address, oobIpSet,
      (select_platforms named).symm.trans found.platform, platformSet⟩
    have noLegacy : (inv.interfacesOf d.id).filter (·.name == p.legacyOobName) = [] := found.legacy
    exact List.filter_eq_nil_iff.1 noLegacy j mine (by simpa using legacy)
  · rintro ⟨i, a, e, compliant⟩
    refine ⟨i, a, e, ⟨?_, compliant.canonical, compliant.address,
      (select_platforms named).trans compliant.platform⟩, compliant.platformId, compliant.oobIp,
      fun j mine => Policy.isEphemeral_eq_false_iff.2 (compliant.ephemeral j mine)⟩
    exact List.filter_eq_nil_iff.2 fun j mine legacy =>
      compliant.legacy j mine (by simpa using legacy)

namespace Reconciler

/-- **A pass that succeeds leaves every device in scope compliant.** -/
theorem clusters_compliant (platform : String) (deviceRole : Option String) (ds : List Descriptor)
    (s : Store) (ids : s.inventory.IdsSet) (named : platform ≠ "") (report : Report) :
    let r : Reconciler := ⟨.standard platform, deviceRole, false⟩
    let ran := (r.clusters ds).runOn s
    ran.result = .ok report → ∀ d, r.Covers ran.store.inventory ds d →
      ∃ i a e, Compliant r.policy ran.store.inventory d i a e := by
  intro r ran success d covers
  have separate : r.policy.Separate := Drift.Policy.standard_separate platform
  let walk := r.travel s.failures (r.itinerary s.inventory ds) s.inventory
  have last : ran.store.inventory = walk.inventory := by
    rw [Program.runOn_store, effect_clusters separate s.failures ids]
    rfl
  obtain ⟨n, walked, -⟩ : ∃ n, walk.result = .ok n ∧ r.tally s.inventory ds n = report := by
    rw [Program.runOn_result, effect_clusters separate s.failures ids] at success
    exact Effect.map_eq_ok.1 success
  have writes := travel_writes separate s.failures (r.itinerary s.inventory ds) s.inventory
  rw [last] at covers ⊢
  refine (settled_iff_compliant named covers.row).1 (travel_settles separate rfl walked ?_)
  exact (visits_itinerary_iff ids).2 (covers.inScope_of_alike writes.alike)

theorem clusters_compliant_drifted :
    let r : Reconciler := ⟨.standard "esxi", none, false⟩
    let after := ((r.clusters [⟨"east", "", ""⟩]).runOn ⟨.drifted, [], .none⟩).store.inventory
    Inventory.drifted.IdsSet ∧ "esxi" ≠ "" ∧
      ∃ d, r.Covers after [⟨"east", "", ""⟩] d ∧ ∃ i a e, Compliant r.policy after d i a e := by
  have success : ((clusters ⟨.standard "esxi", none, false⟩ [⟨"east", "", ""⟩]).runOn
      ⟨.drifted, [], .none⟩).result = .ok ⟨1, 1, 0, 4, false⟩ := rfl
  have rows : ((clusters ⟨.standard "esxi", none, false⟩ [⟨"east", "", ""⟩]).runOn
      ⟨.drifted, [], .none⟩).store.inventory.devices.rows =
        [{ Fixture.device "" 2 "host" .active 1 0 0 with
          platform := some (Fixture.platformRef "" 7 (some "esxi"))
          oobIp := some (Fixture.addressRef "" 5 (some "10.0.0.5/24")) }] := rfl
  have found : ((clusters ⟨.standard "esxi", none, false⟩ [⟨"east", "", ""⟩]).runOn
      ⟨.drifted, [], .none⟩).store.inventory.cluster? ⟨"east", "", ""⟩ =
        .ok (Fixture.cluster "" 1 "east" "vmware") := rfl
  have covers : Covers ⟨.standard "esxi", none, false⟩ _ [⟨"east", "", ""⟩] _ :=
    ⟨rows ▸ List.mem_singleton_self _, rfl, ⟨_, List.mem_singleton_self _, _, found, rfl⟩, nofun⟩
  exact ⟨Inventory.drifted_idsSet, by decide, _, covers,
    clusters_compliant "esxi" none [⟨"east", "", ""⟩] ⟨.drifted, [], .none⟩
      Inventory.drifted_idsSet (by decide) _ success _ covers⟩

end Reconciler

end InventorySync
