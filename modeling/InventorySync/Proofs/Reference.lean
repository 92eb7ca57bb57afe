/-
# Proofs.Reference — no write of a pass leaves a reference dangling

An address refers to the interface it is bound to, and a device to its out-of-band
address. `KeepsReferences` says of two inventories that an interface of the first is
gone from the second only if nothing there is bound to it any more, and that a device
whose out-of-band address is its own (`ReachesOobIp`) still has one that is.

Every write of a pass keeps references (`Corrects.keepsReferences`), because of what its
plan puts before it: an interface goes only after its addresses, and an address only when
the device refers to the one of its out-of-band interface, which is not ephemeral. So
references are kept after every call of a pass (`clusters_keep_references`).
-/
import InventorySync.Proofs.Itinerary

namespace InventorySync

set_option autoImplicit false

open Drift (Action Policy)

namespace Inventory

/-- Every address that is bound to an interface is bound to one that is there. -/
def Anchored (inv : Inventory) : Prop :=
  ∀ a ∈ inv.addresses.rows, ∀ id, a.assignedId = some id → ∃ i ∈ inv.interfaces.rows, i.id = id

/-- The out-of-band address of a device is there. -/
def HasOobIp (inv : Inventory) (d : Device) : Prop :=
  ∃ a ∈ inv.addresses.rows, d.oobIp.map (·.id) = some a.id

/-- The out-of-band address of a device is there, and bound to an interface of it. -/
def ReachesOobIp (inv : Inventory) (d : Device) : Prop :=
  ∃ a ∈ inv.addresses.rows, d.oobIp.map (·.id) = some a.id ∧
    ∃ i ∈ inv.interfaces.rows, a.assignedId = some i.id ∧ i.device.id = d.id

variable {inv inv' inv'' : Inventory}

theorem ReachesOobIp.hasOobIp {d : Device} (reaches : inv.ReachesOobIp d) : inv.HasOobIp d := by
  obtain ⟨a, row, refers, -⟩ := reaches
  exact ⟨a, row, refers⟩

/-- The drifted inventory, but the device refers to the address of its ephemeral
interface. -/
def stale : Inventory :=
  { drifted with devices := ⟨[Fixture.device "" 2 "host" .active 1 0 6], by simp⟩ }

theorem stale_idsSet : stale.IdsSet := { drifted_idsSet with devices := by decide }

theorem stale_anchored : stale.Anchored := by
  have rows : ∀ a ∈ stale.addresses.rows, a.assignedId.all fun id =>
      stale.interfaces.rows.any fun i => i.id == id := by decide
  intro a row id bound
  have held := rows a row
  rw [bound] at held
  simpa using held

theorem stale_reachesOobIp : stale.ReachesOobIp (Fixture.device "" 2 "host" .active 1 0 6) :=
  ⟨Fixture.address "" 6 "10.0.0.6/24" 4, by simp [stale, drifted], rfl,
    Fixture.interface "" 4 "vmk0" 2, by simp [stale, drifted], rfl, rfl⟩

/-- What becomes of references between two inventories of a pass. -/
structure KeepsReferences (inv inv' : Inventory) : Prop where
  /-- No address is new. -/
  addresses : ∀ a ∈ inv'.addresses.rows, a ∈ inv.addresses.rows
  /-- An interface is gone only if nothing is bound to it. -/
  bound : ∀ i ∈ inv.interfaces.rows, (∀ i' ∈ inv'.interfaces.rows, i'.id ≠ i.id) →
    inv'.boundTo i.id = []
  oobIp : ∀ d ∈ inv.devices.rows, inv.ReachesOobIp d →
    ∃ d' ∈ inv'.devices.rows, d'.id = d.id ∧ inv'.ReachesOobIp d'

namespace KeepsReferences

theorem refl (inv : Inventory) : inv.KeepsReferences inv where
  addresses _ row := row
  bound i row gone := (gone i row rfl).elim
  oobIp d row reaches := ⟨d, row, rfl, reaches⟩

theorem trans (first : inv.KeepsReferences inv') (second : inv'.KeepsReferences inv'') :
    inv.KeepsReferences inv'' where
  addresses a row := first.addresses a (second.addresses a row)
  bound i row gone := by
    by_cases still : ∃ i' ∈ inv'.interfaces.rows, i'.id = i.id
    · obtain ⟨i', row', same⟩ := still
      exact same ▸ second.bound i' row' (same ▸ gone)
    · have nothing : inv'.boundTo i.id = [] :=
        first.bound i row fun i' row' same => still ⟨i', row', same⟩
      refine List.eq_nil_iff_forall_not_mem.2 fun a listed => ?_
      obtain ⟨rowA, boundA⟩ := mem_boundTo.1 listed
      exact List.not_mem_nil (nothing ▸ mem_boundTo.2 ⟨second.addresses a rowA, boundA⟩)
  oobIp d row reaches := by
    obtain ⟨d', row', same, reaches'⟩ := first.oobIp d row reaches
    obtain ⟨d'', row'', same', reaches''⟩ := second.oobIp d' row' reaches'
    exact ⟨d'', row'', same'.trans same, reaches''⟩

theorem anchored (keeps : inv.KeepsReferences inv') (anchored : inv.Anchored) : inv'.Anchored := by
  intro a row id bound
  obtain ⟨i, rowI, rfl⟩ := anchored a (keeps.addresses a row) id bound
  by_contra gone
  have nothing := keeps.bound i rowI fun i' row' same => gone ⟨i', row', same⟩
  exact List.not_mem_nil (nothing ▸ mem_boundTo.2 ⟨row, bound⟩)

end KeepsReferences

/-! ## One write -/

theorem keepsReferences_renameInterface (inv : Inventory) (id : Id) (name : String) :
    inv.KeepsReferences (inv.act (.renameInterface id name)) := by
  -- A rename leaves every interface its id and its device.
  have renamed : ∀ i ∈ inv.interfaces.rows,
      ∃ i' ∈ (inv.act (.renameInterface id name)).interfaces.rows,
        i'.id = i.id ∧ i'.device = i.device := by
    intro i row
    refine ⟨_, List.mem_map.2 ⟨i, row, rfl⟩, ?_⟩
    split <;> exact ⟨rfl, rfl⟩
  refine ⟨fun _ row => row, fun i row gone => ?_, fun d row reaches => ⟨d, row, rfl, ?_⟩⟩
  · obtain ⟨i', row', same, -⟩ := renamed i row
    exact (gone i' row' same).elim
  · obtain ⟨a, rowA, refers, i, rowI, bound, owned⟩ := reaches
    obtain ⟨i', row', same, device⟩ := renamed i rowI
    exact ⟨a, rowA, refers, i', row', same.symm ▸ bound, device.symm ▸ owned⟩

/-- A device that is given an address of its own reaches it, and the others reach theirs. -/
theorem keepsReferences_updateDevice {id platform : Id} {a : Address} {i : Interface}
    (row : a ∈ inv.addresses.rows) (bound : a.assignedId = some i.id)
    (on : i ∈ inv.interfaces.rows) (owned : i.device.id = id) :
    inv.KeepsReferences (inv.act (.updateDevice id platform a.id)) := by
  refine ⟨fun _ row => row, fun i row gone => (gone i row rfl).elim, fun d rowD reaches => ?_⟩
  refine ⟨_, List.mem_map.2 ⟨d, rowD, rfl⟩, ?_⟩
  split
  · rename_i same
    have here : i.device.id = d.id := owned.trans same.symm
    exact ⟨rfl, a, row, rfl, i, on, bound, here⟩
  · exact ⟨rfl, reaches⟩

/-- No device refers to an address that goes. -/
theorem keepsReferences_deleteAddress {id : Id}
    (unused : ∀ d ∈ inv.devices.rows, inv.ReachesOobIp d → d.oobIp.map (·.id) ≠ some id) :
    inv.KeepsReferences (inv.act (.deleteAddress id)) := by
  refine ⟨fun a row => (Table.mem_erase.1 row).1, fun i row gone => (gone i row rfl).elim,
    fun d rowD reaches => ⟨d, rowD, rfl, ?_⟩⟩
  have other := unused d rowD reaches
  obtain ⟨a, row, refers, on⟩ := reaches
  refine ⟨a, Table.mem_erase.2 ⟨row, fun same => ?_⟩, refers, on⟩
  exact other (refers.trans (congrArg some same))

/-- Nothing is bound to an interface that goes. -/
theorem keepsReferences_deleteInterface {id : Id} (nothing : inv.boundTo id = []) :
    inv.KeepsReferences (inv.act (.deleteInterface id)) := by
  refine ⟨fun _ row => row, fun i row gone => ?_, fun d rowD reaches => ⟨d, rowD, rfl, ?_⟩⟩
  · have erased : i.id = id := by
      by_contra ne
      exact gone i (Table.mem_erase.2 ⟨row, ne⟩) rfl
    exact erased ▸ nothing
  · obtain ⟨a, rowA, refers, i, rowI, bound, owned⟩ := reaches
    refine ⟨a, rowA, refers, i, Table.mem_erase.2 ⟨rowI, fun same => ?_⟩, bound, owned⟩
    have same : i.id = id := same
    exact List.not_mem_nil (nothing ▸ mem_boundTo.2 ⟨rowA, same ▸ bound⟩)

/-- **Every write of a pass keeps references.** -/
theorem Corrects.keepsReferences {p : Policy} {scope : Id → Prop} (separate : p.Separate)
    (step : Corrects p scope inv inv') : inv.KeepsReferences inv' := by
  obtain ⟨id, x, rest, -, planned, rfl⟩ := step
  obtain ⟨d, there, rfl, decided⟩ := exists_of_plan planned
  have rowD : d ∈ inv.devices.rows := (Table.get?_eq_some_iff.1 there).1
  obtain ⟨oob, isLegacy, a, e, found, ⟨-, rfl, -⟩ | ⟨-, rfl, -⟩ | ⟨-, corrected, splits⟩⟩ :=
    Drift.resolve_eq_cons decided
  · exact inv.keepsReferences_renameInterface oob.id p.oobName
  · obtain ⟨row, bound⟩ := mem_boundTo.1 (found.address ▸ List.mem_singleton_self a)
    obtain ⟨on, owned⟩ := mem_interfacesOf.1 found.mem_interfaces
    exact keepsReferences_updateDevice row bound on owned
  · obtain ⟨i, others, listed, ⟨nothing, rfl, -⟩ | ⟨b, more, held, rfl, -⟩⟩ :=
      Drift.cleanup_eq_cons splits
    · exact keepsReferences_deleteInterface nothing
    · -- The cleanup comes last, so the device refers to the address of its out-of-band
      -- interface by now, and that is not the ephemeral one.
      have distinct := inv.snapshotOf_distinct p d
      obtain ⟨mine, ephemeral, -⟩ := distinct.ephemeral listed
      obtain ⟨rowI, ownedI⟩ := mem_interfacesOf.1 mine
      have held : inv.boundTo i.id = b :: more := held
      obtain ⟨rowB, boundB⟩ := mem_boundTo.1 (held ▸ List.mem_cons_self)
      obtain ⟨rowA, boundA⟩ := mem_boundTo.1 (found.address ▸ List.mem_singleton_self a)
      have apart : oob.id ≠ i.id := found.id_ne_of_ephemeral separate distinct mine ephemeral
      refine keepsReferences_deleteAddress fun d' rowD' reaches refers => ?_
      obtain ⟨b', rowB', refers', j, rowJ, boundJ, ownedJ⟩ := reaches
      have sameB : b' = b :=
        Table.eq_of_idOf_eq rowB' rowB (Option.some.inj (refers'.symm.trans refers))
      have sameJ : j = i :=
        Table.eq_of_idOf_eq rowJ rowI (Option.some.inj (boundJ.symm.trans (sameB ▸ boundB)))
      have sameD : d' = d := Table.eq_of_idOf_eq rowD' rowD (ownedJ.symm.trans (sameJ ▸ ownedI))
      have set : d.oobIpId = a.id := (Drift.correction_eq_nil_iff.1 corrected).2
      have isB : d.oobIpId = b.id := by
        rw [← sameD, Device.oobIpId, refers]
        rfl
      have sameA : a = b := Table.eq_of_idOf_eq rowA rowB (set.symm.trans isB)
      exact apart (Option.some.inj (boundA.symm.trans (sameA ▸ boundB)))

theorem CorrectsMany.keepsReferences {p : Policy} {scope : Id → Prop} (separate : p.Separate)
    (steps : CorrectsMany p scope inv inv') : inv.KeepsReferences inv' := by
  induction steps with
  | refl => exact .refl inv
  | tail _ step ih => exact ih.trans (step.keepsReferences separate)

end Inventory

namespace Reconciler

/-- **No reference dangles at any moment of a pass**: after every number of calls, and at
the end, addresses are bound to interfaces that are there, no interface has gone while an
address was bound to it, and a device that referred to an address of its own refers to one
that is there. -/
theorem clusters_keep_references (platform : String) (deviceRole : Option String) (dryRun : Bool)
    (ds : List Descriptor) (s : Store) (ids : s.inventory.IdsSet) :
    let r : Reconciler := ⟨.standard platform, deviceRole, dryRun⟩
    ∀ moment, (moment = ((r.clusters ds).runOn s).store.inventory ∨
        ∃ n, moment = (((r.clusters ds).upTo n).runOn s).store.inventory) →
      (s.inventory.Anchored → moment.Anchored) ∧
      (∀ i ∈ s.inventory.interfaces.rows, (∀ i' ∈ moment.interfaces.rows, i'.id ≠ i.id) →
        ∀ a ∈ moment.addresses.rows, a.assignedId ≠ some i.id) ∧
      ∀ d ∈ s.inventory.devices.rows, s.inventory.ReachesOobIp d →
        ∃ d' ∈ moment.devices.rows, d'.id = d.id ∧ moment.HasOobIp d' := by
  intro r moment isMoment
  have separate : r.policy.Separate := Policy.standard_separate platform
  have passed : moment ∈ ((r.clusters ds).effect s.failures s.inventory).passes s.inventory := by
    obtain rfl | ⟨n, rfl⟩ := isMoment
    · rw [Program.runOn_store]
      exact Program.inventory_passes s.failures (r.clusters ds) s.inventory
    · rw [Program.runOn_store]
      exact Program.upTo_passes s.failures (r.clusters ds) n s.inventory
  rw [effect_clusters separate s.failures ids] at passed
  have writes : Inventory.CorrectsMany r.policy _ s.inventory moment :=
    travel_correctsMany separate passed
  have keeps := writes.keepsReferences separate
  refine ⟨keeps.anchored, fun i row gone a rowA bound => ?_, fun d row reaches => ?_⟩
  · exact List.not_mem_nil (keeps.bound i row gone ▸ Inventory.mem_boundTo.2 ⟨rowA, bound⟩)
  · obtain ⟨d', row', same, reaches'⟩ := keeps.oobIp d row reaches
    exact ⟨d', row', same, reaches'.hasOobIp⟩

/-- A device that refers to the address of an ephemeral interface, in a pass that may not
delete interfaces. -/
theorem clusters_keep_references_stale :
    let r : Reconciler := ⟨.standard "esxi", none, false⟩
    let s : Store := ⟨.stale, [], Failures.none.set .deleteInterface "refused"⟩
    let after := ((r.clusters [⟨"east", "", ""⟩]).runOn s).store.inventory
    Inventory.stale.IdsSet ∧ Inventory.stale.Anchored ∧ after.Anchored ∧
      after.addresses.rows.map (·.id) = [5] ∧ after.interfaces.rows.map (·.id) = [3, 4] ∧
        Inventory.stale.ReachesOobIp (Fixture.device "" 2 "host" .active 1 0 6) ∧
          ∃ d' ∈ after.devices.rows, d'.id = 2 ∧ after.HasOobIp d' := by
  have kept := clusters_keep_references "esxi" none false [⟨"east", "", ""⟩]
    ⟨.stale, [], Failures.none.set .deleteInterface "refused"⟩ Inventory.stale_idsSet _ (.inl rfl)
  have reaches : Inventory.stale.ReachesOobIp (Fixture.device "" 2 "host" .active 1 0 6) :=
    Inventory.stale_reachesOobIp
  exact ⟨Inventory.stale_idsSet, Inventory.stale_anchored, kept.1 Inventory.stale_anchored, rfl, rfl,
    reaches, kept.2.2 _ (List.mem_singleton_self _) reaches⟩

end Reconciler

end InventorySync
