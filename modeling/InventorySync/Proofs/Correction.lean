/-
# Proofs.Correction — the writes that a device calls for, and what each leaves

`Inventory.plan` is the decision on one device, read off the inventory; `Inventory.act`
is the inventory after one action. Every action of a plan is `Sanctioned`: it concerns
the device itself, an interface of it, or an address of an ephemeral interface of it, so
the record is there and the write succeeds (`Sanctioned.answer`).

Two facts carry every statement about whole passes:

* carrying out the first action of a plan leaves the rest of it (`plan_act`);
* no sanctioned action on one device changes the plan of another (`plan_act_of_ne`).

`Corrects` is one such write as a step, and `Inventory.Alike` and `Inventory.IdsSet` are
kept by every action.
-/
import InventorySync.Inventory.Store
import InventorySync.Pass.Reconcile
import InventorySync.Proofs.Resolve
import InventorySync.Proofs.Table
import Mathlib.Logic.Relation

namespace InventorySync

set_option autoImplicit false

open Drift (Action Ambiguity Policy Snapshot resolve)

/-- Every record has an id. -/
structure Inventory.IdsSet (inv : Inventory) : Prop where
  clusters : ∀ c ∈ inv.clusters.rows, idOf c ≠ 0
  devices : ∀ d ∈ inv.devices.rows, idOf d ≠ 0
  interfaces : ∀ i ∈ inv.interfaces.rows, idOf i ≠ 0
  addresses : ∀ a ∈ inv.addresses.rows, idOf a ≠ 0
  platforms : ∀ e ∈ inv.platforms.rows, idOf e ≠ 0
  deviceRoles : ∀ e ∈ inv.deviceRoles.rows, idOf e ≠ 0

/-- One cluster with one active device that is not in line: its out-of-band interface has
the legacy name, an ephemeral one is left over, and no reference is set. -/
def Inventory.drifted : Inventory where
  baseUrl := ""
  clusters := ⟨[⟨Fixture.cluster "" 1 "east" "vmware", ""⟩], by simp⟩
  devices := ⟨[Fixture.device "" 2 "host" .active 1 0 0], by simp⟩
  interfaces :=
    ⟨[Fixture.interface "" 3 "iDRAC" 2, Fixture.interface "" 4 "vmk0" 2], by decide⟩
  addresses :=
    ⟨[Fixture.address "" 5 "10.0.0.5/24" 3, Fixture.address "" 6 "10.0.0.6/24" 4], by decide⟩
  platforms := ⟨[Fixture.platform "" 7 "esxi"], by simp⟩
  deviceRoles := .empty

theorem Inventory.drifted_idsSet : Inventory.drifted.IdsSet where
  clusters := by decide
  devices := by decide
  interfaces := by decide
  addresses := by decide
  platforms := by decide
  deviceRoles := by decide

/-- A device without the references that a pass may set. -/
def Device.bare (d : Device) : Device := { d with platform := none, oobIp := none }

/-- What does not see those references is the same on devices that differ in them only. -/
theorem Device.congr_bare {α : Type} {d e : Device} (same : e.bare = d.bare) (f : Device → α)
    (unseen : ∀ d, f d.bare = f d) : f e = f d := by
  rw [← unseen e, ← unseen d, same]

/-- The call that carries an action out. -/
def Drift.Action.call : Action → Call
  | .renameInterface id name => .updateInterface id ⟨some name⟩
  | .updateDevice id platform oobIp => .updateDevice id ⟨some platform, some oobIp⟩
  | .deleteAddress id => .deleteAddress id
  | .deleteInterface id => .deleteInterface id

namespace Inventory

/-! ## Plans -/

def interfacesOf (inv : Inventory) (device : Id) : List Interface :=
  inv.interfaces.select fun i => i.device.id == device

def boundTo (inv : Inventory) (interface : Id) : List Address :=
  inv.addresses.select fun a => a.assignedId == some interface

/-- What there is to decide on a device. -/
def snapshotOf (inv : Inventory) (p : Policy) (d : Device) : Snapshot where
  device := d
  interfaces := inv.interfacesOf d.id
  bound := inv.boundTo
  platforms := inv.platforms.select (NameFilter.mk p.expectedPlatform).admits

/-- The actions that the device of that id calls for. If there is no such device, there
is no out-of-band interface either. -/
def plan (inv : Inventory) (p : Policy) (id : Id) : Except Ambiguity (List Action) :=
  (inv.devices.get? id).elim (.error .noOobInterface) fun d => resolve p (inv.snapshotOf p d)

/-- The inventory after an action. -/
def act (inv : Inventory) : Action → Inventory
  | .renameInterface id name =>
    { inv with
      interfaces := inv.interfaces.modify id (patchedInterface ⟨some name⟩)
        (idOf_patchedInterface ⟨some name⟩) }
  | .updateDevice id platform oobIp =>
    { inv with
      devices := inv.devices.modify id (inv.patchedDevice ⟨some platform, some oobIp⟩)
        (inv.idOf_patchedDevice ⟨some platform, some oobIp⟩) }
  | .deleteAddress id => { inv with addresses := inv.addresses.erase id }
  | .deleteInterface id => { inv with interfaces := inv.interfaces.erase id }

def actAll (inv : Inventory) (actions : List Action) : Inventory := actions.foldl act inv

@[simp] theorem actAll_nil (inv : Inventory) : inv.actAll [] = inv := rfl

@[simp] theorem actAll_cons (inv : Inventory) (x : Action) (rest : List Action) :
    inv.actAll (x :: rest) = (inv.act x).actAll rest := rfl

theorem mem_interfacesOf {inv : Inventory} {device : Id} {i : Interface} :
    i ∈ inv.interfacesOf device ↔ i ∈ inv.interfaces.rows ∧ i.device.id = device := by
  simp [interfacesOf, Table.mem_select]

theorem mem_boundTo {inv : Inventory} {interface : Id} {a : Address} :
    a ∈ inv.boundTo interface ↔ a ∈ inv.addresses.rows ∧ a.assignedId = some interface := by
  simp [boundTo, Table.mem_select]

theorem plan_of_get? {inv : Inventory} {p : Policy} {id : Id} {d : Device}
    (found : inv.devices.get? id = some d) : inv.plan p id = resolve p (inv.snapshotOf p d) := by
  simp [plan, found]

theorem plan_of_absent {inv : Inventory} {p : Policy} {id : Id}
    (missing : inv.devices.get? id = none) : inv.plan p id = .error .noOobInterface := by
  simp [plan, missing]

/-- A plan is the plan of a device. -/
theorem exists_of_plan {inv : Inventory} {p : Policy} {id : Id} {actions : List Action}
    (planned : inv.plan p id = .ok actions) :
    ∃ d, inv.devices.get? id = some d ∧ d.id = id ∧
      resolve p (inv.snapshotOf p d) = .ok actions := by
  cases found : inv.devices.get? id with
  | none =>
      rw [plan_of_absent found] at planned
      cases planned
  | some d => exact ⟨d, rfl, Table.idOf_of_get? found, plan_of_get? found ▸ planned⟩

/-- A device that has a plan has an interface whose addresses are read. -/
theorem exists_reads_of_plan {inv : Inventory} {p : Policy} {id : Id} {actions : List Action}
    (planned : inv.plan p id = .ok actions) :
    ∃ i ∈ inv.interfacesOf id, p.readsAddresses i.name = true := by
  obtain ⟨d, -, rfl, decided⟩ := exists_of_plan planned
  obtain ⟨oob, isLegacy, a, e, found, -⟩ := Drift.resolve_eq_ok_iff.1 decided
  refine ⟨oob, found.mem_interfaces, ?_⟩
  have named := found.oob_name
  cases isLegacy <;> simp [Policy.readsAddresses, named]

theorem snapshotOf_distinct (inv : Inventory) (p : Policy) (d : Device) :
    (inv.snapshotOf p d).Distinct where
  interfaces := inv.interfaces.nodup_select_ids _
  addresses _ _ := inv.addresses.nodup_select_ids _
  apart i _ j _ ne a ha b hb same := by
    obtain ⟨rowA, boundA⟩ := mem_boundTo.1 ha
    obtain ⟨rowB, boundB⟩ := mem_boundTo.1 hb
    rw [Table.eq_of_idOf_eq rowA rowB same, boundB] at boundA
    exact ne (Option.some.inj boundA).symm

/-! ## What a plan may touch -/

/-- An action that a policy may call for on a device. -/
inductive Sanctioned (inv : Inventory) (p : Policy) (device : Id) : Action → Prop
  | renameInterface {i : Interface} (row : i ∈ inv.interfaces.rows) (owned : i.device.id = device)
      (legacy : i.name = p.legacyOobName) : Sanctioned inv p device (.renameInterface i.id p.oobName)
  | updateDevice (platform oobIp : Id) : Sanctioned inv p device (.updateDevice device platform oobIp)
  | deleteAddress {a : Address} {i : Interface} (row : a ∈ inv.addresses.rows)
      (bound : a.assignedId = some i.id) (on : i ∈ inv.interfaces.rows)
      (owned : i.device.id = device) (ephemeral : p.isEphemeral i.name = true) :
      Sanctioned inv p device (.deleteAddress a.id)
  | deleteInterface {i : Interface} (row : i ∈ inv.interfaces.rows) (owned : i.device.id = device)
      (ephemeral : p.isEphemeral i.name = true) : Sanctioned inv p device (.deleteInterface i.id)

theorem sanctioned_of_mem_cleanup {inv : Inventory} {p : Policy} {d : Device} {x : Action}
    (member : x ∈ Drift.cleanup p (inv.snapshotOf p d)) : inv.Sanctioned p d.id x := by
  rw [Drift.cleanup_eq] at member
  obtain ⟨i, listed, action⟩ := List.mem_flatMap.1 member
  obtain ⟨mine, ephemeral⟩ := List.mem_filter.1 listed
  obtain ⟨row, owned⟩ := mem_interfacesOf.1 mine
  simp only [Drift.clearance, List.mem_append, List.mem_map, List.mem_singleton] at action
  obtain ⟨a, bound, rfl⟩ | rfl := action
  · obtain ⟨rowA, boundA⟩ := mem_boundTo.1 bound
    exact .deleteAddress rowA boundA row owned ephemeral
  · exact .deleteInterface row owned ephemeral

theorem sanctioned_of_resolve {inv : Inventory} {p : Policy} {d : Device} {actions : List Action}
    (decided : resolve p (inv.snapshotOf p d) = .ok actions) :
    ∀ x ∈ actions, inv.Sanctioned p d.id x := by
  obtain ⟨oob, isLegacy, a, e, found, rfl⟩ := Drift.resolve_eq_ok_iff.1 decided
  intro x member
  simp only [List.mem_append] at member
  obtain (rename | correct) | clean := member
  · cases isLegacy with
    | false => cases rename
    | true =>
        obtain ⟨row, owned⟩ := mem_interfacesOf.1 found.mem_interfaces
        have legacy : oob.name = p.legacyOobName := found.oob_name
        obtain rfl := List.mem_singleton.1 rename
        exact .renameInterface row owned legacy
  · simp only [Drift.correction] at correct
    split at correct
    · cases correct
    · obtain rfl := List.mem_singleton.1 correct
      exact .updateDevice _ _
  · exact sanctioned_of_mem_cleanup clean

theorem sanctioned_of_mem_plan {inv : Inventory} {p : Policy} {id : Id} {x : Action}
    {actions : List Action} (planned : inv.plan p id = .ok actions) (member : x ∈ actions) :
    inv.Sanctioned p id x := by
  obtain ⟨d, -, rfl, decided⟩ := exists_of_plan planned
  exact sanctioned_of_resolve decided x member

theorem sanctioned_of_plan {inv : Inventory} {p : Policy} {id : Id} {x : Action}
    {rest : List Action} (planned : inv.plan p id = .ok (x :: rest)) : inv.Sanctioned p id x :=
  sanctioned_of_mem_plan planned List.mem_cons_self

/-- A sanctioned action finds its record. -/
theorem Sanctioned.answer {inv : Inventory} {p : Policy} {device : Id} {x : Action} {d : Device}
    (sanctioned : inv.Sanctioned p device x) (found : inv.devices.get? device = some d) :
    ∃ a, inv.answer x.call = (.ok a, inv.act x) := by
  cases sanctioned with
  | @renameInterface i row _ _ =>
      have there : inv.interfaces.get? i.id = some i := Table.get?_of_mem row
      exact ⟨_, by simp only [Action.call, Inventory.answer, there]; rfl⟩
  | updateDevice platform oobIp =>
      exact ⟨_, by simp only [Action.call, Inventory.answer, found]; rfl⟩
  | @deleteAddress a _ row _ _ _ _ =>
      have there : inv.addresses.get? a.id = some a := Table.get?_of_mem row
      exact ⟨(), by simp only [Action.call, Inventory.answer, there]; rfl⟩
  | @deleteInterface i row _ _ =>
      have there : inv.interfaces.get? i.id = some i := Table.get?_of_mem row
      exact ⟨(), by simp only [Action.call, Inventory.answer, there]; rfl⟩

/-! ## The rest of the plan -/

theorem interfacesOf_renameInterface (inv : Inventory) (id device : Id) (name : String) :
    (inv.act (.renameInterface id name)).interfacesOf device =
      (inv.interfacesOf device).map fun i =>
        if i.id = id then patchedInterface ⟨some name⟩ i else i :=
  Table.select_modify (idOf_patchedInterface ⟨some name⟩) fun _ => rfl

theorem boundTo_deleteAddress (inv : Inventory) (id interface : Id) :
    (inv.act (.deleteAddress id)).boundTo interface =
      (inv.boundTo interface).filter fun a => a.id != id :=
  Table.select_erase _

theorem interfacesOf_deleteInterface (inv : Inventory) (id device : Id) :
    (inv.act (.deleteInterface id)).interfacesOf device =
      (inv.interfacesOf device).filter fun i => i.id != id :=
  Table.select_erase _

/-- **Carrying out the first action of a plan leaves the rest of it.** -/
theorem plan_act {inv : Inventory} {p : Policy} {id : Id} {x : Action} {rest : List Action}
    (separate : p.Separate) (planned : inv.plan p id = .ok (x :: rest)) :
    (inv.act x).plan p id = .ok rest := by
  obtain ⟨d, found, rfl, decided⟩ := exists_of_plan planned
  have distinct := inv.snapshotOf_distinct p d
  cases x with
  | renameInterface i name =>
      have same : (inv.act (.renameInterface i name)).devices.get? d.id = some d := found
      have left := Drift.resolve_renameInterface separate distinct decided
        (f := patchedInterface ⟨some name⟩) (fun _ => rfl) (fun _ => rfl)
      rw [plan_of_get? same, ← left]
      simp only [snapshotOf, interfacesOf_renameInterface]
      rfl
  | updateDevice device platform oobIp =>
      cases sanctioned_of_plan planned
      have patched : (inv.act (.updateDevice d.id platform oobIp)).devices.get? d.id =
          some (inv.patchedDevice ⟨some platform, some oobIp⟩ d) :=
        Table.get?_modify_self (inv.idOf_patchedDevice ⟨some platform, some oobIp⟩) found
      rw [plan_of_get? patched]
      exact Drift.resolve_updateDevice (d := inv.patchedDevice ⟨some platform, some oobIp⟩ d)
        decided rfl rfl
  | deleteAddress a =>
      have same : (inv.act (.deleteAddress a)).devices.get? d.id = some d := found
      have bound := funext (inv.boundTo_deleteAddress a)
      rw [plan_of_get? same, ← Drift.resolve_deleteAddress separate distinct decided]
      simp only [snapshotOf, bound]
      rfl
  | deleteInterface i =>
      have same : (inv.act (.deleteInterface i)).devices.get? d.id = some d := found
      rw [plan_of_get? same, ← Drift.resolve_deleteInterface separate distinct decided]
      simp only [snapshotOf, interfacesOf_deleteInterface]
      rfl

/-- What is there to decide on the device of that id is the same in both inventories. -/
structure SameView (id : Id) (inv inv' : Inventory) : Prop where
  device : inv'.devices.get? id = inv.devices.get? id
  interfaces : inv'.interfacesOf id = inv.interfacesOf id
  bound : ∀ i ∈ inv.interfacesOf id, inv'.boundTo i.id = inv.boundTo i.id
  platforms : inv'.platforms = inv.platforms

theorem SameView.refl (id : Id) (inv : Inventory) : SameView id inv inv :=
  ⟨rfl, rfl, fun _ _ => rfl, rfl⟩

theorem SameView.trans {id : Id} {inv inv' inv'' : Inventory} (first : SameView id inv inv')
    (second : SameView id inv' inv'') : SameView id inv inv'' where
  device := second.device.trans first.device
  interfaces := second.interfaces.trans first.interfaces
  bound i mine := (second.bound i (first.interfaces ▸ mine)).trans (first.bound i mine)
  platforms := second.platforms.trans first.platforms

/-- A plan depends on the device, its interfaces and what is bound to them. -/
theorem SameView.plan {id : Id} {inv inv' : Inventory} (same : SameView id inv inv') (p : Policy) :
    inv'.plan p id = inv.plan p id := by
  cases found : inv.devices.get? id with
  | none => rw [plan_of_absent found, plan_of_absent (same.device.trans found)]
  | some d =>
      obtain rfl : d.id = id := Table.idOf_of_get? found
      have read : inv'.snapshotOf p d = { inv.snapshotOf p d with bound := inv'.boundTo } := by
        simp only [snapshotOf, same.interfaces, same.platforms]
      rw [plan_of_get? found, plan_of_get? (same.device.trans found), read]
      exact Drift.resolve_congr_bound fun i member _ => same.bound i member

/-- An action on one device is not seen from another. -/
theorem Sanctioned.sameView {inv : Inventory} {p : Policy} {id other : Id} {x : Action}
    (sanctioned : inv.Sanctioned p id x) (ne : other ≠ id) : SameView other inv (inv.act x) := by
  cases sanctioned with
  | @renameInterface i row owned _ =>
      refine ⟨rfl, ?_, fun _ _ => rfl, rfl⟩
      refine Table.select_modify_of_not (idOf_patchedInterface ⟨some p.oobName⟩)
        (fun _ => rfl) fun j rowJ sameId => ?_
      rw [Table.eq_of_idOf_eq rowJ row sameId, owned]
      exact beq_false_of_ne ne.symm
  | updateDevice platform oobIp =>
      refine ⟨?_, rfl, fun _ _ => rfl, rfl⟩
      exact Table.get?_modify_of_ne
        (inv.idOf_patchedDevice ⟨some platform, some oobIp⟩) ne
  | @deleteAddress a i row bound on owned _ =>
      refine ⟨rfl, rfl, fun j mine => ?_, rfl⟩
      obtain ⟨rowJ, ownedJ⟩ := mem_interfacesOf.1 mine
      refine Table.select_erase_of_not fun b rowB sameId => ?_
      rw [Table.eq_of_idOf_eq rowB row sameId, bound]
      refine beq_false_of_ne fun sameBound => ne ?_
      rw [← ownedJ, ← owned, Table.eq_of_idOf_eq rowJ on (Option.some.inj sameBound).symm]
  | @deleteInterface i row owned _ =>
      refine ⟨rfl, ?_, fun _ _ => rfl, rfl⟩
      refine Table.select_erase_of_not fun j rowJ sameId => ?_
      rw [Table.eq_of_idOf_eq rowJ row sameId, owned]
      exact beq_false_of_ne ne.symm

/-- **An action on one device leaves the plan of another as it is.** -/
theorem plan_act_of_ne {inv : Inventory} {p : Policy} {id other : Id} {x : Action}
    (sanctioned : inv.Sanctioned p id x) (ne : other ≠ id) :
    (inv.act x).plan p other = inv.plan p other :=
  (sanctioned.sameView ne).plan p

/-! ## What every action keeps -/

/-- The same inventory, but for the interfaces, the addresses and the references that a
pass may set. -/
structure Alike (inv inv' : Inventory) : Prop where
  baseUrl : inv'.baseUrl = inv.baseUrl
  clusters : inv'.clusters = inv.clusters
  platforms : inv'.platforms = inv.platforms
  deviceRoles : inv'.deviceRoles = inv.deviceRoles
  devices : inv'.devices.rows.map Device.bare = inv.devices.rows.map Device.bare

theorem Alike.refl (inv : Inventory) : inv.Alike inv := ⟨rfl, rfl, rfl, rfl, rfl⟩

theorem Alike.trans {inv inv' inv'' : Inventory} (first : inv.Alike inv')
    (second : inv'.Alike inv'') : inv.Alike inv'' where
  baseUrl := second.baseUrl.trans first.baseUrl
  clusters := second.clusters.trans first.clusters
  platforms := second.platforms.trans first.platforms
  deviceRoles := second.deviceRoles.trans first.deviceRoles
  devices := second.devices.trans first.devices

theorem act_alike (inv : Inventory) (x : Action) : inv.Alike (inv.act x) := by
  cases x with
  | updateDevice id platform oobIp =>
      refine ⟨rfl, rfl, rfl, rfl, ?_⟩
      simp only [act, Table.modify, List.map_map]
      refine List.map_congr_left fun d _ => ?_
      simp only [Function.comp]
      split <;> rfl
  | renameInterface id name => exact ⟨rfl, rfl, rfl, rfl, rfl⟩
  | deleteAddress id => exact ⟨rfl, rfl, rfl, rfl, rfl⟩
  | deleteInterface id => exact ⟨rfl, rfl, rfl, rfl, rfl⟩

theorem act_idsSet {inv : Inventory} (ids : inv.IdsSet) (x : Action) : (inv.act x).IdsSet := by
  cases x with
  | renameInterface id name =>
      refine { ids with interfaces := fun i row => ?_ }
      obtain ⟨j, rowJ, rfl⟩ := List.mem_map.1 row
      have := ids.interfaces j rowJ
      split
      · rwa [idOf_patchedInterface]
      · exact this
  | updateDevice id platform oobIp =>
      refine { ids with devices := fun d row => ?_ }
      obtain ⟨e, rowE, rfl⟩ := List.mem_map.1 row
      have := ids.devices e rowE
      split
      · rwa [idOf_patchedDevice]
      · exact this
  | deleteAddress id =>
      exact { ids with addresses := fun a row => ids.addresses a (Table.mem_erase.1 row).1 }
  | deleteInterface id =>
      exact { ids with interfaces := fun i row => ids.interfaces i (Table.mem_erase.1 row).1 }

/-! ## Steps -/

/-- One write: the first action of the plan of a device in scope. -/
def Corrects (p : Policy) (scope : Id → Prop) (inv inv' : Inventory) : Prop :=
  ∃ id x rest, scope id ∧ inv.plan p id = .ok (x :: rest) ∧ inv' = inv.act x

/-- Any number of writes. -/
abbrev CorrectsMany (p : Policy) (scope : Id → Prop) : Inventory → Inventory → Prop :=
  Relation.ReflTransGen (Corrects p scope)

/-- Nothing is left to do on the device of that id. -/
def Settled (p : Policy) (id : Id) (inv : Inventory) : Prop := inv.plan p id = .ok []

variable {p : Policy} {scope : Id → Prop} {inv inv' : Inventory}

theorem Corrects.alike (step : Corrects p scope inv inv') : inv.Alike inv' := by
  obtain ⟨_, x, _, _, _, rfl⟩ := step
  exact inv.act_alike x

theorem Corrects.idsSet (step : Corrects p scope inv inv') (ids : inv.IdsSet) : inv'.IdsSet := by
  obtain ⟨_, x, _, _, _, rfl⟩ := step
  exact act_idsSet ids x

/-- The records of devices out of scope stay as they are. -/
theorem Corrects.mem_devices (step : Corrects p scope inv inv') {d : Device}
    (row : d ∈ inv.devices.rows) (outside : ¬ scope d.id) : d ∈ inv'.devices.rows := by
  obtain ⟨id, x, rest, inScope, planned, rfl⟩ := step
  cases sanctioned_of_plan planned with
  | updateDevice platform oobIp =>
      have ne : d.id ≠ id := fun same => outside (same.symm ▸ inScope)
      exact List.mem_map.2 ⟨d, row, if_neg ne⟩
  | renameInterface => exact row
  | deleteAddress => exact row
  | deleteInterface => exact row

/-- A device out of scope does not see a write. -/
theorem Corrects.sameView (step : Corrects p scope inv inv') {id : Id} (outside : ¬ scope id) :
    SameView id inv inv' := by
  obtain ⟨other, x, rest, inScope, planned, rfl⟩ := step
  exact (sanctioned_of_plan planned).sameView fun same => outside (same ▸ inScope)

/-- A write never disturbs a device that is in line. -/
theorem Corrects.settled (step : Corrects p scope inv inv') {id : Id}
    (settled : inv.Settled p id) : inv'.Settled p id := by
  obtain ⟨other, x, rest, -, planned, rfl⟩ := step
  by_cases same : id = other
  · subst same
    rw [Settled, planned] at settled
    cases settled
  · exact (plan_act_of_ne (sanctioned_of_plan planned) same).trans settled

namespace CorrectsMany

theorem alike (steps : CorrectsMany p scope inv inv') : inv.Alike inv' := by
  induction steps with
  | refl => exact Alike.refl inv
  | tail _ step ih => exact ih.trans step.alike

theorem idsSet (steps : CorrectsMany p scope inv inv') (ids : inv.IdsSet) : inv'.IdsSet := by
  induction steps with
  | refl => exact ids
  | tail _ step ih => exact step.idsSet ih

theorem mono {wider : Id → Prop} (steps : CorrectsMany p scope inv inv')
    (sub : ∀ id, scope id → wider id) : CorrectsMany p wider inv inv' := by
  induction steps with
  | refl => exact .refl
  | tail _ step ih =>
      obtain ⟨id, x, rest, inScope, step⟩ := step
      exact ih.tail ⟨id, x, rest, sub id inScope, step⟩

theorem mem_devices (steps : CorrectsMany p scope inv inv') {d : Device}
    (row : d ∈ inv.devices.rows) (outside : ¬ scope d.id) : d ∈ inv'.devices.rows := by
  induction steps with
  | refl => exact row
  | tail _ step ih => exact step.mem_devices ih outside

theorem sameView (steps : CorrectsMany p scope inv inv') {id : Id} (outside : ¬ scope id) :
    SameView id inv inv' := by
  induction steps with
  | refl => exact .refl id inv
  | tail _ step ih => exact ih.trans (step.sameView outside)

theorem settled (steps : CorrectsMany p scope inv inv') {id : Id} (settled : inv.Settled p id) :
    inv'.Settled p id := by
  induction steps with
  | refl => exact settled
  | tail _ step ih => exact step.settled ih

end CorrectsMany

/-- Any part of a plan, carried out from its beginning, is a run of writes. -/
theorem correctsMany_actAll (separate : p.Separate) {id : Id} (inScope : scope id)
    {done rest : List Action} (planned : inv.plan p id = .ok (done ++ rest)) :
    CorrectsMany p scope inv (inv.actAll done) := by
  induction done generalizing inv with
  | nil => exact .refl
  | cons x done ih =>
      exact .head ⟨id, x, _, inScope, planned, rfl⟩ (ih (plan_act separate planned))

theorem plan_actAll (separate : p.Separate) {id : Id} {done rest : List Action}
    (planned : inv.plan p id = .ok (done ++ rest)) : (inv.actAll done).plan p id = .ok rest := by
  induction done generalizing inv with
  | nil => exact planned
  | cons x done ih => exact ih (plan_act separate planned)

/-- A plan that is carried out leaves nothing to do. -/
theorem settled_actAll (separate : p.Separate) {id : Id} {actions : List Action}
    (planned : inv.plan p id = .ok actions) : (inv.actAll actions).Settled p id := by
  have whole : inv.plan p id = .ok (actions ++ []) := by rwa [List.append_nil]
  exact plan_actAll separate whole

end Inventory

end InventorySync
