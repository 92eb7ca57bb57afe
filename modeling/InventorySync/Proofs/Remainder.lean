/-
# Proofs.Remainder — what is left to do after a part of the actions

`Snapshot.act` carries one action out on a snapshot. The first action of a decision leaves a
snapshot that calls for the others (`resolve_act`), and no action makes two ids the same
(`Snapshot.Distinct.act`). So a decision that was carried out in part is resumed where it stopped,
wherever that was (`resolve_actAll`).
-/
import InventorySync.Inventory.Fixture
import InventorySync.Proofs.Resolve

namespace InventorySync

set_option autoImplicit false

/-- A device that refers to the platform and the address of those ids. Only the ids of references
matter to a decision, so nothing else is known of them here. -/
def Device.referTo (d : Device) (platform oobIp : Id) : Device :=
  { d with platform := some ⟨platform, "", "", "", ""⟩, oobIp := some ⟨oobIp, "", "", ""⟩ }

namespace Drift

namespace Snapshot

/-- The snapshot after an action. -/
def act (s : Snapshot) : Action → Snapshot
  | .renameInterface id name =>
    { s with
      interfaces := s.interfaces.map fun i => if i.id = id then { i with name := name } else i }
  | .updateDevice id platform oobIp =>
    { s with device := if s.device.id = id then s.device.referTo platform oobIp else s.device }
  | .deleteAddress id => { s with bound := fun i => (s.bound i).filter fun a => a.id != id }
  | .deleteInterface id => { s with interfaces := s.interfaces.filter fun i => i.id != id }

def actAll (s : Snapshot) (actions : List Action) : Snapshot := actions.foldl act s

@[simp] theorem actAll_nil (s : Snapshot) : s.actAll [] = s := rfl

@[simp] theorem actAll_cons (s : Snapshot) (x : Action) (rest : List Action) :
    s.actAll (x :: rest) = (s.act x).actAll rest := rfl

/-! ## Ids stay apart -/

/-- Fewer addresses keep their ids apart. -/
theorem Distinct.bound {s : Snapshot} (distinct : s.Distinct) {bound : Id → List Address}
    (fewer : ∀ id, (bound id).Sublist (s.bound id)) : { s with bound := bound }.Distinct where
  interfaces := distinct.interfaces
  addresses i member := (distinct.addresses i member).sublist ((fewer i.id).map _)
  apart i hi j hj ne a ha b hb :=
    distinct.apart i hi j hj ne a ((fewer i.id).subset ha) b ((fewer j.id).subset hb)

/-- Fewer interfaces, or the same ones changed in something else than their id, keep all ids
apart. -/
theorem Distinct.interfaces_ids {s : Snapshot} (distinct : s.Distinct) {interfaces : List Interface}
    (fewer : (interfaces.map (·.id)).Sublist (s.interfaces.map (·.id))) :
    { s with interfaces := interfaces }.Distinct := by
  have known : ∀ i ∈ interfaces, ∃ j ∈ s.interfaces, j.id = i.id := fun i member =>
    List.mem_map.1 (fewer.subset (List.mem_map_of_mem member))
  refine ⟨distinct.interfaces.sublist fewer, fun i hi => ?_, fun i hi j hj ne => ?_⟩
  · obtain ⟨i', mi, same⟩ := known i hi
    exact same ▸ distinct.addresses i' mi
  · obtain ⟨i', mi, sameI⟩ := known i hi
    obtain ⟨j', mj, sameJ⟩ := known j hj
    have apart := distinct.apart i' mi j' mj (by rwa [sameI, sameJ])
    rwa [sameI, sameJ] at apart

theorem Distinct.act {s : Snapshot} (distinct : s.Distinct) (x : Action) : (s.act x).Distinct := by
  cases x with
  | renameInterface id name =>
      have kept (i : Interface) : (if i.id = id then { i with name := name } else i).id = i.id := by
        split <;> rfl
      refine distinct.interfaces_ids ?_
      simp only [List.map_map, Function.comp_def, kept]
      exact List.Sublist.refl _
  | updateDevice id platform oobIp =>
      exact ⟨distinct.interfaces, distinct.addresses, distinct.apart⟩
  | deleteAddress id => exact distinct.bound fun _ => List.filter_sublist
  | deleteInterface id => exact distinct.interfaces_ids (List.filter_sublist.map _)

end Snapshot

/-! ## What is left -/

variable {p : Policy} {s : Snapshot}

/-- An update is one of the device itself. -/
theorem id_of_resolve_updateDevice {id platform oobIp : Id} {rest : List Action}
    (decided : resolve p s = .ok (.updateDevice id platform oobIp :: rest)) : s.device.id = id := by
  obtain ⟨oob, isLegacy, a, e, found, ⟨-, kind, -⟩ | ⟨-, kind, -⟩ | ⟨-, -, splits⟩⟩ :=
    resolve_eq_cons decided
  · cases kind
  · cases kind
    rfl
  · exact absurd rfl ((cleanup_head_ne splits).2 id platform oobIp)

/-- **The first action leaves the others.** -/
theorem resolve_act (separate : p.Separate) (distinct : s.Distinct) {x : Action}
    {rest : List Action} (decided : resolve p s = .ok (x :: rest)) :
    resolve p (s.act x) = .ok rest := by
  cases x with
  | renameInterface id name =>
      exact resolve_renameInterface (f := fun i => { i with name := name }) separate distinct
        decided (fun _ => rfl) (fun _ => rfl)
  | updateDevice id platform oobIp =>
      rw [Snapshot.act, if_pos (id_of_resolve_updateDevice decided)]
      exact resolve_updateDevice decided rfl rfl
  | deleteAddress id => exact resolve_deleteAddress separate distinct decided
  | deleteInterface id => exact resolve_deleteInterface separate distinct decided

/-- **A decision is resumed where it was left**: whatever part of its actions was carried out, in
order, the snapshot after it calls for exactly the others; after all of them it calls for none. -/
theorem resolve_actAll (separate : p.Separate) (distinct : s.Distinct) {actions : List Action}
    (decided : resolve p s = .ok actions) :
    (∀ done rest, actions = done ++ rest → resolve p (s.actAll done) = .ok rest) ∧
      resolve p (s.actAll actions) = .ok [] := by
  suffices resumed : ∀ done rest, actions = done ++ rest → resolve p (s.actAll done) = .ok rest from
    ⟨resumed, resumed actions [] (List.append_nil actions).symm⟩
  rintro done rest rfl
  induction done generalizing s with
  | nil => exact decided
  | cons x done ih => exact ih (distinct.act x) (resolve_act separate distinct decided)

/-- A device whose out-of-band interface has the legacy name, with an ephemeral interface and no
reference set: the rename and the update are done, the removals are left. -/
theorem resolve_actAll_halfway :
    let s : Snapshot := {
      device := Fixture.device "" 2 "host" .active 1 0 0
      interfaces := [Fixture.interface "" 3 "iDRAC" 2, Fixture.interface "" 4 "vmk0" 2]
      bound := fun i =>
        if i = 3 then [Fixture.address "" 5 "10.0.0.5/24" 3]
        else if i = 4 then [Fixture.address "" 6 "10.0.0.6/24" 4] else []
      platforms := [Fixture.platform "" 7 "esxi"] }
    let done : List Action := [.renameInterface 3 "remoteboard", .updateDevice 2 7 5]
    (Policy.standard "esxi").Separate ∧ s.Distinct ∧
      resolve (.standard "esxi") s = .ok (done ++ [.deleteAddress 6, .deleteInterface 4]) ∧
      resolve (.standard "esxi") (s.actAll done) = .ok [.deleteAddress 6, .deleteInterface 4] := by
  intro s done
  have distinct : s.Distinct := ⟨by decide, by decide, by decide⟩
  have decided :
      resolve (.standard "esxi") s = .ok (done ++ [.deleteAddress 6, .deleteInterface 4]) := rfl
  exact ⟨Policy.standard_separate "esxi", distinct, decided,
    (resolve_actAll (Policy.standard_separate "esxi") distinct decided).1 done _ rfl⟩

end Drift

end InventorySync
