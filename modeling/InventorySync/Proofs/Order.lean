/-
# Proofs.Order — the order of the descriptors does not matter to a pass that succeeds

The actions of two devices do not get in each other's way (`apart_of_plans`): none writes what
one of the other device writes or refers to. In particular no reference is set to an address
that the cleanup of another device removes, since an address is bound to one interface, and an
interface belongs to one device. So whole plans of two devices come to the same in either order
(`actAll_comm`).

Two neighbouring stops of a walk can then change places (`stopAt_swap`). A device that is visited
twice is in line the second time, so there it is the first visit that makes the actions, whichever
of the two that is. A pass is a walk along its itinerary, and a permutation of the descriptors is
one of the stops (`clusters_perm`).
-/
import InventorySync.Proofs.DryRun

namespace InventorySync

set_option autoImplicit false

open Drift (Action Policy)

/-- Neither action writes a record that the other one writes or refers to. Removals of one record
are alike, so they need not be apart. -/
def Drift.Action.Apart : Action → Action → Prop
  | .renameInterface id _, .renameInterface id' _ => id ≠ id'
  | .updateDevice id _ _, .updateDevice id' _ _ => id ≠ id'
  | .updateDevice _ _ oobIp, .deleteAddress id => oobIp ≠ id
  | .deleteAddress id, .updateDevice _ _ oobIp => oobIp ≠ id
  | _, _ => True

namespace Inventory

variable {inv : Inventory} {p : Policy} {id id' : Id}

/-! ## Actions apart -/

/-- A reference to an address does not see that another one goes. -/
theorem patchedDevice_deleteAddress (inv : Inventory) (platform : Id) {oobIp gone : Id}
    (ne : oobIp ≠ gone) :
    (inv.act (.deleteAddress gone)).patchedDevice ⟨some platform, some oobIp⟩ =
      inv.patchedDevice ⟨some platform, some oobIp⟩ := by
  funext d
  have same : (inv.addresses.erase gone).get? oobIp = inv.addresses.get? oobIp :=
    Table.get?_erase_of_ne ne
  simp only [patchedDevice, act, same]

theorem act_comm_of_reference {device platform oobIp gone : Id} (ne : oobIp ≠ gone) :
    (inv.act (.updateDevice device platform oobIp)).act (.deleteAddress gone) =
      (inv.act (.deleteAddress gone)).act (.updateDevice device platform oobIp) := by
  have same := inv.patchedDevice_deleteAddress platform ne
  simp only [act] at same ⊢
  simp only [same]

/-- **Actions that are apart come to the same in either order.** -/
theorem act_comm (inv : Inventory) {x y : Action} (apart : x.Apart y) :
    (inv.act x).act y = (inv.act y).act x := by
  cases x with
  | renameInterface i name =>
      cases y with
      | renameInterface j name' =>
          exact congrArg (fun interfaces => { inv with interfaces := interfaces })
            (Table.modify_modify_comm (idOf_patchedInterface ⟨some name⟩)
              (idOf_patchedInterface ⟨some name'⟩) apart)
      | updateDevice device platform oobIp => rfl
      | deleteAddress a => rfl
      | deleteInterface j =>
          exact congrArg (fun interfaces => { inv with interfaces := interfaces })
            (Table.modify_erase_comm (idOf_patchedInterface ⟨some name⟩) j)
  | updateDevice device platform oobIp =>
      cases y with
      | renameInterface i name => rfl
      | updateDevice device' platform' oobIp' =>
          exact congrArg (fun devices => { inv with devices := devices })
            (Table.modify_modify_comm (inv.idOf_patchedDevice ⟨some platform, some oobIp⟩)
              (inv.idOf_patchedDevice ⟨some platform', some oobIp'⟩) apart)
      | deleteAddress a => exact act_comm_of_reference apart
      | deleteInterface i => rfl
  | deleteAddress a =>
      cases y with
      | renameInterface i name => rfl
      | updateDevice device platform oobIp => exact (act_comm_of_reference apart).symm
      | deleteAddress b =>
          exact congrArg (fun addresses => { inv with addresses := addresses })
            (inv.addresses.erase_erase_comm a b)
      | deleteInterface i => rfl
  | deleteInterface i =>
      cases y with
      | renameInterface j name =>
          exact congrArg (fun interfaces => { inv with interfaces := interfaces })
            (Table.modify_erase_comm (idOf_patchedInterface ⟨some name⟩) i).symm
      | updateDevice device platform oobIp => rfl
      | deleteAddress a => rfl
      | deleteInterface j =>
          exact congrArg (fun interfaces => { inv with interfaces := interfaces })
            (inv.interfaces.erase_erase_comm i j)

/-- Any number of actions that are apart from one can be made before it or after it. -/
theorem act_actAll_comm (inv : Inventory) {x : Action} {actions : List Action}
    (apart : ∀ y ∈ actions, x.Apart y) : (inv.act x).actAll actions = (inv.actAll actions).act x := by
  induction actions generalizing inv with
  | nil => rfl
  | cons y rest ih =>
      calc (inv.act x).actAll (y :: rest)
        _ = ((inv.act y).act x).actAll rest := by
          rw [actAll_cons, inv.act_comm (apart y List.mem_cons_self)]
        _ = ((inv.act y).actAll rest).act x :=
          ih (inv.act y) fun z member => apart z (List.mem_cons_of_mem _ member)

theorem actAll_comm_of_apart (inv : Inventory) {first second : List Action}
    (apart : ∀ x ∈ first, ∀ y ∈ second, x.Apart y) :
    (inv.actAll first).actAll second = (inv.actAll second).actAll first := by
  induction first generalizing inv with
  | nil => rfl
  | cons x rest ih =>
      calc ((inv.act x).actAll rest).actAll second
        _ = ((inv.act x).actAll second).actAll rest :=
          ih (inv.act x) fun z member => apart z (List.mem_cons_of_mem _ member)
        _ = ((inv.actAll second).act x).actAll rest := by
          rw [inv.act_actAll_comm (apart x List.mem_cons_self)]

/-! ## Plans of two devices -/

/-- A plan sets the reference to an address of an interface of the device. -/
theorem exists_bound_of_updateDevice {actions : List Action} {device platform oobIp : Id}
    (planned : inv.plan p id = .ok actions)
    (member : .updateDevice device platform oobIp ∈ actions) :
    ∃ i ∈ inv.interfacesOf id, ∃ a ∈ inv.boundTo i.id, a.id = oobIp := by
  obtain ⟨d, -, rfl, decided⟩ := exists_of_plan planned
  obtain ⟨oob, isLegacy, a, e, found, rfl⟩ := Drift.resolve_eq_ok_iff.1 decided
  have bound : inv.boundTo oob.id = [a] := found.address
  refine ⟨oob, found.mem_interfaces, a, bound ▸ List.mem_singleton_self a, ?_⟩
  simp only [List.mem_append] at member
  obtain (rename | correct) | clean := member
  · split at rename
    · cases List.mem_singleton.1 rename
    · cases rename
  · simp only [Drift.correction] at correct
    split at correct
    · cases correct
    · cases List.mem_singleton.1 correct
      rfl
  · rw [Drift.cleanup_eq] at clean
    simp [Drift.clearance] at clean

/-- Interfaces of two devices are two interfaces. -/
theorem id_ne_of_ne {i j : Interface} (mine : i ∈ inv.interfacesOf id)
    (mine' : j ∈ inv.interfacesOf id') (ne : id ≠ id') : i.id ≠ j.id := by
  obtain ⟨row, owned⟩ := mem_interfacesOf.1 mine
  obtain ⟨row', owned'⟩ := mem_interfacesOf.1 mine'
  intro same
  obtain rfl : i = j := Table.eq_of_idOf_eq row row' same
  exact ne (owned.symm.trans owned')

theorem Sanctioned.exists_of_renameInterface {interface : Id} {name : String}
    (sanctioned : inv.Sanctioned p id (.renameInterface interface name)) :
    ∃ i ∈ inv.interfacesOf id, i.id = interface := by
  cases sanctioned with
  | renameInterface row owned _ => exact ⟨_, mem_interfacesOf.2 ⟨row, owned⟩, rfl⟩

/-- An address of one device is not one that the plan of another removes. -/
theorem Sanctioned.ne_of_bound {i : Interface} {a : Address} {gone : Id}
    (mine : i ∈ inv.interfacesOf id) (bound : a ∈ inv.boundTo i.id) (ne : id ≠ id')
    (sanctioned : inv.Sanctioned p id' (.deleteAddress gone)) : a.id ≠ gone := by
  obtain ⟨rowA, boundA⟩ := mem_boundTo.1 bound
  cases sanctioned with
  | @deleteAddress b j rowB boundB on owned _ =>
      intro same
      obtain rfl : a = b := Table.eq_of_idOf_eq rowA rowB same
      have sameInterface : i.id = j.id := Option.some.inj (boundA.symm.trans boundB)
      exact id_ne_of_ne mine (mem_interfacesOf.2 ⟨on, owned⟩) ne sameInterface

/-- **The actions that two devices call for are apart.** -/
theorem apart_of_plans {first second : List Action} (ne : id ≠ id')
    (planned : inv.plan p id = .ok first) (planned' : inv.plan p id' = .ok second) :
    ∀ x ∈ first, ∀ y ∈ second, x.Apart y := by
  intro x memberX y memberY
  have sanctionedX := sanctioned_of_mem_plan planned memberX
  have sanctionedY := sanctioned_of_mem_plan planned' memberY
  cases x with
  | renameInterface i name =>
      cases y with
      | renameInterface j name' =>
          obtain ⟨i, mine, rfl⟩ := sanctionedX.exists_of_renameInterface
          obtain ⟨j, mine', rfl⟩ := sanctionedY.exists_of_renameInterface
          exact id_ne_of_ne mine mine' ne
      | updateDevice device platform oobIp => trivial
      | deleteAddress a => trivial
      | deleteInterface j => trivial
  | updateDevice device platform oobIp =>
      cases y with
      | renameInterface i name => trivial
      | updateDevice device' platform' oobIp' =>
          cases sanctionedX
          cases sanctionedY
          exact ne
      | deleteAddress gone =>
          obtain ⟨i, mine, a, bound, rfl⟩ := exists_bound_of_updateDevice planned memberX
          exact sanctionedY.ne_of_bound mine bound ne
      | deleteInterface i => trivial
  | deleteAddress gone =>
      cases y with
      | renameInterface i name => trivial
      | updateDevice device platform oobIp =>
          obtain ⟨i, mine, a, bound, rfl⟩ := exists_bound_of_updateDevice planned' memberY
          exact sanctionedX.ne_of_bound mine bound ne.symm
      | deleteAddress b => trivial
      | deleteInterface i => trivial
  | deleteInterface i => cases y <;> trivial

/-- **The plans of two devices come to the same in either order.** -/
theorem actAll_comm {first second : List Action} (ne : id ≠ id')
    (planned : inv.plan p id = .ok first) (planned' : inv.plan p id' = .ok second) :
    (inv.actAll first).actAll second = (inv.actAll second).actAll first :=
  inv.actAll_comm_of_apart (apart_of_plans ne planned planned')

/-- A plan does not see that the plan of another device is carried out. -/
theorem plan_actAll_of_ne (separate : p.Separate) {actions : List Action} (ne : id' ≠ id)
    (planned : inv.plan p id = .ok actions) : (inv.actAll actions).plan p id' = inv.plan p id' := by
  have whole : inv.plan p id = .ok (actions ++ []) := by rwa [List.append_nil]
  have steps : CorrectsMany p (· = id) inv (inv.actAll actions) :=
    correctsMany_actAll separate (by rfl) whole
  exact (steps.sameView ne).plan p

end Inventory

/-! ## Success and where it leads -/

namespace Effect

variable {ε ε' α β : Type}

/-- Success with that value, at that inventory. -/
def Gives (e : Effect ε α) (a : α) (inv : Inventory) : Prop := e.result = .ok a ∧ e.inventory = inv

theorem gives_map {f : α → β} {e : Effect ε α} {b : β} {inv : Inventory} :
    (e.map f).Gives b inv ↔ ∃ a, e.Gives a inv ∧ f a = b := by
  constructor
  · rintro ⟨result, same⟩
    obtain ⟨a, success, value⟩ := map_eq_ok.1 result
    exact ⟨a, ⟨success, same⟩, value⟩
  · rintro ⟨a, ⟨success, same⟩, value⟩
    exact ⟨map_eq_ok.2 ⟨a, success, value⟩, same⟩

theorem gives_mapFault {g : ε → ε'} {e : Effect ε α} {a : α} {inv : Inventory} :
    (e.mapFault g).Gives a inv ↔ e.Gives a inv :=
  and_congr_left' mapFault_eq_ok

theorem gives_andThen {e : Effect ε α} {next : α → Inventory → Effect ε β} {b : β}
    {last : Inventory} :
    (e.andThen next).Gives b last ↔ ∃ a mid, e.Gives a mid ∧ (next a mid).Gives b last := by
  constructor
  · rintro ⟨result, same⟩
    obtain ⟨a, success, later⟩ := andThen_eq_ok.1 result
    rw [andThen_of_ok success] at same
    exact ⟨a, e.inventory, ⟨success, rfl⟩, later, same⟩
  · rintro ⟨a, mid, ⟨success, rfl⟩, later, same⟩
    rw [Gives, andThen_of_ok success]
    exact ⟨later, same⟩

end Effect

namespace Reconciler

variable {r : Reconciler} {inv mid last : Inventory} {id id' : Id}

/-- The inventory after a visit whose plan has these actions. -/
def afterPlan (r : Reconciler) (inv : Inventory) (actions : List Action) : Inventory :=
  if r.dryRun then inv else inv.actAll actions

theorem readFailure_none (p : Policy) (is : List Interface) :
    readFailure .none p is = none := by
  simp [readFailure, addressFailure, Failures.none]

/-- Without failures, a visit succeeds exactly if the device has a plan. -/
theorem visited_gives_iff {n : Nat} : (r.visited .none id inv).Gives n last ↔
    ∃ actions, inv.plan r.policy id = .ok actions ∧ n = actions.length ∧
      last = r.afterPlan inv actions := by
  simp only [visited, readFailure_none, afterPlan]
  cases planned : inv.plan r.policy id with
  | error ambiguity => simp [Effect.Gives]
  | ok actions =>
      cases r.dryRun with
      | true => simp [Effect.Gives, Effect.ok, Except.map, eq_comm]
      | false =>
          have result := (carried_of_spareWrites Failures.none_spareWrites actions inv).1
          have written := (carried_ok result).1
          simp [Effect.Gives, Except.map, result, written, eq_comm]

theorem stopAt_visit_gives_iff {report : DeviceFault → PassFault} {n : Nat} :
    (r.stopAt .none (.visit id report) inv).Gives n last ↔
      ∃ actions, inv.plan r.policy id = .ok actions ∧ n = actions.length ∧
        last = r.afterPlan inv actions :=
  Effect.gives_mapFault.trans visited_gives_iff

theorem stopAt_ask_gives_iff {c : Call} {report : Fault → PassFault} {refusal : Option Fault}
    {n : Nat} : (r.stopAt .none (.ask c report refusal) inv).Gives n last ↔
      refusal = none ∧ n = 0 ∧ last = inv := by
  cases refusal with
  | none => simp [stopAt, Failures.none, Effect.Gives, eq_comm]
  | some f => simp [stopAt, Failures.none, Effect.Gives]

theorem travel_cons_gives_iff {F : Failures} {stop : Stop} {rest : List Stop} {n : Nat} :
    (r.travel F (stop :: rest) inv).Gives n last ↔ ∃ m mid k, (r.stopAt F stop inv).Gives m mid ∧
      (r.travel F rest mid).Gives k last ∧ m + k = n := by
  rw [travel, Effect.gives_andThen]
  constructor
  · rintro ⟨m, mid, here, later⟩
    obtain ⟨k, there, sum⟩ := Effect.gives_map.1 later
    exact ⟨m, mid, k, here, there, sum⟩
  · rintro ⟨m, mid, k, here, there, sum⟩
    exact ⟨m, mid, here, Effect.gives_map.2 ⟨k, there, sum⟩⟩

/-! ## Two neighbouring stops -/

/-- Visits can change places. The second visit of one device finds nothing to do. -/
theorem visit_swap (separate : r.policy.Separate) {first second : List Action}
    (planned : inv.plan r.policy id = .ok first)
    (planned' : (r.afterPlan inv first).plan r.policy id' = .ok second) :
    ∃ first' second', inv.plan r.policy id' = .ok second' ∧
      (r.afterPlan inv second').plan r.policy id = .ok first' ∧
      r.afterPlan (r.afterPlan inv second') first' = r.afterPlan (r.afterPlan inv first) second ∧
      first'.length + second'.length = first.length + second.length := by
  cases dry : r.dryRun with
  | true =>
      simp only [afterPlan, dry, if_true] at planned' ⊢
      exact ⟨first, second, planned', planned, trivial, rfl⟩
  | false =>
      simp only [afterPlan, dry, Bool.false_eq_true, if_false] at planned' ⊢
      by_cases same : id' = id
      · subst same
        have settled := Inventory.settled_actAll separate planned
        obtain rfl : second = [] := Except.ok.inj (planned'.symm.trans settled)
        exact ⟨[], first, planned, settled, rfl, Nat.add_comm _ _⟩
      · have ahead : inv.plan r.policy id' = .ok second :=
          (Inventory.plan_actAll_of_ne separate same planned).symm.trans planned'
        have behind : (inv.actAll second).plan r.policy id = .ok first :=
          (Inventory.plan_actAll_of_ne separate (Ne.symm same) ahead).trans planned
        exact ⟨first, second, ahead, behind, Inventory.actAll_comm same ahead planned, rfl⟩

/-- **Two stops that succeed one after the other succeed in the other order too**, with the same
number of actions and the same inventory after both. -/
theorem stopAt_swap (separate : r.policy.Separate) {first second : Stop} {m k : Nat}
    (here : (r.stopAt .none first inv).Gives m mid)
    (there : (r.stopAt .none second mid).Gives k last) :
    ∃ m' k' mid', (r.stopAt .none second inv).Gives k' mid' ∧
      (r.stopAt .none first mid').Gives m' last ∧ k' + m' = m + k := by
  cases first with
  | ask c report refusal =>
      obtain ⟨answered, rfl, rfl⟩ := stopAt_ask_gives_iff.1 here
      exact ⟨0, k, last, there, stopAt_ask_gives_iff.2 ⟨answered, rfl, rfl⟩, Nat.add_comm _ _⟩
  | visit id report =>
      cases second with
      | ask c report' refusal =>
          obtain ⟨answered, rfl, rfl⟩ := stopAt_ask_gives_iff.1 there
          exact ⟨m, 0, inv, stopAt_ask_gives_iff.2 ⟨answered, rfl, rfl⟩, here, Nat.add_comm _ _⟩
      | visit id' report' =>
          obtain ⟨actions, planned, rfl, rfl⟩ := stopAt_visit_gives_iff.1 here
          obtain ⟨actions', planned', rfl, rfl⟩ := stopAt_visit_gives_iff.1 there
          obtain ⟨first, second, ahead, behind, same, sum⟩ := visit_swap separate planned planned'
          refine ⟨first.length, second.length, _, stopAt_visit_gives_iff.2 ⟨second, ahead, rfl, rfl⟩,
            stopAt_visit_gives_iff.2 ⟨first, behind, rfl, same.symm⟩, ?_⟩
          rw [Nat.add_comm, sum]

/-! ## Walks and passes -/

/-- **A walk that succeeds succeeds along any permutation of its stops**, with the same number of
actions and the same inventory at the end. -/
theorem travel_perm (separate : r.policy.Separate) {stops stops' : List Stop}
    (perm : stops.Perm stops') {n : Nat} (walked : (r.travel .none stops inv).Gives n last) :
    (r.travel .none stops' inv).Gives n last := by
  induction perm generalizing inv n with
  | nil => exact walked
  | cons stop _ ih =>
      obtain ⟨m, mid, k, here, later, sum⟩ := travel_cons_gives_iff.1 walked
      exact travel_cons_gives_iff.2 ⟨m, mid, k, here, ih later, sum⟩
  | swap second first rest =>
      obtain ⟨m, mid, l, here, later, sum⟩ := travel_cons_gives_iff.1 walked
      obtain ⟨k, after, j, there, rest, sum'⟩ := travel_cons_gives_iff.1 later
      obtain ⟨m', k', mid', ahead, behind, same⟩ := stopAt_swap separate here there
      have behind := travel_cons_gives_iff.2 ⟨m', after, j, behind, rest, rfl⟩
      exact travel_cons_gives_iff.2 ⟨k', mid', _, ahead, behind, by omega⟩
  | trans _ _ ih ih' => exact ih' (ih walked)

theorem tally_perm (r : Reconciler) (inv : Inventory) {ds ds' : List Descriptor}
    (perm : ds.Perm ds') (n : Nat) : r.tally inv ds' n = r.tally inv ds n := by
  have listings := perm.flatMap_right (r.listed inv)
  have skipped := listings.filter fun e => !e.isActive
  simp only [tally, perm.length_eq, listings.length_eq, skipped.length_eq]

/-- **The order of the descriptors does not matter to a pass that succeeds**: with the descriptors
in any other order it succeeds too, with the same report and the same inventory at the end. -/
theorem clusters_perm (platform : String) (deviceRole : Option String) (dryRun : Bool)
    {ds ds' : List Descriptor} (perm : ds.Perm ds') (s : Store) (ids : s.inventory.IdsSet)
    (report : Report) :
    let r : Reconciler := ⟨.standard platform, deviceRole, dryRun⟩
    let ran ds := (r.clusters ds).runOn { s with failures := .none }
    (ran ds).result = .ok report →
      (ran ds').result = .ok report ∧ (ran ds').store.inventory = (ran ds).store.inventory := by
  intro r ran success
  have separate : r.policy.Separate := Policy.standard_separate platform
  have walks : ∀ ds, (r.clusters ds).effect .none s.inventory =
      (r.travel .none (r.itinerary s.inventory ds) s.inventory).map (r.tally s.inventory ds) :=
    effect_clusters separate .none ids
  simp only [ran, Program.runOn_result, Program.runOn_store] at success ⊢
  generalize there : ((r.clusters ds).effect .none s.inventory).inventory = last
  have passed : ((r.clusters ds).effect .none s.inventory).Gives report last := ⟨success, there⟩
  rw [walks ds] at passed
  obtain ⟨n, walked, rfl⟩ := Effect.gives_map.1 passed
  have stops : (r.itinerary s.inventory ds).Perm (r.itinerary s.inventory ds') :=
    perm.flatMap_right _
  rw [← r.tally_perm s.inventory perm, walks ds']
  exact Effect.gives_map.2 ⟨n, travel_perm separate stops walked, rfl⟩

/-- Two descriptors that stand for one cluster, whose device is not in line. -/
theorem clusters_perm_drifted :
    let r : Reconciler := ⟨.standard "esxi", none, false⟩
    let east : Descriptor := ⟨"east", "", ""⟩
    let any : Descriptor := ⟨"", "", ""⟩
    let s : Store := ⟨.drifted, [], .none⟩
    let report : Report := ⟨2, 2, 0, 4, false⟩
    let ran ds := (r.clusters ds).runOn { s with failures := .none }
    [east, any].Perm [any, east] ∧ Inventory.drifted.IdsSet ∧
      (ran [east, any]).result = .ok report ∧ (ran [any, east]).result = .ok report ∧
      (ran [any, east]).store.inventory = (ran [east, any]).store.inventory := by
  intro r east any s report ran
  have perm : [east, any].Perm [any, east] := .swap any east []
  have success : (ran [east, any]).result = .ok report := by decide +kernel
  have moved := clusters_perm "esxi" none false perm s Inventory.drifted_idsSet report success
  refine ⟨perm, Inventory.drifted_idsSet, success, moved.1, ?_⟩
  simpa only [ran, r, s] using moved.2

end Reconciler

end InventorySync
