/-
# Proofs.DryRun — a dry run foretells the real one

A dry run reads an inventory that nobody writes, and a real run one that its own writes
have changed by then. What both see of a device is the same until that device is visited,
since a write on one device is not seen from another (`CorrectsMany.sameView`). So if no
device is visited twice, and writes are not set to fail, each stop of the dry run foretells
that of the real one (`Foretells`), and so does the whole walk (`travel_foretells`).

Devices are visited once when no two descriptors stand for one cluster
(`nodup_visitIds_itinerary`), and then a dry pass reports what the real one reports, and
makes its calls but for the writes (`clusters_dry_run`).
-/
import InventorySync.Proofs.Scope

namespace InventorySync

set_option autoImplicit false

open Drift (Action Policy)

/-- No write is set to fail. -/
def Failures.SpareWrites (F : Failures) : Prop :=
  ∀ c : Call, c.isWrite = true → F c.operation = Option.none

theorem Failures.none_spareWrites : Failures.none.SpareWrites := fun _ _ => rfl

@[simp] theorem Drift.Action.isWrite_call (x : Action) : x.call.isWrite = true := by
  cases x <;> rfl

/-- The first effect comes to the same as the second, without its writes. -/
structure Foretells {ε α : Type} (inv : Inventory) (dry real : Effect ε α) : Prop where
  result : dry.result = real.result
  calls : dry.calls = real.calls.filter fun c => !c.isWrite
  inventory : dry.inventory = inv

namespace Foretells

variable {ε ε' α β : Type} {inv : Inventory} {dry real : Effect ε α}

theorem map (foretells : Foretells inv dry real) (f : α → β) :
    Foretells inv (dry.map f) (real.map f) where
  result := congrArg (Except.map f) foretells.result
  calls := foretells.calls
  inventory := foretells.inventory

theorem mapFault (foretells : Foretells inv dry real) (g : ε → ε') :
    Foretells inv (dry.mapFault g) (real.mapFault g) where
  result := congrArg (Except.mapError g) foretells.result
  calls := foretells.calls
  inventory := foretells.inventory

theorem andThen (foretells : Foretells inv dry real)
    {next next' : α → Inventory → Effect ε β}
    (later : ∀ a, real.result = .ok a → Foretells inv (next a inv) (next' a real.inventory)) :
    Foretells inv (dry.andThen next) (real.andThen next') := by
  cases success : real.result with
  | error f =>
      rw [Effect.andThen_of_error success, Effect.andThen_of_error (foretells.result.trans success)]
      exact ⟨rfl, foretells.calls, foretells.inventory⟩
  | ok a =>
      obtain ⟨result, calls, inventory⟩ := later a success
      rw [Effect.andThen_of_ok success, Effect.andThen_of_ok (foretells.result.trans success),
        foretells.inventory]
      refine ⟨result, ?_, inventory⟩
      have first := foretells.calls
      simp only [Effect.calls] at first calls
      simp only [Effect.calls, List.map_append, List.filter_append, first, calls]

end Foretells

namespace Reconciler

variable {r : Reconciler} {F : Failures} {inv inv' : Inventory} {id : Id}

/-- The same passes, but nothing is written. -/
def rehearsal (r : Reconciler) : Reconciler := { r with dryRun := true }

/-! ## One device -/

theorem carried_of_spareWrites (spare : F.SpareWrites) (actions : List Action) (inv : Inventory) :
    (carried F actions inv).result = .ok () ∧
      (carried F actions inv).calls = actions.map (·.call) := by
  induction actions generalizing inv with
  | nil => exact ⟨rfl, rfl⟩
  | cons x rest ih =>
      obtain ⟨result, calls⟩ := ih (inv.act x)
      have through : F x.call.operation = none := spare x.call x.isWrite_call
      simp only [carried, through]
      exact ⟨result, congrArg (x.call :: ·) calls⟩

/-- The reading makes no write. -/
theorem filter_readCalls (F : Failures) (p : Policy) (id : Id) (is : List Interface) :
    (readCalls F p id is).filter (fun c => !c.isWrite) = readCalls F p id is := by
  refine List.filter_eq_self.2 fun c made => ?_
  obtain rfl | ⟨_, -, rfl⟩ | rfl := mem_readCalls made <;> rfl

/-- A dry visit foretells the real one of a device that looks the same by then. -/
theorem visited_foretells (real : r.dryRun = false) (spare : F.SpareWrites)
    (same : inv.SameView id inv') :
    Foretells inv (r.rehearsal.visited F id inv) (r.visited F id inv') := by
  have made : ∀ (reads : List Call) (i : Inventory), (reads.map (·, i)).map (·.1) = reads :=
    fun reads i => by simp [Function.comp_def]
  simp only [visited, rehearsal, real, same.interfaces, same.plan]
  cases readFailure F r.policy (inv.interfacesOf id) with
  | some message => exact ⟨rfl, by simp only [Effect.calls, made, filter_readCalls], rfl⟩
  | none =>
      cases inv.plan r.policy id with
      | error ambiguity => exact ⟨rfl, by simp only [Effect.calls, made, filter_readCalls], rfl⟩
      | ok actions =>
          obtain ⟨result, calls⟩ := carried_of_spareWrites spare actions inv'
          have writes : (actions.map (·.call)).filter (fun c => !c.isWrite) = [] := by simp
          refine ⟨?_, ?_, rfl⟩
          · simp only [if_true, Bool.false_eq_true, if_false, result]
            rfl
          · simp only [Effect.calls, Effect.ok] at calls ⊢
            simp only [if_true, Bool.false_eq_true, if_false, List.append_nil, List.map_append,
              List.filter_append, calls, made, writes, filter_readCalls]

/-! ## The whole walk -/

/-- The devices of the visits among the stops, in order. -/
def visitIds (stops : List Stop) : List Id :=
  stops.filterMap fun
    | .visit id _ => some id
    | .ask .. => none

theorem stopAt_foretells (real : r.dryRun = false) (spare : F.SpareWrites) {stop : Stop}
    (lookup : ∀ c report refusal, stop = .ask c report refusal → c.isWrite = false)
    (same : ∀ id ∈ visitIds [stop], inv.SameView id inv') :
    Foretells inv (r.rehearsal.stopAt F stop inv) (r.stopAt F stop inv') := by
  cases stop with
  | ask c report refusal =>
      have read : c.isWrite = false := lookup c report refusal rfl
      exact ⟨rfl, by simp [stopAt, Effect.calls, read], rfl⟩
  | visit id report =>
      exact (visited_foretells real spare (same id List.mem_cons_self)).mapFault report

/-- **A dry walk that visits no device twice foretells the real one**, as long as the
devices ahead look the same to both. -/
theorem travel_foretells (separate : r.policy.Separate) (real : r.dryRun = false)
    (spare : F.SpareWrites) {stops : List Stop} (once : (visitIds stops).Nodup)
    (lookups : ∀ c report refusal, Stop.ask c report refusal ∈ stops → c.isWrite = false)
    (same : ∀ id ∈ visitIds stops, inv.SameView id inv') :
    Foretells inv (r.rehearsal.travel F stops inv) (r.travel F stops inv') := by
  induction stops generalizing inv' with
  | nil => exact ⟨rfl, rfl, rfl⟩
  | cons stop rest ih =>
      have split : visitIds (stop :: rest) = visitIds [stop] ++ visitIds rest :=
        List.filterMap_append (l := [stop])
      rw [split, List.nodup_append] at once
      obtain ⟨-, onceRest, apart⟩ := once
      rw [split] at same
      have here := stopAt_foretells real spare
        (fun c report refusal is => lookups c report refusal (is ▸ List.mem_cons_self))
        fun id member => same id (List.mem_append_left _ member)
      refine here.andThen fun n success => Foretells.map ?_ _
      refine ih onceRest (fun c report refusal member =>
        lookups c report refusal (List.mem_cons_of_mem _ member)) fun id ahead => ?_
      -- The writes at this stop are on a device that is not ahead.
      have writes := stopAt_correctsMany separate (r.stopAt_inventory_passes F stop inv')
      refine (same id (List.mem_append_right _ ahead)).trans (writes.sameView ?_)
      rintro ⟨report, member⟩
      obtain rfl := List.mem_singleton.1 member
      exact apart id List.mem_cons_self id ahead rfl

/-! ## Passes -/

theorem mem_visitIds {stops : List Stop} {id : Id} : id ∈ visitIds stops ↔ Visits stops id := by
  simp only [visitIds, Visits, List.mem_filterMap]
  constructor
  · rintro ⟨stop, member, is⟩
    cases stop with
    | ask c report refusal => cases is
    | visit device report =>
        cases is
        exact ⟨report, member⟩
  · rintro ⟨report, member⟩
    exact ⟨_, member, rfl⟩

theorem visitIds_append (first second : List Stop) :
    visitIds (first ++ second) = visitIds first ++ visitIds second :=
  List.filterMap_append

theorem visitIds_clusterStops (r : Reconciler) (inv : Inventory) (d : Descriptor) :
    visitIds (r.clusterStops inv d) = ((r.listed inv d).filter (·.isActive)).map (·.id) := by
  have noVisit : visitIds (r.roleStops inv) = [] := by
    rw [roleStops]
    split <;> rfl
  have devices : ∀ c found,
      visitIds (deviceStops c found) = (found.filter (·.isActive)).map (·.id) := fun c found => by
    simp [visitIds, deviceStops, List.filterMap_map]
  rw [clusterStops, listed]
  cases inv.cluster? d with
  | error f => rfl
  | ok c =>
      change visitIds (r.roleStops inv ++ _) = _
      rw [visitIds_append, noVisit, List.nil_append]
      cases r.role? inv with
      | error f => rfl
      | ok role => exact devices c _

/-- A listing has every device once. -/
theorem nodup_visitIds_clusterStops (r : Reconciler) (inv : Inventory) (d : Descriptor) :
    (visitIds (r.clusterStops inv d)).Nodup := by
  have once : ((r.listed inv d).map (·.id)).Nodup := by
    rw [listed]
    split
    · exact inv.devices.nodup_select_ids _
    · exact List.nodup_nil
  rw [visitIds_clusterStops]
  exact once.sublist (List.filter_sublist.map _)

/-- **Descriptors that stand for different clusters have no device visited twice.** -/
theorem nodup_visitIds_itinerary (ids : inv.IdsSet) {ds : List Descriptor}
    (apart : ds.Pairwise fun d e => ∀ c, inv.cluster? d = .ok c → inv.cluster? e ≠ .ok c) :
    (visitIds (r.itinerary inv ds)).Nodup := by
  induction ds with
  | nil => exact List.nodup_nil
  | cons d rest ih =>
      obtain ⟨ahead, apartRest⟩ := List.pairwise_cons.1 apart
      have unrolled : r.itinerary inv (d :: rest) = r.clusterStops inv d ++ r.itinerary inv rest :=
        List.flatMap_cons
      rw [unrolled, visitIds_append, List.nodup_append]
      refine ⟨r.nodup_visitIds_clusterStops inv d, ih apartRest, fun id here id' later same => ?_⟩
      subst same
      obtain ⟨e, listed, -, rfl⟩ := visits_clusterStops_iff.1 (mem_visitIds.1 here)
      obtain ⟨row, ⟨c, found, on⟩, -⟩ := (mem_listed_iff ids).1 listed
      obtain ⟨e', covers, same⟩ := (visits_itinerary_iff ids).1 (mem_visitIds.1 later)
      obtain ⟨d', member, c', found', on'⟩ := covers.cluster
      -- One device is in one cluster, so both descriptors stand for it.
      rw [Table.eq_of_idOf_eq covers.row row same, on] at on'
      obtain ⟨sited, rowC, rfl⟩ := exists_row_of_cluster? found
      obtain ⟨sited', rowC', rfl⟩ := exists_row_of_cluster? found'
      have sameRow : sited' = sited := Table.eq_of_idOf_eq rowC' rowC (Option.some.inj on').symm
      exact ahead d' member _ found (sameRow ▸ found')

/-- A dry pass foretells the real one, but for the mark in the report. -/
theorem clusters_foretell (separate : r.policy.Separate) (real : r.dryRun = false)
    (spare : F.SpareWrites) (ids : inv.IdsSet) {ds : List Descriptor}
    (apart : ds.Pairwise fun d e => ∀ c, inv.cluster? d = .ok c → inv.cluster? e ≠ .ok c) :
    Foretells inv ((r.rehearsal.clusters ds).effect F inv)
      (((r.clusters ds).effect F inv).map fun report => { report with dryRun := true }) := by
  have walk : Foretells inv (r.rehearsal.travel F (r.itinerary inv ds) inv) _ :=
    travel_foretells separate real spare (nodup_visitIds_itinerary ids apart)
      (fun _ _ _ => isWrite_of_ask_mem) fun id _ => .refl id inv
  have separate' : r.rehearsal.policy.Separate := separate
  rw [effect_clusters separate F ids, effect_clusters separate' F ids, Effect.map_map]
  exact walk.map (r.rehearsal.tally inv ds)

/-- **A dry pass foretells the real one**, if no two descriptors stand for one cluster and
writes are not set to fail: it changes nothing and makes no write, ends with the same fault
or the same counters, and makes the calls of the real pass but for the writes. -/
theorem clusters_dry_run (platform : String) (deviceRole : Option String) (ds : List Descriptor)
    (s : Store) (ids : s.inventory.IdsSet) (spare : s.failures.SpareWrites)
    (apart : ds.Pairwise fun d e =>
      ∀ c, s.inventory.cluster? d = .ok c → s.inventory.cluster? e ≠ .ok c) :
    let real := (clusters ⟨.standard platform, deviceRole, false⟩ ds).runOn s
    let dry := (clusters ⟨.standard platform, deviceRole, true⟩ ds).runOn s
    dry.store.inventory = s.inventory ∧ dry.store.writes = s.writes ∧
      dry.result = real.result.map (fun report => { report with dryRun := true }) ∧
      ∃ made, real.store.calls = s.calls ++ made ∧
        dry.store.calls = s.calls ++ made.filter fun c => !c.isWrite := by
  intro real dry
  let r : Reconciler := ⟨.standard platform, deviceRole, false⟩
  have separate : r.policy.Separate := Policy.standard_separate platform
  obtain ⟨result, calls, inventory⟩ := clusters_foretell separate rfl spare ids apart
  rw [Effect.calls_map] at calls
  have dryCalls : dry.store.calls = _ := congrArg Store.calls (Program.runOn_store _ s)
  refine ⟨?_, ?_, ?_, ((r.clusters ds).effect s.failures s.inventory).calls, ?_, ?_⟩
  · exact (congrArg Store.inventory (Program.runOn_store _ s)).trans inventory
  · have noWrite : ∀ calls : List Call,
        (calls.filter fun c => !c.isWrite).filter (·.isWrite) = [] := fun calls => by
      simp [List.filter_filter]
    rw [Store.writes, dryCalls, List.filter_append]
    refine (congrArg (s.writes ++ ·) ?_).trans (List.append_nil _)
    exact (congrArg (List.filter (·.isWrite)) calls).trans (noWrite _)
  · rw [Program.runOn_result, Program.runOn_result]
    exact result
  · exact congrArg Store.calls (Program.runOn_store _ s)
  · exact dryCalls.trans (congrArg (s.calls ++ ·) calls)

/-- A drifted cluster, and one that is not there. -/
theorem clusters_dry_run_drifted :
    let ds : List Descriptor := [⟨"east", "", ""⟩, ⟨"west", "", ""⟩]
    let s : Store := ⟨.drifted, [], .none⟩
    let real := (clusters ⟨.standard "esxi", none, false⟩ ds).runOn s
    let dry := (clusters ⟨.standard "esxi", none, true⟩ ds).runOn s
    Inventory.drifted.IdsSet ∧ s.failures.SpareWrites ∧
      (ds.Pairwise fun d e =>
        ∀ c, s.inventory.cluster? d = .ok c → s.inventory.cluster? e ≠ .ok c) ∧
      real.store.writes.length = 4 ∧ real.store.calls.length = 11 ∧ dry.store.writes = [] ∧
      dry.store.inventory = .drifted ∧
      dry.result = real.result.map (fun report => { report with dryRun := true }) := by
  intro ds s real dry
  have apart : ds.Pairwise fun d e =>
      ∀ c, s.inventory.cluster? d = .ok c → s.inventory.cluster? e ≠ .ok c := by
    refine List.pairwise_pair.2 fun c _ found => ?_
    have missing : s.inventory.cluster? ⟨"west", "", ""⟩ =
        .error (.notFoundCount "cluster" "name=west" 0) := rfl
    rw [missing] at found
    cases found
  obtain ⟨inventory, writes, result, -⟩ := clusters_dry_run "esxi" none ds s
    Inventory.drifted_idsSet Failures.none_spareWrites apart
  refine ⟨Inventory.drifted_idsSet, Failures.none_spareWrites, apart, ?_, ?_, writes, inventory,
    result⟩
  · decide
  · decide

end Reconciler

end InventorySync
