/-
# Proofs.Itinerary — a pass as one list of stops

The loops of a pass, over descriptors and over the devices of each, depend on parts of
the inventory that no write of the pass changes. So what a pass asks and whom it visits
is a list of stops fixed at its beginning (`itinerary`), and the pass is a walk along
that list up to the first fault (`effect_clusters`). Statements about passes are proved
along this list.

Every inventory on the way is reached by writes of the plans of the devices that are
visited (`travel_correctsMany`), and after a walk that succeeds nothing is left to do on
them (`travel_settles`).
-/
import InventorySync.Proofs.DeviceVisit

namespace InventorySync

set_option autoImplicit false

open Drift (Action Policy Snapshot resolve)

/-- A stop of a pass. -/
inductive Stop where
  /-- A lookup, and the fault if its answer is not what is wanted. -/
  | ask (c : Call) (report : Fault → PassFault) (refusal : Option Fault)
  | visit (device : Id) (report : DeviceFault → PassFault)

namespace Inventory

/-- The cluster that a descriptor stands for. -/
def cluster? (inv : Inventory) (d : Descriptor) : Except Fault Cluster :=
  let f : ClusterFilter := ⟨d.name, d.region, d.kind⟩
  exactlyOne "cluster" f.query ((inv.clusters.select f.admits).map (·.cluster))

/-- The role of that name. -/
def role? (inv : Inventory) (name : String) : Except Fault DeviceRole :=
  let f : NameFilter := ⟨name⟩
  exactlyOne "device role" f.query (inv.deviceRoles.select f.admits)

end Inventory

/-- The fault of an answer, if it is one. -/
def refusal {α : Type} : Except Fault α → Option Fault
  | .ok _ => none
  | .error f => some f

/-- The stops that follow an answer; none if it is a fault. -/
def following {α : Type} (answer : Except Fault α) (stops : α → List Stop) : List Stop :=
  match answer with
  | .error _ => []
  | .ok a => stops a

theorem mem_following {α : Type} {answer : Except Fault α} {stops : α → List Stop} {stop : Stop} :
    stop ∈ following answer stops ↔ ∃ a, answer = .ok a ∧ stop ∈ stops a := by
  cases answer <;> simp [following]

namespace Reconciler

variable {F : Failures} {inv : Inventory}

/-- The id of the role that devices must have, zero if any will do. -/
def role? (r : Reconciler) (inv : Inventory) : Except Fault Id :=
  match r.deviceRole with
  | some name => (inv.role? name).map (·.id)
  | none => .ok 0

def deviceFilter (c : Cluster) (role : Id) : DeviceFilter := { clusterId := c.id, roleId := role }

/-- The devices that are listed for a descriptor; none if a lookup fails. -/
def listed (r : Reconciler) (inv : Inventory) (d : Descriptor) : List Device :=
  match inv.cluster? d, r.role? inv with
  | .ok c, .ok role => inv.devices.select (deviceFilter c role).admits
  | _, _ => []

/-! ## Stops -/

def deviceStops (c : Cluster) (found : List Device) : List Stop :=
  (found.filter (·.isActive)).map fun d => .visit d.id (.device d.label d.id c.name c.id)

def roleStops (r : Reconciler) (inv : Inventory) : List Stop :=
  match r.deviceRole with
  | some name => [.ask (.listDeviceRoles ⟨name⟩) (.deviceRole name) (refusal (inv.role? name))]
  | none => []

def clusterStops (r : Reconciler) (inv : Inventory) (d : Descriptor) : List Stop :=
  .ask (.listClusters ⟨d.name, d.region, d.kind⟩) (.cluster d) (refusal (inv.cluster? d)) ::
    following (inv.cluster? d) fun c =>
      r.roleStops inv ++ following (r.role? inv) fun role =>
        .ask (.listDevices (deviceFilter c role)) (.devices c.name c.id) none ::
          deviceStops c (inv.devices.select (deviceFilter c role).admits)

/-- Every stop of a pass, if none of them fails. -/
def itinerary (r : Reconciler) (inv : Inventory) (ds : List Descriptor) : List Stop :=
  ds.flatMap (r.clusterStops inv)

/-- The lookups of a pass are listings of three kinds. -/
theorem ask_mem_itinerary {r : Reconciler} {ds : List Descriptor} {c : Call}
    {report : Fault → PassFault} {refusal : Option Fault}
    (member : Stop.ask c report refusal ∈ r.itinerary inv ds) :
    (∃ f, c = .listClusters f) ∨ (∃ f, c = .listDeviceRoles f) ∨ ∃ f, c = .listDevices f := by
  obtain ⟨d, -, stop⟩ := List.mem_flatMap.1 member
  simp only [clusterStops, roleStops, deviceStops, List.mem_cons, List.mem_append,
    mem_following] at stop
  obtain same | ⟨_, -, role | ⟨_, -, same | visit⟩⟩ := stop
  · cases same
    exact .inl ⟨_, rfl⟩
  · split at role
    · cases List.mem_singleton.1 role
      exact .inr (.inl ⟨_, rfl⟩)
    · cases role
  · cases same
    exact .inr (.inr ⟨_, rfl⟩)
  · obtain ⟨_, -, same⟩ := List.mem_map.1 visit
    cases same

/-- A lookup is no write. -/
theorem isWrite_of_ask_mem {r : Reconciler} {ds : List Descriptor} {c : Call}
    {report : Fault → PassFault} {refusal : Option Fault}
    (member : Stop.ask c report refusal ∈ r.itinerary inv ds) : c.isWrite = false := by
  obtain ⟨_, rfl⟩ | ⟨_, rfl⟩ | ⟨_, rfl⟩ := ask_mem_itinerary member <;> rfl

/-! ## Walking along -/

/-- What happens at one stop, and the number of actions. -/
def stopAt (r : Reconciler) (F : Failures) : Stop → Inventory → Effect PassFault Nat
  | .ask c report refusal, inv =>
    { result := match F c.operation with
        | some message => .error (report (.api message))
        | none => refusal.elim (.ok 0) fun f => .error (report f)
      trail := [(c, inv)]
      inventory := inv }
  | .visit device report, inv => (r.visited F device inv).mapFault report

/-- Walk along the stops up to the first fault, adding up the actions. -/
def travel (r : Reconciler) (F : Failures) : List Stop → Inventory → Effect PassFault Nat
  | [], inv => .ok 0 inv
  | stop :: rest, inv =>
    (r.stopAt F stop inv).andThen fun n after => (r.travel F rest after).map (n + ·)

theorem travel_append (r : Reconciler) (F : Failures) (first second : List Stop)
    (inv : Inventory) :
    r.travel F (first ++ second) inv =
      (r.travel F first inv).andThen fun n after => (r.travel F second after).map (n + ·) := by
  induction first generalizing inv with
  | nil => simp only [List.nil_append, travel, Effect.ok_andThen, Nat.zero_add, Effect.map_id]
  | cons stop rest ih =>
      simp only [List.cons_append, travel, ih, Effect.andThen_assoc, Effect.andThen_map,
        Effect.map_andThen, Effect.map_map, Nat.add_assoc]

/-- The devices that are visited. -/
def Visits (stops : List Stop) (id : Id) : Prop := ∃ report, Stop.visit id report ∈ stops

theorem Visits.mono {stops more : List Stop} {id : Id} (visits : Visits stops id)
    (sub : ∀ stop ∈ stops, stop ∈ more) : Visits more id := by
  obtain ⟨report, member⟩ := visits
  exact ⟨report, sub _ member⟩

theorem stopAt_inventory_passes (r : Reconciler) (F : Failures) (stop : Stop) (inv : Inventory) :
    (r.stopAt F stop inv).inventory ∈ (r.stopAt F stop inv).passes inv := by
  cases stop with
  | ask c report refusal => exact List.mem_cons_self
  | visit device report => exact r.visited_inventory_passes F device inv

theorem travel_inventory_passes (r : Reconciler) (F : Failures) (stops : List Stop)
    (inv : Inventory) : (r.travel F stops inv).inventory ∈ (r.travel F stops inv).passes inv := by
  induction stops generalizing inv with
  | nil => exact List.mem_cons_self
  | cons stop rest ih =>
      exact Effect.inventory_passes_andThen (r.stopAt_inventory_passes F stop inv)
        fun n _ => ih (r.stopAt F stop inv).inventory

theorem stopAt_correctsMany {r : Reconciler} (separate : r.policy.Separate) {stop : Stop}
    {inv' : Inventory} (passed : inv' ∈ (r.stopAt F stop inv).passes inv) :
    Inventory.CorrectsMany r.policy (Visits [stop]) inv inv' := by
  cases stop with
  | ask c report refusal =>
      obtain rfl : inv' = inv := by simpa [stopAt, Effect.passes] using passed
      exact .refl
  | visit device report =>
      refine (visited_correctsMany separate passed).mono fun id same => ?_
      exact same ▸ ⟨report, List.mem_singleton_self _⟩

/-- **Every inventory on the way is reached by writes on the devices that are visited.** -/
theorem travel_correctsMany {r : Reconciler} (separate : r.policy.Separate) {stops : List Stop}
    {inv' : Inventory} (passed : inv' ∈ (r.travel F stops inv).passes inv) :
    Inventory.CorrectsMany r.policy (Visits stops) inv inv' := by
  induction stops generalizing inv with
  | nil =>
      obtain rfl : inv' = inv := by simpa [travel, Effect.ok, Effect.passes] using passed
      exact .refl
  | cons stop rest ih =>
      have here : ∀ inv', inv' ∈ (r.stopAt F stop inv).passes inv →
          Inventory.CorrectsMany r.policy (Visits (stop :: rest)) inv inv' := by
        intro inv' early
        refine (stopAt_correctsMany separate early).mono fun id visits => ?_
        exact visits.mono fun s member => List.mem_singleton.1 member ▸ List.mem_cons_self
      obtain early | ⟨n, -, later⟩ := Effect.passes_andThen passed
      · exact here inv' early
      · refine (here _ (r.stopAt_inventory_passes F stop inv)).trans ?_
        exact (ih later).mono fun id visits => visits.mono fun s => List.mem_cons_of_mem _

theorem travel_writes {r : Reconciler} (separate : r.policy.Separate) (F : Failures)
    (stops : List Stop) (inv : Inventory) :
    Inventory.CorrectsMany r.policy (Visits stops) inv (r.travel F stops inv).inventory :=
  travel_correctsMany separate (r.travel_inventory_passes F stops inv)

/-- A walk that succeeds succeeds at every stop. -/
theorem travel_cons_ok {r : Reconciler} {stop : Stop} {rest : List Stop} {n : Nat}
    (success : (r.travel F (stop :: rest) inv).result = .ok n) :
    ∃ m k, (r.stopAt F stop inv).result = .ok m ∧
      (r.travel F rest (r.stopAt F stop inv).inventory).result = .ok k ∧ m + k = n ∧
      (r.travel F (stop :: rest) inv).inventory =
        (r.travel F rest (r.stopAt F stop inv).inventory).inventory := by
  obtain ⟨m, here, later⟩ := Effect.andThen_eq_ok.1 success
  obtain ⟨k, restSuccess, same⟩ := Effect.map_eq_ok.1 later
  refine ⟨m, k, here, restSuccess, same, ?_⟩
  rw [travel, Effect.andThen_of_ok here]
  rfl

/-- **After a walk that succeeds, nothing is left to do on the devices that were visited**,
unless it was a dry run. -/
theorem travel_settles {r : Reconciler} (separate : r.policy.Separate) (real : r.dryRun = false)
    {stops : List Stop} {n : Nat} (success : (r.travel F stops inv).result = .ok n) {id : Id}
    (visits : Visits stops id) : (r.travel F stops inv).inventory.Settled r.policy id := by
  induction stops generalizing inv n with
  | nil =>
      obtain ⟨report, member⟩ := visits
      cases member
  | cons stop rest ih =>
      obtain ⟨m, k, here, later, -, last⟩ := travel_cons_ok success
      rw [last]
      obtain ⟨report, member⟩ := visits
      obtain rfl | member := List.mem_cons.1 member
      · have settled := visited_settles separate real (Effect.mapFault_eq_ok.1 here)
        exact (travel_writes separate F rest _).settled settled
      · exact ih later ⟨report, member⟩

/-! ## The program walks along its itinerary -/

theorem effect_devices {r : Reconciler} (separate : r.policy.Separate) (F : Failures)
    (ids : inv.IdsSet) (c : Cluster) {found : List Device}
    (rows : ∀ d ∈ found, d ∈ inv.devices.rows) (nodup : (found.map (·.id)).Nodup)
    (report : Report) :
    (r.devices c found report).effect F inv =
      (r.travel F (deviceStops c found) inv).map fun n =>
        { report with
          devices := report.devices + found.length
          skipped := report.skipped + (found.filter fun d => !d.isActive).length
          actions := report.actions + n } := by
  induction found generalizing inv report with
  | nil => rfl
  | cons d rest ih =>
      have restRows : ∀ e ∈ rest, e ∈ inv.devices.rows :=
        fun e member => rows e (List.mem_cons_of_mem _ member)
      rw [List.map_cons, List.nodup_cons] at nodup
      by_cases active : d.isActive = true
      · have steps := visited_correctsMany separate (r.visited_inventory_passes F d.id inv)
        -- The visit writes on `d` alone, so the others are still the rows that were listed.
        have stillRows : ∀ e ∈ rest, e ∈ (r.visited F d.id inv).inventory.devices.rows :=
          fun e member => steps.mem_devices (restRows e member)
            fun same => nodup.1 (List.mem_map.2 ⟨e, member, same⟩)
        simp only [devices, active, if_true, Program.effect_bind, Program.effect_mapFailure,
          effect_device separate F ids (rows d List.mem_cons_self)]
        simp only [deviceStops, active, List.filter_cons_of_pos, List.map_cons, travel, stopAt,
          Effect.andThen_map]
        refine Effect.andThen_congr fun n success => ?_
        rw [Effect.map_map]
        simp only [Effect.mapFault]
        rw [ih (steps.idsSet ids) stillRows nodup.2]
        simp [deviceStops, active, Nat.add_assoc, Nat.add_comm 1]
      · simp only [devices, active, Bool.false_eq_true, if_false, Program.effect_bind,
          Program.effect_say, Effect.ok_andThen]
        rw [ih ids restRows nodup.2]
        simp [deviceStops, active, Nat.add_assoc, Nat.add_comm 1]

/-- A lookup: one listing, and the answer it comes to. -/
def lookup {α : Type} (F : Failures) (inv : Inventory) (c : Call) (answer : Except Fault α) :
    Effect Fault α where
  result := match F c.operation with
    | some message => .error (.api message)
    | none => answer
  trail := [(c, inv)]
  inventory := inv

theorem effect_listing (F : Failures) (c : Call) {a : c.Answer}
    (answered : inv.answer c = (.ok a, inv)) (unwrapped : ∀ cause, c.fault cause = cause) :
    (Program.ask c).effect F inv = lookup F inv c (.ok a) := by
  cases failing : F c.operation with
  | some message => simp only [Program.effect_ask_of_failing failing, lookup, failing, unwrapped]
  | none => simp only [Program.effect_ask_of_answer failing answered, lookup, failing]

theorem effect_lookup {α : Type} (F : Failures) (c : Call) {a : c.Answer}
    (answered : inv.answer c = (.ok a, inv)) (unwrapped : ∀ cause, c.fault cause = cause)
    (answer : c.Answer → Except Fault α) :
    (Program.ask c >>= fun a => Program.ofExcept (answer a)).effect F inv =
      lookup F inv c (answer a) := by
  simp only [Program.effect_bind, effect_listing F c answered unwrapped, Program.effect_ofExcept,
    lookup]
  cases F c.operation <;> simp [Effect.andThen]

/-- A lookup, and what is done with its answer, is a stop and those that follow it. -/
theorem lookup_andThen {α β : Type} (r : Reconciler) (F : Failures) (inv : Inventory) (c : Call)
    (report : Fault → PassFault) (answer : Except Fault α)
    {next : α → Inventory → Effect PassFault β} (stops : α → List Stop) {value : Nat → β}
    (walks : ∀ a, answer = .ok a → next a inv = (r.travel F (stops a) inv).map value) :
    ((lookup F inv c answer).mapFault report).andThen next =
      (r.travel F (.ask c report (refusal answer) :: following answer stops) inv).map value := by
  simp only [travel, stopAt, Effect.mapFault, lookup]
  cases F c.operation with
  | some message => simp [Effect.andThen, Effect.map, Except.map]
  | none =>
      cases answer with
      | error f => simp [Effect.andThen, Effect.map, Except.map, refusal]
      | ok a =>
          simp only [Effect.andThen, mapError_ok, refusal, Option.elim_none, following,
            walks a rfl, Nat.zero_add, Effect.map_id]
          rfl

theorem effect_roleId_andThen {β : Type} (r : Reconciler) (F : Failures) (inv : Inventory)
    {next : Id → Inventory → Effect PassFault β} {stops : Id → List Stop} {value : Nat → β}
    (walks : ∀ role, r.role? inv = .ok role →
      next role inv = (r.travel F (stops role) inv).map value) :
    (r.roleId.effect F inv).andThen next =
      (r.travel F (r.roleStops inv ++ following (r.role? inv) stops) inv).map value := by
  cases wanted : r.deviceRole with
  | none =>
      have anyRole : r.role? inv = .ok 0 := by simp only [role?, wanted]
      simp only [roleId, wanted, Program.effect_done, Effect.ok_andThen, roleStops, anyRole,
        List.nil_append]
      exact walks 0 anyRole
  | some name =>
      have looked : r.role? inv = (inv.role? name).map (·.id) := by simp only [role?, wanted]
      have sameStops : following (r.role? inv) stops =
          following (inv.role? name) fun e => stops e.id := by
        rw [looked]
        cases inv.role? name <;> rfl
      have found : (Program.findDeviceRole name).effect F inv =
          lookup F inv (.listDeviceRoles ⟨name⟩) (inv.role? name) :=
        effect_lookup F (.listDeviceRoles ⟨name⟩) rfl (fun _ => rfl)
          (exactlyOne "device role" (NameFilter.mk name).query)
      simp only [roleId, wanted, Program.effect_bind, Program.effect_mapFailure, found, roleStops,
        List.singleton_append, Effect.andThen_assoc, Program.effect_pure, Effect.ok_andThen,
        sameStops]
      exact r.lookup_andThen F inv (.listDeviceRoles ⟨name⟩) (.deviceRole name) (inv.role? name)
        (fun e => stops e.id) fun e found => walks e.id (by rw [looked, found]; rfl)

/-- The report on the clusters of one descriptor, given the number of actions. -/
def clusterTally (r : Reconciler) (inv : Inventory) (d : Descriptor) (actions : Nat) : Report where
  clusters := 1
  devices := (r.listed inv d).length
  skipped := ((r.listed inv d).filter fun e => !e.isActive).length
  actions := actions
  dryRun := r.dryRun

theorem effect_cluster {r : Reconciler} (separate : r.policy.Separate) (F : Failures)
    (ids : inv.IdsSet) (d : Descriptor) :
    (r.cluster d).effect F inv =
      (r.travel F (r.clusterStops inv d) inv).map (r.clusterTally inv d) := by
  have looked : (Program.findCluster ⟨d.name, d.region, d.kind⟩).effect F inv =
      lookup F inv (.listClusters ⟨d.name, d.region, d.kind⟩) (inv.cluster? d) :=
    effect_lookup F (.listClusters ⟨d.name, d.region, d.kind⟩) rfl (fun _ => rfl)
      (exactlyOne "cluster" (ClusterFilter.mk d.name d.region d.kind).query)
  simp only [cluster, Program.effect_bind, Program.effect_mapFailure, looked, Program.effect_say,
    Effect.ok_andThen, clusterStops, Program.effect_pure]
  refine r.lookup_andThen F inv (.listClusters ⟨d.name, d.region, d.kind⟩) (.cluster d)
    (inv.cluster? d) _ fun c clusterFound => ?_
  refine r.effect_roleId_andThen F inv fun role roleFound => ?_
  have listing : (Program.ask (.listDevices { clusterId := c.id, roleId := role })).effect F inv =
      lookup F inv (.listDevices (deviceFilter c role))
        (.ok (inv.devices.select (deviceFilter c role).admits)) :=
    effect_listing F (.listDevices (deviceFilter c role)) rfl fun _ => rfl
  have found : r.listed inv d = inv.devices.select (deviceFilter c role).admits := by
    simp only [listed, clusterFound, roleFound]
  rw [listing]
  refine r.lookup_andThen F inv (.listDevices (deviceFilter c role)) (.devices c.name c.id)
    (.ok (inv.devices.select (deviceFilter c role).admits)) (deviceStops c)
    fun devices same => ?_
  cases same
  rw [effect_devices separate F ids c (fun e listed => (Table.mem_select.1 listed).1)
    (inv.devices.nodup_select_ids _)]
  simp only [Effect.map_andThen, Effect.andThen_ok, Nat.zero_add, ← found]
  rfl

/-! ## All clusters -/

/-- The report of a pass that makes so many actions. -/
def tally (r : Reconciler) (inv : Inventory) (ds : List Descriptor) (actions : Nat) : Report where
  clusters := ds.length
  devices := (ds.flatMap (r.listed inv)).length
  skipped := ((ds.flatMap (r.listed inv)).filter fun e => !e.isActive).length
  actions := actions
  dryRun := r.dryRun

section Alike

variable {inv' : Inventory}

theorem cluster?_of_alike (alike : inv.Alike inv') (d : Descriptor) :
    inv'.cluster? d = inv.cluster? d := by
  simp only [Inventory.cluster?, alike.clusters]

theorem role?_of_alike (r : Reconciler) (alike : inv.Alike inv') : r.role? inv' = r.role? inv := by
  simp only [role?, Inventory.role?, alike.deviceRoles]

theorem deviceStops_bare (c : Cluster) (found : List Device) :
    deviceStops c (found.map Device.bare) = deviceStops c found := by
  simp only [deviceStops, List.filter_map, List.map_map]
  rfl

/-- A listing of devices does not see the references that a pass may set. -/
theorem select_of_alike (alike : inv.Alike inv') (c : Cluster) (role : Id) :
    (inv'.devices.select (deviceFilter c role).admits).map Device.bare =
      (inv.devices.select (deviceFilter c role).admits).map Device.bare := by
  have unseen : (deviceFilter c role).admits = (deviceFilter c role).admits ∘ Device.bare := rfl
  rw [Table.select, Table.select, unseen, ← List.filter_map, ← List.filter_map, alike.devices]

theorem clusterStops_of_alike (r : Reconciler) (alike : inv.Alike inv') (d : Descriptor) :
    r.clusterStops inv' d = r.clusterStops inv d := by
  have sameStops : ∀ c role,
      deviceStops c (inv'.devices.select (deviceFilter c role).admits) =
        deviceStops c (inv.devices.select (deviceFilter c role).admits) := fun c role => by
    rw [← deviceStops_bare, select_of_alike alike, deviceStops_bare]
  have sameRole : ∀ name, inv'.role? name = inv.role? name := fun name => by
    simp only [Inventory.role?, alike.deviceRoles]
  simp only [clusterStops, roleStops, cluster?_of_alike alike, r.role?_of_alike alike, sameRole,
    sameStops]

theorem itinerary_of_alike (r : Reconciler) (alike : inv.Alike inv') (ds : List Descriptor) :
    r.itinerary inv' ds = r.itinerary inv ds := by
  simp only [itinerary, funext (r.clusterStops_of_alike alike)]

theorem listed_of_alike (r : Reconciler) (alike : inv.Alike inv') (d : Descriptor) :
    (r.listed inv' d).map Device.bare = (r.listed inv d).map Device.bare := by
  simp only [listed, cluster?_of_alike alike, r.role?_of_alike alike]
  split
  · exact select_of_alike alike _ _
  · rfl

/-- The counters but for the actions are fixed at the beginning too. -/
theorem tally_of_alike (r : Reconciler) (alike : inv.Alike inv') (ds : List Descriptor) (n : Nat) :
    r.tally inv' ds n = r.tally inv ds n := by
  have sameListed : (ds.flatMap (r.listed inv')).map Device.bare =
      (ds.flatMap (r.listed inv)).map Device.bare := by
    rw [List.map_flatMap, List.map_flatMap, funext (r.listed_of_alike alike)]
  have sameLength := congrArg List.length sameListed
  have sameSkipped :=
    congrArg (fun found => (found.filter fun e => !e.isActive).length) sameListed
  simp only [List.filter_map, List.length_map] at sameLength sameSkipped
  rw [tally, sameLength]
  exact congrArg (Report.mk ds.length _ · n r.dryRun) sameSkipped

end Alike

theorem effect_clustersFrom {r : Reconciler} (separate : r.policy.Separate) (F : Failures)
    (ids : inv.IdsSet) (ds : List Descriptor) (report : Report) :
    (r.clustersFrom ds report).effect F inv =
      (r.travel F (r.itinerary inv ds) inv).map fun n => report.merge (r.tally inv ds n) := by
  induction ds generalizing inv report with
  | nil => simp [clustersFrom, itinerary, travel, tally, Report.merge]
  | cons d rest ih =>
      have steps := travel_writes separate F (r.clusterStops inv d) inv
      have unrolled : r.itinerary inv (d :: rest) = r.clusterStops inv d ++ r.itinerary inv rest :=
        List.flatMap_cons
      simp only [clustersFrom, Program.effect_bind, effect_cluster separate F ids, unrolled,
        travel_append, Effect.map_andThen, Effect.andThen_map]
      refine Effect.andThen_congr fun n success => ?_
      -- What the rest of the pass looks up by then is what there was at the beginning.
      rw [ih (steps.idsSet ids), r.itinerary_of_alike steps.alike, Effect.map_map]
      refine congrArg (Effect.map · _) (funext fun m => ?_)
      rw [r.tally_of_alike steps.alike]
      simp [Report.merge, tally, clusterTally, Nat.add_assoc, Nat.add_comm 1]

/-- **A pass is a walk along its itinerary**, and reports what the inventory held at the
beginning. -/
theorem effect_clusters {r : Reconciler} (separate : r.policy.Separate) (F : Failures)
    (ids : inv.IdsSet) (ds : List Descriptor) :
    (r.clusters ds).effect F inv =
      (r.travel F (r.itinerary inv ds) inv).map (r.tally inv ds) := by
  rw [clusters, effect_clustersFrom separate F ids]
  refine congrArg (Effect.map · _) (funext fun n => ?_)
  simp [Report.merge, tally]

end Reconciler

end InventorySync
