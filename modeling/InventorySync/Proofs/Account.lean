/-
# Proofs.Account — a pass does not defeat itself, and its report is true

A call that fails ends the pass, and the pass reports its fault (`Program.effect_split`). Without
injected failures a pass only ends at data that has no single answer: a cluster or a role that is
not there exactly once, or an ambiguity of a device (`PassFault.Unclear`). None of these faults is
one of a write. So every write that is made, at the inventory where it is made, finds its record.

A walk that succeeds makes as many writes as it counts actions, and lists the interfaces of each
device that it visits once, in order (`travel_account`). The other counters are those of the
devices that the inventory held at the beginning (`clusters_account`).
-/
import InventorySync.Proofs.FailFast
import InventorySync.Proofs.Order
import Mathlib.Algebra.GroupWithZero.Nat

namespace InventorySync

set_option autoImplicit false

open Drift (Action Ambiguity Policy)

/-! ## The call that ends a program -/

namespace Program

variable {ε α : Type}

/-- **Each call of a program gets an answer, or it is the fault of the program.** The inventory
that answers is that of the program broken off before the call. -/
theorem effect_split {reports : Whereabouts → Call → (Fault → ε) → Prop}
    {ends : Whereabouts → α → Prop} {p : Program ε α} {w : Whereabouts}
    (located : p.Located reports ends w) (F : Failures) (inv : Inventory) {before after : List Call}
    {c : Call} (made : (p.effect F inv).calls = before ++ c :: after) :
    let paused := (p.upTo before.length).effect F inv
    paused.calls = before ∧ ((∃ a, (paused.inventory.attempt F c).1 = .ok a) ∨
      ∃ cause report, (paused.inventory.attempt F c).1 = .error cause ∧
        reports (w.after (before ++ [c])) c report ∧ (p.effect F inv).result = .error (report cause)) := by
  intro paused
  induction p generalizing w inv before with
  | done a => simp [effect, Effect.ok, Effect.calls] at made
  | fail e => simp [effect, Effect.error, Effect.calls] at made
  | note line rest ih => exact ih located inv made
  | call d onFault next ih =>
      cases before with
      | nil =>
          obtain ⟨others, first⟩ := effect_call_calls onFault next F inv
          obtain rfl : c = d := (List.cons.inj (made.symm.trans first)).1
          refine ⟨rfl, ?_⟩
          rcases answered : inv.attempt F c with ⟨f | a, inv'⟩
          · refine .inr ⟨f, onFault, congrArg Prod.fst answered, located.1, ?_⟩
            rw [effect_call_of_error onFault next answered]
          · exact .inl ⟨a, congrArg Prod.fst answered⟩
      | cons b before =>
          rcases answered : inv.attempt F d with ⟨f | a, inv'⟩
          · rw [effect_call_of_error onFault next answered] at made
            have only : [d] = b :: (before ++ c :: after) := made
            simp at only
          · rw [effect_call_of_ok onFault next answered, Effect.calls_after] at made
            obtain ⟨rfl, later⟩ := List.cons.inj made
            obtain ⟨calls, split⟩ := ih a (located.2 a) inv' later
            have pause : paused = (((next a).upTo before.length).effect F inv').after d inv' :=
              effect_call_of_ok onFault _ answered
            rw [effect_call_of_ok onFault next answered, pause]
            exact ⟨congrArg (d :: ·) calls, split⟩

end Program

/-! ## Faults -/

theorem exactlyOne_eq_error {α : Type} {kind : String} {q : Query} {found : List α} {f : Fault}
    (failed : exactlyOne kind q found = .error f) :
    ∃ count, count ≠ 1 ∧ f = .notFoundCount kind q.display count := by
  rcases found with _ | ⟨a, _ | ⟨b, rest⟩⟩
  · exact ⟨0, by decide, (Except.error.inj failed).symm⟩
  · cases failed
  · exact ⟨rest.length + 2, by omega, (Except.error.inj failed).symm⟩

/-- The fault is one of the data: a descriptor or a role that does not stand for exactly one
record, or a device without a single answer. -/
inductive PassFault.Unclear (r : Reconciler) (ds : List Descriptor) : PassFault → Prop
  | cluster {d : Descriptor} (member : d ∈ ds) {count : Nat} (several : count ≠ 1) :
      Unclear r ds (.cluster d (.notFoundCount "cluster"
        (ClusterFilter.mk d.name d.region d.kind).query.display count))
  | deviceRole {name : String} (wanted : r.deviceRole = some name) {count : Nat}
      (several : count ≠ 1) :
      Unclear r ds (.deviceRole name (.notFoundCount "device role"
        (NameFilter.mk name).query.display count))
  | device (label : String) (id : Id) (cluster : String) (clusterId : Id) (cause : Ambiguity) :
      Unclear r ds (.device label id cluster clusterId (.drift cause))

/-- The device whose interfaces a call lists. -/
def Call.visited? : Call → Option Id
  | .listInterfaces f => some f.deviceId
  | _ => none

theorem Inventory.answer_of_attempt {inv : Inventory} {c : Call} {a : c.Answer}
    (answered : (inv.attempt .none c).1 = .ok a) : (inv.answer c).1 = .ok a := by
  simp only [Inventory.attempt, Failures.none] at answered
  cases plain : (inv.answer c).1 with
  | error f =>
      rw [plain] at answered
      cases answered
  | ok b =>
      rw [plain] at answered
      exact answered

namespace Reconciler

variable {r : Reconciler} {F : Failures} {inv : Inventory} {id : Id}

theorem visited_error {f : DeviceFault} (failed : (r.visited .none id inv).result = .error f) :
    ∃ cause, f = .drift cause := by
  simp only [visited, readFailure_none] at failed
  cases planned : inv.plan r.policy id with
  | error cause =>
      simp only [planned] at failed
      exact ⟨cause, (Except.error.inj failed).symm⟩
  | ok actions =>
      have carriedOut := (carried_of_spareWrites Failures.none_spareWrites actions inv).1
      cases dry : r.dryRun <;> simp [planned, dry, carriedOut, Effect.ok, Except.map] at failed

/-- A walk fails where one of its stops fails. -/
theorem travel_error {stops : List Stop} {f : PassFault}
    (failed : (r.travel F stops inv).result = .error f) :
    ∃ stop ∈ stops, ∃ inv', (r.stopAt F stop inv').result = .error f := by
  induction stops generalizing inv with
  | nil => cases failed
  | cons stop rest ih =>
      cases here : (r.stopAt F stop inv).result with
      | error g =>
          rw [travel, Effect.andThen_of_error here] at failed
          cases failed
          exact ⟨stop, List.mem_cons_self, inv, here⟩
      | ok n =>
          rw [travel, Effect.andThen_of_ok here] at failed
          cases later : (r.travel F rest (r.stopAt F stop inv).inventory).result with
          | error g =>
              simp only [Effect.map, later, Except.map] at failed
              cases failed
              obtain ⟨stop', member, inv', there⟩ := ih later
              exact ⟨stop', List.mem_cons_of_mem _ member, inv', there⟩
          | ok m =>
              simp only [Effect.map, later, Except.map] at failed
              cases failed

theorem stopAt_ask_error {c : Call} {report : Fault → PassFault} {refusal : Option Fault}
    {f : PassFault} (failed : (r.stopAt .none (.ask c report refusal) inv).result = .error f) :
    ∃ cause, refusal = some cause ∧ f = report cause := by
  cases refusal with
  | none => cases failed
  | some cause => exact ⟨cause, rfl, (Except.error.inj failed).symm⟩

theorem refusal_eq_some {α : Type} {answer : Except Fault α} {cause : Fault}
    (refused : refusal answer = some cause) : answer = .error cause := by
  cases answer with
  | ok a => cases refused
  | error f => exact congrArg Except.error (Option.some.inj refused)

/-- **Without injected failures, a stop only fails at data without a single answer.** -/
theorem unclear_of_stopAt {ds : List Descriptor} {start : Inventory} {stop : Stop}
    (member : stop ∈ r.itinerary start ds) {f : PassFault}
    (failed : (r.stopAt .none stop inv).result = .error f) : f.Unclear r ds := by
  obtain ⟨d, listed, stop⟩ := List.mem_flatMap.1 member
  simp only [clusterStops, roleStops, deviceStops, List.mem_cons, List.mem_append,
    mem_following] at stop
  obtain rfl | ⟨c, -, role | ⟨role, -, rfl | visit⟩⟩ := stop
  · obtain ⟨cause, refused, rfl⟩ := stopAt_ask_error failed
    obtain ⟨count, several, rfl⟩ := exactlyOne_eq_error (refusal_eq_some refused)
    exact .cluster listed several
  · split at role
    · rename_i name wanted
      obtain rfl := List.mem_singleton.1 role
      obtain ⟨cause, refused, rfl⟩ := stopAt_ask_error failed
      obtain ⟨count, several, rfl⟩ := exactlyOne_eq_error (refusal_eq_some refused)
      exact .deviceRole wanted several
    · cases role
  · obtain ⟨cause, refused, -⟩ := stopAt_ask_error failed
    cases refused
  · obtain ⟨e, -, rfl⟩ := List.mem_map.1 visit
    cases result : (r.visited .none e.id inv).result with
    | ok n => simp [stopAt, Effect.mapFault, result] at failed
    | error g =>
        obtain ⟨cause, rfl⟩ := visited_error result
        simp only [stopAt, Effect.mapFault, result, mapError_error] at failed
        cases failed
        exact .device _ _ _ _ cause

/-! ## Calls -/

theorem readCalls_none (p : Policy) (id : Id) (is : List Interface) :
    readCalls .none p id is = .listInterfaces (.ofDevice id) ::
      ((is.filter fun i => p.readsAddresses i.name).map fun i =>
        .listAddresses (.ofInterface i.id)) ++ [.listPlatforms ⟨p.expectedPlatform⟩] := by
  simp [readCalls, addressCalls, addressFailure, Failures.none]

/-- A visit that succeeds makes as many writes as it counts, and lists the interfaces of its
device once. -/
theorem visited_account (real : r.dryRun = false) {n : Nat}
    (success : (r.visited .none id inv).result = .ok n) :
    ((r.visited .none id inv).calls.filter (·.isWrite)).length = n ∧
      (r.visited .none id inv).calls.filterMap Call.visited? = [id] := by
  obtain ⟨actions, planned, rfl, -⟩ := visited_ok success
  have calls : (r.visited .none id inv).calls =
      readCalls .none r.policy id (inv.interfacesOf id) ++ actions.map (·.call) := by
    have writes := (carried_of_spareWrites Failures.none_spareWrites actions inv).2
    rw [Effect.calls] at writes
    simp [visited, readFailure_none, planned, real, Effect.calls, writes, Function.comp_def]
  rw [calls, List.filter_append, List.filterMap_append]
  constructor
  · have reads : (readCalls .none r.policy id (inv.interfacesOf id)).filter (·.isWrite) = [] := by
      refine List.filter_eq_nil_iff.2 fun c made => ?_
      obtain rfl | ⟨_, -, rfl⟩ | rfl := mem_readCalls made <;> exact Bool.false_ne_true
    have writes : (actions.map (·.call)).filter (·.isWrite) = actions.map (·.call) := by simp
    rw [reads, writes, List.nil_append, List.length_map]
  · have writes : (actions.map (·.call)).filterMap Call.visited? = [] := by
      refine List.filterMap_eq_nil_iff.2 fun c made => ?_
      obtain ⟨x, -, rfl⟩ := List.mem_map.1 made
      cases x <;> rfl
    rw [writes, readCalls_none]
    simp [Call.visited?, InterfaceFilter.ofDevice]

/-- Lookups write nothing and visit no device. -/
theorem quiet_of_ask_mem {ds : List Descriptor} {c : Call} {report : Fault → PassFault}
    {refusal : Option Fault} (member : Stop.ask c report refusal ∈ r.itinerary inv ds) :
    c.isWrite = false ∧ c.visited? = none := by
  obtain ⟨_, rfl⟩ | ⟨_, rfl⟩ | ⟨_, rfl⟩ := ask_mem_itinerary member <;> exact ⟨rfl, rfl⟩

theorem stopAt_account (real : r.dryRun = false) {stop : Stop} {n : Nat}
    (quiet : ∀ c report refusal, stop = .ask c report refusal →
      c.isWrite = false ∧ c.visited? = none)
    (success : (r.stopAt .none stop inv).result = .ok n) :
    ((r.stopAt .none stop inv).calls.filter (·.isWrite)).length = n ∧
      (r.stopAt .none stop inv).calls.filterMap Call.visited? = visitIds [stop] := by
  cases stop with
  | ask c report refusal =>
      obtain ⟨noWrite, noVisit⟩ := quiet c report refusal rfl
      obtain ⟨-, rfl, -⟩ := stopAt_ask_gives_iff.1 ⟨success, rfl⟩
      simp [stopAt, Effect.calls, noWrite, noVisit, visitIds]
  | visit id report => exact visited_account real (Effect.mapFault_eq_ok.1 success)

/-- **A walk that succeeds makes as many writes as it counts**, and lists the interfaces of the
devices that it visits, in order. -/
theorem travel_account (real : r.dryRun = false) {stops : List Stop} {n : Nat}
    (quiet : ∀ c report refusal, Stop.ask c report refusal ∈ stops →
      c.isWrite = false ∧ c.visited? = none)
    (success : (r.travel .none stops inv).result = .ok n) :
    ((r.travel .none stops inv).calls.filter (·.isWrite)).length = n ∧
      (r.travel .none stops inv).calls.filterMap Call.visited? = visitIds stops := by
  induction stops generalizing inv n with
  | nil =>
      cases success
      exact ⟨rfl, rfl⟩
  | cons stop rest ih =>
      obtain ⟨m, k, here, later, rfl, -⟩ := travel_cons_ok success
      obtain ⟨writes, visits⟩ := stopAt_account real
        (fun c report refusal same => quiet c report refusal (same ▸ List.mem_cons_self)) here
      obtain ⟨writes', visits'⟩ := ih
        (fun c report refusal member => quiet c report refusal (List.mem_cons_of_mem _ member)) later
      have calls : (r.travel .none (stop :: rest) inv).calls = (r.stopAt .none stop inv).calls ++
          (r.travel .none rest (r.stopAt .none stop inv).inventory).calls := by
        rw [travel, Effect.andThen_of_ok here, Effect.calls, List.map_append]
        rfl
      have split : visitIds (stop :: rest) = visitIds [stop] ++ visitIds rest :=
        visitIds_append [stop] rest
      rw [calls, List.filter_append, List.filterMap_append, List.length_append, writes, visits,
        writes', visits', split]
      exact ⟨rfl, rfl⟩

theorem visitIds_itinerary (r : Reconciler) (inv : Inventory) (ds : List Descriptor) :
    visitIds (r.itinerary inv ds) =
      ((ds.flatMap (r.listed inv)).filter (·.isActive)).map (·.id) := by
  induction ds with
  | nil => rfl
  | cons d rest ih =>
      have unrolled : r.itinerary inv (d :: rest) = r.clusterStops inv d ++ r.itinerary inv rest :=
        List.flatMap_cons
      rw [unrolled, visitIds_append, visitIds_clusterStops, ih, List.flatMap_cons,
        List.filter_append, List.map_append]

/-- Without injected failures, a pass only ends at data without a single answer. -/
theorem unclear_of_error (separate : r.policy.Separate) (ids : inv.IdsSet) {ds : List Descriptor}
    {f : PassFault} (failed : ((r.clusters ds).effect .none inv).result = .error f) :
    f.Unclear r ds := by
  rw [effect_clusters separate .none ids] at failed
  cases walked : (r.travel .none (r.itinerary inv ds) inv).result with
  | ok n =>
      simp only [Effect.map, walked, Except.map] at failed
      cases failed
  | error g =>
      simp only [Effect.map, walked, Except.map] at failed
      cases failed
      obtain ⟨stop, member, inv', here⟩ := travel_error walked
      exact unclear_of_stopAt member here

/-- A write of a pass does not report data that is unclear. -/
theorem not_unclear_of_isWrite {w : Whereabouts} {c : Call} {cause : Fault} {f : PassFault}
    {ds : List Descriptor} (write : c.isWrite = true) (names : PassFault.Names r w cause c f) :
    ¬ f.Unclear r ds := by
  cases names with
  | cluster => cases write
  | deviceRole => cases write
  | devices => cases write
  | device => exact nofun

/-- **A pass does not defeat itself, and its report is true.** Without injected failures, every
write that it makes finds its record, at the inventory where it is made; if it fails, that is for
a cluster or a role that is not there exactly once, or for an ambiguity of a device; and if it
succeeds, it reports the number of descriptors, of the devices listed for them, of those that
are not active, and of the writes that it made. The devices that it works on are the active ones,
in order. -/
theorem clusters_account (platform : String) (deviceRole : Option String) (ds : List Descriptor)
    (s : Store) (ids : s.inventory.IdsSet) :
    let r : Reconciler := ⟨.standard platform, deviceRole, false⟩
    let paused n := ((r.clusters ds).upTo n).runOn { s with failures := .none }
    let ran := (r.clusters ds).runOn { s with failures := .none }
    ∃ made, ran.store.calls = s.calls ++ made ∧
      (∀ before c after, made = before ++ c :: after → c.isWrite = true →
        (paused before.length).store.calls = s.calls ++ before ∧
          ∃ a, ((paused before.length).store.inventory.answer c).1 = .ok a) ∧
      (∀ fault, ran.result = .error fault → fault.Unclear r ds) ∧
      ∀ report, ran.result = .ok report →
        report.clusters = ds.length ∧
        report.devices = (ds.map fun d => (r.listed s.inventory d).length).sum ∧
        report.skipped =
          (ds.map fun d => ((r.listed s.inventory d).filter fun e => !e.isActive).length).sum ∧
        made.filterMap Call.visited? =
          ((ds.flatMap (r.listed s.inventory)).filter (·.isActive)).map (·.id) ∧
        ran.store.writes.length = s.writes.length + report.actions := by
  intro r paused ran
  have separate : r.policy.Separate := Policy.standard_separate platform
  have failing : ∀ fault, ran.result = .error fault → fault.Unclear r ds := by
    intro fault failed
    exact unclear_of_error separate ids ((Program.runOn_result _ _).symm.trans failed)
  refine ⟨((r.clusters ds).effect .none s.inventory).calls,
    congrArg Store.calls (Program.runOn_store _ _), ?_, failing, ?_⟩
  · intro before c after made write
    obtain ⟨calls, ⟨a, answered⟩ | ⟨cause, report, -, reported, result⟩⟩ :=
      Program.effect_split (r.clusters_located ds) .none s.inventory made
    · simp only [paused, Program.runOn_store]
      exact ⟨congrArg (s.calls ++ ·) calls, a, Inventory.answer_of_attempt answered⟩
    · have failed : ran.result = .error (report cause) := (Program.runOn_result _ _).trans result
      exact (not_unclear_of_isWrite write (reported cause) (failing _ failed)).elim
  · intro report success
    simp only [ran, Program.runOn_result, Program.runOn_store] at success ⊢
    rw [effect_clusters separate .none ids] at success ⊢
    obtain ⟨n, walked, rfl⟩ := Effect.map_eq_ok.1 success
    obtain ⟨writes, visits⟩ := travel_account rfl (fun _ _ _ => quiet_of_ask_mem) walked
    rw [Effect.calls_map]
    refine ⟨rfl, List.length_flatMap, ?_, visits.trans (r.visitIds_itinerary s.inventory ds), ?_⟩
    · simp only [tally, List.filter_flatMap, List.length_flatMap]
    · rw [Store.writes, Store.writes, List.filter_append, List.length_append, writes]
      rfl

/-- A drifted cluster, alone and with one that is not there. -/
theorem clusters_account_drifted :
    let r : Reconciler := ⟨.standard "esxi", none, false⟩
    let east : Descriptor := ⟨"east", "", ""⟩
    let west : Descriptor := ⟨"west", "", ""⟩
    let s : Store := ⟨.drifted, [], .none⟩
    let ran ds := (r.clusters ds).runOn { s with failures := .none }
    Inventory.drifted.IdsSet ∧ (ran [east]).result = .ok ⟨1, 1, 0, 4, false⟩ ∧
      (ran [east]).store.writes.length = 4 ∧
      ∃ fault, (ran [east, west]).result = .error fault ∧ fault.Unclear r [east, west] := by
  intro r east west s ran
  have success : (ran [east]).result = .ok ⟨1, 1, 0, 4, false⟩ := by decide +kernel
  have failed : (ran [east, west]).result =
      .error (.cluster west (.notFoundCount "cluster" "name=west" 0)) := by decide +kernel
  obtain ⟨_, -, -, -, told⟩ := clusters_account "esxi" none [east] s Inventory.drifted_idsSet
  obtain ⟨_, -, -, unclear, -⟩ :=
    clusters_account "esxi" none [east, west] s Inventory.drifted_idsSet
  exact ⟨Inventory.drifted_idsSet, success, (told _ success).2.2.2.2, _, failed, unclear _ failed⟩

end Reconciler

end InventorySync
