/-
# Proofs.Repetition — a second pass changes nothing and says the same

Made again with the same failures, a pass ends where the first one ended and with the
same status, whether it succeeded or not (`clusters_twice`): for a dry run because
nothing is written, else because the first pass ends at an inventory it goes through.
After a real pass that succeeds, every device in scope is in line, so the second one is
`Idle`: it makes no write and counts no action.
-/
import InventorySync.Proofs.Resumption

namespace InventorySync

set_option autoImplicit false

namespace Reconciler

variable {r : Reconciler} {F : Failures} {inv inv' : Inventory} {id : Id}

/-! ## Walks that write nothing -/

theorem visited_passes_of_settled (settled : inv.Settled r.policy id)
    (passed : inv' ∈ (r.visited F id inv).passes inv) : inv' = inv := by
  obtain rfl | ⟨done, rest, -, -, planned, rfl, -⟩ := visited_passes passed
  · rfl
  · have nothing : done ++ rest = [] := Except.ok.inj (planned.symm.trans settled)
    obtain rfl := (List.append_eq_nil_iff.1 nothing).1
    rfl

theorem visited_passes_of_dryRun (dry : r.dryRun = true)
    (passed : inv' ∈ (r.visited F id inv).passes inv) : inv' = inv := by
  obtain same | ⟨_, _, -, real, -⟩ := visited_passes passed
  · exact same
  · cases dry.symm.trans real

/-- If no visit changes anything, neither does the walk. -/
theorem travel_still {stops : List Stop}
    (still : ∀ id, Visits stops id → ∀ inv', inv' ∈ (r.visited F id inv).passes inv → inv' = inv)
    (passed : inv' ∈ (r.travel F stops inv).passes inv) : inv' = inv := by
  induction stops with
  | nil => simpa [travel, Effect.ok, Effect.passes] using passed
  | cons stop rest ih =>
      have here : ∀ inv', inv' ∈ (r.stopAt F stop inv).passes inv → inv' = inv := by
        intro inv' early
        cases stop with
        | ask c report refusal => simpa [stopAt, Effect.passes] using early
        | visit device report => exact still device ⟨report, List.mem_cons_self⟩ inv' early
      obtain early | ⟨n, -, later⟩ := Effect.passes_andThen passed
      · exact here inv' early
      · have same := here _ (r.stopAt_inventory_passes F stop inv)
        rw [same] at later
        exact ih (fun id visits => still id (visits.mono fun _ => List.mem_cons_of_mem _)) later

/-- The walk made once more ends as before, in the same inventory. -/
theorem travel_twice (separate : r.policy.Separate) (F : Failures) (stops : List Stop)
    (inv : Inventory) :
    (r.travel F stops (r.travel F stops inv).inventory).ending = (r.travel F stops inv).ending := by
  have passed := r.travel_inventory_passes F stops inv
  cases dry : r.dryRun with
  | false => exact travel_resumes separate dry (fun _ => id) passed
  | true => rw [travel_still (fun _ _ _ => visited_passes_of_dryRun dry) passed]

/-! ## Nothing left to do -/

/-- An effect that leaves everything as it is and counts nothing. -/
structure Idle {ε : Type} (inv : Inventory) (e : Effect ε Nat) : Prop where
  inventory : e.inventory = inv
  actions : ∀ n, e.result = .ok n → n = 0
  calls : ∀ c ∈ e.calls, c.isWrite = false

theorem visited_idle (settled : inv.Settled r.policy id) : Idle inv (r.visited F id inv) where
  inventory := visited_passes_of_settled settled (r.visited_inventory_passes F id inv)
  actions n success := by
    obtain ⟨actions, planned, rfl, -⟩ := visited_ok success
    obtain rfl : actions = [] := Except.ok.inj (planned.symm.trans settled)
    rfl
  calls c made := by
    obtain reading | ⟨actions, planned, x, member, rfl⟩ := mem_visited_calls made
    · obtain rfl | ⟨_, -, rfl⟩ | rfl := mem_readCalls reading <;> rfl
    · obtain rfl : actions = [] := Except.ok.inj (planned.symm.trans settled)
      cases member

theorem stopAt_idle {stop : Stop}
    (lookup : ∀ c report refusal, stop = .ask c report refusal → c.isWrite = false)
    (settled : ∀ id report, stop = .visit id report → inv.Settled r.policy id) :
    Idle inv (r.stopAt F stop inv) := by
  cases stop with
  | ask c report refusal =>
      refine ⟨rfl, fun n success => ?_, fun c' made => ?_⟩
      · cases failing : F c.operation with
        | some message => simp [stopAt, failing] at success
        | none =>
            cases refusal with
            | some f => simp [stopAt, failing] at success
            | none => simpa [stopAt, failing, eq_comm] using success
      · obtain rfl : c' = c := by simpa [stopAt, Effect.calls] using made
        exact lookup c' report refusal rfl
  | visit device report =>
      have idle : Idle inv (r.visited F device inv) := visited_idle (settled device report rfl)
      exact ⟨idle.inventory, fun n success => idle.actions n (Effect.mapFault_eq_ok.1 success),
        idle.calls⟩

/-- With nothing left to do, a walk is idle. -/
theorem travel_idle {stops : List Stop}
    (lookups : ∀ c report refusal, Stop.ask c report refusal ∈ stops → c.isWrite = false)
    (settled : ∀ id, Visits stops id → inv.Settled r.policy id) :
    Idle inv (r.travel F stops inv) := by
  induction stops with
  | nil => exact ⟨rfl, fun n success => (Except.ok.inj success).symm, fun c made => by cases made⟩
  | cons stop rest ih =>
      have here : Idle inv (r.stopAt F stop inv) := stopAt_idle
        (fun c report refusal same => lookups c report refusal (same ▸ List.mem_cons_self))
        (fun id report same => settled id ⟨report, same ▸ List.mem_cons_self⟩)
      have later : Idle inv (r.travel F rest inv) := ih
        (fun c report refusal member => lookups c report refusal (List.mem_cons_of_mem _ member))
        (fun id visits => settled id (visits.mono fun _ => List.mem_cons_of_mem _))
      refine ⟨?_, fun n success => ?_, fun c made => ?_⟩
      · cases success : (r.stopAt F stop inv).result with
        | error f =>
            rw [travel, Effect.andThen_of_error success]
            exact here.inventory
        | ok n =>
            rw [travel, Effect.andThen_of_ok success, here.inventory]
            exact later.inventory
      · obtain ⟨m, k, first, others, rfl, -⟩ := travel_cons_ok success
        rw [here.inventory] at others
        rw [here.actions m first, later.actions k others]
      · obtain early | ⟨n, -, more⟩ := Effect.calls_andThen made
        · exact here.calls c early
        · rw [here.inventory] at more
          exact later.calls c more

/-! ## Passes -/

theorem upshot_twice (separate : r.policy.Separate) (ids : inv.IdsSet) (ds : List Descriptor)
    (F : Failures) :
    r.upshot ds F ((r.clusters ds).effect F inv).inventory = r.upshot ds F inv := by
  have writes := travel_writes separate F (r.itinerary inv ds) inv
  rw [effect_clusters separate F ids]
  exact upshot_congr separate ids writes.alike (writes.idsSet ids) (travel_twice separate F _ inv)

/-- A pass after one that succeeded is idle. -/
theorem effect_after_success (separate : r.policy.Separate) (real : r.dryRun = false)
    (ids : inv.IdsSet) {ds : List Descriptor} {report : Report}
    (success : ((r.clusters ds).effect F inv).result = .ok report) :
    let after := ((r.clusters ds).effect F inv).inventory
    ∃ e, Idle after e ∧ (r.clusters ds).effect F after = e.map (r.tally after ds) := by
  let stops := r.itinerary inv ds
  let after := (r.travel F stops inv).inventory
  have writes : Inventory.CorrectsMany r.policy _ inv after := travel_writes separate F stops inv
  rw [effect_clusters separate F ids] at success ⊢
  obtain ⟨n, walked, -⟩ := Effect.map_eq_ok.1 success
  refine ⟨r.travel F stops after, travel_idle (fun _ _ _ => isWrite_of_ask_mem) fun id =>
    travel_settles separate real walked, ?_⟩
  exact (effect_clusters separate F (writes.idsSet ids) ds).trans
    (by rw [r.itinerary_of_alike writes.alike]; rfl)

theorem ok_of_ofResult_ready {result : Except PassFault Report}
    (ready : (Outcome.ofResult result).state = .ready) : ∃ report, result = .ok report := by
  cases result with
  | error f => cases ready
  | ok report => exact ⟨report, rfl⟩

/-- **A second pass changes nothing and says the same**; after a real one that succeeded
it makes no write. -/
theorem clusters_twice (platform : String) (deviceRole : Option String) (dryRun : Bool)
    (ds : List Descriptor) (s : Store) (ids : s.inventory.IdsSet) :
    let r : Reconciler := ⟨.standard platform, deviceRole, dryRun⟩
    let first := (r.clusters ds).runOn s
    let second := (r.clusters ds).runOn first.store
    second.store.inventory = first.store.inventory ∧
      Outcome.ofResult second.result = Outcome.ofResult first.result ∧
      (dryRun = false → ∀ report, first.result = .ok report →
        second.store.writes = first.store.writes ∧
          ∃ again, second.result = .ok again ∧ again.actions = 0) := by
  intro r first second
  have separate : r.policy.Separate := Drift.Policy.standard_separate platform
  obtain ⟨outcome, inventory⟩ := Prod.mk.inj (upshot_twice separate ids ds s.failures)
  simp only [first, second, Program.runOn_result, Program.runOn_store]
  refine ⟨inventory, outcome, fun real report success => ?_⟩
  obtain ⟨e, idle, secondEffect⟩ := effect_after_success separate real ids success
  constructor
  · have noWrite : e.calls.filter (·.isWrite) = [] :=
      List.filter_eq_nil_iff.2 fun c made => by simp [idle.calls c made]
    simp only [Store.writes, List.filter_append, secondEffect, Effect.calls_map, noWrite,
      List.append_nil]
  · have ready := congrArg Outcome.state outcome
    rw [success] at ready
    obtain ⟨again, succeeded⟩ := ok_of_ofResult_ready ready
    refine ⟨again, succeeded, ?_⟩
    rw [secondEffect] at succeeded
    obtain ⟨n, ended, rfl⟩ := Effect.map_eq_ok.1 succeeded
    exact idle.actions n ended

theorem clusters_twice_drifted :
    let r : Reconciler := ⟨.standard "esxi", none, false⟩
    let first := (r.clusters [⟨"east", "", ""⟩]).runOn ⟨.drifted, [], .none⟩
    let second := (r.clusters [⟨"east", "", ""⟩]).runOn first.store
    Inventory.drifted.IdsSet ∧ first.result = .ok ⟨1, 1, 0, 4, false⟩ ∧
      first.store.writes.length = 4 ∧ second.store.writes = first.store.writes :=
  ⟨Inventory.drifted_idsSet, rfl, rfl,
    ((clusters_twice "esxi" none false [⟨"east", "", ""⟩] ⟨.drifted, [], .none⟩
      Inventory.drifted_idsSet).2.2 rfl _ rfl).1⟩

end Reconciler

end InventorySync
