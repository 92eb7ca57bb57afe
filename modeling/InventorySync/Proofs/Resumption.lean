/-
# Proofs.Resumption — a pass can stop anywhere and be made again

Writes are not taken back when a pass stops. What saves the next pass is that each of
them was the first action of a plan: the device that was being written still calls for
the others (`plan_actAll`), and those before it call for nothing. So from any inventory
that a pass goes through, a pass that fails no operation the first one let through ends
as it would have ended from the beginning (`travel_resumes`).

With the same failures on both sides, that says a second pass changes nothing and says
the same (`clusters_twice`). With none on the second one, it says that interrupted passes
lose nothing, however many there were (`clusters_after_attempts`).
-/
import InventorySync.Proofs.Itinerary
import InventorySync.Resource.Outcome

namespace InventorySync

set_option autoImplicit false

open Drift (Action Policy)

/-- How an effect ends, without its value. -/
def Effect.ending {ε α : Type} (e : Effect ε α) : Except ε Unit × Inventory :=
  (e.result.map fun _ => (), e.inventory)

namespace Effect

variable {ε ε' α β : Type}

theorem ending_map (f : α → β) (e : Effect ε α) : (e.map f).ending = e.ending := by
  rcases e with ⟨_ | _, _, _⟩ <;> rfl

theorem ending_mapFault (g : ε → ε') (e : Effect ε α) :
    (e.mapFault g).ending = (e.ending.1.mapError g, e.ending.2) := by
  rcases e with ⟨_ | _, _, _⟩ <;> rfl

/-- Effects with the same ending have the same fault, or both succeed. -/
theorem results_of_ending {e e' : Effect ε α} (same : e'.ending = e.ending) :
    (∃ f, e.result = .error f ∧ e'.result = .error f) ∨
      ∃ a b, e.result = .ok a ∧ e'.result = .ok b := by
  have results : e'.result.map (fun _ => ()) = e.result.map fun _ => () := (Prod.mk.inj same).1
  cases first : e.result <;> cases second : e'.result <;>
    simp_all [Except.map]

/-- What follows depends on the ending, if it does not see the value. -/
theorem ending_andThen_congr {e e' : Effect ε α} {next : α → Inventory → Effect ε β}
    (same : e'.ending = e.ending)
    (unseen : ∀ a b inv, (next a inv).ending = (next b inv).ending) :
    (e'.andThen next).ending = (e.andThen next).ending := by
  have inventory : e'.inventory = e.inventory := (Prod.mk.inj same).2
  obtain ⟨f, first, second⟩ | ⟨a, b, first, second⟩ := results_of_ending same
  · rw [andThen_of_error first, andThen_of_error second, ending, ending, inventory]
  · rw [andThen_of_ok first, andThen_of_ok second, inventory]
    exact unseen b a e.inventory

theorem ok_of_ending {e : Effect ε α} {inv : Inventory} (ended : e.ending = (.ok (), inv)) :
    ∃ a, e.result = .ok a ∧ e.inventory = inv := by
  obtain ⟨result, same⟩ := Prod.mk.inj ended
  cases success : e.result with
  | error f => simp [success, Except.map] at result
  | ok a => exact ⟨a, rfl, same⟩

end Effect

/-- Whatever gets through on one side gets through on the other. -/
def Lighter (F G : Failures) : Prop := ∀ op, F op = none → G op = none

namespace Reconciler

variable {r : Reconciler} {F G : Failures} {inv inv' : Inventory} {id : Id}

/-! ## One device -/

/-- Whether a device can be read that has a plan is up to three operations. -/
theorem readFailure_eq_none_iff {p : Policy} {actions : List Action}
    (planned : inv.plan p id = .ok actions) :
    readFailure F p (inv.interfacesOf id) = none ↔
      F .listInterfaces = none ∧ F .listAddresses = none ∧ F .listPlatforms = none := by
  obtain ⟨i, mine, reads⟩ := Inventory.exists_reads_of_plan planned
  have present : ((inv.interfacesOf id).any fun i => p.readsAddresses i.name) = true :=
    List.any_eq_true.2 ⟨i, mine, reads⟩
  simp only [readFailure, addressFailure, present, if_true, Option.or_eq_none_iff]

/-- A device that could be read before can be read again. -/
theorem readFailure_again {p : Policy} {before after : List Action} (lighter : Lighter F G)
    (planned : inv.plan p id = .ok before) (planned' : inv'.plan p id = .ok after)
    (reads : readFailure F p (inv.interfacesOf id) = none) :
    readFailure G p (inv'.interfacesOf id) = none := by
  obtain ⟨interfaces, addresses, platforms⟩ := (readFailure_eq_none_iff planned).1 reads
  exact (readFailure_eq_none_iff planned').2
    ⟨lighter _ interfaces, lighter _ addresses, lighter _ platforms⟩

/-- A visit of a device that can be read and has a plan is the carrying out of the plan. -/
theorem visited_ending (real : r.dryRun = false) {actions : List Action}
    (reads : readFailure F r.policy (inv.interfacesOf id) = none)
    (planned : inv.plan r.policy id = .ok actions) :
    (r.visited F id inv).ending = ((carried F actions inv).mapFault .inventory).ending := by
  simp only [visited, reads, planned, real, Bool.false_eq_true, if_false, Effect.ending,
    Effect.mapFault]
  cases (carried F actions inv).result <;> rfl

/-- Wherever a visit stops, the next one ends as it would have ended without it. -/
theorem visited_resumes (separate : r.policy.Separate) (lighter : Lighter F G)
    (passed : inv' ∈ (r.visited F id inv).passes inv) :
    (r.visited G id inv').ending = (r.visited G id inv).ending := by
  obtain rfl | ⟨done, rest, reads, real, planned, rfl, through⟩ := visited_passes passed
  · rfl
  · -- Either way the rest of the plan is carried out on what got through of it.
    have left : (inv.actAll done).plan r.policy id = .ok rest :=
      Inventory.plan_actAll separate planned
    rw [visited_ending real (readFailure_again lighter planned left reads) left,
      visited_ending real (readFailure_again lighter planned planned reads) planned,
      Effect.ending_mapFault, Effect.ending_mapFault]
    obtain ⟨result, inventory⟩ :=
      carried_append (F := G) (fun x member => lighter _ (through x member)) rest inv
    simp only [Effect.ending, result, inventory]

/-- A device in line is read again, and left as it is. -/
theorem visited_settled (real : r.dryRun = false)
    (reads : readFailure F r.policy (inv.interfacesOf id) = none)
    (settled : inv.Settled r.policy id) : (r.visited F id inv).ending = (.ok (), inv) := by
  rw [visited_ending real reads settled]
  rfl

/-! ## One stop -/

theorem stopAt_resumes (separate : r.policy.Separate) (lighter : Lighter F G) {stop : Stop}
    (passed : inv' ∈ (r.stopAt F stop inv).passes inv) :
    (r.stopAt G stop inv').ending = (r.stopAt G stop inv).ending := by
  cases stop with
  | ask c report refusal =>
      obtain rfl : inv' = inv := by simpa [stopAt, Effect.passes] using passed
      rfl
  | visit device report =>
      simp only [stopAt, Effect.ending_mapFault, visited_resumes separate lighter passed]

/-- A stop that is done with stays done with. -/
theorem stopAt_again (separate : r.policy.Separate) (real : r.dryRun = false)
    (lighter : Lighter F G) {stop : Stop} {n : Nat}
    (success : (r.stopAt F stop inv).result = .ok n)
    (stays : ∀ id, (r.stopAt F stop inv).inventory.Settled r.policy id →
      inv'.Settled r.policy id) :
    (r.stopAt G stop inv').ending = (.ok (), inv') := by
  cases stop with
  | ask c report refusal =>
      cases failing : F c.operation with
      | some message => simp [stopAt, failing] at success
      | none =>
          cases refusal with
          | some f => simp [stopAt, failing] at success
          | none => simp [stopAt, lighter _ failing, Effect.ending, Except.map]
  | visit device report =>
      have visited := Effect.mapFault_eq_ok.1 success
      obtain ⟨actions, planned, -, reads, -⟩ := visited_ok visited
      have settled' : inv'.Settled r.policy device :=
        stays device (visited_settles separate real visited)
      rw [stopAt, Effect.ending_mapFault,
        visited_settled real (readFailure_again lighter planned settled' reads) settled']
      rfl

/-! ## The whole walk -/

theorem travel_cons_congr {stop : Stop} (rest : List Stop)
    (same : (r.stopAt G stop inv').ending = (r.stopAt G stop inv).ending) :
    (r.travel G (stop :: rest) inv').ending = (r.travel G (stop :: rest) inv).ending :=
  Effect.ending_andThen_congr same fun n m after => by rw [Effect.ending_map, Effect.ending_map]

theorem travel_cons_of_ok {stop : Stop} (rest : List Stop)
    (done : (r.stopAt G stop inv).ending = (.ok (), inv')) :
    (r.travel G (stop :: rest) inv).ending = (r.travel G rest inv').ending := by
  obtain ⟨n, success, rfl⟩ := Effect.ok_of_ending done
  rw [travel, Effect.andThen_of_ok success]
  exact Effect.ending_map _ _

/-- **From any inventory that a walk goes through, a walk that fails nothing the first one
let through ends as it would have ended from the beginning.** -/
theorem travel_resumes (separate : r.policy.Separate) (real : r.dryRun = false)
    (lighter : Lighter F G) {stops : List Stop}
    (passed : inv' ∈ (r.travel F stops inv).passes inv) :
    (r.travel G stops inv').ending = (r.travel G stops inv).ending := by
  induction stops generalizing inv with
  | nil =>
      obtain rfl : inv' = inv := by simpa [travel, Effect.ok, Effect.passes] using passed
      rfl
  | cons stop rest ih =>
      obtain here | ⟨n, success, later⟩ := Effect.passes_andThen passed
      · exact travel_cons_congr rest (stopAt_resumes separate lighter here)
      · -- The first walk is past this stop: it is done on both sides.
        let next := (r.stopAt F stop inv).inventory
        have later : inv' ∈ (r.travel F rest next).passes next := later
        have writes := travel_correctsMany separate later
        have doneThere := stopAt_again separate real lighter success fun _ => writes.settled
        have doneHere : (r.stopAt G stop inv).ending = (.ok (), next) :=
          (stopAt_resumes separate lighter (r.stopAt_inventory_passes F stop inv)).symm.trans
            (stopAt_again separate real lighter success fun _ => id)
        rw [travel_cons_of_ok rest doneThere, travel_cons_of_ok rest doneHere]
        exact ih later

/-! ## Passes -/

/-- The status and the inventory that a pass leads to. -/
def upshot (r : Reconciler) (ds : List Descriptor) (F : Failures) (inv : Inventory) :
    Outcome × Inventory :=
  let e := (r.clusters ds).effect F inv
  (.ofResult e.result, e.inventory)

/-- Statuses do not tell the number of actions. -/
theorem ofResult_tally {e e' : Effect PassFault Nat} (same : e'.ending = e.ending) (ds : List Descriptor)
    (inv inv' : Inventory) :
    Outcome.ofResult (e'.map (r.tally inv' ds)).result =
      Outcome.ofResult (e.map (r.tally inv ds)).result := by
  obtain ⟨f, first, second⟩ | ⟨n, m, first, second⟩ := Effect.results_of_ending same
  · simp [Effect.map, first, second, Except.map]
  · simp [Effect.map, first, second, Except.map, Outcome.ofResult, tally, Report.summary]

theorem upshot_eq (separate : r.policy.Separate) (ids : inv.IdsSet) (ds : List Descriptor)
    (F : Failures) :
    r.upshot ds F inv =
      (.ofResult ((r.travel F (r.itinerary inv ds) inv).map (r.tally inv ds)).result,
        (r.travel F (r.itinerary inv ds) inv).inventory) := by
  simp only [upshot, effect_clusters separate F ids]
  rfl

/-- Walks with the same ending are passes with the same upshot. -/
theorem upshot_congr (separate : r.policy.Separate) (ids : inv.IdsSet) (alike : inv.Alike inv')
    (ids' : inv'.IdsSet) {ds : List Descriptor}
    (same : (r.travel G (r.itinerary inv ds) inv').ending =
      (r.travel G (r.itinerary inv ds) inv).ending) :
    r.upshot ds G inv' = r.upshot ds G inv := by
  rw [upshot_eq separate ids, upshot_eq separate ids', r.itinerary_of_alike alike]
  exact Prod.ext (ofResult_tally same ds inv inv') (Prod.mk.inj same).2

/-- Wherever a pass stops, the next one leads to where it would have led without it. -/
theorem upshot_resumes (separate : r.policy.Separate) (real : r.dryRun = false)
    (lighter : Lighter F G) (ids : inv.IdsSet) {ds : List Descriptor}
    (passed : inv' ∈ ((r.clusters ds).effect F inv).passes inv) :
    inv'.IdsSet ∧ r.upshot ds G inv' = r.upshot ds G inv := by
  rw [effect_clusters separate F ids] at passed
  have passed : inv' ∈ (r.travel F (r.itinerary inv ds) inv).passes inv := passed
  have writes := travel_correctsMany separate passed
  exact ⟨writes.idsSet ids, upshot_congr separate ids writes.alike (writes.idsSet ids)
    (travel_resumes separate real lighter passed)⟩

/-! ## Attempts -/

/-- A pass that may stop early: operations fail, or it is broken off. -/
structure Attempt where
  failures : Failures
  /-- The number of calls after which the pass is broken off, if it is. -/
  limit : Option Nat

/-- The store that an attempt leaves. -/
def attempt (r : Reconciler) (ds : List Descriptor) (s : Store) (a : Attempt) : Store :=
  let s := { s with failures := a.failures }
  match a.limit with
  | none => ((r.clusters ds).runOn s).store
  | some n => (((r.clusters ds).upTo n).runOn s).store

theorem attempt_passes (r : Reconciler) (ds : List Descriptor) (s : Store) (a : Attempt) :
    (r.attempt ds s a).inventory ∈
      ((r.clusters ds).effect a.failures s.inventory).passes s.inventory := by
  obtain ⟨F, _ | n⟩ := a
  · simp only [attempt, Program.runOn_store]
    exact Program.inventory_passes F (r.clusters ds) s.inventory
  · simp only [attempt, Program.runOn_store]
    exact Program.upTo_passes F (r.clusters ds) n s.inventory

/-- **Attempts lose nothing**: however many there were and wherever each of them stopped,
a pass without failures ends as it would have ended without them. -/
theorem clusters_after_attempts (platform : String) (deviceRole : Option String)
    (ds : List Descriptor) (s : Store) (ids : s.inventory.IdsSet) (attempts : List Attempt) :
    let r : Reconciler := ⟨.standard platform, deviceRole, false⟩
    let straight := (r.clusters ds).runOn { s with failures := .none }
    let resumed := (r.clusters ds).runOn { attempts.foldl (r.attempt ds) s with failures := .none }
    resumed.store.inventory = straight.store.inventory ∧
      Outcome.ofResult resumed.result = Outcome.ofResult straight.result := by
  intro r straight resumed
  have separate : r.policy.Separate := Policy.standard_separate platform
  have same : r.upshot ds .none (attempts.foldl (r.attempt ds) s).inventory =
      r.upshot ds .none s.inventory := by
    clear straight resumed
    induction attempts generalizing s with
    | nil => rfl
    | cons a rest ih =>
        obtain ⟨idsAfter, resumes⟩ := upshot_resumes (G := .none) separate rfl (fun _ _ => rfl) ids
          (r.attempt_passes ds s a)
        exact (ih (r.attempt ds s a) idsAfter).trans resumes
  obtain ⟨outcome, inventory⟩ := Prod.mk.inj same
  simp only [straight, resumed, Program.runOn_result, Program.runOn_store]
  exact ⟨inventory, outcome⟩

/-- One attempt that may not delete addresses, and one broken off in the middle. -/
theorem clusters_after_attempts_drifted :
    let r : Reconciler := ⟨.standard "esxi", none, false⟩
    let ds : List Descriptor := [⟨"east", "", ""⟩]
    let s : Store := ⟨.drifted, [], .none⟩
    let attempts : List Attempt :=
      [⟨.none, some 7⟩, ⟨Failures.none.set .deleteAddress "refused", none⟩]
    let resumed := (r.clusters ds).runOn { attempts.foldl (r.attempt ds) s with failures := .none }
    Inventory.drifted.IdsSet ∧
      resumed.store.inventory = ((r.clusters ds).runOn s).store.inventory ∧
        (attempts.foldl (r.attempt ds) s).writes.length = 3 :=
  ⟨Inventory.drifted_idsSet,
    (clusters_after_attempts "esxi" none [⟨"east", "", ""⟩] ⟨.drifted, [], .none⟩
      Inventory.drifted_idsSet
      [⟨.none, some 7⟩, ⟨Failures.none.set .deleteAddress "refused", none⟩]).1,
    rfl⟩

end Reconciler

end InventorySync
