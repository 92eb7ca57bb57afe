/-
# Proofs.DeviceVisit — what a visit of one device does, under any failures

A visit first reads (`readFailure`, `readCalls`), then decides, then writes (`carried`).
`Reconciler.visited` puts the three together as one effect, read off the inventory and
the injected failures, and `effect_device` says that this is what the program does: a
write never misses its record, so a visit ends with an injected failure, an ambiguity,
or with its whole plan carried out.
-/
import InventorySync.Proofs.Correction
import InventorySync.Proofs.Effect

namespace InventorySync

set_option autoImplicit false

open Drift (Action Ambiguity Policy Snapshot resolve)

/-! ## Calls -/

variable {F : Failures} {c : Call} {inv : Inventory}

theorem Program.effect_ask_of_failing {message : String} (failing : F c.operation = some message) :
    (Program.ask c).effect F inv =
      ⟨.error (c.fault (.api message)), [(c, inv)], inv⟩ := by
  simp only [Program.effect_ask, Inventory.attempt, failing]

theorem Program.effect_ask_of_answer {inv' : Inventory} {a : c.Answer}
    (passing : F c.operation = none) (answered : inv.answer c = (.ok a, inv')) :
    (Program.ask c).effect F inv = ⟨.ok a, [(c, inv')], inv'⟩ := by
  simp only [Program.effect_ask, Inventory.attempt, passing, answered, mapError_ok]

namespace Reconciler

/-! ## Reading -/

/-- Reads leave the inventory, whatever else is on the way. -/
theorem mem_passes_of_reads {ε α : Type} {calls : List Call} {result : Except ε α}
    {after inv' : Inventory} (rest : List (Call × Inventory))
    (passed : inv' ∈ Effect.passes inv ⟨result, calls.map (·, inv) ++ rest, after⟩) :
    inv' ∈ inv :: rest.map (·.2) := by
  simp only [Effect.passes, List.map_append, List.map_map, List.mem_cons, List.mem_append,
    List.mem_map, Function.comp] at passed ⊢
  obtain same | ⟨_, _, same⟩ | later := passed
  · exact .inl same
  · exact .inl same.symm
  · exact .inr later

/-- The addresses of the interfaces that are read, one listing each. -/
def gathered (inv : Inventory) (p : Policy) : List Interface → (Id → List Address) →
    Id → List Address
  | [], bound => bound
  | i :: rest, bound =>
    if p.readsAddresses i.name then
      gathered inv p rest fun id =>
        if id = i.id then inv.addresses.select ((AddressFilter.ofInterface i.id).admits inv.interfaces)
        else bound id
    else gathered inv p rest bound

/-- The listings of addresses, up to the first one if they are set to fail. -/
def addressCalls (F : Failures) (p : Policy) (is : List Interface) : List Call :=
  let all := (is.filter fun i => p.readsAddresses i.name).map fun i =>
    Call.listAddresses (.ofInterface i.id)
  if (F .listAddresses).isSome then all.take 1 else all

/-- The failure of the listings of addresses, if there is one to make. -/
def addressFailure (F : Failures) (p : Policy) (is : List Interface) : Option String :=
  if is.any fun i => p.readsAddresses i.name then F .listAddresses else none

theorem effect_gatherBound (F : Failures) (p : Policy) (inv : Inventory) (is : List Interface)
    (bound : Id → List Address) :
    (gatherBound p is bound).effect F inv =
      { result := match addressFailure F p is with
          | some message => .error (.api message)
          | none => .ok (gathered inv p is bound)
        trail := (addressCalls F p is).map (·, inv)
        inventory := inv } := by
  induction is generalizing bound with
  | nil => simp [gatherBound, gathered, addressCalls, addressFailure, Effect.ok]
  | cons i rest ih =>
      simp only [gatherBound]
      by_cases reads : p.readsAddresses i.name = true
      · simp only [reads, if_true, Program.effect_bind]
        cases failing : F .listAddresses with
        | some message =>
            rw [Program.effect_ask_of_failing (c := .listAddresses (.ofInterface i.id)) failing]
            simp [Effect.andThen, addressFailure, addressCalls, reads, failing, Call.fault]
        | none =>
            rw [Program.effect_ask_of_answer (c := .listAddresses (.ofInterface i.id)) failing rfl]
            simp [Effect.andThen, addressFailure, addressCalls, reads, failing, gathered, ih]
      · simp only [reads, Bool.false_eq_true, if_false, ih]
        simp [addressFailure, addressCalls, gathered, reads]

/-- Interfaces that are read are given what is bound to them. -/
theorem gathered_eq (ids : inv.IdsSet) (p : Policy) {is : List Interface}
    (rows : ∀ i ∈ is, i ∈ inv.interfaces.rows) (bound : Id → List Address) (id : Id) :
    gathered inv p is bound id =
      if is.any fun i => i.id == id && p.readsAddresses i.name then inv.boundTo id
      else bound id := by
  induction is generalizing bound with
  | nil => rfl
  | cons i rest ih =>
      have restRows : ∀ j ∈ rest, j ∈ inv.interfaces.rows :=
        fun j member => rows j (List.mem_cons_of_mem _ member)
      have nonzero : i.id ≠ 0 := ids.interfaces i (rows i List.mem_cons_self)
      have narrowed : inv.addresses.select ((AddressFilter.ofInterface i.id).admits inv.interfaces) =
          inv.boundTo i.id := by
        refine Table.select_congr fun a _ => ?_
        simp [AddressFilter.admits, AddressFilter.ofInterface, nonzero]
      by_cases reads : p.readsAddresses i.name = true
      · simp only [gathered, reads, if_true, ih restRows, narrowed, List.any_cons, Bool.and_true]
        by_cases same : i.id = id
        · subst same
          simp
        · simp [same, Ne.symm same]
      · simp [gathered, reads, ih restRows]

/-- The failure that ends the reading, if there is one. -/
def readFailure (F : Failures) (p : Policy) (is : List Interface) : Option String :=
  (F .listInterfaces).or ((addressFailure F p is).or (F .listPlatforms))

/-- The calls of the reading, up to the one that fails. -/
def readCalls (F : Failures) (p : Policy) (device : Id) (is : List Interface) : List Call :=
  .listInterfaces (.ofDevice device) ::
    if (F .listInterfaces).isSome then []
    else
      addressCalls F p is ++
        if (addressFailure F p is).isSome then [] else [.listPlatforms ⟨p.expectedPlatform⟩]

/-- The calls of the reading are listings of three kinds. -/
theorem mem_readCalls {p : Policy} {device : Id} {is : List Interface}
    (made : c ∈ readCalls F p device is) :
    c = .listInterfaces (.ofDevice device) ∨
      (∃ i ∈ is, c = .listAddresses (.ofInterface i.id)) ∨
      c = .listPlatforms ⟨p.expectedPlatform⟩ := by
  simp only [readCalls, List.mem_cons] at made
  obtain same | made := made
  · exact .inl same
  · split at made
    · cases made
    · obtain listing | listing := List.mem_append.1 made
      · have among : c ∈ (is.filter fun i => p.readsAddresses i.name).map fun i =>
            Call.listAddresses (.ofInterface i.id) := by
          simp only [addressCalls] at listing
          split at listing
          · exact List.mem_of_mem_take listing
          · exact listing
        obtain ⟨i, listed, same⟩ := List.mem_map.1 among
        exact .inr (.inl ⟨i, List.mem_of_mem_filter listed, same.symm⟩)
      · split at listing
        · cases listing
        · exact .inr (.inr (List.mem_singleton.1 listing))

theorem effect_snapshot (F : Failures) (p : Policy) {d : Device} (nonzero : d.id ≠ 0) :
    (snapshot p d).effect F inv =
      { result := match readFailure F p (inv.interfacesOf d.id) with
          | some message => .error (.api message)
          | none => .ok { inv.snapshotOf p d with
              bound := gathered inv p (inv.interfacesOf d.id) fun _ => [] }
        trail := (readCalls F p d.id (inv.interfacesOf d.id)).map (·, inv)
        inventory := inv } := by
  have narrowed : inv.interfaces.select (InterfaceFilter.ofDevice d.id).admits =
      inv.interfacesOf d.id := by
    have empty : "".isEmpty = true := rfl
    refine Table.select_congr fun i _ => ?_
    simp [InterfaceFilter.admits, InterfaceFilter.ofDevice, beq_false_of_ne nonzero, empty]
  simp only [snapshot, Program.effect_bind]
  cases failing : F .listInterfaces with
  | some message =>
      rw [Program.effect_ask_of_failing (c := .listInterfaces (.ofDevice d.id)) failing]
      simp [Effect.andThen, readFailure, readCalls, failing, Call.fault]
  | none =>
      rw [Program.effect_ask_of_answer (c := .listInterfaces (.ofDevice d.id)) failing rfl]
      simp only [Effect.andThen, narrowed, effect_gatherBound]
      cases unread : addressFailure F p (inv.interfacesOf d.id) with
      | some message => simp [readFailure, readCalls, failing, unread]
      | none =>
          cases failing' : F .listPlatforms with
          | some message =>
              rw [Program.effect_ask_of_failing (c := .listPlatforms ⟨p.expectedPlatform⟩) failing']
              simp [readFailure, readCalls, failing, unread, failing', Call.fault]
          | none =>
              rw [Program.effect_ask_of_answer (c := .listPlatforms ⟨p.expectedPlatform⟩) failing' rfl]
              simp [readFailure, readCalls, failing, unread, failing', Effect.ok, Inventory.snapshotOf]

/-- What is read decides as the inventory does. -/
theorem resolve_gathered (ids : inv.IdsSet) (p : Policy) (d : Device) :
    resolve p { inv.snapshotOf p d with
        bound := gathered inv p (inv.interfacesOf d.id) fun _ => [] } =
      resolve p (inv.snapshotOf p d) := by
  refine Drift.resolve_congr_bound fun i member reads => ?_
  have rows : ∀ j ∈ inv.interfacesOf d.id, j ∈ inv.interfaces.rows :=
    fun j mine => (Inventory.mem_interfacesOf.1 mine).1
  rw [gathered_eq ids p rows, if_pos]
  · rfl
  · exact List.any_eq_true.2 ⟨i, member, by simp [reads]⟩

/-! ## Writing -/

/-- Actions carried out in order, up to the first one that is set to fail. -/
def carried (F : Failures) : List Action → Inventory → Effect Fault Unit
  | [], inv => .ok () inv
  | x :: rest, inv =>
    match F x.call.operation with
    | some message => ⟨.error (x.call.fault (.api message)), [(x.call, inv)], inv⟩
    | none => (carried F rest (inv.act x)).after x.call (inv.act x)

theorem effect_apply_of_failing {x : Action} {message : String}
    (failing : F x.call.operation = some message) :
    (apply x).effect F inv = ⟨.error (x.call.fault (.api message)), [(x.call, inv)], inv⟩ := by
  cases x with
  | renameInterface id name =>
      simp only [apply, Program.effect_bind]
      rw [Program.effect_ask_of_failing (c := .updateInterface id ⟨some name⟩) failing]
      rfl
  | updateDevice id platform oobIp =>
      simp only [apply, Program.effect_bind]
      rw [Program.effect_ask_of_failing (c := .updateDevice id ⟨some platform, some oobIp⟩) failing]
      rfl
  | deleteAddress id => exact Program.effect_ask_of_failing (c := .deleteAddress id) failing
  | deleteInterface id => exact Program.effect_ask_of_failing (c := .deleteInterface id) failing

theorem effect_apply_of_answer {x : Action} {a : x.call.Answer}
    (passing : F x.call.operation = none) (answered : inv.answer x.call = (.ok a, inv.act x)) :
    (apply x).effect F inv = ⟨.ok (), [(x.call, inv.act x)], inv.act x⟩ := by
  cases x with
  | renameInterface id name =>
      simp only [apply, Program.effect_bind]
      rw [Program.effect_ask_of_answer (c := .updateInterface id ⟨some name⟩) passing answered]
      rfl
  | updateDevice id platform oobIp =>
      simp only [apply, Program.effect_bind]
      rw [Program.effect_ask_of_answer (c := .updateDevice id ⟨some platform, some oobIp⟩) passing
        answered]
      rfl
  | deleteAddress id => exact Program.effect_ask_of_answer (c := .deleteAddress id) passing answered
  | deleteInterface id =>
      exact Program.effect_ask_of_answer (c := .deleteInterface id) passing answered

/-- A plan is carried out without a write that misses its record. -/
theorem effect_carryOut (F : Failures) {p : Policy} (separate : p.Separate) (d : Device) {id : Id}
    {actions : List Action} (planned : inv.plan p id = .ok actions) :
    (carryOut false d actions).effect F inv = carried F actions inv := by
  induction actions generalizing inv with
  | nil => rfl
  | cons x rest ih =>
      simp only [carryOut, Bool.false_eq_true, if_false, Program.effect_bind, Program.effect_say,
        Effect.ok_andThen, carried]
      cases failing : F x.call.operation with
      | some message =>
          rw [effect_apply_of_failing failing]
          rfl
      | none =>
          obtain ⟨e, found, -, -⟩ := Inventory.exists_of_plan planned
          obtain ⟨a, answered⟩ := (Inventory.sanctioned_of_plan planned).answer found
          rw [effect_apply_of_answer failing answered]
          simp only [Effect.andThen, ih (Inventory.plan_act separate planned)]
          rfl

theorem effect_carryOut_dryRun (F : Failures) (d : Device) (actions : List Action) :
    (carryOut true d actions).effect F inv = .ok () inv := by
  induction actions with
  | nil => rfl
  | cons x rest ih =>
      simpa only [carryOut, if_true, Program.effect_bind, Program.effect_say,
        Effect.ok_andThen] using ih

/-- Wherever the writing stops, what got through is a part of the actions from the
beginning, and none of it was set to fail. -/
theorem carried_passes {actions : List Action} {inv' : Inventory}
    (passed : inv' ∈ (carried F actions inv).passes inv) :
    ∃ done rest, actions = done ++ rest ∧ inv' = inv.actAll done ∧
      ∀ x ∈ done, F x.call.operation = none := by
  induction actions generalizing inv with
  | nil =>
      obtain rfl : inv' = inv := by simpa [carried, Effect.ok, Effect.passes] using passed
      exact ⟨[], [], rfl, rfl, by simp⟩
  | cons x rest ih =>
      cases failing : F x.call.operation with
      | some message =>
          obtain rfl : inv' = inv := by simpa [carried, failing, Effect.passes] using passed
          exact ⟨[], x :: rest, rfl, rfl, by simp⟩
      | none =>
          simp only [carried, failing, Effect.passes, Effect.after, List.map_cons,
            List.mem_cons] at passed
          obtain rfl | later := passed
          · exact ⟨[], x :: rest, rfl, rfl, by simp⟩
          · obtain ⟨done, left, rfl, rfl, through⟩ := ih (List.mem_cons.2 later)
            exact ⟨x :: done, left, rfl, rfl, by simpa [failing] using through⟩

theorem carried_inventory_passes (F : Failures) (actions : List Action) (inv : Inventory) :
    (carried F actions inv).inventory ∈ (carried F actions inv).passes inv := by
  induction actions generalizing inv with
  | nil => exact List.mem_singleton_self _
  | cons x rest ih =>
      simp only [carried]
      cases F x.call.operation with
      | some message => simp [Effect.passes]
      | none => exact List.mem_cons_of_mem _ (ih (inv.act x))

theorem mem_carried_calls {actions : List Action} (made : c ∈ (carried F actions inv).calls) :
    ∃ x ∈ actions, c = x.call := by
  induction actions generalizing inv with
  | nil => cases made
  | cons x rest ih =>
      simp only [carried] at made
      split at made
      · exact ⟨x, List.mem_cons_self, by simpa [Effect.calls] using made⟩
      · obtain rfl | later := List.mem_cons.1 made
        · exact ⟨x, List.mem_cons_self, rfl⟩
        · obtain ⟨y, member, same⟩ := ih later
          exact ⟨y, List.mem_cons_of_mem _ member, same⟩

/-- Actions that get through come before whatever becomes of the others. -/
theorem carried_append {done : List Action} (through : ∀ x ∈ done, F x.call.operation = none)
    (rest : List Action) (inv : Inventory) :
    (carried F (done ++ rest) inv).result = (carried F rest (inv.actAll done)).result ∧
      (carried F (done ++ rest) inv).inventory = (carried F rest (inv.actAll done)).inventory := by
  induction done generalizing inv with
  | nil => exact ⟨rfl, rfl⟩
  | cons x done ih =>
      have passing : F x.call.operation = none := through x List.mem_cons_self
      simpa only [List.cons_append, carried, passing, Effect.after, Inventory.actAll_cons] using
        ih (fun y member => through y (List.mem_cons_of_mem _ member)) (inv.act x)

theorem carried_ok {actions : List Action} (success : (carried F actions inv).result = .ok ()) :
    (carried F actions inv).inventory = inv.actAll actions ∧
      ∀ x ∈ actions, F x.call.operation = none := by
  induction actions generalizing inv with
  | nil => exact ⟨rfl, by simp⟩
  | cons x rest ih =>
      cases failing : F x.call.operation with
      | some message => simp [carried, failing] at success
      | none =>
          simp only [carried, failing, Effect.after] at success ⊢
          obtain ⟨same, through⟩ := ih success
          exact ⟨same, by simpa [failing] using through⟩

/-! ## A visit -/

/-- A visit of the device of that id: read, decide, and write unless it is a dry run. -/
def visited (r : Reconciler) (F : Failures) (id : Id) (inv : Inventory) : Effect DeviceFault Nat :=
  let reads := (readCalls F r.policy id (inv.interfacesOf id)).map (·, inv)
  match readFailure F r.policy (inv.interfacesOf id) with
  | some message => ⟨.error (.inventory (.api message)), reads, inv⟩
  | none =>
    match inv.plan r.policy id with
    | .error ambiguity => ⟨.error (.drift ambiguity), reads, inv⟩
    | .ok actions =>
      let written := if r.dryRun then .ok () inv else carried F actions inv
      { result := (written.result.mapError .inventory).map fun _ => actions.length
        trail := reads ++ written.trail
        inventory := written.inventory }

/-- The calls of a visit are those of the reading, and then writes of its plan. -/
theorem mem_visited_calls {r : Reconciler} {id : Id} (made : c ∈ (r.visited F id inv).calls) :
    c ∈ readCalls F r.policy id (inv.interfacesOf id) ∨
      ∃ actions, inv.plan r.policy id = .ok actions ∧ ∃ x ∈ actions, c = x.call := by
  have reads : ∀ c, c ∈ ((readCalls F r.policy id (inv.interfacesOf id)).map (·, inv)).map (·.1) →
      c ∈ readCalls F r.policy id (inv.interfacesOf id) := fun c listed => by
    simpa [Function.comp_def] using listed
  simp only [visited] at made
  split at made
  · exact .inl (reads c made)
  · split at made
    · exact .inl (reads c made)
    · rename_i actions planned
      simp only [Effect.calls, List.map_append] at made
      obtain reading | writing := List.mem_append.1 made
      · exact .inl (reads c reading)
      · split at writing
        · cases writing
        · exact .inr ⟨actions, planned, mem_carried_calls writing⟩

theorem effect_device {r : Reconciler} (separate : r.policy.Separate) (F : Failures)
    (ids : inv.IdsSet) {d : Device} (row : d ∈ inv.devices.rows) :
    (r.device d).effect F inv = r.visited F d.id inv := by
  have planned : inv.plan r.policy d.id = resolve r.policy (inv.snapshotOf r.policy d) :=
    Inventory.plan_of_get? (Table.get?_of_mem row)
  simp only [device, Program.effect_bind, Program.effect_mapFailure,
    effect_snapshot F r.policy (ids.devices d row), visited]
  cases failing : readFailure F r.policy (inv.interfacesOf d.id) with
  | some message => rfl
  | none =>
      simp only [Effect.andThen, Effect.mapFault, mapError_ok, Program.effect_ofExcept,
        resolve_gathered ids, planned]
      cases decided : resolve r.policy (inv.snapshotOf r.policy d) with
      | error ambiguity => simp
      | ok actions =>
          rw [decided] at planned
          simp only [mapError_ok]
          cases actions with
          | nil =>
              simp only [List.isEmpty_nil, if_true, Program.effect_bind, Program.effect_say,
                Effect.ok_andThen, Program.effect_pure]
              cases r.dryRun <;> simp [carried, Effect.ok, Except.map]
          | cons x rest =>
              have written : (carryOut r.dryRun d (x :: rest)).effect F inv =
                  if r.dryRun then .ok () inv else carried F (x :: rest) inv := by
                cases r.dryRun with
                | true => exact effect_carryOut_dryRun F d _
                | false => exact effect_carryOut F separate d planned
              simp only [List.isEmpty_cons, Bool.false_eq_true, if_false, Program.effect_bind,
                Program.effect_mapFailure, written]
              generalize (if r.dryRun then _ else _ : Effect Fault Unit) = effect
              rcases effect with ⟨_ | _, trail, after⟩ <;>
                simp [Effect.andThen, Effect.mapFault, Except.map, Effect.ok]

/-- Wherever a visit stops, nothing is written yet or the first actions of the plan are. -/
theorem visited_passes {r : Reconciler} {id : Id} {inv' : Inventory}
    (passed : inv' ∈ (r.visited F id inv).passes inv) :
    inv' = inv ∨ ∃ done rest, readFailure F r.policy (inv.interfacesOf id) = none ∧
      r.dryRun = false ∧ inv.plan r.policy id = .ok (done ++ rest) ∧ inv' = inv.actAll done ∧
      ∀ x ∈ done, F x.call.operation = none := by
  simp only [visited] at passed
  cases failing : readFailure F r.policy (inv.interfacesOf id) with
  | some message =>
      simp only [failing] at passed
      exact .inl (by simpa using mem_passes_of_reads [] (by simpa using passed))
  | none =>
      cases planned : inv.plan r.policy id with
      | error ambiguity =>
          simp only [failing, planned] at passed
          exact .inl (by simpa using mem_passes_of_reads [] (by simpa using passed))
      | ok actions =>
          simp only [failing, planned] at passed
          have written := mem_passes_of_reads _ passed
          cases dry : r.dryRun with
          | true => exact .inl (by simpa [dry, Effect.ok] using written)
          | false =>
              simp only [dry, Bool.false_eq_true, if_false] at written
              obtain ⟨done, rest, rfl, rfl, through⟩ := carried_passes written
              exact .inr ⟨done, rest, rfl, rfl, rfl, rfl, through⟩

theorem visited_inventory_passes (r : Reconciler) (F : Failures) (id : Id) (inv : Inventory) :
    (r.visited F id inv).inventory ∈ (r.visited F id inv).passes inv := by
  simp only [visited]
  cases readFailure F r.policy (inv.interfacesOf id) with
  | some message => exact List.mem_cons_self
  | none =>
      cases inv.plan r.policy id with
      | error ambiguity => exact List.mem_cons_self
      | ok actions =>
          cases r.dryRun with
          | true => exact List.mem_cons_self
          | false =>
              have written := carried_inventory_passes F actions inv
              simp only [Effect.passes, List.map_append, List.mem_cons, List.mem_append,
                Bool.false_eq_true, if_false] at written ⊢
              exact written.imp_right .inr

/-- A visit that succeeds has read everything, and carried out the whole plan unless it
is a dry run. -/
theorem visited_ok {r : Reconciler} {id : Id} {n : Nat}
    (success : (r.visited F id inv).result = .ok n) :
    ∃ actions, inv.plan r.policy id = .ok actions ∧ n = actions.length ∧
      readFailure F r.policy (inv.interfacesOf id) = none ∧
      (r.dryRun = false → (r.visited F id inv).inventory = inv.actAll actions ∧
        ∀ x ∈ actions, F x.call.operation = none) := by
  simp only [visited] at success ⊢
  cases failing : readFailure F r.policy (inv.interfacesOf id) with
  | some message => simp [failing] at success
  | none =>
      cases planned : inv.plan r.policy id with
      | error ambiguity => simp [failing, planned] at success
      | ok actions =>
          simp only [failing, planned] at success ⊢
          cases dry : r.dryRun with
          | true =>
              simp only [dry, if_true, Effect.ok, mapError_ok, Except.map] at success
              exact ⟨actions, rfl, (Except.ok.inj success).symm, trivial, fun real => by cases real⟩
          | false =>
              simp only [dry, Bool.false_eq_true, if_false] at success ⊢
              cases written : (carried F actions inv).result with
              | error f => simp [written, Except.map] at success
              | ok done =>
                  simp only [written, mapError_ok, Except.map] at success
                  exact ⟨actions, rfl, (Except.ok.inj success).symm, trivial,
                    fun _ => carried_ok written⟩

/-- After a visit that succeeds nothing is left to do, unless it was a dry run. -/
theorem visited_settles {r : Reconciler} (separate : r.policy.Separate) (real : r.dryRun = false)
    {id : Id} {n : Nat} (success : (r.visited F id inv).result = .ok n) :
    (r.visited F id inv).inventory.Settled r.policy id := by
  obtain ⟨actions, planned, -, -, written⟩ := visited_ok success
  rw [(written real).1]
  exact Inventory.settled_actAll separate planned

/-- Every inventory on the way of a visit is reached by writes on that device. -/
theorem visited_correctsMany {r : Reconciler} (separate : r.policy.Separate) {id : Id}
    {inv' : Inventory} (passed : inv' ∈ (r.visited F id inv).passes inv) :
    Inventory.CorrectsMany r.policy (· = id) inv inv' := by
  obtain rfl | ⟨done, rest, -, -, planned, rfl, -⟩ := visited_passes passed
  · exact .refl
  · exact Inventory.correctsMany_actAll separate (by rfl) planned

end Reconciler

end InventorySync
