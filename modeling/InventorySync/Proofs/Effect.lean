/-
# Proofs.Effect — a program's calls, each with the inventory it leaves

`Program.runOn` gives a result and a store. `Program.effect` gives the same result and
the same inventory, and with every call the inventory after that call, so a statement
can speak of each moment of a run. The two agree (`runOn_result`, `runOn_store`), and
effects compose: what a `bind` does is what its parts do one after the other
(`effect_bind`), up to the first fault.

`Program.upTo` is the program broken off after a number of calls. Wherever it is broken
off, the inventory is one that the whole program passes through (`upTo_passes`).
-/
import InventorySync.Inventory.Store

namespace InventorySync

set_option autoImplicit false

/-- Make one call under injected failures. -/
def Inventory.attempt (F : Failures) (c : Call) (inv : Inventory) :
    Except Fault c.Answer × Inventory :=
  match F c.operation with
  | some message => (.error (c.fault (.api message)), inv)
  | none => ((inv.answer c).1.mapError c.fault, (inv.answer c).2)

@[simp] theorem mapError_ok {ε ε' α : Type} (g : ε → ε') (a : α) :
    (Except.ok a : Except ε α).mapError g = .ok a := rfl

@[simp] theorem mapError_error {ε ε' α : Type} (g : ε → ε') (f : ε) :
    (Except.error f : Except ε α).mapError g = .error (g f) := rfl

/-- What a program does to an inventory. -/
structure Effect (ε α : Type) where
  result : Except ε α
  /-- Every call, the first one in front, with the inventory after it. -/
  trail : List (Call × Inventory)
  inventory : Inventory

namespace Effect

variable {ε ε' α β γ : Type}

def ok (a : α) (inv : Inventory) : Effect ε α := ⟨.ok a, [], inv⟩

def error (e : ε) (inv : Inventory) : Effect ε α := ⟨.error e, [], inv⟩

/-- The calls, without the inventories. -/
def calls (e : Effect ε α) : List Call := e.trail.map (·.1)

/-- A call before everything else. -/
def after (c : Call) (inv : Inventory) (e : Effect ε α) : Effect ε α :=
  { e with trail := (c, inv) :: e.trail }

/-- Go on with the value, unless there is a fault. -/
def andThen (e : Effect ε α) (next : α → Inventory → Effect ε β) : Effect ε β :=
  match e.result with
  | .ok a =>
    let rest := next a e.inventory
    ⟨rest.result, e.trail ++ rest.trail, rest.inventory⟩
  | .error f => ⟨.error f, e.trail, e.inventory⟩

def map (f : α → β) (e : Effect ε α) : Effect ε β := { e with result := e.result.map f }

def mapFault (g : ε → ε') (e : Effect ε α) : Effect ε' α :=
  { e with result := e.result.mapError g }

/-- Every inventory that there is on the way from `inv`, both ends included. -/
def passes (inv : Inventory) (e : Effect ε α) : List Inventory := inv :: e.trail.map (·.2)

theorem andThen_of_ok {e : Effect ε α} {a : α} (success : e.result = .ok a)
    (next : α → Inventory → Effect ε β) :
    e.andThen next = ⟨(next a e.inventory).result, e.trail ++ (next a e.inventory).trail,
      (next a e.inventory).inventory⟩ := by
  simp only [andThen, success]

theorem andThen_of_error {e : Effect ε α} {f : ε} (failure : e.result = .error f)
    (next : α → Inventory → Effect ε β) :
    e.andThen next = ⟨.error f, e.trail, e.inventory⟩ := by
  simp only [andThen, failure]

@[simp] theorem ok_andThen (a : α) (inv : Inventory) (next : α → Inventory → Effect ε β) :
    (ok a inv).andThen next = next a inv := by
  simp [andThen, ok]

@[simp] theorem error_andThen (f : ε) (inv : Inventory) (next : α → Inventory → Effect ε β) :
    (error f inv).andThen next = error f inv := by
  simp [andThen, error]

theorem andThen_ok (f : α → β) (e : Effect ε α) :
    (e.andThen fun a inv => ok (f a) inv) = e.map f := by
  rcases e with ⟨_ | _, _, _⟩ <;> simp [andThen, ok, map, Except.map]

theorem after_andThen (c : Call) (inv : Inventory) (e : Effect ε α)
    (next : α → Inventory → Effect ε β) :
    (e.after c inv).andThen next = (e.andThen next).after c inv := by
  cases success : e.result <;> simp [andThen, after, success]

theorem andThen_assoc (e : Effect ε α) (f : α → Inventory → Effect ε β)
    (g : β → Inventory → Effect ε γ) :
    (e.andThen f).andThen g = e.andThen fun a inv => (f a inv).andThen g := by
  cases first : e.result with
  | error x => simp [andThen, first]
  | ok a =>
      cases second : (f a e.inventory).result <;>
        simp [andThen, first, second, List.append_assoc]

@[simp] theorem ok_map (f : α → β) (a : α) (inv : Inventory) :
    (ok a inv : Effect ε α).map f = ok (f a) inv := rfl

@[simp] theorem calls_map (f : α → β) (e : Effect ε α) : (e.map f).calls = e.calls := rfl

theorem map_id (e : Effect ε α) : e.map (fun a => a) = e := by
  rcases e with ⟨_ | _, _, _⟩ <;> rfl

theorem map_map (f : α → β) (g : β → γ) (e : Effect ε α) :
    (e.map f).map g = e.map fun a => g (f a) := by
  rcases e with ⟨_ | _, _, _⟩ <;> rfl

/-- Only what follows the value that there is matters. -/
theorem andThen_congr {e : Effect ε α} {f g : α → Inventory → Effect ε β}
    (same : ∀ a, e.result = .ok a → f a e.inventory = g a e.inventory) :
    e.andThen f = e.andThen g := by
  cases success : e.result with
  | error x => simp [andThen, success]
  | ok a => simp [andThen, success, same a success]

theorem passes_andThen {e : Effect ε α} {next : α → Inventory → Effect ε β} {inv inv' : Inventory}
    (passed : inv' ∈ (e.andThen next).passes inv) :
    inv' ∈ e.passes inv ∨
      ∃ a, e.result = .ok a ∧ inv' ∈ (next a e.inventory).passes e.inventory := by
  cases success : e.result with
  | error f =>
      rw [andThen_of_error success] at passed
      exact .inl passed
  | ok a =>
      simp only [andThen_of_ok success, passes, List.map_append, List.mem_cons,
        List.mem_append] at passed
      obtain same | early | later := passed
      · exact .inl (same ▸ List.mem_cons_self)
      · exact .inl (List.mem_cons_of_mem _ early)
      · exact .inr ⟨a, rfl, List.mem_cons_of_mem _ later⟩

theorem calls_andThen {e : Effect ε α} {next : α → Inventory → Effect ε β} {c : Call}
    (made : c ∈ (e.andThen next).calls) :
    c ∈ e.calls ∨ ∃ a, e.result = .ok a ∧ c ∈ (next a e.inventory).calls := by
  cases success : e.result with
  | error f =>
      rw [andThen_of_error success] at made
      exact .inl made
  | ok a =>
      simp only [andThen_of_ok success, calls, List.map_append, List.mem_append] at made
      exact made.imp_right fun later => ⟨a, rfl, later⟩

theorem inventory_passes_andThen {e : Effect ε α} {next : α → Inventory → Effect ε β}
    {inv : Inventory} (first : e.inventory ∈ e.passes inv)
    (second : ∀ a, e.result = .ok a →
      (next a e.inventory).inventory ∈ (next a e.inventory).passes e.inventory) :
    (e.andThen next).inventory ∈ (e.andThen next).passes inv := by
  cases success : e.result with
  | error f =>
      rw [andThen_of_error success]
      exact first
  | ok a =>
      simp only [passes, List.mem_cons] at first second
      simp only [andThen_of_ok success, passes, List.map_append, List.mem_cons, List.mem_append]
      obtain same | later := second a success
      · rw [same]
        exact first.imp_right .inl
      · exact .inr (.inr later)

theorem map_andThen (h : α → β) (e : Effect ε α) (next : β → Inventory → Effect ε γ) :
    (e.map h).andThen next = e.andThen fun a => next (h a) := by
  cases success : e.result <;> simp [andThen, map, success, Except.map]

theorem andThen_map (e : Effect ε α) (next : α → Inventory → Effect ε β) (h : β → γ) :
    (e.andThen next).map h = e.andThen fun a inv => (next a inv).map h := by
  cases success : e.result <;> simp [andThen, map, success, Except.map]

/-! ## Success -/

theorem map_eq_ok {f : α → β} {e : Effect ε α} {b : β} :
    (e.map f).result = .ok b ↔ ∃ a, e.result = .ok a ∧ f a = b := by
  rcases e with ⟨_ | _, _, _⟩ <;> simp [map, Except.map]

theorem mapFault_eq_ok {g : ε → ε'} {e : Effect ε α} {a : α} :
    (e.mapFault g).result = .ok a ↔ e.result = .ok a := by
  rcases e with ⟨_ | _, _, _⟩ <;> simp [mapFault]

theorem andThen_eq_ok {e : Effect ε α} {next : α → Inventory → Effect ε β} {b : β} :
    (e.andThen next).result = .ok b ↔
      ∃ a, e.result = .ok a ∧ (next a e.inventory).result = .ok b := by
  cases success : e.result <;> simp [andThen, success]

end Effect

namespace Program

variable {ε ε' α β : Type}

def effect (F : Failures) : Program ε α → Inventory → Effect ε α
  | done a, inv => .ok a inv
  | fail e, inv => .error e inv
  | note _ rest, inv => rest.effect F inv
  | call c onFault next, inv =>
    match inv.attempt F c with
    | (.ok a, after) => ((next a).effect F after).after c after
    | (.error f, after) => ⟨.error (onFault f), [(c, after)], after⟩

/-! ## Effects of programs put together -/

@[simp] theorem effect_done (F : Failures) (a : α) (inv : Inventory) :
    (done a : Program ε α).effect F inv = .ok a inv := rfl

@[simp] theorem effect_pure (F : Failures) (a : α) (inv : Inventory) :
    (pure a : Program ε α).effect F inv = .ok a inv := rfl

@[simp] theorem effect_say (F : Failures) (line : Log.Entry) (inv : Inventory) :
    (say line : Program ε Unit).effect F inv = .ok () inv := rfl

theorem effect_ask (F : Failures) (c : Call) (inv : Inventory) :
    (ask c).effect F inv =
      ⟨(inv.attempt F c).1, [(c, (inv.attempt F c).2)], (inv.attempt F c).2⟩ := by
  simp only [ask, effect]
  rcases tried : inv.attempt F c with ⟨_ | _, _⟩ <;> simp [Effect.ok, Effect.after]

theorem effect_ofExcept (F : Failures) (r : Except ε α) (inv : Inventory) :
    (ofExcept r).effect F inv = ⟨r, [], inv⟩ := by
  cases r <;> rfl

theorem effect_bind (F : Failures) (p : Program ε α) (f : α → Program ε β) (inv : Inventory) :
    (p >>= f).effect F inv = (p.effect F inv).andThen fun a after => (f a).effect F after := by
  change (p.bind f).effect F inv = _
  induction p generalizing inv with
  | done a => simp [bind, effect]
  | fail e => simp [bind, effect]
  | note line rest ih => exact ih inv
  | call c onFault next ih =>
      simp only [bind, effect]
      rcases tried : inv.attempt F c with ⟨_ | a, after⟩
      · simp [Effect.andThen]
      · simp only [ih a after, Effect.after_andThen]

theorem effect_mapFailure (F : Failures) (g : ε → ε') (p : Program ε α) (inv : Inventory) :
    (p.mapFailure g).effect F inv = (p.effect F inv).mapFault g := by
  induction p generalizing inv with
  | done a => rfl
  | fail e => rfl
  | note line rest ih => exact ih inv
  | call c onFault next ih =>
      simp only [mapFailure, effect]
      rcases tried : inv.attempt F c with ⟨_ | a, after⟩
      · simp [Effect.mapFault]
      · simp only [ih a after]
        rfl

/-! ## Effect and run -/

theorem perform_eq (c : Call) (s : Store) :
    s.perform c = ((s.inventory.attempt s.failures c).1,
      { s with
        inventory := (s.inventory.attempt s.failures c).2
        calls := s.calls ++ [c] }) := by
  simp only [Store.perform, Inventory.attempt]
  cases s.failures c.operation <;> rfl

/-- A run on a store and the effect on its inventory are the same. -/
theorem runOn_eq (p : Program ε α) (s : Store) :
    (p.runOn s).result = (p.effect s.failures s.inventory).result ∧
      (p.runOn s).store =
        { s with
          inventory := (p.effect s.failures s.inventory).inventory
          calls := s.calls ++ (p.effect s.failures s.inventory).calls } := by
  induction p generalizing s with
  | done a => simp [runOn, effect, Effect.ok, Effect.calls]
  | fail e => simp [runOn, effect, Effect.error, Effect.calls]
  | note line rest ih => exact ih s
  | call c onFault next ih =>
      simp only [runOn, effect, perform_eq]
      rcases tried : s.inventory.attempt s.failures c with ⟨_ | a, after⟩
      · simp [Effect.calls]
      · simpa [Effect.after, Effect.calls] using
          ih a { s with inventory := after, calls := s.calls ++ [c] }

theorem runOn_result (p : Program ε α) (s : Store) :
    (p.runOn s).result = (p.effect s.failures s.inventory).result :=
  (p.runOn_eq s).1

theorem runOn_store (p : Program ε α) (s : Store) :
    (p.runOn s).store =
      { s with
        inventory := (p.effect s.failures s.inventory).inventory
        calls := s.calls ++ (p.effect s.failures s.inventory).calls } :=
  (p.runOn_eq s).2

/-! ## Breaking off -/

/-- The program, broken off after `n` calls unless it has ended by then. -/
def upTo : Program ε α → Nat → Program ε (Option α)
  | done a, _ => done (some a)
  | fail e, _ => fail e
  | note line rest, n => note line (rest.upTo n)
  | call _ _ _, 0 => done none
  | call c onFault next, n + 1 => call c onFault fun answer => (next answer).upTo n

theorem upTo_passes (F : Failures) (p : Program ε α) (n : Nat) (inv : Inventory) :
    ((p.upTo n).effect F inv).inventory ∈ (p.effect F inv).passes inv := by
  induction p generalizing n inv with
  | done a => simp [upTo, effect, Effect.ok, Effect.passes]
  | fail e => simp [upTo, effect, Effect.error, Effect.passes]
  | note line rest ih => exact ih n inv
  | call c onFault next ih =>
      cases n with
      | zero => simp [upTo, Effect.ok, Effect.passes]
      | succ n =>
          simp only [upTo, effect]
          rcases tried : inv.attempt F c with ⟨_ | a, after⟩
          · simp [Effect.passes]
          · exact List.mem_cons_of_mem _ (ih a n after)

/-- A run ends at an inventory that it passes through. -/
theorem inventory_passes (F : Failures) (p : Program ε α) (inv : Inventory) :
    (p.effect F inv).inventory ∈ (p.effect F inv).passes inv := by
  induction p generalizing inv with
  | done a => exact List.mem_singleton_self _
  | fail e => exact List.mem_singleton_self _
  | note line rest ih => exact ih inv
  | call c onFault next ih =>
      simp only [effect]
      rcases tried : inv.attempt F c with ⟨_ | a, after⟩
      · simp [Effect.passes]
      · exact List.mem_cons_of_mem _ (ih a after)

end Program

end InventorySync
