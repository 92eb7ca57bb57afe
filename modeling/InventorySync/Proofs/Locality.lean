/-
# Proofs.Locality — what one call changes

Whatever a store holds and whatever is set to fail, a call ends in one of three ways: its operation
is set to fail, its record is not there, or it is answered (`Store.perform_of_set`,
`perform_of_not_reaches`, `perform_of_reaches`). It is logged in each of them, and only in the last
may a record change.

`Call.Wrote` says what a write does that is answered. It goes by what the tables give under each
id: a row is under its own id as the write left it, and under every other id is what was there
before (`Table.SetAt`). The other tables are the same ones.

So a refused call changes nothing, and a fault of a write says whose it is and whether the record
is missing (`perform_local`).
-/
import InventorySync.Proofs.Contents
import InventorySync.Proofs.Correction

namespace InventorySync

set_option autoImplicit false

/-! ## One row -/

namespace Table

variable {α : Type} [Identified α] {t : Table α} {id : Id}

/-- The second table has `row` under the id, and what the first one has under every other. -/
structure SetAt (id : Id) (row : Option α) (t t' : Table α) : Prop where
  here : t'.get? id = row
  others : ∀ j, j ≠ id → t'.get? j = t.get? j

theorem setAt_modify {f : α → α} (keeps : ∀ a, idOf (f a) = idOf a) {a : α}
    (found : t.get? id = some a) : SetAt id (some (f a)) t (t.modify id f keeps) where
  here := get?_modify_self keeps found
  others _ ne := get?_modify_of_ne keeps ne

theorem get?_erase_self : (t.erase id).get? id = none := by
  refine List.find?_eq_none.2 fun a row => ?_
  simpa using (mem_erase.1 row).2

theorem setAt_erase : SetAt id none t (t.erase id) where
  here := get?_erase_self
  others _ ne := get?_erase_of_ne ne

end Table

/-! ## Patches -/

/-- A device after a patch: the references that are set are the given ones, the others are kept,
and so is everything else. -/
structure DevicePatch.Applied (patch : DevicePatch) (d d' : Device) : Prop where
  bare : d'.bare = d.bare
  platform : ∀ id, patch.platform = some id → d'.platformId = id
  oobIp : ∀ id, patch.oobIp = some id → d'.oobIpId = id
  platformKept : patch.platform = none → d'.platform = d.platform
  oobIpKept : patch.oobIp = none → d'.oobIp = d.oobIp

theorem Inventory.applied_patchedDevice (inv : Inventory) (patch : DevicePatch) (d : Device) :
    patch.Applied d (inv.patchedDevice patch d) where
  bare := rfl
  platform id set := by
    rw [Device.platformId, patchedDevice, set]
    rfl
  oobIp id set := by
    rw [Device.oobIpId, patchedDevice, set]
    rfl
  platformKept unset := by rw [patchedDevice, unset]
  oobIpKept unset := by rw [patchedDevice, unset]

/-- An interface after a patch: a name that is set is also what it shows, and everything else is
kept. -/
structure InterfacePatch.Applied (patch : InterfacePatch) (i i' : Interface) : Prop where
  rest : { i' with name := i.name, display := i.display } = i
  name : ∀ name, patch.name = some name → i'.name = name ∧ i'.display = name
  kept : patch.name = none → i' = i

theorem Inventory.applied_patchedInterface (patch : InterfacePatch) (i : Interface) :
    patch.Applied i (patchedInterface patch i) := by
  unfold patchedInterface
  cases set : patch.name with
  | none => exact ⟨rfl, fun name given => by simp [set] at given, fun _ => rfl⟩
  | some new => exact ⟨rfl, fun name given => by simp_all, fun unset => by simp [set] at unset⟩

/-! ## Writes -/

namespace Call

/-- The verb, the kind of record and the id of a write. -/
def target? : Call → Option (String × String × Id)
  | updateDevice id _ => some ("update", "device", id)
  | updateInterface id _ => some ("update", "interface", id)
  | deleteInterface id => some ("delete", "interface", id)
  | deleteAddress id => some ("delete", "ip address", id)
  | _ => none

def isRemoval : Call → Bool
  | deleteInterface _ => true
  | deleteAddress _ => true
  | _ => false

theorem isWrite_of_isRemoval {c : Call} (removal : c.isRemoval = true) : c.isWrite = true := by
  cases c <;> first | rfl | cases removal

/-- The record that a call is about is there; a listing is not about one. -/
def Reaches (inv : Inventory) : Call → Prop
  | getDevice id => (inv.devices.get? id).isSome
  | updateDevice id _ => (inv.devices.get? id).isSome
  | updateInterface id _ => (inv.interfaces.get? id).isSome
  | deleteInterface id => (inv.interfaces.get? id).isSome
  | deleteAddress id => (inv.addresses.get? id).isSome
  | _ => True

/-- What a write does that is answered: it sets or removes the record of its id. -/
inductive Wrote : (c : Call) → c.Answer → Inventory → Inventory → Prop
  | updateDevice {id : Id} {patch : DevicePatch} {old new : Device} {inv : Inventory}
      {devices : Table Device} (found : inv.devices.get? id = some old)
      (applied : patch.Applied old new) (set : Table.SetAt id (some new) inv.devices devices) :
      Wrote (.updateDevice id patch) new inv { inv with devices := devices }
  | updateInterface {id : Id} {patch : InterfacePatch} {old new : Interface} {inv : Inventory}
      {interfaces : Table Interface} (found : inv.interfaces.get? id = some old)
      (applied : patch.Applied old new)
      (set : Table.SetAt id (some new) inv.interfaces interfaces) :
      Wrote (.updateInterface id patch) new inv { inv with interfaces := interfaces }
  | deleteInterface {id : Id} {old : Interface} {inv : Inventory} {interfaces : Table Interface}
      (found : inv.interfaces.get? id = some old)
      (set : Table.SetAt id none inv.interfaces interfaces) :
      Wrote (.deleteInterface id) () inv { inv with interfaces := interfaces }
  | deleteAddress {id : Id} {old : Address} {inv : Inventory} {addresses : Table Address}
      (found : inv.addresses.get? id = some old)
      (set : Table.SetAt id none inv.addresses addresses) :
      Wrote (.deleteAddress id) () inv { inv with addresses := addresses }

/-- A record that was removed is not there any more. -/
theorem Wrote.not_reaches {c : Call} {a : c.Answer} {inv inv' : Inventory}
    (wrote : c.Wrote a inv inv') (removal : c.isRemoval = true) : ¬ c.Reaches inv' := by
  cases wrote with
  | updateDevice | updateInterface => cases removal
  | deleteInterface found set => simp [Reaches, set.here]
  | deleteAddress found set => simp [Reaches, set.here]

/-- The fault of a write carries its verb, its kind and its id around the cause. -/
theorem fault_of_isWrite {c : Call} (writes : c.isWrite = true) :
    ∃ verb kind id, c.target? = some (verb, kind, id) ∧
      ∀ cause, c.fault cause = .operation verb kind id cause := by
  cases c with
  | updateDevice | updateInterface | deleteInterface | deleteAddress =>
      exact ⟨_, _, _, rfl, fun _ => rfl⟩
  | _ => cases writes

end Call

/-! ## Answers -/

namespace Inventory

/-- A call on a record that is not there is a fault and changes nothing. -/
theorem answer_of_not_reaches {inv : Inventory} {c : Call} (missing : ¬ c.Reaches inv) :
    ∃ text, inv.answer c = (.error (.notFound text), inv) := by
  cases c <;> simp only [Call.Reaches, Option.not_isSome_iff_eq_none, not_true_eq_false] at missing
  all_goals exact ⟨_, by simp only [answer, missing]; rfl⟩

theorem exists_answer {inv : Inventory} {c : Call} (there : c.Reaches inv) :
    ∃ a, (inv.answer c).1 = .ok a := by
  cases c <;> simp only [Call.Reaches] at there
  case getDevice | updateDevice | updateInterface | deleteInterface | deleteAddress =>
    obtain ⟨row, found⟩ := Option.isSome_iff_exists.1 there
    exact ⟨_, by simp only [answer, found]; rfl⟩
  all_goals exact ⟨_, rfl⟩

theorem answer_read {c : Call} (inv : Inventory) (reads : c.isWrite = false) :
    (inv.answer c).2 = inv := by
  cases c with
  | updateDevice | updateInterface | deleteInterface | deleteAddress => cases reads
  | getDevice id =>
      simp only [answer]
      split <;> rfl
  | _ => rfl

/-- A write that is answered has set or removed the record of its id. -/
theorem wrote_answer {c : Call} {inv : Inventory} {a : c.Answer} (writes : c.isWrite = true)
    (answered : (inv.answer c).1 = .ok a) : c.Wrote a inv (inv.answer c).2 := by
  cases c with
  | updateDevice id patch =>
      cases found : inv.devices.get? id with
      | none => simp [answer, found] at answered
      | some d =>
          simp only [answer, found] at answered ⊢
          cases answered
          exact .updateDevice found (inv.applied_patchedDevice patch d)
            (Table.setAt_modify _ found)
  | updateInterface id patch =>
      cases found : inv.interfaces.get? id with
      | none => simp [answer, found] at answered
      | some i =>
          simp only [answer, found] at answered ⊢
          cases answered
          exact .updateInterface found (applied_patchedInterface patch i)
            (Table.setAt_modify _ found)
  | deleteInterface id =>
      cases found : inv.interfaces.get? id with
      | none => simp [answer, found] at answered
      | some i =>
          simp only [answer, found]
          exact .deleteInterface found Table.setAt_erase
  | deleteAddress id =>
      cases found : inv.addresses.get? id with
      | none => simp [answer, found] at answered
      | some old =>
          simp only [answer, found]
          exact .deleteAddress found Table.setAt_erase
  | _ => cases writes

end Inventory

/-! ## Calls on a store -/

namespace Store

variable {s : Store} {c : Call}

theorem perform_of_set {text : String} (set : s.failures c.operation = some text) :
    s.perform c = (.error (c.fault (.api text)), { s with calls := s.calls ++ [c] }) := by
  simp only [perform, set]

theorem perform_of_not_reaches (unset : s.failures c.operation = none)
    (missing : ¬ c.Reaches s.inventory) : ∃ text,
      s.perform c = (.error (c.fault (.notFound text)), { s with calls := s.calls ++ [c] }) := by
  obtain ⟨text, absent⟩ := Inventory.answer_of_not_reaches missing
  exact ⟨text, by simp only [perform, unset, absent]; rfl⟩

theorem perform_of_reaches (unset : s.failures c.operation = none)
    (there : c.Reaches s.inventory) : ∃ a, (s.inventory.answer c).1 = .ok a ∧ s.perform c =
      (.ok a, { s with inventory := (s.inventory.answer c).2, calls := s.calls ++ [c] }) := by
  obtain ⟨a, answered⟩ := Inventory.exists_answer there
  exact ⟨a, answered, by simp only [perform, unset, answered]; rfl⟩

/-- What a call does to a store, and what it says. -/
structure Local (s : Store) (c : Call) : Prop where
  logged : (s.perform c).2.calls = s.calls ++ [c]
  failures : (s.perform c).2.failures = s.failures
  /-- A call is answered unless its operation is set to fail or its record is not there. -/
  answered : (∃ a, (s.perform c).1 = .ok a) ↔
    s.failures c.operation = none ∧ c.Reaches s.inventory
  refused : ∀ f, (s.perform c).1 = .error f → (s.perform c).2.inventory = s.inventory
  read : c.isWrite = false → (s.perform c).2.inventory = s.inventory
  wrote : ∀ a, c.isWrite = true → (s.perform c).1 = .ok a →
    c.Wrote a s.inventory (s.perform c).2.inventory
  /-- What was removed cannot be removed again. -/
  removed : ∀ a, c.isRemoval = true → (s.perform c).1 = .ok a →
    ∃ f, ((s.perform c).2.perform c).1 = .error f ∧ f.isNotFound = true
  /-- A write that fails says which record it was about, and whether that is missing. -/
  fault : ∀ f, c.isWrite = true → (s.perform c).1 = .error f →
    ∃ verb kind id cause, c.target? = some (verb, kind, id) ∧ f = .operation verb kind id cause ∧
      (f.isNotFound = true ↔ s.failures c.operation = none)

theorem isNotFound_fault {cause : Fault} : (c.fault cause).isNotFound = cause.isNotFound := by
  cases c <;> rfl

theorem eq_of_parts {s' : Store} (inventory : s'.inventory = s.inventory) {calls : List Call}
    (logged : s'.calls = calls) (failures : s'.failures = s.failures) :
    s' = { s with calls := calls } := by
  cases s'
  simp_all

/-- A call whose operation is set to fail is logged, and that is all. -/
theorem local_of_set {text : String} (set : s.failures c.operation = some text) : s.Local c where
  logged := by rw [perform_of_set set]
  failures := by rw [perform_of_set set]
  answered := by simp [perform_of_set set, set]
  refused _ _ := by rw [perform_of_set set]
  read _ := by rw [perform_of_set set]
  wrote _ _ answered := by simp [perform_of_set set] at answered
  removed _ _ answered := by simp [perform_of_set set] at answered
  fault f writes refused := by
    obtain ⟨verb, kind, id, target, wrapped⟩ := Call.fault_of_isWrite writes
    rw [perform_of_set set] at refused
    cases refused
    exact ⟨verb, kind, id, _, target, wrapped _,
      by simp [isNotFound_fault, Fault.isNotFound, set]⟩

/-- So is one whose record is not there, and its fault says that. -/
theorem local_of_not_reaches (unset : s.failures c.operation = none)
    (missing : ¬ c.Reaches s.inventory) : s.Local c := by
  obtain ⟨text, done⟩ := perform_of_not_reaches unset missing
  exact {
    logged := by rw [done]
    failures := by rw [done]
    answered := by simp [done, missing]
    refused := fun _ _ => by rw [done]
    read := fun _ => by rw [done]
    wrote := fun _ _ answered => by simp [done] at answered
    removed := fun _ _ answered => by simp [done] at answered
    fault := fun f writes refused => by
      obtain ⟨verb, kind, id, target, wrapped⟩ := Call.fault_of_isWrite writes
      rw [done] at refused
      cases refused
      exact ⟨verb, kind, id, _, target, wrapped _,
        by simp [isNotFound_fault, Fault.isNotFound, unset]⟩ }

theorem local_of_reaches (unset : s.failures c.operation = none)
    (there : c.Reaches s.inventory) : s.Local c := by
  obtain ⟨a, answered, done⟩ := perform_of_reaches unset there
  exact {
    logged := by rw [done]
    failures := by rw [done]
    answered := by simp [done, unset, there]
    refused := fun _ refused => by simp [done] at refused
    read := fun reads => by rw [done, Inventory.answer_read _ reads]
    wrote := fun b writes same => by
      rw [done] at same ⊢
      cases same
      exact Inventory.wrote_answer writes answered
    removed := fun _ removal _ => by
      have wrote := Inventory.wrote_answer (Call.isWrite_of_isRemoval removal) answered
      have gone : ¬ c.Reaches (s.perform c).2.inventory := by
        rw [done]
        exact wrote.not_reaches removal
      have unset' : (s.perform c).2.failures c.operation = none := by
        rw [done]
        exact unset
      obtain ⟨text, again⟩ := perform_of_not_reaches unset' gone
      exact ⟨_, by rw [again], isNotFound_fault⟩
    fault := fun _ _ refused => by simp [done] at refused }

/-- **One call is one entry of the log, and one record at most is another after it.** A lookup is
one call too, and changes nothing. -/
theorem perform_local (s : Store) :
    (∀ c, s.Local c) ∧
      ∀ l : Lookup, (l.program.runOn s).store = { s with calls := s.calls ++ [l.listing] } := by
  have call : ∀ c, s.Local c := fun c => by
    cases set : s.failures c.operation with
    | some text => exact local_of_set set
    | none =>
        by_cases there : c.Reaches s.inventory
        · exact local_of_reaches set there
        · exact local_of_not_reaches set there
  refine ⟨call, fun l => ?_⟩
  have listing : l.listing.isWrite = false := by cases l <;> rfl
  rw [store_lookup]
  exact eq_of_parts ((call l.listing).read listing) (call l.listing).logged
    (call l.listing).failures

/-- An interface is removed once; the next time it is missing, and the log has both calls. -/
theorem perform_local_again :
    let s := (empty "http://n").after [.addInterface (Fixture.interface "http://n" 21 "vmk0" 10)]
    let once := s.perform (.deleteInterface 21)
    let again := once.2.perform (.deleteInterface 21)
    once.1 = .ok () ∧ (∃ f, again.1 = .error f ∧ f.isNotFound = true) ∧
      again.2.calls = [.deleteInterface 21, .deleteInterface 21] := by
  intro s once again
  have removed : once.1 = .ok () := rfl
  refine ⟨removed, ((perform_local s).1 _).removed () rfl removed, ?_⟩
  rw [((perform_local once.2).1 _).logged, ((perform_local s).1 _).logged]
  rfl

end Store

end InventorySync
