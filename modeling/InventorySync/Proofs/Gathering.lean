/-
# Proofs.Gathering — the addresses that are gathered are enough to decide

A decision looks up the addresses of the out-of-band interface and of the ephemeral ones, found by
their names. The reading asks for those of every interface that one test on the name admits, and
leaves the others without any. The two agree for all policies, also for those whose names and
beginnings overlap: a snapshot and what the reading leaves of it (`Snapshot.narrowed`) have the same
decision (`resolve_narrowed`).

What the reading leaves is stated for any inventory that answers each call alike whenever it is made
(`Program.denote`, `denote_snapshot`). A store does, as long as nobody writes
(`Program.runOn_of_readOnly`).
-/
import InventorySync.Proofs.Locality

namespace InventorySync

set_option autoImplicit false

open Drift (Policy Snapshot resolve)

/-! ## Programs that only read -/

namespace Program

variable {ε α β : Type}

/-- What a program comes to if each call has one answer, or fault, whenever it is made. -/
def denote (reply : (c : Call) → Except Fault c.Answer) : Program ε α → Except ε α
  | done a => .ok a
  | fail e => .error e
  | note _ rest => rest.denote reply
  | call c onFault next =>
    match reply c with
    | .ok a => (next a).denote reply
    | .error f => .error (onFault f)

/-- No call writes. -/
def ReadOnly : Program ε α → Prop
  | done _ => True
  | fail _ => True
  | note _ rest => rest.ReadOnly
  | call c _ next => c.isWrite = false ∧ ∀ a, (next a).ReadOnly

variable {reply : (c : Call) → Except Fault c.Answer} {p : Program ε α} {f : α → Program ε β}

theorem denote_bind (reply : (c : Call) → Except Fault c.Answer) (p : Program ε α)
    (f : α → Program ε β) :
    (p >>= f).denote reply = p.denote reply >>= fun a => (f a).denote reply := by
  change (p.bind f).denote reply = _
  induction p with
  | done a => rfl
  | fail e => rfl
  | note line rest ih => exact ih
  | call c onFault next ih =>
      simp only [bind, denote]
      cases reply c with
      | ok a => exact ih a
      | error fault => rfl

theorem denote_bind_of_ok {a : α} (first : p.denote reply = .ok a) :
    (p >>= f).denote reply = (f a).denote reply := by
  rw [denote_bind, first]
  rfl

theorem denote_ask {c : Call} {a : c.Answer} (answered : reply c = .ok a) :
    (ask c).denote reply = .ok a := by
  simp only [ask, denote, answered]

theorem ReadOnly.bind (first : p.ReadOnly) (rest : ∀ a, (f a).ReadOnly) : (p >>= f).ReadOnly := by
  change (p.bind f).ReadOnly
  induction p with
  | done a => exact rest a
  | fail e => trivial
  | note line rest ih => exact ih first
  | call c onFault next ih => exact ⟨first.1, fun a => ih a (first.2 a)⟩

theorem readOnly_ask {c : Call} (reads : c.isWrite = false) : (ask c).ReadOnly :=
  ⟨reads, fun _ => trivial⟩

/-- After a read, a store answers as before. -/
theorem perform_read {c : Call} (reads : c.isWrite = false) (s : Store) (other : Call) :
    ((s.perform c).2.perform other).1 = (s.perform other).1 := by
  simp only [perform_eq]
  have kept : (s.inventory.attempt s.failures c).2 = s.inventory := by
    unfold Inventory.attempt
    split
    · rfl
    · exact s.inventory.answer_read reads
  rw [kept]

/-- On a store, a program that only reads comes to what the store's answers make of it. -/
theorem runOn_of_readOnly (readOnly : p.ReadOnly) (s : Store) :
    (p.runOn s).result = p.denote fun c => (s.perform c).1 := by
  induction p generalizing s with
  | done a => rfl
  | fail e => rfl
  | note line rest ih => exact ih readOnly s
  | call c onFault next ih =>
      have same : (fun other => ((s.perform c).2.perform other).1) =
          fun other => (s.perform other).1 := funext (perform_read readOnly.1 s)
      simp only [runOn, denote]
      rcases tried : s.perform c with ⟨fault | a, after⟩
      · rfl
      · rw [tried] at same
        rw [← same]
        exact ih a (readOnly.2 a) after

end Program

/-! ## What is read of a device -/

namespace Drift

/-- What is left of a snapshot with only the addresses of those interfaces that are read. -/
def Snapshot.narrowed (p : Policy) (s : Snapshot) : Snapshot :=
  { s with
    bound := fun id =>
      if ∃ i ∈ s.interfaces, i.id = id ∧ p.readsAddresses i.name = true then s.bound id else [] }

/-- The listings that are made for a device are answered with what the snapshot shows. Those of
addresses that are not made may have any answer. -/
structure Snapshot.AnsweredBy (p : Policy) (s : Snapshot)
    (reply : (c : Call) → Except Fault c.Answer) : Prop where
  interfaces : reply (.listInterfaces (.ofDevice s.device.id)) = .ok s.interfaces
  bound : ∀ i ∈ s.interfaces, p.readsAddresses i.name = true →
    reply (.listAddresses (.ofInterface i.id)) = .ok (s.bound i.id)
  platforms : reply (.listPlatforms ⟨p.expectedPlatform⟩) = .ok s.platforms

/-- A decision is the same without the addresses that are not read. -/
theorem resolve_narrowed (p : Policy) (s : Snapshot) : resolve p (s.narrowed p) = resolve p s :=
  resolve_congr_bound fun i member reads => if_pos ⟨i, member, rfl, reads⟩

end Drift

namespace Reconciler

variable {p : Policy} {s : Snapshot} {reply : (c : Call) → Except Fault c.Answer}

theorem denote_gatherBound {full : Id → List Address} {is : List Interface}
    (answered : ∀ i ∈ is, p.readsAddresses i.name = true →
      reply (.listAddresses (.ofInterface i.id)) = .ok (full i.id)) (bound : Id → List Address) :
    (gatherBound p is bound).denote reply = .ok fun id =>
      if ∃ i ∈ is, i.id = id ∧ p.readsAddresses i.name = true then full id else bound id := by
  induction is generalizing bound with
  | nil => simp [gatherBound, Program.denote]
  | cons i rest ih =>
      have later := ih fun j member => answered j (List.mem_cons_of_mem _ member)
      by_cases reads : p.readsAddresses i.name = true
      · have listed := Program.denote_ask (answered i List.mem_cons_self reads)
        simp only [gatherBound, reads, if_true, Program.denote_bind_of_ok listed, later]
        refine congrArg Except.ok (funext fun id => ?_)
        by_cases own : i.id = id
        · subst own
          simp [reads]
        · simp [own, Ne.symm own]
      · simp only [gatherBound, reads, Bool.false_eq_true, if_false, later]
        simp [reads]

/-- The reading of a device leaves its snapshot without the addresses that are not read. -/
theorem denote_snapshot (answered : s.AnsweredBy p reply) :
    (snapshot p s.device).denote reply = .ok (s.narrowed p) := by
  have gathered := denote_gatherBound answered.bound fun _ => []
  rw [snapshot, Program.denote_bind_of_ok (Program.denote_ask answered.interfaces),
    Program.denote_bind_of_ok gathered,
    Program.denote_bind_of_ok (Program.denote_ask answered.platforms)]
  rfl

theorem readOnly_gatherBound (p : Policy) (is : List Interface) (bound : Id → List Address) :
    (gatherBound p is bound).ReadOnly := by
  induction is generalizing bound with
  | nil => trivial
  | cons i rest ih =>
      simp only [gatherBound]
      split
      · exact (Program.readOnly_ask rfl).bind fun found => ih _
      · exact ih bound

theorem readOnly_snapshot (p : Policy) (d : Device) : (snapshot p d).ReadOnly := by
  refine (Program.readOnly_ask rfl).bind fun interfaces => ?_
  refine (readOnly_gatherBound p interfaces _).bind fun bound => ?_
  exact (Program.readOnly_ask rfl).bind fun platforms => trivial

end Reconciler

namespace Drift

/-- **The addresses that are gathered are enough.** Whatever the policy and the snapshot, a decision
is the same without the addresses of the interfaces that are not read, be it actions or an
ambiguity with its count. And that is what the reading of the device leaves, with any inventory
that answers its listings with the snapshot, and so with a store. -/
theorem narrowed_suffices (p : Policy) (s : Snapshot) :
    resolve p (s.narrowed p) = resolve p s ∧
      (∀ reply, s.AnsweredBy p reply →
        (Reconciler.snapshot p s.device).denote reply = .ok (s.narrowed p)) ∧
      ∀ store : Store, s.AnsweredBy p (fun c => (store.perform c).1) →
        ((Reconciler.snapshot p s.device).runOn store).result = .ok (s.narrowed p) := by
  refine ⟨resolve_narrowed p s, fun reply answered => Reconciler.denote_snapshot answered, ?_⟩
  intro store answered
  rw [Program.runOn_of_readOnly (Reconciler.readOnly_snapshot p s.device) store]
  exact Reconciler.denote_snapshot answered

/-- A policy whose proper name is ephemeral too, and a device with an interface of another kind
that has an address of its own: that address is not gathered. -/
theorem narrowed_suffices_overlapping :
    let p : Policy := ⟨"esxi", "vmk0", "iDRAC", "vmk"⟩
    let interfaces := [Fixture.interface "" 3 "vmk0" 2, Fixture.interface "" 4 "eth0" 2]
    let addresses :=
      [Fixture.address "" 5 "10.0.0.5/24" 3, Fixture.address "" 6 "10.0.0.6/24" 4]
    let inv : Inventory := { Inventory.drifted with
      interfaces := ⟨interfaces, by decide⟩
      addresses := ⟨addresses, by decide⟩ }
    let s : Snapshot := ⟨Fixture.device "" 2 "host" .active 1 0 0, interfaces, inv.boundTo,
      [Fixture.platform "" 7 "esxi"]⟩
    let ran := (Reconciler.snapshot p s.device).runOn ⟨inv, [], .none⟩
    s.AnsweredBy p (fun c => ((⟨inv, [], .none⟩ : Store).perform c).1) ∧
      ran.result = .ok (s.narrowed p) ∧
      (s.bound 4).map (·.id) = [6] ∧ (s.narrowed p).bound 4 = [] ∧
      resolve p (s.narrowed p) =
        .ok [.updateDevice 2 7 5, .deleteAddress 5, .deleteInterface 3] := by
  intro p interfaces addresses inv s ran
  have answered : s.AnsweredBy p (fun c => ((⟨inv, [], .none⟩ : Store).perform c).1) := by
    refine ⟨rfl, ?_, rfl⟩
    intro i member reads
    simp only [s, interfaces, List.mem_cons, List.not_mem_nil, or_false] at member
    rcases member with rfl | rfl <;> rfl
  obtain ⟨same, -, gathered⟩ := narrowed_suffices p s
  refine ⟨answered, gathered _ answered, by decide, ?_, same.trans (by decide)⟩
  decide

end Drift

end InventorySync
