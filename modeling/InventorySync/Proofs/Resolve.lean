/-
# Proofs.Resolve — when a decision succeeds, and what is left of it after one action

A decision succeeds exactly if the snapshot has one out-of-band interface, with one
address, and one platform is a candidate (`resolve_eq_ok_iff`); `Resolved` names what
it found. The actions are then the rename, the correction and the cleanup, in order.

Carrying out the first action leaves a snapshot whose decision is the other actions
(`resolve_renameInterface`, `resolve_updateDevice`, `resolve_deleteAddress`,
`resolve_deleteInterface`). That needs the names of the policy to be apart
(`Policy.Separate`) and the ids of the snapshot to be distinct (`Snapshot.Distinct`).
-/
import InventorySync.Drift.Resolve
import Mathlib.Data.List.Nodup

namespace InventorySync.Drift

set_option autoImplicit false

/-- No interface is in two of the roles that a policy names. -/
structure Policy.Separate (p : Policy) : Prop where
  names : p.legacyOobName ≠ p.oobName
  oob : p.isEphemeral p.oobName = false
  legacy : p.isEphemeral p.legacyOobName = false

theorem Policy.standard_separate (platform : String) : (Policy.standard platform).Separate where
  names := by
    change "iDRAC" ≠ "remoteboard"
    decide
  oob := by
    change "vmk".toList.isPrefixOf "remoteboard".toList = false
    decide
  legacy := by
    change "vmk".toList.isPrefixOf "iDRAC".toList = false
    decide

/-- Interfaces have ids of their own, and so have the addresses bound to them. -/
structure Snapshot.Distinct (s : Snapshot) : Prop where
  interfaces : (s.interfaces.map (·.id)).Nodup
  addresses : ∀ i ∈ s.interfaces, ((s.bound i.id).map (·.id)).Nodup
  apart : ∀ i ∈ s.interfaces, ∀ j ∈ s.interfaces, i.id ≠ j.id →
    ∀ a ∈ s.bound i.id, ∀ b ∈ s.bound j.id, a.id ≠ b.id

theorem Snapshot.Distinct.eq_of_id_eq {s : Snapshot} (distinct : s.Distinct) {i j : Interface}
    (hi : i ∈ s.interfaces) (hj : j ∈ s.interfaces) (same : i.id = j.id) : i = j :=
  List.inj_on_of_nodup_map distinct.interfaces hi hj same

/-! ## Success -/

/-- What a decision finds in a snapshot that has an answer. -/
structure Resolved (p : Policy) (s : Snapshot) (oob : Interface) (isLegacy : Bool) (a : Address)
    (e : Platform) : Prop where
  legacy : (s.interfaces.filter (·.name == p.legacyOobName)) = if isLegacy then [oob] else []
  canonical : (s.interfaces.filter (·.name == p.oobName)) = if isLegacy then [] else [oob]
  address : s.bound oob.id = [a]
  platform : s.platforms = [e]

theorem oobInterface_eq_ok_iff {p : Policy} {is : List Interface} {oob : Interface}
    {isLegacy : Bool} :
    oobInterface p is = .ok (oob, isLegacy) ↔
      (is.filter (·.name == p.legacyOobName)) = (if isLegacy then [oob] else []) ∧
        (is.filter (·.name == p.oobName)) = if isLegacy then [] else [oob] := by
  simp only [oobInterface]
  generalize is.filter (·.name == p.legacyOobName) = legacy
  generalize is.filter (·.name == p.oobName) = canonical
  rcases legacy with _ | ⟨i, _ | ⟨i', l⟩⟩ <;>
    rcases canonical with _ | ⟨j, _ | ⟨j', c⟩⟩ <;>
    cases isLegacy <;> simp

theorem oobInterface_mem {p : Policy} {is : List Interface} {oob : Interface} {isLegacy : Bool}
    (found : oobInterface p is = .ok (oob, isLegacy)) :
    oob ∈ is ∧ oob.name = if isLegacy then p.legacyOobName else p.oobName := by
  obtain ⟨legacy, canonical⟩ := oobInterface_eq_ok_iff.1 found
  have listed : oob ∈ is.filter (·.name == if isLegacy then p.legacyOobName else p.oobName) := by
    cases isLegacy with
    | true => simp only [if_true, legacy, List.mem_singleton]
    | false => simp only [Bool.false_eq_true, if_false, canonical, List.mem_singleton]
  exact ⟨List.mem_of_mem_filter listed, by simpa using (List.mem_filter.1 listed).2⟩

theorem oobAddress_eq_ok_iff {s : Snapshot} {oob : Interface} {id : Id} :
    oobAddress s oob = .ok id ↔ ∃ a, s.bound oob.id = [a] ∧ a.id = id := by
  simp only [oobAddress]
  rcases s.bound oob.id with _ | ⟨a, _ | ⟨b, l⟩⟩ <;> simp

theorem expectedPlatform_eq_ok_iff {p : Policy} {s : Snapshot} {id : Id} :
    expectedPlatform p s = .ok id ↔ ∃ e, s.platforms = [e] ∧ e.id = id := by
  simp only [expectedPlatform]
  rcases s.platforms with _ | ⟨e, _ | ⟨f, l⟩⟩ <;> simp

theorem resolve_eq_ok_iff {p : Policy} {s : Snapshot} {actions : List Action} :
    resolve p s = .ok actions ↔
      ∃ oob isLegacy a e, Resolved p s oob isLegacy a e ∧
        actions = (if isLegacy then [.renameInterface oob.id p.oobName] else []) ++
          correction s.device e.id a.id ++ cleanup p s := by
  constructor
  · intro success
    simp only [resolve, bind, Except.bind] at success
    split at success <;> [cases success; skip]
    rename_i found oobFound
    split at success <;> [cases success; skip]
    rename_i oobIp addressFound
    split at success <;> [cases success; skip]
    rename_i platform platformFound
    obtain ⟨legacy, canonical⟩ := oobInterface_eq_ok_iff.1 oobFound
    obtain ⟨a, bound, rfl⟩ := oobAddress_eq_ok_iff.1 addressFound
    obtain ⟨e, only, rfl⟩ := expectedPlatform_eq_ok_iff.1 platformFound
    cases success
    exact ⟨found.1, found.2, a, e, ⟨legacy, canonical, bound, only⟩, rfl⟩
  · rintro ⟨oob, isLegacy, a, e, found, rfl⟩
    have oobFound := oobInterface_eq_ok_iff.2 ⟨found.legacy, found.canonical⟩
    have addressFound := oobAddress_eq_ok_iff.2 ⟨a, found.address, rfl⟩
    have platformFound := (expectedPlatform_eq_ok_iff (p := p)).2 ⟨e, found.platform, rfl⟩
    simp only [resolve, oobFound, addressFound, platformFound, bind, Except.bind]

namespace Resolved

variable {p : Policy} {s : Snapshot} {oob : Interface} {isLegacy : Bool} {a : Address}
  {e : Platform}

theorem oobInterface_eq (found : Resolved p s oob isLegacy a e) :
    oobInterface p s.interfaces = .ok (oob, isLegacy) :=
  oobInterface_eq_ok_iff.2 ⟨found.legacy, found.canonical⟩

theorem mem_interfaces (found : Resolved p s oob isLegacy a e) : oob ∈ s.interfaces :=
  (oobInterface_mem found.oobInterface_eq).1

theorem oob_name (found : Resolved p s oob isLegacy a e) :
    oob.name = if isLegacy then p.legacyOobName else p.oobName :=
  (oobInterface_mem found.oobInterface_eq).2

/-- An interface with one of the two names is the one that was found. -/
theorem eq_oob (found : Resolved p s oob isLegacy a e) {i : Interface} (member : i ∈ s.interfaces)
    (named : i.name = p.legacyOobName ∨ i.name = p.oobName) : i = oob := by
  rcases named with named | named
  · have listed : i ∈ s.interfaces.filter (·.name == p.legacyOobName) :=
      List.mem_filter.2 ⟨member, by simpa using named⟩
    rw [found.legacy] at listed
    cases isLegacy <;> simp_all
  · have listed : i ∈ s.interfaces.filter (·.name == p.oobName) :=
      List.mem_filter.2 ⟨member, by simpa using named⟩
    rw [found.canonical] at listed
    cases isLegacy <;> simp_all

theorem oob_not_ephemeral (found : Resolved p s oob isLegacy a e) (separate : p.Separate) :
    p.isEphemeral oob.name = false := by
  rw [found.oob_name]
  cases isLegacy
  · exact separate.oob
  · exact separate.legacy

/-- An ephemeral interface is not the one that was found. -/
theorem id_ne_of_ephemeral (found : Resolved p s oob isLegacy a e) (separate : p.Separate)
    (distinct : s.Distinct) {i : Interface} (member : i ∈ s.interfaces)
    (ephemeral : p.isEphemeral i.name = true) : oob.id ≠ i.id := by
  intro same
  rw [← distinct.eq_of_id_eq found.mem_interfaces member same,
    found.oob_not_ephemeral separate] at ephemeral
  cases ephemeral

end Resolved

/-- A decision looks at the addresses of the interfaces that are read, and at no others. -/
theorem resolve_congr_bound {p : Policy} {s : Snapshot} {bound : Id → List Address}
    (same : ∀ i ∈ s.interfaces, p.readsAddresses i.name = true → bound i.id = s.bound i.id) :
    resolve p { s with bound := bound } = resolve p s := by
  have sameCleanup : cleanup p { s with bound := bound } = cleanup p s := by
    refine List.flatMap_congr fun i listed => ?_
    obtain ⟨member, ephemeral⟩ := List.mem_filter.1 listed
    simp only [same i member (by simp [Policy.readsAddresses, ephemeral])]
  simp only [resolve, bind, Except.bind]
  cases found : oobInterface p s.interfaces with
  | error ambiguity => rfl
  | ok answer =>
      obtain ⟨oob, isLegacy⟩ := answer
      obtain ⟨member, named⟩ := oobInterface_mem found
      have reads : p.readsAddresses oob.name = true := by
        cases isLegacy <;> simp [Policy.readsAddresses, named]
      have sameAddress : oobAddress { s with bound := bound } oob = oobAddress s oob := by
        simp only [oobAddress, same oob member reads]
      simp only [sameAddress, sameCleanup]
      rfl

/-! ## The first action

One statement for each kind of first action, about the snapshot before it. -/

variable {p : Policy} {s : Snapshot}

/-- The removal of one ephemeral interface. -/
def clearance (s : Snapshot) (i : Interface) : List Action :=
  (s.bound i.id).map (fun a => .deleteAddress a.id) ++ [.deleteInterface i.id]

theorem cleanup_eq (p : Policy) (s : Snapshot) :
    cleanup p s = (s.interfaces.filter fun i => p.isEphemeral i.name).flatMap (clearance s) := rfl

theorem correction_eq_cons {d : Device} {platform oobIp : Id} {x : Action} {rest : List Action}
    (splits : correction d platform oobIp = x :: rest) :
    x = .updateDevice d.id platform oobIp ∧ rest = [] := by
  simp only [correction] at splits
  split at splits
  · cases splits
  · cases splits
    exact ⟨rfl, rfl⟩

theorem correction_eq_nil_iff {d : Device} {platform oobIp : Id} :
    correction d platform oobIp = [] ↔ d.platformId = platform ∧ d.oobIpId = oobIp := by
  simp [correction]

theorem cleanup_eq_nil_iff :
    cleanup p s = [] ↔ ∀ i ∈ s.interfaces, p.isEphemeral i.name = false := by
  simp [cleanup_eq, clearance]

/-- When there is nothing to do. -/
theorem resolve_eq_nil_iff :
    resolve p s = .ok [] ↔ ∃ oob a e, Resolved p s oob false a e ∧ s.device.platformId = e.id ∧
      s.device.oobIpId = a.id ∧ ∀ i ∈ s.interfaces, p.isEphemeral i.name = false := by
  rw [resolve_eq_ok_iff]
  constructor
  · rintro ⟨oob, isLegacy, a, e, found, nothing⟩
    cases isLegacy with
    | true => cases nothing
    | false =>
        obtain ⟨corrected, clean⟩ := List.append_eq_nil_iff.1 nothing.symm
        obtain ⟨platformSet, oobIpSet⟩ := correction_eq_nil_iff.1 corrected
        exact ⟨oob, a, e, found, platformSet, oobIpSet, cleanup_eq_nil_iff.1 clean⟩
  · rintro ⟨oob, a, e, found, platformSet, oobIpSet, clean⟩
    refine ⟨oob, false, a, e, found, ?_⟩
    rw [correction_eq_nil_iff.2 ⟨platformSet, oobIpSet⟩, cleanup_eq_nil_iff.2 clean]
    rfl

/-- The first ephemeral interface, and what its removal begins with. -/
theorem cleanup_eq_cons {x : Action} {rest : List Action} (splits : cleanup p s = x :: rest) :
    ∃ i others, (s.interfaces.filter fun i => p.isEphemeral i.name) = i :: others ∧
      ((s.bound i.id = [] ∧ x = .deleteInterface i.id ∧ rest = others.flatMap (clearance s)) ∨
        ∃ a more, s.bound i.id = a :: more ∧ x = .deleteAddress a.id ∧
          rest = more.map (fun a => .deleteAddress a.id) ++
            .deleteInterface i.id :: others.flatMap (clearance s)) := by
  rw [cleanup_eq] at splits
  cases ephemeral : s.interfaces.filter fun i => p.isEphemeral i.name with
  | nil => simp [ephemeral] at splits
  | cons i others =>
      refine ⟨i, others, rfl, ?_⟩
      simp only [ephemeral, List.flatMap_cons, clearance] at splits
      cases bound : s.bound i.id with
      | nil =>
          simp only [bound, List.map_nil, List.nil_append, List.singleton_append,
            List.cons.injEq] at splits
          exact .inl ⟨rfl, splits.1.symm, splits.2.symm⟩
      | cons a more =>
          simp only [bound, List.map_cons, List.cons_append, List.append_assoc,
            List.cons.injEq] at splits
          exact .inr ⟨a, more, rfl, splits.1.symm, splits.2.symm⟩

theorem cleanup_head_ne {x : Action} {rest : List Action} (splits : cleanup p s = x :: rest) :
    (∀ id name, x ≠ .renameInterface id name) ∧
      ∀ id platform oobIp, x ≠ .updateDevice id platform oobIp := by
  obtain ⟨i, _, _, ⟨_, rfl, _⟩ | ⟨a, _, _, rfl, _⟩⟩ := cleanup_eq_cons splits <;> simp

/-- Every decision with actions begins with one of three kinds, and the parts before
it are empty. -/
theorem resolve_eq_cons {x : Action} {rest : List Action}
    (decided : resolve p s = .ok (x :: rest)) :
    ∃ oob isLegacy a e, Resolved p s oob isLegacy a e ∧
      ((isLegacy = true ∧ x = .renameInterface oob.id p.oobName ∧
          rest = correction s.device e.id a.id ++ cleanup p s) ∨
        (isLegacy = false ∧ x = .updateDevice s.device.id e.id a.id ∧ rest = cleanup p s) ∨
        (isLegacy = false ∧ correction s.device e.id a.id = [] ∧ cleanup p s = x :: rest)) := by
  obtain ⟨oob, isLegacy, a, e, found, splits⟩ := resolve_eq_ok_iff.1 decided
  refine ⟨oob, isLegacy, a, e, found, ?_⟩
  cases isLegacy with
  | true =>
      simp only [if_true, List.cons_append, List.cons.injEq] at splits
      exact .inl ⟨rfl, splits.1, splits.2⟩
  | false =>
      simp only [Bool.false_eq_true, if_false, List.nil_append] at splits
      cases corrected : correction s.device e.id a.id with
      | nil => exact .inr (.inr ⟨rfl, rfl, by simpa [corrected] using splits.symm⟩)
      | cons y ys =>
          obtain ⟨rfl, rfl⟩ := correction_eq_cons corrected
          simp only [corrected, List.singleton_append, List.cons.injEq] at splits
          exact .inr (.inl ⟨rfl, splits.1, splits.2⟩)

/-! ## After the first action -/

/-- Renaming the interface that was found changes one name only. -/
theorem Resolved.name_of_renamed {oob : Interface} {a : Address} {e : Platform}
    (found : Resolved p s oob true a e) (distinct : s.Distinct) {f : Interface → Interface}
    (renamed : ∀ i, (f i).name = p.oobName) {i : Interface} (member : i ∈ s.interfaces) :
    (if i.id = oob.id then f i else i).name =
      if i.name = p.legacyOobName then p.oobName else i.name := by
  by_cases same : i.id = oob.id
  · have isOob := distinct.eq_of_id_eq member found.mem_interfaces same
    have legacy : i.name = p.legacyOobName := by simpa [isOob] using found.oob_name
    simp only [same, legacy, if_true, renamed]
  · have other : i.name ≠ p.legacyOobName := fun named =>
      same (congrArg (·.id) (found.eq_oob member (.inl named)))
    simp only [same, other, if_false]

theorem Resolved.name_ne_of_legacy {oob : Interface} {a : Address} {e : Platform}
    (found : Resolved p s oob true a e) {i : Interface} (member : i ∈ s.interfaces) :
    i.name ≠ p.oobName := by
  intro named
  have listed : i ∈ s.interfaces.filter (·.name == p.oobName) :=
    List.mem_filter.2 ⟨member, by simpa using named⟩
  simp [found.canonical] at listed

theorem resolve_renameInterface (separate : p.Separate) (distinct : s.Distinct) {id : Id}
    {name : String} {rest : List Action} {f : Interface → Interface}
    (decided : resolve p s = .ok (.renameInterface id name :: rest))
    (sameId : ∀ i, (f i).id = i.id) (renamed : ∀ i, (f i).name = name) :
    resolve p { s with interfaces := s.interfaces.map fun i => if i.id = id then f i else i } =
      .ok rest := by
  obtain ⟨oob, isLegacy, a, e, found, ⟨rfl, kind, rfl⟩ | ⟨-, kind, -⟩ | ⟨-, -, splits⟩⟩ :=
    resolve_eq_cons decided
  · cases kind
    generalize hg : (fun i : Interface => if i.id = oob.id then f i else i) = g
    have nameAfter : ∀ i ∈ s.interfaces,
        (g i).name = if i.name = p.legacyOobName then p.oobName else i.name :=
      hg ▸ fun _ member => found.name_of_renamed distinct renamed member
    have oobAfter : g oob = f oob := hg ▸ if_pos rfl
    -- The rename moves the one interface from one list of names to the other.
    have noLegacy : (s.interfaces.map g).filter (·.name == p.legacyOobName) = [] := by
      refine List.filter_eq_nil_iff.2 fun i member => ?_
      obtain ⟨j, row, rfl⟩ := List.mem_map.1 member
      have apart := separate.names.symm
      by_cases legacy : j.name = p.legacyOobName <;> simp [nameAfter j row, legacy, apart]
    have oneCanonical : (s.interfaces.map g).filter (·.name == p.oobName) = [f oob] := by
      have same : ∀ i ∈ s.interfaces,
          ((·.name == p.oobName) ∘ g) i = (i.name == p.legacyOobName) := by
        intro i member
        have other := found.name_ne_of_legacy member
        by_cases legacy : i.name = p.legacyOobName <;> simp [nameAfter i member, legacy, other]
      have legacy : s.interfaces.filter (·.name == p.legacyOobName) = [oob] := found.legacy
      rw [List.filter_map, List.filter_congr same, legacy, List.map_singleton, oobAfter]
    have sameEphemeral : (s.interfaces.map g).filter (fun i => p.isEphemeral i.name) =
        s.interfaces.filter fun i => p.isEphemeral i.name := by
      have same : ∀ i ∈ s.interfaces,
          ((fun i => p.isEphemeral i.name) ∘ g) i = p.isEphemeral i.name := by
        intro i member
        by_cases legacy : i.name = p.legacyOobName <;>
          simp [nameAfter i member, legacy, separate.oob, separate.legacy]
      rw [List.filter_map, List.filter_congr same]
      refine (List.map_congr_left fun i member => ?_).trans (List.map_id _)
      obtain ⟨row, ephemeral⟩ := List.mem_filter.1 member
      subst hg
      exact if_neg (found.id_ne_of_ephemeral separate distinct row ephemeral).symm
    refine resolve_eq_ok_iff.2 ⟨f oob, false, a, e,
      ⟨noLegacy, oneCanonical, by simpa only [sameId] using found.address, found.platform⟩, ?_⟩
    simp only [Bool.false_eq_true, if_false, List.nil_append, cleanup_eq, sameEphemeral]
    rfl
  · cases kind
  · exact absurd rfl ((cleanup_head_ne splits).1 id name)

theorem resolve_updateDevice {id platform oobIp : Id} {rest : List Action} {d : Device}
    (decided : resolve p s = .ok (.updateDevice id platform oobIp :: rest))
    (platformSet : d.platformId = platform) (oobIpSet : d.oobIpId = oobIp) :
    resolve p { s with device := d } = .ok rest := by
  obtain ⟨oob, isLegacy, a, e, found, ⟨-, kind, -⟩ | ⟨rfl, kind, rfl⟩ | ⟨-, -, splits⟩⟩ :=
    resolve_eq_cons decided
  · cases kind
  · cases kind
    refine resolve_eq_ok_iff.2 ⟨oob, false, a, e, ⟨found.legacy, found.canonical, found.address,
      found.platform⟩, ?_⟩
    have corrected : correction d e.id a.id = [] := correction_eq_nil_iff.2 ⟨platformSet, oobIpSet⟩
    simp only [corrected, Bool.false_eq_true, if_false, List.nil_append]
    rfl
  · exact absurd rfl ((cleanup_head_ne splits).2 id platform oobIp)

/-- The ephemeral interfaces of a snapshot have ids of their own. -/
theorem Snapshot.Distinct.ephemeral {i : Interface} {others : List Interface}
    (distinct : s.Distinct)
    (listed : (s.interfaces.filter fun i => p.isEphemeral i.name) = i :: others) :
    i ∈ s.interfaces ∧ p.isEphemeral i.name = true ∧
      ∀ j ∈ others, j ∈ s.interfaces ∧ j.id ≠ i.id := by
  have nodup := distinct.interfaces.sublist
    ((List.filter_sublist (p := fun i : Interface => p.isEphemeral i.name)).map _)
  rw [listed, List.map_cons, List.nodup_cons] at nodup
  have member : ∀ j ∈ i :: others, j ∈ s.interfaces ∧ p.isEphemeral j.name = true :=
    fun j mem => List.mem_filter.1 (listed ▸ mem)
  refine ⟨(member i List.mem_cons_self).1, (member i List.mem_cons_self).2, fun j mem => ?_⟩
  refine ⟨(member j (List.mem_cons_of_mem _ mem)).1, fun same => nodup.1 ?_⟩
  exact List.mem_map.2 ⟨j, mem, same⟩

theorem resolve_deleteAddress (separate : p.Separate) (distinct : s.Distinct) {id : Id}
    {rest : List Action} (decided : resolve p s = .ok (.deleteAddress id :: rest)) :
    resolve p { s with bound := fun i => (s.bound i).filter fun a => a.id != id } = .ok rest := by
  obtain ⟨oob, isLegacy, a, e, found, ⟨-, kind, -⟩ | ⟨-, kind, -⟩ | ⟨rfl, corrected, splits⟩⟩ :=
    resolve_eq_cons decided
  · cases kind
  · cases kind
  · obtain ⟨i, others, listed, ⟨-, kind, -⟩ | ⟨b, more, bound, kind, rfl⟩⟩ :=
      cleanup_eq_cons splits
    · cases kind
    · cases kind
      obtain ⟨row, ephemeral, apart⟩ := distinct.ephemeral listed
      have kept : ∀ j ∈ s.interfaces, j.id ≠ i.id →
          ((s.bound j.id).filter fun a => a.id != b.id) = s.bound j.id := by
        intro j member ne
        refine List.filter_eq_self.2 fun c mem => bne_iff_ne.2 ?_
        exact distinct.apart j member i row ne c mem b (bound ▸ List.mem_cons_self)
      have left : ((s.bound i.id).filter fun a => a.id != b.id) = more := by
        have nodup := distinct.addresses i row
        rw [bound, List.map_cons, List.nodup_cons] at nodup
        rw [bound, List.filter_cons_of_neg (by simp)]
        refine List.filter_eq_self.2 fun c mem => bne_iff_ne.2 fun same => nodup.1 ?_
        exact List.mem_map.2 ⟨c, mem, same⟩
      have oobKept : oob.id ≠ i.id := found.id_ne_of_ephemeral separate distinct row ephemeral
      refine resolve_eq_ok_iff.2 ⟨oob, false, a, e, ⟨found.legacy, found.canonical,
        (kept oob found.mem_interfaces oobKept).trans found.address, found.platform⟩, ?_⟩
      have same : others.flatMap (clearance
          { s with bound := fun i => (s.bound i).filter fun a => a.id != b.id }) =
          others.flatMap (clearance s) := by
        refine List.flatMap_congr fun j mem => ?_
        simp only [clearance, kept j (apart j mem).1 (apart j mem).2]
      simp only [corrected, Bool.false_eq_true, if_false, List.nil_append, cleanup_eq, listed,
        List.flatMap_cons, same]
      simp only [clearance, left, List.append_assoc, List.singleton_append]

theorem resolve_deleteInterface (separate : p.Separate) (distinct : s.Distinct) {id : Id}
    {rest : List Action} (decided : resolve p s = .ok (.deleteInterface id :: rest)) :
    resolve p { s with interfaces := s.interfaces.filter fun i => i.id != id } = .ok rest := by
  obtain ⟨oob, isLegacy, a, e, found, ⟨-, kind, -⟩ | ⟨-, kind, -⟩ | ⟨rfl, corrected, splits⟩⟩ :=
    resolve_eq_cons decided
  · cases kind
  · cases kind
  · obtain ⟨i, others, listed, ⟨-, kind, rfl⟩ | ⟨b, more, -, kind, -⟩⟩ := cleanup_eq_cons splits
    · cases kind
      obtain ⟨row, ephemeral, apart⟩ := distinct.ephemeral listed
      have oobKept : oob.id ≠ i.id := found.id_ne_of_ephemeral separate distinct row ephemeral
      have legacy : s.interfaces.filter (·.name == p.legacyOobName) = [] := found.legacy
      have canonical : s.interfaces.filter (·.name == p.oobName) = [oob] := found.canonical
      have left : ((i :: others).filter fun j => j.id != i.id) = others := by
        rw [List.filter_cons_of_neg (by simp)]
        exact List.filter_eq_self.2 fun j mem => bne_iff_ne.2 (apart j mem).2
      refine resolve_eq_ok_iff.2 ⟨oob, false, a, e, ⟨?_, ?_, found.address, found.platform⟩, ?_⟩
      · rw [List.filter_comm, legacy]
        rfl
      · rw [List.filter_comm, canonical]
        simp [oobKept]
      · simp only [corrected, Bool.false_eq_true, if_false, List.nil_append, cleanup_eq]
        rw [List.filter_comm, listed, left]
        rfl
    · cases kind

end InventorySync.Drift
