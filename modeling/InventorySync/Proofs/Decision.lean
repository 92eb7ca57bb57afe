/-
# Proofs.Decision — every decision, from the names, counts and references of a snapshot

How many interfaces bear the legacy and the canonical name decides first: none at all is one
ambiguity, two or more another, both with the exact counts. Exactly one is the out-of-band
interface (`Sole`), and then its addresses and the candidates for the platform are counted, in
that order. Whatever is left has an answer.

An answer is described without the functions that compute it. `Prescribed` asks for a rename if
the interface bears its legacy name, for an update if a reference is wrong, and for what `Clears`
lists: each ephemeral interface in turn, after its addresses.

`resolve_spec`: a decision is that ambiguity, or that list; and there is nothing to do if and only
if the device is `InLine`.
-/
import InventorySync.Inventory.Fixture
import InventorySync.Proofs.Resolve

namespace InventorySync.Drift

set_option autoImplicit false

/-! ## What a snapshot shows -/

/-- How many interfaces bear the name. -/
def Snapshot.bearers (s : Snapshot) (name : String) : Nat :=
  s.interfaces.countP (·.name == name)

/-- The only interface that has one of the two out-of-band names. -/
structure Sole (p : Policy) (s : Snapshot) (oob : Interface) : Prop where
  member : oob ∈ s.interfaces
  named : oob.name = p.legacyOobName ∨ oob.name = p.oobName
  alone : s.bearers p.legacyOobName + s.bearers p.oobName = 1

/-- The actions that remove the ephemeral ones of some interfaces, in their order: of each its
addresses, in theirs, and then the interface. -/
inductive Clears (p : Policy) (s : Snapshot) : List Interface → List Action → Prop
  | done : Clears p s [] []
  | keep {i : Interface} {others : List Interface} {later : List Action}
      (lasting : ¬ p.ephemeralStart.toList <+: i.name.toList) (clears : Clears p s others later) :
      Clears p s (i :: others) later
  | remove {i : Interface} {others : List Interface} {later : List Action}
      (ephemeral : p.ephemeralStart.toList <+: i.name.toList) (clears : Clears p s others later) :
      Clears p s (i :: others)
        ((s.bound i.id).map (fun a => .deleteAddress a.id) ++ .deleteInterface i.id :: later)

/-- The actions that a device calls for, given its out-of-band interface, the address of that and
the platform: a rename, an update, and the removals, each of them only if there is cause. -/
def Prescribed (p : Policy) (s : Snapshot) (oob : Interface) (a : Address) (e : Platform)
    (actions : List Action) : Prop :=
  ∃ rename update removals, actions = rename ++ update ++ removals ∧
    (s.bearers p.legacyOobName = 1 ∧ rename = [.renameInterface oob.id p.oobName] ∨
      s.bearers p.legacyOobName = 0 ∧ rename = []) ∧
    ((s.device.platformId ≠ e.id ∨ s.device.oobIpId ≠ a.id) ∧
        update = [.updateDevice s.device.id e.id a.id] ∨
      (s.device.platformId = e.id ∧ s.device.oobIpId = a.id) ∧ update = []) ∧
    Clears p s s.interfaces removals

/-- A device that needs nothing. -/
structure InLine (p : Policy) (s : Snapshot) : Prop where
  legacy : s.bearers p.legacyOobName = 0
  canonical : s.bearers p.oobName = 1
  ephemeral : ∀ i ∈ s.interfaces, ¬ p.ephemeralStart.toList <+: i.name.toList
  oobIp : ∀ i ∈ s.interfaces, i.name = p.oobName → (s.bound i.id).map (·.id) = [s.device.oobIpId]
  platform : s.platforms.map (·.id) = [s.device.platformId]

variable {p : Policy} {s : Snapshot}

/-! ## The out-of-band interface -/

theorem length_filter_name (name : String) :
    (s.interfaces.filter (·.name == name)).length = s.bearers name :=
  List.countP_eq_length_filter.symm

theorem filter_name_eq_nil_iff {name : String} :
    s.interfaces.filter (·.name == name) = [] ↔ s.bearers name = 0 := by
  rw [← length_filter_name, List.length_eq_zero_iff]

/-- An interface that alone bears its name is all that the name selects. -/
theorem filter_name_eq_singleton {i : Interface} {name : String} (member : i ∈ s.interfaces)
    (named : i.name = name) (one : s.bearers name = 1) :
    s.interfaces.filter (·.name == name) = [i] := by
  rw [← length_filter_name, List.length_eq_one_iff] at one
  obtain ⟨j, only⟩ := one
  have selected : i ∈ s.interfaces.filter (·.name == name) :=
    List.mem_filter.2 ⟨member, by simpa using named⟩
  rw [only] at selected ⊢
  rw [List.mem_singleton.1 selected]

theorem bearers_pos {i : Interface} {name : String} (member : i ∈ s.interfaces)
    (named : i.name = name) : 0 < s.bearers name :=
  List.countP_pos_iff.2 ⟨i, member, by simpa using named⟩

/-- Why no interface, or not one, is found: the counts say it. -/
theorem oobInterface_eq_error_iff {x : Ambiguity} :
    oobInterface p s.interfaces = .error x ↔
      (x = .noOobInterface ∧ s.bearers p.legacyOobName = 0 ∧ s.bearers p.oobName = 0) ∨
      (x = .manyOobInterfaces (s.bearers p.legacyOobName) (s.bearers p.oobName) ∧
        2 ≤ s.bearers p.legacyOobName + s.bearers p.oobName) := by
  simp only [oobInterface, ← length_filter_name]
  generalize s.interfaces.filter (·.name == p.legacyOobName) = legacy
  generalize s.interfaces.filter (·.name == p.oobName) = canonical
  rcases legacy with _ | ⟨i, _ | ⟨i', l⟩⟩ <;> rcases canonical with _ | ⟨j, _ | ⟨j', c⟩⟩ <;>
    simp [eq_comm] <;> omega

theorem oobInterface_eq_sole_iff {oob : Interface} {isLegacy : Bool} :
    oobInterface p s.interfaces = .ok (oob, isLegacy) ↔
      Sole p s oob ∧ s.bearers p.legacyOobName = if isLegacy then 1 else 0 := by
  constructor
  · intro found
    obtain ⟨legacy, canonical⟩ := oobInterface_eq_ok_iff.1 found
    obtain ⟨member, named⟩ := oobInterface_mem found
    have legacyCount := length_filter_name (s := s) p.legacyOobName
    have canonicalCount := length_filter_name (s := s) p.oobName
    rw [legacy] at legacyCount
    rw [canonical] at canonicalCount
    cases isLegacy with
    | true => exact ⟨⟨member, .inl named, by rw [← legacyCount, ← canonicalCount]; rfl⟩,
        legacyCount.symm⟩
    | false => exact ⟨⟨member, .inr named, by rw [← legacyCount, ← canonicalCount]; rfl⟩,
        legacyCount.symm⟩
  · rintro ⟨⟨member, named, alone⟩, count⟩
    rw [oobInterface_eq_ok_iff]
    cases isLegacy with
    | true =>
        simp only [if_true] at count ⊢
        have none : s.bearers p.oobName = 0 := by omega
        have legacy := named.resolve_right fun canonical => by
          have := bearers_pos member canonical
          omega
        exact ⟨filter_name_eq_singleton member legacy count, filter_name_eq_nil_iff.2 none⟩
    | false =>
        simp only [Bool.false_eq_true, if_false] at count ⊢
        have one : s.bearers p.oobName = 1 := by omega
        have canonical := named.resolve_left fun legacy => by
          have := bearers_pos member legacy
          omega
        exact ⟨filter_name_eq_nil_iff.2 count, filter_name_eq_singleton member canonical one⟩

/-- There is a sole interface exactly if one is found. -/
theorem exists_oobInterface_iff {oob : Interface} :
    (∃ isLegacy, oobInterface p s.interfaces = .ok (oob, isLegacy)) ↔ Sole p s oob := by
  constructor
  · rintro ⟨isLegacy, found⟩
    exact (oobInterface_eq_sole_iff.1 found).1
  · intro sole
    have alone := sole.alone
    rcases Nat.eq_zero_or_pos (s.bearers p.legacyOobName) with none | some
    · exact ⟨false, oobInterface_eq_sole_iff.2 ⟨sole, none⟩⟩
    · have one : s.bearers p.legacyOobName = 1 := by omega
      exact ⟨true, oobInterface_eq_sole_iff.2 ⟨sole, one⟩⟩

/-! ## Ambiguities -/

theorem oobAddress_eq_error_iff {oob : Interface} {x : Ambiguity} :
    oobAddress s oob = .error x ↔
      x = .oobAddress oob.name oob.id (s.bound oob.id).length ∧ (s.bound oob.id).length ≠ 1 := by
  simp only [oobAddress]
  rcases s.bound oob.id with _ | ⟨a, _ | ⟨b, l⟩⟩ <;> simp [eq_comm]

theorem exists_oobAddress_iff {oob : Interface} :
    (∃ id, oobAddress s oob = .ok id) ↔ (s.bound oob.id).length = 1 := by
  simp only [oobAddress]
  rcases s.bound oob.id with _ | ⟨a, _ | ⟨b, l⟩⟩ <;> simp

theorem expectedPlatform_eq_error_iff {x : Ambiguity} :
    expectedPlatform p s = .error x ↔
      x = .platform p.expectedPlatform s.platforms.length ∧ s.platforms.length ≠ 1 := by
  simp only [expectedPlatform]
  rcases s.platforms with _ | ⟨e, _ | ⟨f, l⟩⟩ <;> simp [eq_comm]

/-- The interface is looked for first, then its address, and then the platform. -/
theorem resolve_eq_error_iff {x : Ambiguity} :
    resolve p s = .error x ↔
      oobInterface p s.interfaces = .error x ∨ ∃ oob, Sole p s oob ∧
        (oobAddress s oob = .error x ∨
          (s.bound oob.id).length = 1 ∧ expectedPlatform p s = .error x) := by
  simp only [← exists_oobInterface_iff, ← exists_oobAddress_iff, resolve, bind, Except.bind]
  cases found : oobInterface p s.interfaces with
  | error y => simp
  | ok answer =>
      obtain ⟨oob, isLegacy⟩ := answer
      cases bound : oobAddress s oob with
      | error y => simp [bound]
      | ok oobIp => cases platform : expectedPlatform p s <;> simp [bound]

/-! ## Answers -/

theorem clears_iff {is : List Interface} {actions : List Action} :
    Clears p s is actions ↔
      actions = (is.filter fun i => p.isEphemeral i.name).flatMap (clearance s) := by
  constructor
  · intro clears
    induction clears with
    | done => rfl
    | keep lasting _ ih =>
        rw [List.filter_cons_of_neg (by simpa using Policy.isEphemeral_eq_false_iff.2 lasting), ih]
    | remove ephemeral _ ih =>
        rw [List.filter_cons_of_pos (by simpa using Policy.isEphemeral_iff.2 ephemeral),
          List.flatMap_cons, ih, clearance, List.append_assoc]
        rfl
  · rintro rfl
    induction is with
    | nil => exact .done
    | cons i others ih =>
        cases ephemeral : p.isEphemeral i.name with
        | false =>
            rw [List.filter_cons_of_neg (by simp [ephemeral])]
            exact .keep (Policy.isEphemeral_eq_false_iff.1 ephemeral) ih
        | true =>
            rw [List.filter_cons_of_pos (by simpa using ephemeral), List.flatMap_cons, clearance,
              List.append_assoc]
            exact .remove (Policy.isEphemeral_iff.1 ephemeral) ih

theorem prescribed_iff {oob : Interface} {isLegacy : Bool} {a : Address} {e : Platform}
    {actions : List Action} (count : s.bearers p.legacyOobName = if isLegacy then 1 else 0) :
    Prescribed p s oob a e actions ↔
      actions = (if isLegacy then [.renameInterface oob.id p.oobName] else []) ++
        correction s.device e.id a.id ++ cleanup p s := by
  have renames {rename : List Action} :
      (s.bearers p.legacyOobName = 1 ∧ rename = [.renameInterface oob.id p.oobName] ∨
        s.bearers p.legacyOobName = 0 ∧ rename = []) ↔
      rename = if isLegacy then [.renameInterface oob.id p.oobName] else [] := by
    cases isLegacy <;> simp [count]
  have updates {update : List Action} :
      ((s.device.platformId ≠ e.id ∨ s.device.oobIpId ≠ a.id) ∧
          update = [.updateDevice s.device.id e.id a.id] ∨
        (s.device.platformId = e.id ∧ s.device.oobIpId = a.id) ∧ update = []) ↔
      update = correction s.device e.id a.id := by
    rw [← not_and_or, correction]
    split <;> simp [*]
  simp only [Prescribed, renames, updates, clears_iff, ← cleanup_eq]
  constructor
  · rintro ⟨rename, update, removals, rfl, rfl, rfl, rfl⟩
    rfl
  · rintro rfl
    exact ⟨_, _, _, rfl, rfl, rfl, rfl⟩

theorem resolve_eq_prescribed_iff {actions : List Action} :
    resolve p s = .ok actions ↔
      ∃ oob a e, Sole p s oob ∧ s.bound oob.id = [a] ∧ s.platforms = [e] ∧
        Prescribed p s oob a e actions := by
  rw [resolve_eq_ok_iff]
  constructor
  · rintro ⟨oob, isLegacy, a, e, found, actions⟩
    obtain ⟨sole, count⟩ := oobInterface_eq_sole_iff.1 found.oobInterface_eq
    exact ⟨oob, a, e, sole, found.address, found.platform, (prescribed_iff count).2 actions⟩
  · rintro ⟨oob, a, e, sole, address, platform, prescribed⟩
    obtain ⟨isLegacy, found⟩ := exists_oobInterface_iff.2 sole
    obtain ⟨legacy, canonical⟩ := oobInterface_eq_ok_iff.1 found
    have count := (oobInterface_eq_sole_iff.1 found).2
    exact ⟨oob, isLegacy, a, e, ⟨legacy, canonical, address, platform⟩,
      (prescribed_iff count).1 prescribed⟩

theorem resolve_eq_nil_iff_inLine : resolve p s = .ok [] ↔ InLine p s := by
  rw [resolve_eq_nil_iff]
  constructor
  · rintro ⟨oob, a, e, found, platformSet, oobIpSet, clean⟩
    have legacy := filter_name_eq_nil_iff.1 found.legacy
    have canonical : s.bearers p.oobName = 1 := by
      rw [← length_filter_name, found.canonical]
      rfl
    refine ⟨legacy, canonical, fun i member => Policy.isEphemeral_eq_false_iff.1 (clean i member),
      fun i member named => ?_, ?_⟩
    · rw [found.eq_oob member (.inr named), found.address, oobIpSet]
      rfl
    · rw [found.platform, platformSet]
      rfl
  · rintro ⟨legacy, canonical, clean, oobIp, platform⟩
    obtain ⟨oob, only⟩ := List.length_eq_one_iff.1 ((length_filter_name p.oobName).trans canonical)
    have listed : oob ∈ s.interfaces.filter (·.name == p.oobName) :=
      only ▸ List.mem_singleton_self _
    obtain ⟨member, named⟩ := List.mem_filter.1 listed
    obtain ⟨a, address, oobIpSet⟩ :=
      List.map_eq_singleton_iff.1 (oobIp oob member (by simpa using named))
    obtain ⟨e, candidates, platformSet⟩ := List.map_eq_singleton_iff.1 platform
    exact ⟨oob, a, e, ⟨filter_name_eq_nil_iff.2 legacy, only, address, candidates⟩,
      platformSet.symm, oobIpSet.symm,
      fun i member => Policy.isEphemeral_eq_false_iff.2 (clean i member)⟩

/-- **A decision meets its specification**, whatever the snapshot holds and the policy's names are.
Each ambiguity has its exact condition and carries the exact counts; otherwise the actions are the
ones prescribed, and there are none if and only if the device is in line. -/
theorem resolve_spec (p : Policy) (s : Snapshot) :
    (resolve p s = .error .noOobInterface ↔
      s.bearers p.legacyOobName = 0 ∧ s.bearers p.oobName = 0) ∧
    (∀ l c, resolve p s = .error (.manyOobInterfaces l c) ↔
      l = s.bearers p.legacyOobName ∧ c = s.bearers p.oobName ∧ 2 ≤ l + c) ∧
    (∀ name id n, resolve p s = .error (.oobAddress name id n) ↔
      ∃ oob, Sole p s oob ∧ name = oob.name ∧ id = oob.id ∧ n = (s.bound oob.id).length ∧ n ≠ 1) ∧
    (∀ name n, resolve p s = .error (.platform name n) ↔
      (∃ oob, Sole p s oob ∧ (s.bound oob.id).length = 1) ∧
        name = p.expectedPlatform ∧ n = s.platforms.length ∧ n ≠ 1) ∧
    (∀ actions, resolve p s = .ok actions ↔
      ∃ oob a e, Sole p s oob ∧ s.bound oob.id = [a] ∧ s.platforms = [e] ∧
        Prescribed p s oob a e actions) ∧
    (resolve p s = .ok [] ↔ InLine p s) := by
  refine ⟨?_, fun l c => ?_, fun name id n => ?_, fun name n => ?_,
    fun actions => resolve_eq_prescribed_iff, resolve_eq_nil_iff_inLine⟩ <;>
    simp only [resolve_eq_error_iff, oobInterface_eq_error_iff, oobAddress_eq_error_iff,
      expectedPlatform_eq_error_iff, Ambiguity.manyOobInterfaces.injEq, Ambiguity.oobAddress.injEq,
      Ambiguity.platform.injEq, reduceCtorEq, true_and, false_and, and_false, false_or, or_false,
      exists_false, ne_eq]
  · constructor
    · rintro ⟨⟨rfl, rfl⟩, many⟩
      exact ⟨rfl, rfl, many⟩
    · rintro ⟨rfl, rfl, many⟩
      exact ⟨⟨rfl, rfl⟩, many⟩
  · constructor
    · rintro ⟨oob, sole, ⟨rfl, rfl, rfl⟩, count⟩
      exact ⟨oob, sole, rfl, rfl, rfl, count⟩
    · rintro ⟨oob, sole, rfl, rfl, rfl, count⟩
      exact ⟨oob, sole, ⟨rfl, rfl, rfl⟩, count⟩
  · constructor
    · rintro ⟨oob, sole, address, ⟨rfl, rfl⟩, count⟩
      exact ⟨⟨oob, sole, address⟩, rfl, rfl, count⟩
    · rintro ⟨⟨oob, sole, address⟩, rfl, rfl, count⟩
      exact ⟨oob, sole, address, ⟨rfl, rfl⟩, count⟩

/-- A device with two interfaces left over, the first of them with two addresses. Its out-of-band
interface has the legacy name, and the platform is right. -/
def leftovers : Snapshot where
  device := Fixture.device "" 2 "host" .active 1 7 0
  interfaces :=
    [Fixture.interface "" 4 "vmk0" 2, Fixture.interface "" 3 "iDRAC" 2,
      Fixture.interface "" 8 "eth0" 2, Fixture.interface "" 9 "vmk1" 2]
  bound id :=
    [Fixture.address "" 5 "10.0.0.5/24" 3, Fixture.address "" 6 "10.0.0.6/24" 4,
      Fixture.address "" 10 "10.0.0.7/24" 4].filter (·.assignedId == some id)
  platforms := [Fixture.platform "" 7 "esxi"]

/-- Both go, the first one after its addresses, and the one that is not ephemeral stays. -/
theorem resolve_spec_leftovers :
    let p := Policy.standard "esxi"
    let actions : List Action :=
      [.renameInterface 3 "remoteboard", .updateDevice 2 7 5, .deleteAddress 6, .deleteAddress 10,
        .deleteInterface 4, .deleteInterface 9]
    resolve p leftovers = .ok actions ∧
      (∃ oob a e, Sole p leftovers oob ∧ leftovers.bound oob.id = [a] ∧
        leftovers.platforms = [e] ∧ Prescribed p leftovers oob a e actions) ∧
      ¬ InLine p leftovers := by
  intro p actions
  have decided : resolve p leftovers = .ok actions := by decide +kernel
  obtain ⟨-, -, -, -, prescribed, done⟩ := resolve_spec p leftovers
  refine ⟨decided, (prescribed actions).1 decided, fun inLine => ?_⟩
  have idle : actions = [] := Except.ok.inj (decided.symm.trans (done.2 inLine))
  exact List.cons_ne_nil _ _ idle

end InventorySync.Drift
