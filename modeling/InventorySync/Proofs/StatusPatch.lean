/-
# Proofs.StatusPatch — a status that was written is up to date

The patch of an outcome names every member of a status, so what the merge leaves of the old
status is unknown to the reader and is passed over. The members of the patch read back as they
were meant: the name of a state, any text, a timestamp, and a signed word or nothing
(`taken_changes`). So, whatever the object held, the merged status reads as the outcome
(`read_merged`).

`status_up_to_date`: an outcome need not be written again after that, and it has to be written
over every status that differs in the state, the description or the observed generation.
-/
import InventorySync.Json.Merge
import InventorySync.Proofs.Record
import InventorySync.Proofs.Timestamp
import InventorySync.Resource.Outcome

namespace InventorySync

set_option autoImplicit false

open Json (Codec Layout)
open Time (Timestamp)

/-! ## The members of a status -/

theorem SyncState.read_name (s : SyncState) : SyncState.codec.read (.str s.name) = .ok s := by
  cases s <;> rfl

theorem Json.Codec.read_signedWord (n : Int64) : Codec.signedWord.read (.int n.toInt) = .ok n := by
  have low : -(Numeral.wordLimit 63 : Int) ≤ n.toInt := n.le_toInt
  have high : n.toInt < (Numeral.wordLimit 63 : Int) := n.toInt_lt
  simp only [Codec.signedWord, if_pos (And.intro low high), Int64.ofInt_toInt]

namespace SyncStatus

theorem read_render (offset : Timestamp.Offset) (t : Timestamp) :
    timestampCodec.read (.str (t.render offset)) = .ok t := by
  simp only [timestampCodec, Codec.text, Timestamp.read?_render]

section Slots

variable {state : Option SyncState} {description : Option (Option String)}
  {time : Option (Option Timestamp)}

theorem take_state (s : SyncState) {slots : Json.Slots [Option String, Option Timestamp, Option Int64]} :
    layout.take (none, slots) (some "state", .str s.name) = .ok (some s, slots) :=
  Layout.take_cons_self rfl s.read_name

theorem take_description (text : String) {slots : Json.Slots [Option Timestamp, Option Int64]} :
    layout.take (state, none, slots) (some "description", .str text) =
      .ok (state, some (some text), slots) :=
  Layout.take_cons_of_not rfl (Layout.take_cons_self rfl rfl)

theorem take_lastReconciled (now : Timestamp) {slots : Json.Slots [Option Int64]} :
    layout.take (state, description, none, slots)
        (some "lastReconciled", .str (now.render .numeric)) =
      .ok (state, description, some (some now), slots) := by
  have read := Codec.read_option (read_render .numeric now) nofun
  exact Layout.take_cons_of_not rfl (Layout.take_cons_of_not rfl (Layout.take_cons_self rfl read))

theorem take_observedGeneration (n : Int64) :
    layout.take (state, description, time, none, ()) (some "observedGeneration", .int n.toInt) =
      .ok (state, description, time, some (some n), ()) := by
  have read := Codec.read_option (Codec.read_signedWord n) nofun
  exact Layout.take_cons_of_not rfl (Layout.take_cons_of_not rfl
    (Layout.take_cons_of_not rfl (Layout.take_cons_self rfl read)))

end Slots

end SyncStatus

namespace Outcome

/-! ## The patch -/

/-- The status that an outcome is written as. -/
def status (o : Outcome) (now : Timestamp) (generation : Option Int64) : SyncStatus :=
  ⟨o.state, some o.description, some now, generation⟩

/-- The members that the patch of an outcome changes. -/
def changes (o : Outcome) (now : Timestamp) (generation : Option Int64) : List (String × Json) :=
  [("state", .str o.state.name), ("description", .str o.description),
    ("lastReconciled", .str (now.render .numeric)),
    ("observedGeneration", Json.ofOption (fun n => .int n.toInt) generation)]

theorem statusPatch_eq (o : Outcome) (now : Timestamp) (generation : Option Int64) :
    o.statusPatch now generation = .obj [("status", .obj (o.changes now generation))] := rfl

section Merged

variable (o : Outcome) (now : Timestamp) (generation : Option Int64)

/-- A change that is left fills its slot. -/
theorem taken_changes :
    (Document.ofMembers ((o.changes now generation).filter fun m => !m.2.isNull)).foldlM
        SyncStatus.layout.take SyncStatus.layout.noneRead =
      .ok (some o.state, some (some o.description), some (some now), generation.map some, ()) := by
  have reads {later : List (Option String × Document)} {read}
      (last : later.foldlM SyncStatus.layout.take
        (some o.state, some (some o.description), some (some now), none, ()) = read) :
      List.foldlM SyncStatus.layout.take SyncStatus.layout.noneRead
        ((some "state", .str o.state.name) :: (some "description", .str o.description) ::
          (some "lastReconciled", .str (now.render .numeric)) :: later) = read :=
    Layout.foldlM_take_cons (SyncStatus.take_state o.state) <|
      Layout.foldlM_take_cons (SyncStatus.take_description o.description) <|
      Layout.foldlM_take_cons (SyncStatus.take_lastReconciled now) last
  cases generation with
  | none => exact reads rfl
  | some n => exact reads (Layout.foldlM_take_cons (SyncStatus.take_observedGeneration n) rfl)

/-- The patch names every member that a status has. -/
theorem knows_layout (name : String) :
    SyncStatus.layout.knows name = ((o.changes now generation).map (·.1)).contains name := by
  rw [Bool.eq_iff_iff]
  simp [SyncStatus.layout, Layout.knows, Json.Member.answersTo, Json.Member.needed,
    SyncStatus.ifPresent, changes]

section Kept

variable {others : List (String × Json)}
  (unknown : ∀ m ∈ others, SyncStatus.layout.knows m.1 = false)
include unknown

theorem readMembers_merged :
    SyncStatus.layout.readMembers
        (Document.ofMembers (others ++ (o.changes now generation).filter fun m => !m.2.isNull))
        .closed =
      .ok (o.state, some o.description, some now, generation, ()) := by
  rw [Layout.readMembers_append_of_unknown _ unknown,
    Layout.readMembers_of_taken (taken_changes o now generation)]
  cases generation <;> rfl

end Kept

/-- What the merge keeps of the old members is unknown to the reader of a status. -/
theorem exists_mergeMembers (members : List (String × Json)) :
    ∃ others, (∀ m ∈ others, SyncStatus.layout.knows m.1 = false) ∧
      Json.mergeMembers members (o.changes now generation) =
        others ++ (o.changes now generation).filter fun m => !m.2.isNull := by
  have plain : ∀ m ∈ o.changes now generation, m.2.isObject = false := by
    cases generation <;> simp [changes, Json.ofOption, Json.isObject]
  have distinct : ((o.changes now generation).map (·.1)).Nodup := by simp [changes]
  refine ⟨_, fun m member => ?_, Json.mergeMembers_eq plain distinct members⟩
  rw [knows_layout o now generation]
  simpa using (List.mem_filter.1 member).2

/-- **Whatever an object held, its status reads as the outcome once the patch was merged into it**,
in whatever order the members come. -/
theorem exists_merged (object : Json) :
    ∃ stored, (object.merge (o.statusPatch now generation)).get? "status" = some (.obj stored) ∧
      ∀ members, stored.Perm members →
        SyncStatus.codec.read (.ofJson (.obj members)) = .ok (o.status now generation) := by
  rw [statusPatch_eq]
  refine ⟨_, Json.get?_append_without "status" _ object.members, fun members same => ?_⟩
  obtain ⟨others, unknown, merged⟩ := exists_mergeMembers o now generation
    (((Json.obj object.members).get? "status").getD .null).members
  have read := readMembers_merged o now generation unknown
  rw [← merged] at read
  exact congrArg (Except.map _) (Layout.readMembers_perm (Document.ofMembers_perm same) read)

end Merged

/-! ## What has to be written -/

theorem needsUpdate_eq_false_iff (o : Outcome) (status : SyncStatus) (generation : Option Int64) :
    o.needsUpdate (some status) generation = false ↔
      status.state = o.state ∧ status.description = some o.description ∧
        status.observedGeneration = generation := by
  simp [needsUpdate, and_assoc]

/-- **A written status is up to date**: whatever the object held, the merged patch reads as a
status of that state, description and generation, over which the outcome need not be written
again; and it has to be written over any status that differs in one of them. The members of the
merged status may come in any order. -/
theorem status_up_to_date (o : Outcome) (now : Timestamp) (generation : Option Int64)
    (object : Json) :
    (∃ stored, (object.merge (o.statusPatch now generation)).get? "status" = some (.obj stored) ∧
      ∀ members, stored.Perm members →
        ∃ status, SyncStatus.codec.read (.ofJson (.obj members)) = .ok status ∧
          status.state = o.state ∧ status.description = some o.description ∧
          status.observedGeneration = generation ∧ status.lastReconciled = some now ∧
          o.needsUpdate (some status) generation = false) ∧
      ∀ status, o.needsUpdate (some status) generation = true ↔
        status.state ≠ o.state ∨ status.description ≠ some o.description ∨
          status.observedGeneration ≠ generation := by
  constructor
  · obtain ⟨stored, found, reads⟩ := exists_merged o now generation object
    refine ⟨stored, found, fun members same => ⟨_, reads members same, rfl, rfl, rfl, rfl, ?_⟩⟩
    exact (needsUpdate_eq_false_iff o _ generation).2 ⟨rfl, rfl, rfl⟩
  · intro status
    rw [← Bool.not_eq_false, needsUpdate_eq_false_iff, not_and_or, not_and_or]

/-- The same with the members of the merged status the other way round. The old one had a
description, and a member that is unknown to the reader. -/
theorem status_up_to_date_reordered :
    let ready : Outcome := ⟨.ready, "2 devices"⟩
    let object : Json := .obj [("status", .obj [
      ("phase", .str "Bound"), ("state", .str "Error"), ("description", .str "no route")])]
    ∃ stored status,
      (object.merge (ready.statusPatch .epoch (some 7))).get? "status" = some (.obj stored) ∧
        SyncStatus.codec.read (.ofJson (.obj stored.reverse)) = .ok status ∧
        ready.needsUpdate (some status) (some 7) = false := by
  intro ready object
  obtain ⟨stored, found, reads⟩ := (status_up_to_date ready .epoch (some 7) object).1
  obtain ⟨status, read, -, -, -, -, upToDate⟩ := reads stored.reverse stored.reverse_perm.symm
  exact ⟨stored, status, found, read, upToDate⟩

end Outcome

end InventorySync
