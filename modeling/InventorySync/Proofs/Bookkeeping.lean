/-
# Proofs.Bookkeeping — statuses and failures over any run of visits

`Books` are the objects as the cluster's API server stores them, and the retry policy. Objects are
visited in any order, each pass comes to any result, each patch is accepted or refused, and anybody
may edit the stored objects in between. A visit makes one event of the policy: a success or a
failure of the object's key (`items_run`), which a good or a bad verdict decides, and the verdict
is decided by the visit alone.

`books_kept` says what every visit of every such run leaves: that it is settled as `Visit.run` does
it, when a patch is sent, what the verdict is, that the stored status is that of the latest pass,
and that the failures of the key are the bad verdicts in a row, as long as none of them came so late
that the row was dropped.
-/
import InventorySync.Controller.Visit
import InventorySync.Proofs.Backoff
import InventorySync.Proofs.Requeue
import InventorySync.Proofs.StatusPatch

namespace InventorySync

set_option autoImplicit false

open Retry (Backoff Requeue)
open Time (Duration Instant RangeFault Timestamp)

/-! ## Objects and their keys -/

namespace ObjectName

/-- The object has a name, and a namespace without a slash in it. -/
def IsNamed (o : ObjectName) : Prop :=
  (∃ space, o.namespaceName = some space ∧ '/' ∉ space.toList) ∧ ∃ name, o.name = some name

/-- The names are those of one object. -/
def same (o other : ObjectName) : Bool :=
  o.namespaceName == other.namespaceName && o.name == other.name

/-- The namespace is what stands before the first slash of the key. -/
theorem takeWhile_key {o : ObjectName} {space name : String} (spaced : o.namespaceName = some space)
    (slashless : '/' ∉ space.toList) (called : o.name = some name) :
    o.key.toList = space.toList ++ '/' :: name.toList ∧
      o.key.toList.takeWhile (· != '/') = space.toList := by
  have list : o.key.toList = space.toList ++ '/' :: name.toList := by simp [key, spaced, called]
  refine ⟨list, ?_⟩
  rw [list, List.takeWhile_append_of_pos]
  · simp
  · intro c member
    exact bne_iff_ne.2 fun slash => slashless (slash ▸ member)

/-- Different objects have different keys. -/
theorem key_beq_key {o other : ObjectName} (named : o.IsNamed) (named' : other.IsNamed) :
    (o.key == other.key) = o.same other := by
  obtain ⟨⟨space, spaced, slashless⟩, name, called⟩ := named
  obtain ⟨⟨space', spaced', slashless'⟩, name', called'⟩ := named'
  obtain ⟨list, first⟩ := takeWhile_key spaced slashless called
  obtain ⟨list', first'⟩ := takeWhile_key spaced' slashless' called'
  have keys : o.key = other.key ↔ space = space' ∧ name = name' := by
    constructor
    · intro equal
      obtain rfl : space = space' := String.toList_inj.1 (first.symm.trans (equal ▸ first'))
      rw [equal, list'] at list
      have rest := (List.cons.inj (List.append_cancel_left list)).2
      exact ⟨rfl, (String.toList_inj.1 rest).symm⟩
    · rintro ⟨rfl, rfl⟩
      exact String.toList_inj.1 (list.trans list'.symm)
  rw [Bool.eq_iff_iff, beq_iff_eq, keys]
  simp [same, spaced, called, spaced', called']

end ObjectName

/-! ## Runs -/

/-- A visit of an object at some time, and what comes of its patch if it sends one. -/
structure Turn extends Visit where
  write : Except String Unit
  now : Instant
  clock : Timestamp

/-- An object is visited, or somebody edits what is stored under a path. -/
inductive Happening where
  | visit (t : Turn)
  | edit (path : String) (object : Json)

/-- The stored objects, by the path of their status, and the retry policy. -/
structure Books where
  objects : String → Json
  requeue : Requeue

namespace Books

/-- The status that is stored for an object, if it can be read. -/
def status (b : Books) (o : ObjectName) : Option SyncStatus :=
  ((b.objects (StatusPatch.pathOf o)).get? "status").bind fun stored =>
    (SyncStatus.codec.read (.ofJson stored)).toOption

def put (b : Books) (path : String) (object : Json) : Books :=
  { b with objects := fun other => if other = path then object else b.objects other }

/-- How a visit is settled. -/
def settled (b : Books) (t : Turn) : Visit.Settled :=
  t.toVisit.settle (fun _ => t.write) t.now t.clock b.requeue

def step (b : Books) : Happening → Books
  | .edit path object => b.put path object
  | .visit t =>
    let settled := b.settled t
    let b := { b with requeue := settled.requeue }
    match settled.patch, t.write with
    | some patch, .ok () => b.put patch.path ((b.objects patch.path).merge patch.body)
    | _, _ => b

def run (b : Books) (happenings : List Happening) : Books := happenings.foldl step b

theorem run_append (b : Books) (past more : List Happening) :
    b.run (past ++ more) = (b.run past).run more := by
  simp [run]

end Books

/-! ## One visit -/

namespace Turn

variable (t : Turn)

def sendsPatch : Bool := t.outcome.needsUpdate t.object.status t.object.generation

/-- The patch was accepted, if one was sent. -/
def Written : Prop := t.sendsPatch = true → t.write = .ok ()

/-- The verdict, which no other visit has a part in. -/
def verdict : Except ControllerFault Report :=
  t.toVisit.verdict (if t.sendsPatch then t.write else .ok ())

def failed : Bool :=
  match t.verdict with
  | .ok _ => false
  | .error _ => true

/-- What the visit is to the retry policy. -/
def event : Backoff.Event :=
  if t.failed then .fail t.key t.now else .forget t.key

theorem key_event : t.event.key = t.key := by
  unfold event
  split <;> rfl

variable (b : Books)

theorem patch_settled : (b.settled t).patch =
    if t.sendsPatch then
      some ⟨StatusPatch.pathOf t.object.metadata, t.outcome.statusPatch t.clock t.object.generation⟩
    else none := rfl

theorem verdict_settled : (b.settled t).verdict = t.verdict := by
  change t.toVisit.verdict ((b.settled t).patch.elim (.ok ()) fun _ => t.write) = t.verdict
  rw [patch_settled, verdict]
  cases t.sendsPatch <;> rfl

theorem exists_verdict_iff :
    (∃ report, t.verdict = .ok report) ↔ (∃ report, t.result = .ok report) ∧ t.Written := by
  unfold verdict Written Visit.verdict
  cases t.sendsPatch with
  | false => cases t.result <;> simp [Except.mapError]
  | true => cases t.write <;> cases t.result <;> simp [Except.mapError]

theorem failed_eq_false_iff : t.failed = false ↔ ∃ report, t.verdict = .ok report := by
  unfold failed
  cases t.verdict <;> simp

theorem failed_iff : t.failed = true ↔ ∃ fault, t.verdict = .error fault := by
  unfold failed
  cases t.verdict <;> simp

end Turn

/-! ## A run as events of the policy -/

namespace Happening

def turn? : Happening → Option Turn
  | visit t => some t
  | edit _ _ => none

end Happening

/-- The visits of a run. -/
def turns (happenings : List Happening) : List Turn := happenings.filterMap Happening.turn?

theorem turns_append (past more : List Happening) :
    turns (past ++ more) = turns past ++ turns more :=
  List.filterMap_append

/-- A run as the policy hears of it. -/
def events (happenings : List Happening) : List Backoff.Event := (turns happenings).map Turn.event

theorem events_append (past more : List Happening) :
    events (past ++ more) = events past ++ events more := by
  rw [events, turns_append, List.map_append]
  rfl

namespace Books

/-- A verdict is a success or a failure of the key. -/
theorem items_settled (b : Books) (t : Turn) :
    (b.settled t).requeue.items = b.requeue.items.step t.event := by
  have settled : (b.settled t).requeue = (b.requeue.settle t.key t.now (b.settled t).verdict).2 := rfl
  rw [settled, t.verdict_settled]
  unfold Turn.event Turn.failed
  cases t.verdict with
  | ok report => rfl
  | error fault => exact Requeue.items_fail b.requeue t.key t.now

theorem requeue_step (b : Books) (t : Turn) : (b.step (.visit t)).requeue = (b.settled t).requeue := by
  unfold step
  dsimp only
  split <;> rfl

theorem items_run (b : Books) (happenings : List Happening) :
    (b.run happenings).requeue.items = b.requeue.items.run (events happenings) := by
  induction happenings generalizing b with
  | nil => rfl
  | cons h later ih =>
    refine (ih (b.step h)).trans ?_
    cases h with
    | edit path object => rfl
    | visit t =>
      rw [requeue_step, items_settled]
      rfl

/-- A run along a clock that does not go back, over objects with names. Each visit finds the object
with its stored status, and is settled without a fault. -/
structure Orderly (b : Books) (happenings : List Happening) : Prop where
  fresh : b.requeue.items.streaks = []
  named : ∀ t ∈ turns happenings, t.object.metadata.IsNamed
  ordered : ((turns happenings).map (·.now)).Pairwise (· ≤ ·)
  settles : ∀ past t later, happenings = past ++ .visit t :: later →
    t.object.status = (b.run past).status t.object.metadata ∧
      ∃ delay, ((b.run past).settled t).retry = .ok delay

variable {b : Books} {past later : List Happening} {t : Turn}

theorem Orderly.left (orderly : b.Orderly (past ++ later)) : b.Orderly past where
  fresh := orderly.fresh
  named t member := orderly.named t (by rw [turns_append]; exact List.mem_append_left _ member)
  ordered := by
    have ordered := orderly.ordered
    rw [turns_append, List.map_append, List.pairwise_append] at ordered
    exact ordered.1
  settles past' t later' split := by
    refine orderly.settles past' t (later' ++ later) ?_
    rw [split, List.append_assoc, List.cons_append]

theorem Orderly.isNamed (orderly : b.Orderly (past ++ .visit t :: later)) :
    t.object.metadata.IsNamed :=
  orderly.named t (by simp [turns, Happening.turn?])

/-- A visit comes after those before it. -/
theorem Orderly.le (orderly : b.Orderly (past ++ .visit t :: later)) :
    ∀ time ∈ Backoff.times (events past), time ≤ t.now := by
  have ordered := orderly.ordered
  rw [turns_append, List.map_append, List.pairwise_append] at ordered
  intro time member
  obtain ⟨event, member, timed⟩ := List.mem_filterMap.1 member
  obtain ⟨u, earlier, rfl⟩ := List.mem_map.1 member
  have at_ : time = u.now := by
    unfold Turn.event at timed
    split at timed
    · exact (Option.some.inj timed).symm
    · cases timed
  rw [at_]
  exact ordered.2.2 _ (List.mem_map_of_mem earlier) _ (List.mem_cons_self ..)

/-- A bad verdict is a failure with a delay. -/
theorem Orderly.delayed (orderly : b.Orderly (past ++ .visit t :: later)) (failed : t.failed = true) :
    ∃ delay, ((b.requeue.items.run (events past)).fail t.key t.now).1 = .ok delay := by
  obtain ⟨-, delay, settles⟩ := orderly.settles past t later rfl
  obtain ⟨fault, bad⟩ := t.failed_iff.1 failed
  have retry : ((b.run past).settled t).retry =
      ((b.run past).requeue.settle t.key t.now ((b.run past).settled t).verdict).1 := rfl
  rw [retry, t.verdict_settled, bad] at settles
  change ((b.run past).requeue.fail t.key t.now).1.map some = .ok delay at settles
  have delays : ∃ d, ((b.run past).requeue.fail t.key t.now).1 = .ok d := by
    cases answer : ((b.run past).requeue.fail t.key t.now).1 with
    | ok d => exact ⟨d, rfl⟩
    | error range =>
      rw [answer] at settles
      cases settles
  rw [← items_run]
  exact (((b.run past).requeue.exists_delay_iff t.key t.now).1 delays).1

/-- The policy hears of a run in the order of time, and has a delay for every failure. -/
theorem Orderly.regular {happenings : List Happening} (orderly : b.Orderly happenings) :
    b.requeue.items.Regular (events happenings) := by
  induction happenings using List.reverseRecOn with
  | nil => exact ⟨.nil, fun past key now rest split => by cases past <;> cases split⟩
  | append_singleton past h ih =>
    have before := ih orderly.left
    rw [events_append]
    cases h with
    | edit path object => exact (List.append_nil (events past)).symm ▸ before
    | visit t =>
      refine before.concat fun key now same => ?_
      change t.event = _ at same
      unfold Turn.event at same
      split at same
      next failed =>
        cases same
        exact ⟨orderly.le, orderly.delayed failed⟩
      next => cases same

/-! ## Failures in a row -/

/-- The bad verdicts of an object since its last good one, the latest one in front. -/
def failedInRow (o : ObjectName) (happenings : List Happening) : List Turn :=
  ((turns happenings).reverse.filter (·.object.metadata.same o)).takeWhile Turn.failed

/-- Each failure of a row, the latest one in front, came at most `max` after the retry of the one
before it was due by its own delay. -/
def InTime (b : Backoff) : List Turn → Prop
  | later :: earlier :: before =>
    later.now.nanos ≤ earlier.now.nanos + (b.delayFor before.length).nanos + b.max.nanos ∧
      InTime b (earlier :: before)
  | _ => True

instance decidableInTime (b : Backoff) : (row : List Turn) → Decidable (InTime b row)
  | [] => .isTrue trivial
  | [_] => .isTrue trivial
  | later :: earlier :: before =>
    have := decidableInTime b (earlier :: before)
    inferInstanceAs (Decidable (later.now.nanos ≤ earlier.now.nanos +
      (b.delayFor before.length).nanos + b.max.nanos ∧ InTime b (earlier :: before)))

/-- A row in time is what a failure goes on from. -/
theorem inRow_map_event {b : Backoff} {key : String} {t : Turn} {earlier : List Turn}
    (own : ∀ u ∈ earlier, u.key = key) (inTime : InTime b (t :: earlier.takeWhile Turn.failed)) :
    b.inRow key t.now (earlier.map Turn.event) =
      min (earlier.takeWhile Turn.failed).length Backoff.countLimit := by
  induction earlier generalizing t with
  | nil => rfl
  | cons u earlier ih =>
    have mine : u.key = key := own u List.mem_cons_self
    cases failed : u.failed with
    | false =>
      have event : u.event = .forget key := by simp [Turn.event, failed, mine]
      simp [event, Backoff.inRow, failed]
    | true =>
      have event : u.event = .fail key u.now := by simp [Turn.event, failed, mine]
      rw [List.takeWhile_cons_of_pos failed] at inTime ⊢
      have before := ih (fun v member => own v (List.mem_cons_of_mem u member)) inTime.2
      rw [List.map_cons, event, Backoff.inRow, if_pos rfl]
      dsimp only
      rw [before, b.delayFor_min, if_pos inTime.1, List.length_cons]
      omega

/-- Of all events, those of an object are the ones of its key. -/
theorem filter_events {o : ObjectName} (named : o.IsNamed) {ts : List Turn}
    (all : ∀ t ∈ ts, t.object.metadata.IsNamed) :
    (ts.map Turn.event).filter (·.key == o.key) =
      (ts.filter (·.object.metadata.same o)).map Turn.event := by
  rw [List.filter_map]
  refine congrArg (List.map Turn.event) (List.filter_congr fun t member => ?_)
  exact (congrArg (· == o.key) t.key_event).trans (ObjectName.key_beq_key (all t member) named)

/-- A failure is the latest one of its row. -/
theorem failedInRow_concat (past : List Happening) (failed : t.failed = true) :
    failedInRow t.object.metadata (past ++ [.visit t]) =
      t :: failedInRow t.object.metadata past := by
  have last : turns (past ++ [.visit t]) = turns past ++ [t] := turns_append _ _
  rw [failedInRow, last, List.reverse_concat,
    List.filter_cons_of_pos (by simp [ObjectName.same]), List.takeWhile_cons_of_pos failed]
  rfl

/-- **After a bad verdict, the failures of the key are the bad verdicts in a row.** -/
theorem failures_settled (orderly : b.Orderly (past ++ .visit t :: later)) (failed : t.failed = true)
    (inTime : InTime b.requeue.items (failedInRow t.object.metadata (past ++ [.visit t]))) :
    ((b.run past).settled t).requeue.failures t.key =
      min (failedInRow t.object.metadata (past ++ [.visit t])).length Backoff.countLimit := by
  have event : t.event = .fail t.key t.now := by simp [Turn.event, failed]
  have named := orderly.isNamed
  have all : ∀ u ∈ (turns past).reverse, u.object.metadata.IsNamed := fun u member =>
    orderly.left.named u (List.mem_reverse.1 member)
  rw [failedInRow_concat past failed] at inTime ⊢
  -- What the failure goes on from is told by the earlier visits of the object.
  have row : ((b.requeue.items.run (events past)).before t.key t.now).count =
      min (failedInRow t.object.metadata past).length Backoff.countLimit := by
    rw [Backoff.count_before_run orderly.fresh orderly.left.regular t.key orderly.le, events,
      ← List.map_reverse, ← Backoff.inRow_filter]
    have own := filter_events named all
    refine (congrArg (b.requeue.items.inRow t.key t.now) own).trans (inRow_map_event ?_ inTime)
    intro u member
    obtain ⟨member, same⟩ := List.mem_filter.1 member
    rw [← ObjectName.key_beq_key (all u member) named] at same
    exact beq_iff_eq.1 same
  have counted : ((b.run past).settled t).requeue.items.failures t.key =
      min (((b.requeue.items.run (events past)).before t.key t.now).count + 1)
        Backoff.countLimit := by
    rw [items_settled, items_run, event]
    exact Backoff.failures_fail (orderly.delayed failed)
  refine counted.trans ?_
  rw [row, List.length_cons]
  omega

/-! ## What every visit leaves -/

/-- A whole visit is settled here, whatever its pass ran on: only the result of that counts. -/
theorem toSettled_run (b : Books) (named : t.object.metadata.IsNamed) {reconciler : Reconciler}
    {store : Store} (passed : ((reconciler.clusters t.object.clusters).runOn store).result = t.result) :
    (Visit.run reconciler (fun _ => t.write) t.now t.clock t.object b.requeue store).toSettled =
      b.settled t := by
  obtain ⟨-, name, called⟩ := named
  have present : t.object.metadata.name.isNone = false := by rw [called]; rfl
  rw [Visit.toSettled_run _ _ _ _ _ _ _ present, passed]
  rfl

/-- After a visit that wrote what it had to, the stored status is that of its pass. -/
theorem exists_status_step (stored : t.object.status = b.status t.object.metadata)
    (written : t.Written) :
    ∃ status, (b.step (.visit t)).status t.object.metadata = some status ∧
      status.state = t.outcome.state ∧ status.description = some t.outcome.description ∧
      status.observedGeneration = t.object.generation := by
  simp only [step, t.patch_settled b]
  cases sends : t.sendsPatch with
  | true =>
    simp only [written sends, if_true]
    obtain ⟨members, found, reads⟩ := t.outcome.exists_merged t.clock t.object.generation
      (b.objects (StatusPatch.pathOf t.object.metadata))
    refine ⟨t.outcome.status t.clock t.object.generation, ?_, rfl, rfl, rfl⟩
    simp only [put, status, if_true, found, Option.bind_some, reads members (.refl _)]
    rfl
  | false =>
    -- Nothing was sent, as the stored status said the same already.
    simp only [Bool.false_eq_true, if_false]
    unfold Turn.sendsPatch at sends
    rw [stored] at sends
    change ∃ status, b.status t.object.metadata = some status ∧ _
    cases known : b.status t.object.metadata with
    | none => simp [known, Outcome.needsUpdate] at sends
    | some status =>
      rw [known] at sends
      exact ⟨status, rfl, (Outcome.needsUpdate_eq_false_iff ..).1 sends⟩

theorem isSome_patch_settled (t : Turn) (b : Books) :
    (b.settled t).patch.isSome = true ↔ t.sendsPatch = true := by
  rw [t.patch_settled b]
  cases t.sendsPatch <;> simp

/-- **The books are kept over every run.** Each visit is settled as `Visit.run` does it after a pass
with that result. A patch is sent exactly if the stored status says something else; the verdict is
good exactly if the pass was and no patch was refused; unless one was, the stored status is then
that of this pass. After a good verdict the key has no failures. After a bad one they are the bad
verdicts in a row, if none of these came more than `max` after the retry of the one before it was
due. -/
theorem books_kept {happenings : List Happening} (orderly : b.Orderly happenings) :
    ∀ past t later, happenings = past ++ .visit t :: later →
      let before := b.run past
      let after := b.run (past ++ [.visit t])
      let settled := before.settled t
      let row := failedInRow t.object.metadata (past ++ [.visit t])
      (∀ reconciler store, ((reconciler.clusters t.object.clusters).runOn store).result = t.result →
        (Visit.run reconciler (fun _ => t.write) t.now t.clock t.object before.requeue
          store).toSettled = settled) ∧
      (settled.patch.isSome ↔
        t.outcome.needsUpdate (before.status t.object.metadata) t.object.generation) ∧
      ((∃ report, settled.verdict = .ok report) ↔
        (∃ report, t.result = .ok report) ∧ (settled.patch.isSome → t.write = .ok ())) ∧
      ((settled.patch.isSome → t.write = .ok ()) →
        ∃ status, after.status t.object.metadata = some status ∧ status.state = t.outcome.state ∧
          status.description = some t.outcome.description ∧
          status.observedGeneration = t.object.generation) ∧
      ((∃ report, settled.verdict = .ok report) → after.requeue.items.streak? t.key = none) ∧
      ((∃ fault, settled.verdict = .error fault) → InTime b.requeue.items row →
        after.requeue.failures t.key = min row.length Backoff.countLimit) := by
  intro past t later split before after settled row
  subst split
  have stored : t.object.status = before.status t.object.metadata :=
    (orderly.settles past t later rfl).1
  have last : after = before.step (.visit t) := b.run_append past [.visit t]
  have requeue : after.requeue = settled.requeue := last ▸ requeue_step before t
  have sends : settled.patch.isSome ↔ t.sendsPatch := isSome_patch_settled t before
  have verdict : settled.verdict = t.verdict := t.verdict_settled before
  refine ⟨fun reconciler store passed => before.toSettled_run orderly.isNamed passed, ?_, ?_, ?_, ?_,
    ?_⟩
  · rw [sends, Turn.sendsPatch, stored]
  · rw [verdict, sends]
    exact t.exists_verdict_iff
  · intro written
    rw [last]
    exact exists_status_step stored fun sent => written (sends.2 sent)
  · intro good
    have event : t.event = .forget t.key := by
      rw [verdict, ← t.failed_eq_false_iff] at good
      simp [Turn.event, good]
    rw [requeue, items_settled, event, Backoff.step, Backoff.streak?_eq, Backoff.rowsOf_forget]
    rfl
  · intro bad inTime
    rw [verdict, ← t.failed_iff] at bad
    rw [requeue]
    exact failures_settled orderly bad inTime

section Interleaved

/-- Nothing is stored yet, and nothing has failed. -/
def blank : Books := ⟨fun _ => .null, .new (.ofMillis 5) (.ofSeconds 1000) 100 10 ⟨0⟩⟩

/-- The visit of an object without a status, in the namespace `x`. -/
def firstVisit (name : String) (result : Except PassFault Report) (write : Except String Unit)
    (now : Instant) : Turn :=
  { object := ⟨{ name := some name, namespaceName := some "x" }, some 1, [], none⟩
    result, write, now, clock := .epoch }

/-- The first object fails twice, once because its status cannot be written, and the second one
fails in between. -/
def interleaved : List Happening :=
  let fault : PassFault := .deviceRole "server" (.api "down")
  [.visit (firstVisit "one" (.ok {}) (.error "conflict") ⟨0⟩),
    .visit (firstVisit "two" (.error fault) (.ok ()) ⟨1000000⟩),
    .visit (firstVisit "one" (.error fault) (.ok ()) ⟨5000000⟩)]

theorem orderly_interleaved : blank.Orderly interleaved where
  fresh := rfl
  named t member := by
    have spaced : '/' ∉ "x".toList := by decide
    simp only [interleaved, turns, List.filterMap_cons, Happening.turn?, List.filterMap_nil,
      List.mem_cons, List.not_mem_nil, or_false] at member
    rcases member with rfl | rfl | rfl <;> exact ⟨⟨_, rfl, spaced⟩, _, rfl⟩
  ordered := by decide +kernel
  settles past t later split := by
    unfold interleaved at split
    rcases past with _ | ⟨first, _ | ⟨second, _ | ⟨third, past⟩⟩⟩
    · cases split
      exact ⟨by decide +kernel, some (.ofMillis 5), by decide +kernel⟩
    · cases split
      exact ⟨by decide +kernel, some (.ofMillis 5), by decide +kernel⟩
    · cases split
      exact ⟨by decide +kernel, some (.ofMillis 10), by decide +kernel⟩
    · simp at split

/-- The pass of the first visit is good, but its status is refused. So the first object has two
failures in the end, and then its status can be written. -/
theorem books_kept_interleaved :
    let one : ObjectName := { name := some "one", namespaceName := some "x" }
    let after := blank.run interleaved
    (Visit.run ⟨.standard "esxi", none, false⟩ (fun _ => .error "conflict") ⟨0⟩ .epoch
        ⟨one, some 1, [], none⟩ blank.requeue (.empty "")).verdict = .error (.api "conflict") ∧
      after.requeue.failures "x/one" = 2 ∧ ∃ status, after.status one = some status ∧
        status.state = .error ∧ status.observedGeneration = some 1 := by
  intro one after
  let first := firstVisit "one" (.ok {}) (.error "conflict") ⟨0⟩
  obtain ⟨settled, -⟩ := books_kept orderly_interleaved [] first (interleaved.drop 1) rfl
  have refused := congrArg Visit.Settled.verdict
    (settled ⟨.standard "esxi", none, false⟩ (.empty "") rfl)
  let last := firstVisit "one" (.error (.deviceRole "server" (.api "down"))) (.ok ()) ⟨5000000⟩
  obtain ⟨-, -, -, stored, -, failures⟩ :=
    books_kept orderly_interleaved (interleaved.take 2) last [] rfl
  have bad : ∃ fault, ((blank.run (interleaved.take 2)).settled last).verdict = .error fault := by
    rw [last.verdict_settled]
    exact last.failed_iff.1 (by decide +kernel)
  refine ⟨refused.trans ((first.verdict_settled blank).trans rfl),
    (failures bad (by decide +kernel)).trans (by decide +kernel), ?_⟩
  obtain ⟨status, found, state, -, generation⟩ := stored fun _ => rfl
  exact ⟨status, found, state, generation⟩

end Interleaved

end Books

end InventorySync
