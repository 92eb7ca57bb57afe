/-
# Proofs.Schedule — a key that is retried when it was told to

The wait that the policy gives is the later of two: the key's own delay, and the next token of
the bucket that all keys share. The record of the key knows the first one only. A retry that
comes exactly after its wait therefore goes on from the row of failures if the wait was at most
the key's own delay and the longest delay together, and else starts a new row
(`row_retry`).

So a key that is never cleared, and is always retried on schedule, keeps its row exactly if no
wait was longer than that (`keeps_row_iff`). Accepted settings do not rule out longer ones: at
a low rate even a single key comes to wait for tokens so long that its record is dropped as
stale when it is retried on schedule (`row_lost_on_schedule`).
-/
import InventorySync.Proofs.Requeue

namespace InventorySync.Retry

set_option autoImplicit false

open InventorySync.Time

/-- A failure of that key. -/
def Use.failsOf (key : String) : Use → Bool
  | .fail other => other == key
  | _ => false

theorem Use.failsOf_iff {key : String} {use : Use} : use.failsOf key = true ↔ use = .fail key := by
  cases use with
  | fail other => simp [failsOf]
  | forget other => simp [failsOf]
  | failures other => simp [failsOf]
  | pass span => simp [failsOf]

namespace Clocked

/-- The failures in a row that one more failure of the key goes on from. -/
def row (c : Clocked) (key : String) : Nat := (c.policy.items.before key c.now).count

/-- The delay of one more failure by the key's own backoff. -/
def ownDelay (c : Clocked) (key : String) : Except RangeFault Duration :=
  (c.policy.items.fail key c.now).1

/-- Every failure of a run has a delay. -/
def Smooth (c : Clocked) (uses : List Use) : Prop :=
  ∀ before key rest, uses = before ++ .fail key :: rest → (c.run before).Delays key

/-- What holds of each failure of the key but the last, and of the next one after it. -/
def EachRetry (c : Clocked) (key : String) (uses : List Use) (P : Clocked → Clocked → Prop) : Prop :=
  ∀ before between rest, uses = before ++ .fail key :: between ++ .fail key :: rest →
    Use.fail key ∉ between → P (c.run before) (c.run (before ++ .fail key :: between))

/-- The key is not cleared, and each of its failures but the first comes exactly when the wait
after the one before it is over. -/
structure OnSchedule (c : Clocked) (key : String) (uses : List Use) : Prop where
  kept : Use.forget key ∉ uses
  punctual : c.EachRetry key uses fun failed retried =>
    ∀ wait, failed.delay key = .ok wait → retried.now.nanos = failed.now.nanos + wait.nanos

/-- The wait after a failure is at most the key's own delay and the longest one together. -/
def InReach (c : Clocked) (key : String) : Prop :=
  ∀ own wait, c.ownDelay key = .ok own → c.delay key = .ok wait →
    wait.nanos ≤ own.nanos + c.policy.items.max.nanos

/-- Each failure of the key counts all those before it, and is delayed for them. -/
def KeepsRow (c : Clocked) (key : String) (uses : List Use) : Prop :=
  ∀ before rest, uses = before ++ .fail key :: rest →
    let n := before.countP (Use.failsOf key)
    (c.run (before ++ [.fail key])).policy.failures key = min (n + 1) Backoff.countLimit ∧
      (c.run before).ownDelay key = .ok (c.policy.items.delayFor n)

variable {c : Clocked} {key : String} {uses : List Use}

theorem delayFor_run (c : Clocked) (uses : List Use) :
    (c.run uses).policy.items.delayFor = c.policy.items.delayFor := by
  obtain ⟨base, max⟩ := c.limits_run uses
  funext n
  simp only [Backoff.delayFor, base, max]

/-! ## One retry -/

/-- While a key is left alone, its row stays what it is at any later time. -/
theorem before_run_of_quiet (c : Clocked) (noFailure : Use.fail key ∉ uses)
    (kept : Use.forget key ∉ uses) {later : Instant} (le : (c.run uses).now ≤ later) :
    (c.run uses).policy.items.before key later = c.policy.items.before key later := by
  induction uses using List.reverseRecOn with
  | nil => rfl
  | append_singleton past use ih =>
      rw [List.mem_append, not_or] at noFailure kept
      have earlier := ih noFailure.1 kept.1
      rw [run_append] at le ⊢
      cases use with
      | fail other =>
          have ne : other ≠ key := fun same => noFailure.2 (same ▸ List.mem_singleton_self _)
          have le : (c.run past).now ≤ later := le
          change ((c.run past).policy.fail other _).2.items.before key later = _
          rw [Requeue.items_fail, Backoff.before_fail_of_ne _ ne le, earlier le]
      | forget other =>
          have ne : other ≠ key := fun same => kept.2 (same ▸ List.mem_singleton_self _)
          exact (Backoff.before_forget_of_ne _ ne later).trans (earlier le)
      | failures other => exact earlier le
      | pass span =>
          have le : (c.run past).now.nanos + span.nanos ≤ later.nanos := le
          refine earlier ?_
          change (c.run past).now.nanos ≤ later.nanos
          omega

theorem ownDelay_of_delays (delays : c.Delays key) :
    c.ownDelay key = .ok (c.policy.items.delayFor (c.row key)) :=
  Backoff.fst_fail_of_delay ((c.delays_iff key).1 delays).1

theorem failures_step_fail (delays : c.Delays key) :
    (c.step (.fail key)).policy.failures key = min (c.row key + 1) Backoff.countLimit := by
  change (c.policy.fail key c.now).2.items.failures key = _
  rw [Requeue.items_fail, Backoff.failures_fail ((c.delays_iff key).1 delays).1]
  rfl

/-- **A retry on schedule goes on from the row exactly if its wait was at most the key's own
delay and the longest one together.** -/
theorem row_retry {between : List Use} (noFailure : Use.fail key ∉ between)
    (kept : Use.forget key ∉ between) (delays : c.Delays key)
    (punctual : ∀ wait, c.delay key = .ok wait →
      (c.run (.fail key :: between)).now.nanos = c.now.nanos + wait.nanos) :
    (c.InReach key → (c.run (.fail key :: between)).row key =
      min (c.row key + 1) Backoff.countLimit) ∧
    (¬ c.InReach key → (c.run (.fail key :: between)).row key = 0) := by
  obtain ⟨wait, given⟩ := delays
  have delays : c.Delays key := ⟨wait, given⟩
  have own := ownDelay_of_delays delays
  have retried := punctual wait given
  have reach : c.InReach key ↔ (c.run (.fail key :: between)).now.nanos ≤
      c.now.nanos + (c.policy.items.delayFor (c.row key)).nanos + c.policy.items.max.nanos := by
    constructor
    · intro near
      have le := near _ wait own given
      omega
    · intro le own' wait' own'Given wait'Given
      cases own.symm.trans own'Given
      cases given.symm.trans wait'Given
      omega
  have quiet := (c.step (.fail key)).before_run_of_quiet noFailure kept (Nat.le_refl _)
  have counted : (c.run (.fail key :: between)).row key = _ :=
    (congrArg Streak.count (quiet.trans (by rw [step, Requeue.items_fail]))).trans
      (Backoff.count_before_fail ((c.delays_iff key).1 delays).1 _)
  rw [counted, reach]
  exact ⟨fun onTime => if_pos onTime, fun late => if_neg late⟩

/-! ## Runs on schedule -/

/-- A run with a failure of the key goes up to the last one, and leaves the key alone after it. -/
theorem exists_last_fail (member : Use.fail key ∈ uses) :
    ∃ past between, uses = past ++ .fail key :: between ∧ Use.fail key ∉ between := by
  obtain ⟨late, early, split, none⟩ := List.eq_append_cons_of_mem (List.mem_reverse.2 member)
  refine ⟨early.reverse, late.reverse, ?_, mt List.mem_reverse.1 none⟩
  have turned := congrArg List.reverse split
  rwa [List.reverse_reverse, List.reverse_append, List.reverse_cons, List.append_assoc] at turned

theorem countP_failsOf_eq_zero (noFailure : Use.fail key ∉ uses) :
    uses.countP (Use.failsOf key) = 0 := by
  rw [List.countP_eq_zero]
  intro use member fails
  exact noFailure (Use.failsOf_iff.1 fails ▸ member)

theorem countP_failsOf_retry {past between : List Use} (noFailure : Use.fail key ∉ between) :
    (past ++ .fail key :: between).countP (Use.failsOf key) =
      past.countP (Use.failsOf key) + 1 := by
  rw [List.countP_append, List.countP_cons_of_pos (Use.failsOf_iff.2 rfl),
    countP_failsOf_eq_zero noFailure]

section Scheduled

variable (smooth : c.Smooth uses) (scheduled : c.OnSchedule key uses)
include smooth scheduled

/-- What one retry of the run goes on from. -/
theorem row_retry_of_split {past between rest : List Use}
    (split : uses = past ++ .fail key :: between ++ .fail key :: rest)
    (noFailure : Use.fail key ∉ between) :
    ((c.run past).InReach key → (c.run (past ++ .fail key :: between)).row key =
      min ((c.run past).row key + 1) Backoff.countLimit) ∧
    (¬ (c.run past).InReach key → (c.run (past ++ .fail key :: between)).row key = 0) := by
  have kept : Use.forget key ∉ between := by
    intro member
    refine scheduled.kept (split ▸ List.mem_append_left _ (List.mem_append_right _ ?_))
    exact List.mem_cons_of_mem _ member
  have delays : (c.run past).Delays key := by
    refine smooth past key (between ++ .fail key :: rest) ?_
    rw [split, List.append_assoc, List.cons_append]
  rw [run_append]
  refine row_retry noFailure kept delays ?_
  rw [← run_append]
  exact scheduled.punctual past between rest split noFailure

/-- As long as no wait was out of reach, all failures of the key are in one row. -/
theorem row_of_inReach (fresh : c.policy.items.streaks = [])
    (near : c.EachRetry key uses fun failed _ => failed.InReach key) :
    ∀ before rest, uses = before ++ .fail key :: rest →
      (c.run before).row key = min (before.countP (Use.failsOf key)) Backoff.countLimit := by
  intro before
  induction size : before.length using Nat.strong_induction_on generalizing before with
  | _ bound ih =>
      intro rest split
      by_cases member : Use.fail key ∈ before
      · obtain ⟨past, between, rfl, noFailure⟩ := exists_last_fail member
        have shorter : past.length < bound := by
          rw [← size, List.length_append, List.length_cons]
          omega
        have split' : uses = past ++ .fail key :: (between ++ .fail key :: rest) := by
          rw [split, List.append_assoc, List.cons_append]
        have goesOn := (row_retry_of_split smooth scheduled split noFailure).1
          (near past between rest split noFailure)
        rw [goesOn, ih _ shorter past rfl _ split', countP_failsOf_retry noFailure]
        omega
      · have kept : Use.forget key ∉ before :=
          fun cleared => scheduled.kept (split ▸ List.mem_append_left _ cleared)
        have quiet := c.before_run_of_quiet member kept (Nat.le_refl _)
        rw [row, quiet, countP_failsOf_eq_zero member]
        simp [Backoff.before, Backoff.dropStale, Backoff.streak?, fresh]

/-- One wait out of reach starts a new row. -/
theorem inReach_of_keepsRow (keeps : c.KeepsRow key uses) :
    c.EachRetry key uses fun failed _ => failed.InReach key := by
  intro past between rest split noFailure
  by_contra late
  have lost := (row_retry_of_split smooth scheduled split noFailure).2 late
  have delays := smooth _ key rest split
  have counted := (keeps _ rest split).1
  rw [run_append] at counted
  have counted := (failures_step_fail delays).symm.trans counted
  rw [lost, countP_failsOf_retry noFailure] at counted
  have several : 2 ≤ Backoff.countLimit := by decide
  omega

end Scheduled

/-! ## Single steps of such a run -/

theorem smooth_nil (c : Clocked) : c.Smooth [] := by
  intro before key rest split
  cases before <;> cases split

theorem Smooth.fail (delays : c.Delays key) (later : (c.step (.fail key)).Smooth uses) :
    c.Smooth (.fail key :: uses) := by
  intro before other rest split
  cases before with
  | nil =>
      cases split
      exact delays
  | cons use before =>
      obtain ⟨rfl, tail⟩ := List.cons.inj split
      exact later before other rest tail

theorem Smooth.pass {span : Duration} (later : (c.step (.pass span)).Smooth uses) :
    c.Smooth (.pass span :: uses) := by
  intro before other rest split
  cases before with
  | nil => cases split
  | cons use before =>
      obtain ⟨rfl, tail⟩ := List.cons.inj split
      exact later before other rest tail

theorem eachRetry_single (c : Clocked) (key : String) (P : Clocked → Clocked → Prop) :
    c.EachRetry key [.fail key] P := by
  intro before between rest split
  have size := congrArg List.length split
  simp only [List.length_append, List.length_cons, List.length_nil] at size
  omega

/-- A wait, the retry after it, and all further ones. -/
theorem EachRetry.pass {P : Clocked → Clocked → Prop} {span : Duration}
    (next : P c (c.run [.fail key, .pass span]))
    (later : (c.run [.fail key, .pass span]).EachRetry key (.fail key :: uses) P) :
    c.EachRetry key (.fail key :: .pass span :: .fail key :: uses) P := by
  intro before between rest split noFailure
  match before, between with
  | [], [] => cases split
  | [], [wait] =>
      obtain ⟨rfl, -⟩ := List.cons.inj (List.cons.inj split).2
      exact next
  | [], _ :: early :: between =>
      obtain ⟨rfl, -⟩ := List.cons.inj (List.cons.inj (List.cons.inj split).2).2
      exact absurd (List.mem_cons_of_mem _ List.mem_cons_self) noFailure
  | [failed], between => cases split
  | failed :: wait :: before, between =>
      obtain ⟨rfl, afterFailure⟩ := List.cons.inj split
      obtain ⟨rfl, afterWait⟩ := List.cons.inj afterFailure
      exact later before between rest afterWait noFailure

end Clocked

end InventorySync.Retry

namespace InventorySync.Config

open Time Retry

/-- **A key that is always retried on schedule keeps its row of failures exactly if none of its
waits was longer than its own delay and the longest delay together.** -/
theorem keeps_row_iff (c : Config) (start : Instant) {key : String} {uses : List Use}
    (smooth : (c.clocked start).Smooth uses) (scheduled : (c.clocked start).OnSchedule key uses) :
    (c.clocked start).KeepsRow key uses ↔
      (c.clocked start).EachRetry key uses fun failed _ => failed.InReach key := by
  constructor
  · exact Clocked.inReach_of_keepsRow smooth scheduled
  · intro near before rest split n
    have row : ((c.clocked start).run before).row key = min n Backoff.countLimit :=
      Clocked.row_of_inReach smooth scheduled rfl near before rest split
    have delays := smooth before key rest split
    constructor
    · rw [Clocked.run_append]
      refine (Clocked.failures_step_fail delays).trans ?_
      omega
    · rw [Clocked.ownDelay_of_delays delays, row, Clocked.delayFor_run]
      refine congrArg Except.ok ?_
      -- The count stops long after the delay has stopped to grow.
      by_cases small : n ≤ Backoff.countLimit
      · rw [Nat.min_eq_left small]
      · have limits : Backoff.doublingLimit ≤ Backoff.countLimit := by decide
        rw [Nat.min_eq_right (by omega), Backoff.delayFor_of_le _ limits,
          Backoff.delayFor_of_le _ (by omega)]

/-- A key that fails three times, with these waits in between. -/
def thrice (key : String) (first second : Duration) : List Use :=
  [.fail key, .pass first, .fail key, .pass second, .fail key]

section Thrice

variable {c : Clocked} {key : String} {first second last : Duration}
  (one : c.delay key = .ok first)
  (two : (c.run [.fail key, .pass first]).delay key = .ok second)
include one two

theorem smooth_thrice
    (three : (c.run [.fail key, .pass first, .fail key, .pass second]).delay key = .ok last) :
    c.Smooth (thrice key first second) := by
  refine .fail ⟨first, one⟩ (.pass (.fail ⟨second, two⟩ (.pass (.fail ⟨last, three⟩ ?_))))
  exact Clocked.smooth_nil _

theorem onSchedule_thrice : c.OnSchedule key (thrice key first second) := by
  refine ⟨by simp [thrice], .pass ?_ (.pass ?_ (Clocked.eachRetry_single _ _ _))⟩
  · intro wait given
    cases one.symm.trans given
    rfl
  · intro wait given
    cases two.symm.trans given
    rfl

end Thrice

/-- At first the waits are the key's own with the settings as they are: 5 and 10 ms. -/
theorem keeps_row_default : ∃ c, load (listed [("NETBOX_TOKEN", "t")]) = .ok c ∧
    let uses := thrice "a" (.ofMillis 5) (.ofMillis 10)
    (c.clocked ⟨0⟩).Smooth uses ∧ (c.clocked ⟨0⟩).OnSchedule "a" uses ∧
      (c.clocked ⟨0⟩).KeepsRow "a" uses := by
  let first : Duration := .ofMillis 5
  let second : Duration := .ofMillis 10
  obtain ⟨c, accepted, known⟩ : ∃ c, load (listed [("NETBOX_TOKEN", "t")]) = .ok c ∧
      (let one := c.clocked ⟨0⟩
        let two := one.run [.fail "a", .pass first]
        let three := one.run [.fail "a", .pass first, .fail "a", .pass second]
        ((one.delay "a", one.ownDelay "a"), (two.delay "a", two.ownDelay "a"), three.delay "a")) =
      ((.ok first, .ok first), (.ok second, .ok second), .ok (.ofMillis 20)) :=
    exists_accepted (by decide +kernel)
  simp only [Prod.mk.injEq] at known
  obtain ⟨⟨one, oneOwn⟩, ⟨two, twoOwn⟩, three⟩ := known
  have smooth := smooth_thrice one two three
  have scheduled := onSchedule_thrice one two
  refine ⟨c, accepted, smooth, scheduled, (keeps_row_iff c ⟨0⟩ smooth scheduled).2 ?_⟩
  refine .pass ?_ (.pass ?_ (Clocked.eachRetry_single _ _ _))
  · intro own wait ownGiven given
    cases oneOwn.symm.trans ownGiven
    cases one.symm.trans given
    exact Nat.le_add_right _ _
  · intro own wait ownGiven given
    cases twoOwn.symm.trans ownGiven
    cases two.symm.trans given
    exact Nat.le_add_right _ _

/-- Settings with one token, and the next one after eight seconds. -/
def scarce : String → Option String :=
  listed [("NETBOX_TOKEN", "t"), ("RATE_LIMIT_BURST", "1"), ("RATE_LIMIT_QPS", "0.125"),
    ("BACKOFF_BASE_MS", "1000"), ("BACKOFF_MAX_SECS", "1")]

/-- They are accepted. The second wait is 7 s, with a delay of 1 s that is the longest one too,
and the third failure, exactly after it, is counted as the first of a new row. -/
theorem row_lost_on_schedule : ∃ c, load scarce = .ok c ∧
    let uses := thrice "a" (.ofSeconds 1) (.ofSeconds 7)
    (c.clocked ⟨0⟩).Smooth uses ∧ (c.clocked ⟨0⟩).OnSchedule "a" uses ∧
      ((c.clocked ⟨0⟩).run uses).policy.failures "a" = 1 ∧ ¬ (c.clocked ⟨0⟩).KeepsRow "a" uses := by
  let first : Duration := .ofSeconds 1
  let second : Duration := .ofSeconds 7
  obtain ⟨c, accepted, known⟩ : ∃ c, load scarce = .ok c ∧
      (let one := c.clocked ⟨0⟩
        let two := one.run [.fail "a", .pass first]
        let three := one.run [.fail "a", .pass first, .fail "a", .pass second]
        (one.delay "a", two.delay "a", three.delay "a",
          (one.run (thrice "a" first second)).policy.failures "a")) =
      (.ok first, .ok second, .ok (.ofSeconds 8), 1) :=
    exists_accepted (by decide +kernel)
  simp only [Prod.mk.injEq] at known
  obtain ⟨one, two, three, count⟩ := known
  refine ⟨c, accepted, smooth_thrice one two three, onSchedule_thrice one two, count, ?_⟩
  intro keeps
  have counted := (keeps [.fail "a", .pass first, .fail "a", .pass second] [] rfl).1
  exact absurd (count.symm.trans counted) (by decide)

end InventorySync.Config
