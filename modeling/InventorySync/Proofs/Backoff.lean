/-
# Proofs.Backoff — the delay of a key is told by its own history

All keys share one record, and a failure of any key first drops the streaks that are stale.
A streak that is stale at one time is stale at every later one (`dropStale_dropStale`), so a
failure of another key drops none that the key's own next failure would have gone on from.

`inRow` is the number of failures in a row that a failure goes on from, read off the earlier
events of its key alone; it is what the record holds at that time (`count_before_run`). So
leaving out the events of all other keys changes no delay and no count
(`fail_of_own_history`).
-/
import InventorySync.Retry.Backoff
import Mathlib.Data.List.Basic
import Mathlib.Data.List.Induction

namespace InventorySync.Retry

set_option autoImplicit false

open InventorySync.Time

namespace Backoff

/-! ## One delay -/

theorem delayFor_le (b : Backoff) (n : Nat) : b.delayFor n ≤ b.max := by
  change (b.delayFor n).nanos ≤ b.max.nanos
  simp only [delayFor]
  split
  · split
    · exact Nat.min_le_right _ _
    · exact Nat.le_refl _
  · exact Nat.le_refl _

theorem delayFor_of_le (b : Backoff) {n : Nat} (many : doublingLimit ≤ n) : b.delayFor n = b.max :=
  if_neg (Nat.not_lt.2 many)

/-- The count stops long after the delay has stopped to grow. -/
theorem delayFor_min (b : Backoff) (n : Nat) : b.delayFor (min n countLimit) = b.delayFor n := by
  have limits : doublingLimit ≤ countLimit := by decide
  by_cases small : n ≤ countLimit
  · rw [Nat.min_eq_left small]
  · rw [Nat.min_eq_right (by omega), b.delayFor_of_le limits, b.delayFor_of_le (by omega)]

theorem delayFor_dropStale (b : Backoff) (now : Instant) :
    (b.dropStale now).delayFor = b.delayFor := rfl

/-! ## What the record holds of one key -/

/-- The rows of a key. -/
def rowsOf (b : Backoff) (key : String) : List (String × Streak) :=
  b.streaks.filter fun e => e.1 == key

section Rows

variable (b : Backoff) (key : String) {other : String} (s : Streak) (now : Instant)

theorem streak?_eq : b.streak? key = (b.rowsOf key).head?.map (·.2) := by
  simp only [streak?, rowsOf, List.head?_filter]

theorem rowsOf_dropStale : (b.dropStale now).rowsOf key =
    (b.rowsOf key).filter fun e => decide (now.since e.2.retryAt ≤ b.max) := by
  rw [rowsOf, rowsOf, dropStale, List.filter_comm]

theorem rowsOf_forget : (b.forget key).rowsOf key = [] := by
  simp only [rowsOf, forget, List.filter_filter]
  refine List.filter_eq_nil_iff.2 fun e _ => ?_
  simp

theorem rowsOf_forget_of_ne (ne : other ≠ key) : (b.forget other).rowsOf key = b.rowsOf key := by
  simp only [rowsOf, forget, List.filter_filter]
  refine List.filter_congr fun e _ => ?_
  by_cases own : e.1 = key
  · simp [own, Ne.symm ne]
  · simp [own]

theorem rowsOf_record : (b.record key s).rowsOf key = [(key, s)] := by
  have others : (b.streaks.filter (·.1 != key)).filter (fun e => e.1 == key) = [] :=
    b.rowsOf_forget key
  simp only [rowsOf, record, List.filter_cons, beq_self_eq_true, if_true, others]

theorem rowsOf_record_of_ne (ne : other ≠ key) : (b.record other s).rowsOf key = b.rowsOf key := by
  have others : (b.streaks.filter (·.1 != other)).filter (fun e => e.1 == key) = b.rowsOf key :=
    b.rowsOf_forget_of_ne key ne
  simp only [rowsOf, record, List.filter_cons, beq_false_of_ne ne, Bool.false_eq_true, if_false]
  exact others

/-- What is stale at one time is stale at every later one. -/
theorem dropStale_dropStale {time : Instant} (le : time ≤ now) :
    (b.dropStale time).dropStale now = b.dropStale now := by
  have keeps : ∀ e ∈ b.streaks,
      (decide (now.since e.2.retryAt ≤ b.max) && decide (time.since e.2.retryAt ≤ b.max)) =
        decide (now.since e.2.retryAt ≤ b.max) := by
    intro e _
    rw [Bool.and_eq_left_iff_imp, decide_eq_true_eq, decide_eq_true_eq]
    intro fresh
    have le : time.nanos ≤ now.nanos := le
    have fresh : now.nanos - e.2.retryAt.nanos ≤ b.max.nanos := fresh
    change time.nanos - e.2.retryAt.nanos ≤ b.max.nanos
    omega
  refine congrArg (Backoff.mk b.base b.max) ?_
  exact List.filter_filter.trans (List.filter_congr keeps)

end Rows

/-! ## One failure -/

/-- The streak that a failure goes on from. -/
def before (b : Backoff) (key : String) (now : Instant) : Streak :=
  ((b.dropStale now).streak? key).getD ⟨0, now⟩

/-- A failure has a delay exactly if the retry is due before the clock ends. -/
theorem exists_delay_iff (b : Backoff) (key : String) (now : Instant) :
    (∃ d, (b.fail key now).1 = .ok d) ↔
      (now.nanos + (b.delayFor (b.before key now).count).nanos) / Duration.nanosPerSecond <
        Instant.secondsLimit := by
  rw [before, ← b.delayFor_dropStale now, ← Instant.isSome_add?_iff]
  simp only [fail]
  split
  next due found => exact iff_of_true ⟨_, rfl⟩ (found ▸ rfl)
  next none => exact iff_of_false nofun (none ▸ Bool.false_ne_true)

@[simp] theorem base_fail (b : Backoff) (key : String) (now : Instant) :
    (b.fail key now).2.base = b.base := by
  simp only [fail]
  split <;> rfl

@[simp] theorem max_fail (b : Backoff) (key : String) (now : Instant) :
    (b.fail key now).2.max = b.max := by
  simp only [fail]
  split <;> rfl

section Fail

variable {b : Backoff} {key other : String} {time now : Instant}

/-- What a failure that has a delay does. -/
theorem fail_of_delay (delayed : ∃ d, (b.fail key now).1 = .ok d) :
    ∃ due : Instant, due.nanos = now.nanos + (b.delayFor (b.before key now).count).nanos ∧
      b.fail key now = (.ok (b.delayFor (b.before key now).count),
        (b.dropStale now).record key ⟨min ((b.before key now).count + 1) countLimit, due⟩) := by
  rw [exists_delay_iff, ← Instant.isSome_add?_iff, Option.isSome_iff_exists] at delayed
  obtain ⟨due, found⟩ := delayed
  refine ⟨due, Instant.nanos_add? found, ?_⟩
  rw [before, ← b.delayFor_dropStale now] at found ⊢
  simp only [fail, found]

theorem fst_fail_of_delay (delayed : ∃ d, (b.fail key now).1 = .ok d) :
    (b.fail key now).1 = .ok (b.delayFor (b.before key now).count) := by
  obtain ⟨due, -, failed⟩ := fail_of_delay delayed
  rw [failed]

/-- A failure writes on its own key. -/
theorem exists_record_fail (b : Backoff) (key : String) (now : Instant) :
    ∃ s, (b.fail key now).2 = (b.dropStale now).record key s := by
  simp only [fail]
  split
  · exact ⟨_, rfl⟩
  · exact ⟨_, rfl⟩

theorem failures_fail (delayed : ∃ d, (b.fail key now).1 = .ok d) :
    (b.fail key now).2.failures key = min ((b.before key now).count + 1) countLimit := by
  obtain ⟨due, -, failed⟩ := fail_of_delay delayed
  rw [failed, failures, streak?_eq, rowsOf_record]
  rfl

/-- A failure goes on from the one before it if that was due at most `max` ago. -/
theorem count_before_fail (delayed : ∃ d, (b.fail key time).1 = .ok d) (now : Instant) :
    ((b.fail key time).2.before key now).count =
      if now.nanos ≤ time.nanos + (b.delayFor (b.before key time).count).nanos + b.max.nanos
      then min ((b.before key time).count + 1) countLimit else 0 := by
  obtain ⟨due, nanos, failed⟩ := fail_of_delay delayed
  rw [failed, before, streak?_eq, rowsOf_dropStale, rowsOf_record, ← nanos]
  have fresh : now.since due ≤ b.max ↔ now.nanos ≤ due.nanos + b.max.nanos := by
    change now.nanos - due.nanos ≤ b.max.nanos ↔ _
    omega
  by_cases onTime : now.since due ≤ b.max
  · rw [if_pos (fresh.1 onTime), List.filter_cons_of_pos]
    · rfl
    · exact decide_eq_true onTime
  · rw [if_neg (mt fresh.2 onTime), List.filter_cons_of_neg]
    · rfl
    · exact fun kept => onTime (of_decide_eq_true kept)

/-- A failure of another key drops nothing that this one would have gone on from. -/
theorem before_fail_of_ne (b : Backoff) (ne : other ≠ key) (le : time ≤ now) :
    (b.fail other time).2.before key now = b.before key now := by
  obtain ⟨s, failed⟩ := b.exists_record_fail other time
  have same : ((b.fail other time).2.dropStale now).rowsOf key = (b.dropStale now).rowsOf key := by
    rw [failed, rowsOf_dropStale, rowsOf_record_of_ne _ _ _ ne, ← b.dropStale_dropStale now le,
      rowsOf_dropStale _ _ now]
    rfl
  rw [before, before, streak?_eq, streak?_eq, same]

theorem before_forget (b : Backoff) (key : String) (now : Instant) :
    ((b.forget key).before key now).count = 0 := by
  rw [before, streak?_eq, rowsOf_dropStale, rowsOf_forget]
  rfl

theorem before_forget_of_ne (b : Backoff) (ne : other ≠ key) (now : Instant) :
    (b.forget other).before key now = b.before key now := by
  rw [before, before, streak?_eq, streak?_eq, rowsOf_dropStale, rowsOf_dropStale,
    rowsOf_forget_of_ne _ _ ne]
  rfl

end Fail

/-! ## Runs -/

/-- What a backoff is told and asked. -/
inductive Event where
  | fail (key : String) (now : Instant)
  | forget (key : String)
  | failures (key : String)
  deriving DecidableEq, Repr

namespace Event

/-- The key that an event is about. -/
def key : Event → String
  | fail key _ => key
  | forget key => key
  | failures key => key

/-- The time of a failure. -/
def time? : Event → Option Instant
  | fail _ now => some now
  | _ => none

end Event

def step (b : Backoff) : Event → Backoff
  | .fail key now => (b.fail key now).2
  | .forget key => b.forget key
  | .failures _ => b

def run (b : Backoff) (events : List Event) : Backoff := events.foldl step b

theorem run_concat (b : Backoff) (past : List Event) (e : Event) :
    b.run (past ++ [e]) = (b.run past).step e := by
  simp [run]

theorem limits_run (b : Backoff) (events : List Event) :
    (b.run events).base = b.base ∧ (b.run events).max = b.max := by
  induction events using List.reverseRecOn with
  | nil => exact ⟨rfl, rfl⟩
  | append_singleton past e ih =>
      rw [run_concat]
      cases e with
      | fail key now => exact ⟨(base_fail _ key now).trans ih.1, (max_fail _ key now).trans ih.2⟩
      | forget key => exact ih
      | failures key => exact ih

theorem delayFor_run (b : Backoff) (events : List Event) :
    (b.run events).delayFor = b.delayFor := by
  obtain ⟨base, max⟩ := b.limits_run events
  funext n
  simp only [delayFor, base, max]

/-- The times of the failures. -/
def times (events : List Event) : List Instant := events.filterMap Event.time?

/-- A run along a clock that does not go back, in which every failure has a delay. -/
structure Regular (b : Backoff) (events : List Event) : Prop where
  ordered : (times events).Pairwise (· ≤ ·)
  delayed : ∀ past key now rest, events = past ++ .fail key now :: rest →
    ∃ d, ((b.run past).fail key now).1 = .ok d

namespace Regular

variable {b : Backoff} {past rest : List Event} {key : String} {now : Instant}

theorem left (regular : b.Regular (past ++ rest)) : b.Regular past where
  ordered := by
    have ordered := regular.ordered
    rw [times, List.filterMap_append, List.pairwise_append] at ordered
    exact ordered.1
  delayed past' key now rest' split := by
    refine regular.delayed past' key now (rest' ++ rest) ?_
    rw [split, List.append_assoc, List.cons_append]

/-- A failure comes after those before it. -/
theorem le (regular : b.Regular (past ++ .fail key now :: rest)) : ∀ t ∈ times past, t ≤ now := by
  have ordered := regular.ordered
  rw [times, List.filterMap_append, List.pairwise_append] at ordered
  intro t member
  exact ordered.2.2 t member now (List.mem_filterMap.2 ⟨_, List.mem_cons_self, rfl⟩)

/-- One more event; a failure comes after those before it, and has a delay. -/
theorem concat (regular : b.Regular past) {e : Event}
    (next : ∀ key now, e = .fail key now →
      (∀ t ∈ times past, t ≤ now) ∧ ∃ d, ((b.run past).fail key now).1 = .ok d) :
    b.Regular (past ++ [e]) where
  ordered := by
    rw [times, List.filterMap_append, List.pairwise_append]
    refine ⟨regular.ordered, ?_, ?_⟩
    · cases e with
      | fail key now => exact List.pairwise_singleton _ _
      | forget key => exact .nil
      | failures key => exact .nil
    · intro t member now isLast
      obtain ⟨e', only, timed⟩ := List.mem_filterMap.1 isLast
      obtain rfl := List.mem_singleton.1 only
      cases e' with
      | fail key now' =>
          cases timed
          exact (next key now rfl).1 t member
      | forget key => cases timed
      | failures key => cases timed
  delayed past' key now rest split := by
    obtain rfl | ⟨rest, last, rfl⟩ := rest.eq_nil_or_concat
    · obtain ⟨rfl, same⟩ := List.append_inj' split rfl
      exact (next key now (List.singleton_inj.1 same)).2
    · rw [List.concat_eq_append, ← List.cons_append, ← List.append_assoc] at split
      obtain ⟨rfl, -⟩ := List.append_inj' split rfl
      exact regular.delayed past' key now rest rfl

theorem fail (regular : b.Regular past) (le : ∀ t ∈ times past, t ≤ now)
    (delayed : ∃ d, ((b.run past).fail key now).1 = .ok d) :
    b.Regular (past ++ [.fail key now]) := by
  refine regular.concat fun key' now' same => ?_
  cases same
  exact ⟨le, delayed⟩

end Regular

/-! ## The history of one key -/

/-- The failures in a row that a failure of the key at `now` goes on from, told by the earlier
events of that key alone, the latest one in front. The row goes on if the failure before was due
at most `max` ago, and ends with a success. -/
def inRow (b : Backoff) (key : String) (now : Instant) : List Event → Nat
  | [] => 0
  | .fail other time :: earlier =>
    if other = key then
      let n := b.inRow key time earlier
      if now.nanos ≤ time.nanos + (b.delayFor n).nanos + b.max.nanos then min (n + 1) countLimit
      else 0
    else b.inRow key now earlier
  | .forget other :: earlier => if other = key then 0 else b.inRow key now earlier
  | .failures _ :: earlier => b.inRow key now earlier

/-- Events of other keys do not matter to it. -/
theorem inRow_filter (b : Backoff) (key : String) (now : Instant) (history : List Event) :
    b.inRow key now (history.filter (·.key == key)) = b.inRow key now history := by
  induction history generalizing now with
  | nil => rfl
  | cons e earlier ih =>
      by_cases own : e.key = key
      · rw [List.filter_cons_of_pos (by simpa using own)]
        cases e with
        | fail other time => rw [inRow, inRow, ih, ih]
        | forget other => rw [inRow, inRow, ih]
        | failures other => exact ih now
      · rw [List.filter_cons_of_neg (by simpa using own), ih]
        cases e with
        | fail other time => exact (if_neg own).symm
        | forget other => exact (if_neg own).symm
        | failures other => rfl

section History

variable {b : Backoff} {events : List Event}

/-- **What a failure goes on from is told by the history of its key.** -/
theorem count_before_run (fresh : b.streaks = []) (regular : b.Regular events) (key : String)
    {now : Instant} (last : ∀ t ∈ times events, t ≤ now) :
    ((b.run events).before key now).count = b.inRow key now events.reverse := by
  induction events using List.reverseRecOn generalizing now with
  | nil => simp [run, before, dropStale, streak?, fresh, inRow]
  | append_singleton past e ih =>
      rw [run_concat, List.reverse_concat]
      rw [times, List.filterMap_append] at last
      have early : ∀ t ∈ times past, t ≤ now := fun t member => last t (List.mem_append_left _ member)
      cases e with
      | fail other time =>
          have le : time ≤ now := last time (List.mem_append_right _ List.mem_cons_self)
          by_cases own : other = key
          · subst own
            have delayed := regular.delayed past other time [] rfl
            simp only [step, count_before_fail delayed, ih regular.left regular.le,
              b.delayFor_run past, (b.limits_run past).2, inRow, if_true]
          · rw [step, before_fail_of_ne _ own le, ih regular.left early, inRow, if_neg own]
      | forget other =>
          by_cases own : other = key
          · subst own
            rw [step, before_forget, inRow, if_pos rfl]
          · rw [step, before_forget_of_ne _ own, ih regular.left early, inRow, if_neg own]
      | failures other => exact ih regular.left early

/-- A failure has a delay or not by the history of its key. -/
theorem exists_delay_run_iff (fresh : b.streaks = []) (regular : b.Regular events) (key : String)
    {now : Instant} (last : ∀ t ∈ times events, t ≤ now) :
    (∃ d, ((b.run events).fail key now).1 = .ok d) ↔
      (now.nanos + (b.delayFor (b.inRow key now events.reverse)).nanos) / Duration.nanosPerSecond <
        Instant.secondsLimit := by
  rw [exists_delay_iff, count_before_run fresh regular key last, delayFor_run]

theorem times_filter_subset (key : String) :
    ∀ t ∈ times (events.filter (·.key == key)), t ∈ times events := by
  intro t member
  exact (List.filter_sublist.filterMap _).subset member

/-- The events of one key are a run of their own. -/
theorem Regular.filter (fresh : b.streaks = []) (regular : b.Regular events) (key : String) :
    b.Regular (events.filter (·.key == key)) := by
  induction events using List.reverseRecOn with
  | nil => exact regular
  | append_singleton past e ih =>
      have own := ih regular.left
      by_cases same : e.key = key
      · rw [List.filter_append, List.filter_cons_of_pos (by simpa using same)]
        refine own.concat fun other now failed => ?_
        subst failed
        have last : ∀ t ∈ times (past.filter (·.key == key)), t ≤ now :=
          fun t member => regular.le t (times_filter_subset key t member)
        refine ⟨last, ?_⟩
        obtain rfl : other = key := same
        rw [exists_delay_run_iff fresh own other last, ← List.filter_reverse, inRow_filter,
          ← exists_delay_run_iff fresh regular.left other regular.le]
        exact regular.delayed past other now [] rfl
      · rw [List.filter_append, List.filter_cons_of_neg (by simpa using same), List.filter_nil,
          List.append_nil]
        exact own

end History

/-- **The delay of a key is told by its own history**: whatever happens to other keys in between,
each of its failures goes on from the row that its own earlier events make, counts one more, and
has the same delay and the same count if the events of all other keys are left out. -/
theorem fail_of_own_history (base max : Duration) {events : List Event}
    (regular : (Backoff.new base max).Regular events) :
    ∀ past key now rest, events = past ++ .fail key now :: rest →
      let b := Backoff.new base max
      let n := b.inRow key now past.reverse
      let failed := (b.run past).fail key now
      let alone := (b.run (past.filter (·.key == key))).fail key now
      failed.1 = .ok (b.delayFor n) ∧ failed.2.failures key = min (n + 1) countLimit ∧
        alone.1 = failed.1 ∧ alone.2.failures key = failed.2.failures key := by
  intro past key now rest split b n failed alone
  subst split
  have fresh : b.streaks = [] := rfl
  have delayed := regular.delayed past key now rest rfl
  have counted : ((b.run past).before key now).count = n :=
    count_before_run fresh regular.left key regular.le
  have answer : failed.1 = .ok (b.delayFor n) := by
    rw [fst_fail_of_delay delayed, counted, delayFor_run]
  have count : failed.2.failures key = min (n + 1) countLimit := by
    rw [failures_fail delayed, counted]
  -- The events of the key alone are such a run too, with the same row before this failure.
  have own := regular.filter fresh key
  rw [List.filter_append, List.filter_cons_of_pos (by simp [Event.key])] at own
  have delayedAlone := own.delayed _ key now _ rfl
  have countedAlone : ((b.run (past.filter (·.key == key))).before key now).count = n := by
    rw [count_before_run fresh own.left key own.le, ← List.filter_reverse, inRow_filter]
  refine ⟨answer, count, ?_, ?_⟩
  · rw [answer, fst_fail_of_delay delayedAlone, countedAlone, delayFor_run]
  · rw [count, failures_fail delayedAlone, countedAlone]

/-- Two keys in turns: at 11 s the other key comes just in time to keep the row of the first,
and at 24 s the first would be too late by itself. -/
theorem fail_of_own_history_interleaved :
    let b := Backoff.new (.ofSeconds 1) (.ofSeconds 10)
    let early : List Event := [.fail "a" ⟨0⟩, .fail "b" ⟨11000000000⟩]
    let late : List Event := early ++ [.fail "a" ⟨11000000000⟩, .fail "b" ⟨24000000000⟩]
    b.Regular (late ++ [.fail "a" ⟨24000000000⟩]) ∧
      ((b.run early).fail "a" ⟨11000000000⟩).1 = .ok (.ofSeconds 2) ∧
      ((b.run late).fail "a" ⟨24000000000⟩).1 = .ok (.ofSeconds 1) := by
  intro b early late
  have start : b.Regular [] := ⟨.nil, fun past key now rest split => by cases past <;> cases split⟩
  have first : b.Regular [.fail "a" ⟨0⟩] :=
    start.fail nofun ((exists_delay_iff _ _ _).2 (by decide))
  have second : b.Regular early := first.fail (by decide) ((exists_delay_iff _ _ _).2 (by decide))
  have third : b.Regular (early ++ [.fail "a" ⟨11000000000⟩]) :=
    second.fail (by decide) ((exists_delay_iff _ _ _).2 (by decide))
  have fourth : b.Regular late := third.fail (by decide) ((exists_delay_iff _ _ _).2 (by decide))
  have regular : b.Regular (late ++ [.fail "a" ⟨24000000000⟩]) :=
    fourth.fail (by decide) ((exists_delay_iff _ _ _).2 (by decide))
  have history := fail_of_own_history (.ofSeconds 1) (.ofSeconds 10) regular
  refine ⟨regular, (history early "a" ⟨11000000000⟩ _ rfl).1.trans ?_,
    (history late "a" ⟨24000000000⟩ [] rfl).1.trans ?_⟩
  · decide
  · decide

end Backoff

end InventorySync.Retry
