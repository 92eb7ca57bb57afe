/-
# Proofs.Retention — which rows the record of failures holds, and for how long

Every failure first drops the rows that are stale, whichever keys they belong to, and then writes
the row of its own key. So a row is there exactly if the latest failure of its key wrote it, and
since then neither has the key been cleared nor has any key failed more than `max` after the row's
retry was due (`mem_streaks_run_iff`). The times of the failures need not be in order.

A retry is due at most `max` after its failure. Right after a failure the record therefore holds
no key but those that failed within twice `max`, and no more rows than there are such keys
(`rows_recent`): a key that is never heard of again goes with the failures of other keys.
-/
import InventorySync.Proofs.Backoff
import Mathlib.Data.List.Dedup
import Mathlib.Data.List.Perm.Subperm

namespace InventorySync.Retry.Backoff

set_option autoImplicit false

open InventorySync.Time

/-! ## Histories -/

/-- Every failure of a run has a delay. -/
def Delayed (b : Backoff) (events : List Event) : Prop :=
  ∀ past key now rest, events = past ++ .fail key now :: rest →
    ∃ d, ((b.run past).fail key now).1 = .ok d

/-- The event writes or clears the row of the key. -/
def Event.Touches (key : String) : Event → Prop
  | fail other _ => other = key
  | forget other => other = key
  | failures _ => False

/-- The latest failure of the key was at `time`, and it has not been cleared since. -/
def LastFailed (events : List Event) (key : String) (time : Instant) : Prop :=
  ∃ past rest, events = past ++ .fail key time :: rest ∧ ∀ e ∈ rest, ¬ e.Touches key

/-- The keys of the failures that lie at most a span before a point. -/
def failedWithin (span : Duration) (now : Instant) (events : List Event) : List String :=
  events.filterMap fun
    | .fail key time => if now.nanos ≤ time.nanos + span.nanos then some key else none
    | _ => none

variable {b : Backoff} {key other : String} {s : Streak} {now time : Instant} {e : Event}
  {past rest events : List Event}

/-- An event of a history is its last one, or an event of the history before that. -/
theorem concat_eq_iff {x : Event} : events ++ [e] = past ++ x :: rest ↔
    (past = events ∧ x = e ∧ rest = []) ∨
      ∃ between, rest = between ++ [e] ∧ events = past ++ x :: between := by
  constructor
  · intro split
    obtain rfl | ⟨between, last, rfl⟩ := rest.eq_nil_or_concat
    · obtain ⟨rfl, same⟩ := List.append_inj' split rfl
      exact .inl ⟨rfl, (List.singleton_inj.1 same).symm, rfl⟩
    · rw [List.concat_eq_append, ← List.cons_append, ← List.append_assoc] at split
      obtain ⟨rfl, same⟩ := List.append_inj' split rfl
      exact .inr ⟨between, by rw [List.concat_eq_append, same], rfl⟩
  · rintro (⟨rfl, rfl, rfl⟩ | ⟨between, rfl, rfl⟩)
    · rfl
    · rw [List.append_assoc, List.cons_append]

theorem Delayed.left (delayed : b.Delayed (past ++ rest)) : b.Delayed past := by
  intro earlier key now later split
  refine delayed earlier key now (later ++ rest) ?_
  rw [split, List.append_assoc, List.cons_append]

theorem Delayed.fail (delayed : b.Delayed past)
    (next : ∃ d, ((b.run past).fail key now).1 = .ok d) :
    b.Delayed (past ++ [.fail key now]) := by
  intro earlier key now later split
  obtain ⟨rfl, same, -⟩ | ⟨between, -, before⟩ := concat_eq_iff.1 split
  · cases same
    exact next
  · exact delayed earlier key now between before

/-! ## Rows -/

/-- The row that a failure with a delay writes. -/
def written (b : Backoff) (key : String) (now : Instant) : Streak :=
  let n := (b.before key now).count
  ⟨min (n + 1) countLimit, ⟨now.nanos + (b.delayFor n).nanos⟩⟩

/-- The row is not stale yet. -/
def Fresh (b : Backoff) (s : Streak) (now : Instant) : Prop :=
  now.nanos ≤ s.retryAt.nanos + b.max.nanos

/-- The latest failure of the key wrote the row, the key has not been cleared since, and no key
has failed when the row was stale. -/
def Kept (b : Backoff) (events : List Event) (key : String) (s : Streak) : Prop :=
  ∃ past time rest, events = past ++ .fail key time :: rest ∧ s = (b.run past).written key time ∧
    ∀ e ∈ rest, ¬ e.Touches key ∧ ∀ later ∈ e.time?, b.Fresh s later

theorem mem_forget_iff :
    (key, s) ∈ (b.forget other).streaks ↔ (key, s) ∈ b.streaks ∧ key ≠ other := by
  simp [forget]

theorem mem_record_iff {new : Streak} : (key, s) ∈ (b.record other new).streaks ↔
    (key = other ∧ s = new) ∨ ((key, s) ∈ b.streaks ∧ key ≠ other) := by
  simp [record]

theorem mem_dropStale_iff :
    (key, s) ∈ (b.dropStale now).streaks ↔ (key, s) ∈ b.streaks ∧ b.Fresh s now := by
  have fresh : now.since s.retryAt ≤ b.max ↔ b.Fresh s now := by
    change now.nanos - s.retryAt.nanos ≤ b.max.nanos ↔ now.nanos ≤ s.retryAt.nanos + b.max.nanos
    omega
  simp [dropStale, fresh]

/-- A failure writes its own row and keeps the fresh ones of other keys. -/
theorem mem_fail_iff (delayed : ∃ d, (b.fail other now).1 = .ok d) :
    (key, s) ∈ (b.fail other now).2.streaks ↔ (key = other ∧ s = b.written other now) ∨
      (((key, s) ∈ b.streaks ∧ b.Fresh s now) ∧ key ≠ other) := by
  obtain ⟨due, nanos, failed⟩ := fail_of_delay delayed
  have new : b.written other now = ⟨min ((b.before other now).count + 1) countLimit, due⟩ := by
    rw [written, ← nanos]
  rw [failed, mem_record_iff, mem_dropStale_iff, new]

/-- No key has two rows. -/
theorem nodup_keys_run (empty : b.streaks = []) (events : List Event) :
    ((b.run events).streaks.map (·.1)).Nodup := by
  induction events using List.reverseRecOn with
  | nil => simp [run, empty]
  | append_singleton past e ih =>
      rw [run_concat]
      cases e with
      | fail key now =>
          obtain ⟨s, failed⟩ := (b.run past).exists_record_fail key now
          have left : (((b.run past).dropStale now).streaks.map (·.1)).Nodup :=
            ih.sublist (List.filter_sublist.map _)
          rw [step, failed, record, List.map_cons, List.nodup_cons]
          exact ⟨by simp, left.sublist (List.filter_sublist.map _)⟩
      | forget key => exact ih.sublist (List.filter_sublist.map _)
      | failures key => exact ih

/-- One more event: it writes the row itself, or leaves it as it is. -/
theorem kept_concat_iff : b.Kept (events ++ [e]) key s ↔
    (∃ time, e = .fail key time ∧ s = (b.run events).written key time) ∨
      b.Kept events key s ∧ ¬ e.Touches key ∧ ∀ later ∈ e.time?, b.Fresh s later := by
  constructor
  · rintro ⟨past, time, rest, split, row, quiet⟩
    obtain ⟨rfl, same, -⟩ | ⟨between, rfl, before⟩ := concat_eq_iff.1 split
    · exact .inl ⟨time, same.symm, row⟩
    · rw [List.forall_mem_append, List.forall_mem_singleton] at quiet
      exact .inr ⟨⟨past, time, between, before, row, quiet.1⟩, quiet.2⟩
  · rintro (⟨time, rfl, row⟩ | ⟨⟨past, time, rest, rfl, row, quiet⟩, last⟩)
    · exact ⟨events, time, [], rfl, row, nofun⟩
    · refine ⟨past, time, rest ++ [e], by simp, row, ?_⟩
      rw [List.forall_mem_append, List.forall_mem_singleton]
      exact ⟨quiet, last⟩

/-- **Which rows there are**: those that are kept. -/
theorem mem_streaks_run_iff (empty : b.streaks = []) (delayed : b.Delayed events) :
    (key, s) ∈ (b.run events).streaks ↔ b.Kept events key s := by
  induction events using List.reverseRecOn with
  | nil => simp [run, empty, Kept]
  | append_singleton past e ih =>
      have fresh (now : Instant) : (b.run past).Fresh s now ↔ b.Fresh s now := by
        rw [Fresh, (b.limits_run past).2, Fresh]
      rw [run_concat, kept_concat_iff, ← ih delayed.left]
      cases e with
      | fail other now =>
          rw [step, mem_fail_iff (delayed past other now [] rfl), fresh]
          by_cases own : other = key
          · subst own
            simp [Event.Touches]
          · simp [Event.Touches, Event.time?, own, Ne.symm own]
      | forget other =>
          rw [step, mem_forget_iff]
          simp [Event.Touches, Event.time?, eq_comm]
      | failures other => simp [step, Event.Touches, Event.time?]

/-! ## What a row tells -/

theorem written_spec (b : Backoff) (key : String) (now : Instant) :
    1 ≤ (b.written key now).count ∧ ∃ delay, delay ≤ b.max ∧
      (b.written key now).retryAt.nanos = now.nanos + delay.nanos :=
  ⟨Nat.le_min.2 ⟨Nat.le_add_left _ _, by decide⟩, _, b.delayFor_le _, rfl⟩

theorem Kept.row (kept : b.Kept events key s) : 1 ≤ s.count ∧ ∃ time delay,
    LastFailed events key time ∧ delay ≤ b.max ∧ s.retryAt.nanos = time.nanos + delay.nanos := by
  obtain ⟨past, time, rest, split, rfl, quiet⟩ := kept
  obtain ⟨counted, delay, short, due⟩ := (b.run past).written_spec key time
  rw [(b.limits_run past).2] at short
  exact ⟨counted, time, delay, ⟨past, rest, split, fun e member => (quiet e member).1⟩, short, due⟩

/-- Right after a failure no row is stale. -/
theorem Kept.fresh (kept : b.Kept (past ++ [.fail other now]) key s) : b.Fresh s now := by
  obtain ⟨time, same, rfl⟩ | ⟨-, -, fresh⟩ := kept_concat_iff.1 kept
  · cases same
    obtain ⟨-, delay, -, due⟩ := (b.run past).written_spec key now
    rw [Fresh, due, Nat.add_assoc]
    exact Nat.le_add_right _ _
  · exact fresh now rfl

theorem Kept.recent (kept : b.Kept (past ++ [.fail other now]) key s) : ∃ time,
    LastFailed (past ++ [.fail other now]) key time ∧ now.nanos ≤ time.nanos + 2 * b.max.nanos := by
  obtain ⟨-, time, delay, last, short, due⟩ := kept.row
  have fresh : now.nanos ≤ s.retryAt.nanos + b.max.nanos := kept.fresh
  have short : delay.nanos ≤ b.max.nanos := short
  exact ⟨time, last, by omega⟩

theorem mem_failedWithin_iff {span : Duration} : key ∈ failedWithin span now events ↔
    ∃ time, .fail key time ∈ events ∧ now.nanos ≤ time.nanos + span.nanos := by
  simp only [failedWithin, List.mem_filterMap]
  constructor
  · rintro ⟨e, member, named⟩
    cases e with
    | fail other time =>
        obtain ⟨recent, same⟩ := Option.ite_none_right_eq_some.1 named
        cases same
        exact ⟨time, member, recent⟩
    | forget other => cases named
    | failures other => cases named
  · rintro ⟨time, member, recent⟩
    exact ⟨_, member, if_pos recent⟩

/-- **The record holds recent failures only**, whatever the keys and the times of a run. Each row
has a count, is due at most the longest delay after the latest failure of its key, and that key has
not been cleared since. Right after a failure of any key, that key has a row, the latest failure of
each key with a row is no more than twice the longest delay ago, and there are no more rows than
distinct keys with such a failure. -/
theorem rows_recent (base max : Duration) {events : List Event}
    (delayed : (Backoff.new base max).Delayed events) :
    let rows := ((Backoff.new base max).run events).streaks
    (∀ key s, (key, s) ∈ rows → 1 ≤ s.count ∧ ∃ time delay, LastFailed events key time ∧
      delay ≤ max ∧ s.retryAt.nanos = time.nanos + delay.nanos) ∧
    ∀ past latest now, events = past ++ [.fail latest now] →
      (∃ s, (latest, s) ∈ rows) ∧
      (∀ key s, (key, s) ∈ rows → ∃ time, LastFailed events key time ∧
        now.nanos ≤ time.nanos + 2 * max.nanos) ∧
      rows.length ≤ (failedWithin ⟨2 * max.nanos⟩ now events).dedup.length := by
  intro rows
  have kept (key : String) (s : Streak) :
      (key, s) ∈ rows ↔ (Backoff.new base max).Kept events key s :=
    mem_streaks_run_iff rfl delayed
  refine ⟨fun key s row => ((kept key s).1 row).row, ?_⟩
  rintro past latest now rfl
  have recent (key : String) (s : Streak) (row : (key, s) ∈ rows) :
      ∃ time, LastFailed (past ++ [.fail latest now]) key time ∧
        now.nanos ≤ time.nanos + 2 * max.nanos := ((kept key s).1 row).recent
  refine ⟨⟨_, (kept latest _).2 (kept_concat_iff.2 (.inl ⟨now, rfl, rfl⟩))⟩, recent, ?_⟩
  have keys : (rows.map (·.1)) ⊆ (failedWithin ⟨2 * max.nanos⟩ now
      (past ++ [.fail latest now])).dedup := by
    intro key listed
    obtain ⟨⟨key, s⟩, row, rfl⟩ := List.mem_map.1 listed
    obtain ⟨time, ⟨before, rest, split, -⟩, late⟩ := recent key s row
    rw [List.mem_dedup, mem_failedWithin_iff, split]
    exact ⟨time, List.mem_append_right _ List.mem_cons_self, late⟩
  have distinct : (rows.map (·.1)).Nodup := nodup_keys_run rfl _
  rw [← List.length_map (·.1)]
  exact (distinct.subperm keys).length_le

/-- A key that fails twice at the start, and then no more. At 30 s its row goes with the failure of
another key; a third one fails at 25 s, though that failure comes after the one at 30 s. Two keys
have failed since 10 s, and there are two rows. -/
theorem rows_recent_gone :
    let b := Backoff.new (.ofSeconds 1) (.ofSeconds 10)
    let events : List Event := [.fail "gone" ⟨0⟩, .fail "gone" ⟨0⟩, .fail "live" ⟨30000000000⟩,
      .fail "late" ⟨25000000000⟩, .fail "live" ⟨30000000000⟩]
    b.Delayed events ∧ (b.run (events.take 2)).failures "gone" = 2 ∧
      (∀ s, ("gone", s) ∉ (b.run events).streaks) ∧ (b.run events).streaks.length ≤ 2 := by
  intro b events
  have start : b.Delayed [] := fun past key now rest split => by cases past <;> cases split
  have once : b.Delayed [.fail "gone" ⟨0⟩] :=
    start.fail ((exists_delay_iff _ _ _).2 (by decide))
  have twice : b.Delayed (events.take 2) := once.fail ((exists_delay_iff _ _ _).2 (by decide))
  have third : b.Delayed (events.take 3) := twice.fail ((exists_delay_iff _ _ _).2 (by decide))
  have fourth : b.Delayed (events.take 4) := third.fail ((exists_delay_iff _ _ _).2 (by decide))
  have delayed : b.Delayed events := fourth.fail ((exists_delay_iff _ _ _).2 (by decide))
  obtain ⟨-, recent, bound⟩ :=
    (rows_recent (.ofSeconds 1) (.ofSeconds 10) delayed).2 (events.take 4) "live" ⟨30000000000⟩ rfl
  refine ⟨delayed, by decide, fun s row => ?_, Nat.le_trans bound (by decide)⟩
  obtain ⟨time, ⟨past, rest, split, -⟩, late⟩ := recent "gone" s row
  have failed : Event.fail "gone" time ∈ events := split ▸ by simp
  obtain rfl : time = ⟨0⟩ := by simpa [events] using failed
  exact absurd late (by decide)

end InventorySync.Retry.Backoff
