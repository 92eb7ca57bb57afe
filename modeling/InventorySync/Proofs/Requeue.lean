/-
# Proofs.Requeue — the settings under which every failure has a delay

A failure has no delay if its retry would be due after the clock ends, or if the wait for a
token is no span. `Clocked.run` is any run of the policy: failures, successes, questions and
the passing of time. The question is which accepted settings have a delay for every failure
of every run, as long as half of the clock's range is left (`Early`).

They are those with a longest delay of at most `2^62` seconds and a rate above `2^-11`
(`requeue_delays_iff`). Every step keeps the limits that make room for the delays (`Safe`).
Conversely, one key that fails again and again comes to its longest delay, and empties the
bucket down to its deepest debt; then one of the two is out of range. Nothing else about the
settings matters, and the check of the settings refuses neither.
-/
import InventorySync.Proofs.Backoff
import InventorySync.Proofs.Bucket
import InventorySync.Proofs.Settings
import InventorySync.Retry.Requeue

namespace InventorySync.Retry

set_option autoImplicit false

open InventorySync.Time InventorySync.Numeral

/-! ## One failure -/

namespace Requeue

variable (r : Requeue) (key : String) (now : Instant)

/-- A failure has a delay exactly if both limits give one. -/
theorem exists_delay_iff : (∃ d, (r.fail key now).1 = .ok d) ↔
    (∃ d, (r.items.fail key now).1 = .ok d) ∧ ∃ d, (r.bucket.reserveSpan now).1 = .ok d := by
  simp only [fail]
  rcases r.items.fail key now with ⟨_ | own, items⟩
  · exact iff_of_false nofun nofun
  · rcases r.bucket.reserveSpan now with ⟨_ | shared, bucket⟩
    · exact iff_of_false nofun nofun
    · exact iff_of_true ⟨_, rfl⟩ ⟨⟨_, rfl⟩, _, rfl⟩

theorem items_fail : (r.fail key now).2.items = (r.items.fail key now).2 := by
  simp only [fail]
  rcases r.items.fail key now with ⟨_ | own, items⟩
  · rfl
  · rcases r.bucket.reserveSpan now with ⟨_ | shared, bucket⟩ <;> rfl

/-- The bucket is asked only if the key has a delay of its own. -/
theorem bucket_fail : (∃ d, (r.items.fail key now).1 = .ok d) ∧
      (r.fail key now).2.bucket = (r.bucket.reserve now).2 ∨
    (¬ ∃ d, (r.items.fail key now).1 = .ok d) ∧ (r.fail key now).2.bucket = r.bucket := by
  rw [← Bucket.reserveSpan_after]
  simp only [fail]
  rcases r.items.fail key now with ⟨_ | own, items⟩
  · exact .inr ⟨nofun, rfl⟩
  · rcases r.bucket.reserveSpan now with ⟨_ | shared, bucket⟩ <;> exact .inl ⟨⟨own, rfl⟩, rfl⟩

theorem bucket_fail_of_delay {r : Requeue} {key : String} {now : Instant}
    (own : ∃ d, (r.items.fail key now).1 = .ok d) :
    (r.fail key now).2.bucket = (r.bucket.reserve now).2 :=
  ((r.bucket_fail key now).resolve_right fun other => other.1 own).2

end Requeue

/-! ## Runs -/

/-- What is done with the policy, and the time that passes in between. -/
inductive Use where
  | fail (key : String)
  | forget (key : String)
  | failures (key : String)
  | pass (span : Duration)

/-- The policy and the time. -/
structure Clocked where
  policy : Requeue
  now : Instant

namespace Clocked

def step (c : Clocked) : Use → Clocked
  | .fail key => { c with policy := (c.policy.fail key c.now).2 }
  | .forget key => { c with policy := c.policy.forget key }
  | .failures _ => c
  | .pass span => { c with now := ⟨c.now.nanos + span.nanos⟩ }

def run (c : Clocked) (uses : List Use) : Clocked := uses.foldl step c

/-- The delay of one more failure. -/
def delay (c : Clocked) (key : String) : Except RangeFault Duration := (c.policy.fail key c.now).1

/-- One more failure has a delay. -/
def Delays (c : Clocked) (key : String) : Prop := ∃ d, c.delay key = .ok d

theorem delays_iff (c : Clocked) (key : String) : c.Delays key ↔
    (∃ d, (c.policy.items.fail key c.now).1 = .ok d) ∧
      ∃ d, (c.policy.bucket.reserveSpan c.now).1 = .ok d :=
  c.policy.exists_delay_iff key c.now

theorem run_append (c : Clocked) (uses more : List Use) :
    c.run (uses ++ more) = (c.run uses).run more := by
  simp [run]

/-- A run leaves the base and the longest delay as they are. -/
theorem limits_run (c : Clocked) (uses : List Use) :
    (c.run uses).policy.items.base = c.policy.items.base ∧
      (c.run uses).policy.items.max = c.policy.items.max := by
  induction uses using List.reverseRecOn with
  | nil => exact ⟨rfl, rfl⟩
  | append_singleton past use ih =>
      rw [run_append]
      cases use with
      | fail other =>
          change ((c.run past).policy.fail other _).2.items.base = _ ∧
            ((c.run past).policy.fail other _).2.items.max = _
          rw [Requeue.items_fail, Backoff.base_fail, Backoff.max_fail]
          exact ih
      | forget other => exact ih
      | failures other => exact ih
      | pass span => exact ih

end Clocked

/-- Half of the clock's range is left. -/
def Early (t : Instant) : Prop := t.nanos / Duration.nanosPerSecond < 2 ^ 62

instance (t : Instant) : Decidable (Early t) := inferInstanceAs (Decidable (_ < _))

/-- The longest delay that is in range at all early times. -/
def longest : Duration := .ofSeconds (2 ^ 62)

/-- The rate at which the deepest debt is paid in `2^64` seconds, `2^-11`. -/
def slowest : Float := 0.00048828125

theorem hasValue_slowest : HasValue slowest (2 ^ (-11 : ℤ)) := by
  have known : parts slowest = .finite .positive (2 ^ 52) (-63) (by norm_num) := rfl
  have value := hasValue_of_parts known ⟨by norm_num, by norm_num, .inl le_rfl⟩ (by norm_num)
  convert value using 1
  norm_num [signed]

/-! ## Room for every delay -/

/-- The limits of the policy leave room for every delay. -/
structure Safe (r : Requeue) : Prop where
  max : r.items.max ≤ longest
  bucket : ∃ burst qps tokens, r.bucket.Holds burst qps tokens ∧ 0 ≤ burst ∧
    2 ^ (-11 : ℤ) < qps ∧ -2 ^ 53 ≤ tokens

namespace Safe

/-- What a reservation leaves, whether it is the next step or only asked about. -/
theorem reserve {r : Requeue} (safe : Safe r) (now : Instant) :
    ∃ burst qps tokens, (r.bucket.reserve now).2.Holds burst qps tokens ∧ 0 ≤ burst ∧
      2 ^ (-11 : ℤ) < qps ∧ -2 ^ 53 ≤ tokens := by
  obtain ⟨burst, qps, tokens, holds, nonneg, fast, deep⟩ := safe.bucket
  have forwards : 0 ≤ qps := le_trans (by positivity) fast.le
  obtain ⟨tokens, holds, deep⟩ := holds.reserve nonneg forwards deep now
  exact ⟨burst, qps, tokens, holds, nonneg, fast, deep⟩

theorem fail {r : Requeue} (safe : Safe r) (key : String) (now : Instant) :
    Safe (r.fail key now).2 := by
  refine ⟨?_, ?_⟩
  · rw [r.items_fail key now, Backoff.max_fail]
    exact safe.max
  · obtain ⟨-, bucket⟩ | ⟨-, bucket⟩ := r.bucket_fail key now
    · exact bucket ▸ safe.reserve now
    · exact bucket ▸ safe.bucket

theorem step {c : Clocked} (safe : Safe c.policy) (use : Use) : Safe (c.step use).policy := by
  cases use with
  | fail key => exact safe.fail key c.now
  | forget key => exact ⟨safe.max, safe.bucket⟩
  | failures key => exact safe
  | pass span => exact safe

theorem run {c : Clocked} (safe : Safe c.policy) (uses : List Use) : Safe (c.run uses).policy := by
  induction uses generalizing c with
  | nil => exact safe
  | cons use uses ih => exact ih (safe.step use)

/-- **With room for every delay, an early failure has one.** -/
theorem delays {c : Clocked} (safe : Safe c.policy) (early : Early c.now) (key : String) :
    c.Delays key := by
  obtain ⟨burst, qps, tokens, after, -, fast, deep⟩ := safe.reserve c.now
  refine (c.delays_iff key).2 ⟨?_, after.exists_span deep fast⟩
  rw [Backoff.exists_delay_iff]
  generalize (c.policy.items.before key c.now).count = n
  have short : (c.policy.items.delayFor n).nanos ≤ 2 ^ 62 * 1000000000 :=
    (c.policy.items.delayFor_le n).trans safe.max
  have early : c.now.nanos / 1000000000 < 2 ^ 62 := early
  change (c.now.nanos + (c.policy.items.delayFor n).nanos) / 1000000000 < 2 ^ 63
  omega

end Safe

/-! ## One key that fails again and again -/

namespace Clocked

/-- The policy after some failures of one key, all at the same time. -/
def again (c : Clocked) (key : String) (n : ℕ) : Clocked := c.run (List.replicate n (.fail key))

variable {c : Clocked} {key : String}

theorem again_succ (c : Clocked) (key : String) (n : ℕ) :
    c.again key (n + 1) = (c.again key n).step (.fail key) := by
  rw [again, List.replicate_succ', run_append]
  rfl

theorem now_again (c : Clocked) (key : String) (n : ℕ) : (c.again key n).now = c.now := by
  induction n with
  | zero => rfl
  | succ n ih => rw [again_succ]; exact ih

theorem policy_again_succ (c : Clocked) (key : String) (n : ℕ) :
    (c.again key (n + 1)).policy = ((c.again key n).policy.fail key c.now).2 := by
  rw [again_succ, ← now_again c key n]
  rfl

theorem max_again (c : Clocked) (key : String) (n : ℕ) :
    (c.again key n).policy.items.max = c.policy.items.max :=
  (c.limits_run (List.replicate n (.fail key))).2

/-- The limits have a delay for each of the failures. -/
theorem limits_again (delays : ∀ n, (c.again key n).Delays key) (n : ℕ) :
    (∃ d, ((c.again key n).policy.items.fail key c.now).1 = .ok d) ∧
      ∃ d, ((c.again key n).policy.bucket.reserveSpan c.now).1 = .ok d := by
  have both := ((c.again key n).delays_iff key).1 (delays n)
  rwa [now_again] at both

/-- A failure that has a delay is counted. -/
theorem count_again (fresh : c.policy.items.streaks = [])
    (delays : ∀ n, (c.again key n).Delays key) {n : ℕ} (small : n ≤ Backoff.countLimit) :
    ((c.again key n).policy.items.before key c.now).count = n := by
  induction n with
  | zero =>
      change (c.policy.items.before key c.now).count = 0
      simp [Backoff.before, Backoff.dropStale, Backoff.streak?, fresh]
  | succ n ih =>
      have counted := Backoff.count_before_fail (limits_again delays n).1 c.now
      rw [if_pos (by omega)] at counted
      rw [policy_again_succ, Requeue.items_fail, counted, ih (by omega), min_eq_left small]

/-- So the key comes to its longest delay, and that is in range. -/
theorem add_max_lt (fresh : c.policy.items.streaks = [])
    (delays : ∀ n, (c.again key n).Delays key) :
    (c.now.nanos + c.policy.items.max.nanos) / Duration.nanosPerSecond < Instant.secondsLimit := by
  have own := (limits_again delays Backoff.doublingLimit).1
  have counted := count_again fresh delays (n := Backoff.doublingLimit) (by decide)
  rw [Backoff.exists_delay_iff, counted, Backoff.delayFor_of_le _ le_rfl, max_again] at own
  exact own

section Emptied

variable {burst : ℕ} {qps : ℚ}

/-- Each failure takes one token, down to the deepest debt. -/
theorem holds_again (small : burst ≤ 2 ^ 53) (full : c.policy.bucket.Holds burst qps burst)
    (refilled : c.policy.bucket.lastRefill = c.now) (delays : ∀ n, (c.again key n).Delays key)
    {n : ℕ} (few : n ≤ burst + 2 ^ 53) :
    (c.again key n).policy.bucket.Holds burst qps (burst - n : ℤ) ∧
      (c.again key n).policy.bucket.lastRefill = c.now := by
  induction n with
  | zero =>
      refine ⟨?_, refilled⟩
      rw [Nat.cast_zero, sub_zero]
      exact full
  | succ n ih =>
      obtain ⟨holds, refilled⟩ := ih (by omega)
      have most : ((burst - n : ℤ) : ℚ) ≤ burst := by
        push_cast
        exact sub_le_self _ (Nat.cast_nonneg n)
      have taken := holds.reserve_at_once most (abs_le.2 (by omega)) (abs_le.2 (by omega))
      rw [sub_sub, ← Nat.cast_succ, refilled] at taken
      rw [policy_again_succ, Requeue.bucket_fail_of_delay (limits_again delays n).1]
      exact ⟨taken, rfl⟩

/-- So the bucket comes to its deepest debt, and the rate is not too low to wait for that. -/
theorem lt_qps (small : burst ≤ 2 ^ 53) (positive : 0 < qps)
    (full : c.policy.bucket.Holds burst qps burst) (refilled : c.policy.bucket.lastRefill = c.now)
    (delays : ∀ n, (c.again key n).Delays key) : 2 ^ (-11 : ℤ) < qps := by
  by_contra slow
  obtain ⟨last, depth⟩ : ∃ n, n + 1 = burst + 2 ^ 53 := ⟨burst + 2 ^ 53 - 1, by omega⟩
  obtain ⟨own, shared⟩ := limits_again delays last
  obtain ⟨after, -⟩ := holds_again small full refilled delays depth.le
  have deepest : ((burst - (last + 1 : ℕ) : ℤ) : ℚ) = -2 ^ 53 := by
    rw [depth]
    push_cast
    ring
  rw [policy_again_succ, Requeue.bucket_fail_of_delay own, deepest] at after
  exact after.no_span positive (not_lt.1 slow) shared

end Emptied

end Clocked

end InventorySync.Retry

/-! ## Accepted settings -/

namespace InventorySync.Config

open Time Numeral Retry

/-- An accepted rate is a positive number. -/
theorem exists_rate {qps : Float} (accepted : isPositiveRate qps = true) :
    ∃ v, HasValue qps v ∧ 0 < v := by
  rw [isPositiveRate, Bool.and_eq_true, Bool.not_eq_true', decide_eq_false_iff_not] at accepted
  obtain ⟨v, value⟩ := exists_hasValue accepted.1
  have zero : HasValue 0 0 := Denotes.zero .positive
  exact ⟨v, value, not_le.1 (mt (le_iff value zero).2 accepted.2)⟩

/-- The policy of these settings, starting now. -/
def clocked (c : Config) (start : Instant) : Clocked := ⟨c.requeue start, start⟩

section Accepted

variable {lookup : String → Option String} {c : Config} {start : Instant}

/-- Accepted settings start with a full bucket. -/
theorem exists_holds (accepted : load lookup = .ok c) (start : Instant) :
    c.burst ≤ 2 ^ 53 ∧ ∃ qps, HasValue c.qps qps ∧ 0 < qps ∧
      (c.requeue start).bucket.Holds c.burst qps c.burst := by
  have passes := load_eq_ok accepted
  have small : c.burst < 2 ^ 32 := unsigned_lt (by decide) passes.burst.1
  have fits : c.burst ≤ 2 ^ 53 := by omega
  obtain ⟨qps, rate, positive⟩ := exists_rate passes.qps.2
  exact ⟨fits, qps, rate, positive, .new fits rate start⟩

/-- At the last early point, a delay that is in range takes at most half of the clock's. -/
theorem backoffMax_le (accepted : load lookup = .ok c) (early : Early start)
    (delays : ∀ uses key, Early ((c.clocked start).run uses).now →
      ((c.clocked start).run uses).Delays key) : c.backoffMax ≤ longest := by
  obtain ⟨n, -, most⟩ := (load_eq_ok accepted).most
  obtain ⟨span, late⟩ : ∃ span : Duration, start.nanos + span.nanos + 1 = 2 ^ 62 * 1000000000 := by
    have early : start.nanos / 1000000000 < 2 ^ 62 := early
    exact ⟨⟨2 ^ 62 * 1000000000 - start.nanos - 1⟩, by dsimp only; omega⟩
  let last : Clocked := (c.clocked start).step (.pass span)
  have still : Early last.now := by
    change (start.nanos + span.nanos) / 1000000000 < 2 ^ 62
    omega
  have always (n : ℕ) : (last.again "" n).Delays "" := by
    apply delays (.pass span :: List.replicate n (.fail ""))
    exact (Clocked.now_again last "" n).symm ▸ still
  have inRange : (start.nanos + span.nanos + c.backoffMax.nanos) / 1000000000 < 2 ^ 63 :=
    Clocked.add_max_lt rfl always
  rw [most] at inRange ⊢
  change n * 1000000000 ≤ 2 ^ 62 * 1000000000
  change (_ + n * 1000000000) / 1000000000 < 2 ^ 63 at inRange
  omega

/-- **Exactly these settings always have a delay**: those whose longest delay is in range at
all early times, and whose rate is above `2^-11`. -/
theorem requeue_delays_iff (accepted : load lookup = .ok c) (early : Early start) :
    (∀ uses key, Early ((c.clocked start).run uses).now →
      ((c.clocked start).run uses).Delays key) ↔
        c.backoffMax ≤ longest ∧ slowest < c.qps := by
  obtain ⟨small, qps, rate, positive, full⟩ := exists_holds accepted start
  rw [lt_iff hasValue_slowest rate]
  constructor
  · intro delays
    have always (n : ℕ) : ((c.clocked start).again "" n).Delays "" := by
      apply delays (List.replicate n (.fail ""))
      exact (Clocked.now_again (c.clocked start) "" n).symm ▸ early
    exact ⟨backoffMax_le accepted early delays,
      Clocked.lt_qps small positive full rfl always⟩
  · rintro ⟨most, fast⟩ uses key early
    have deep : (-2 ^ 53 : ℚ) ≤ c.burst := le_trans (by norm_num) (Nat.cast_nonneg c.burst)
    have safe : Safe (c.requeue start) :=
      ⟨most, c.burst, qps, c.burst, full, Nat.cast_nonneg c.burst, fast, deep⟩
    exact (Safe.run (c := c.clocked start) safe uses).delays early key

end Accepted

/-- Settings from a list of variables. -/
def listed (rows : List (String × String)) (name : String) : Option String := rows.lookup name

theorem requeue_delays_default : ∃ c, load (listed [("NETBOX_TOKEN", "t")]) = .ok c ∧
    Early ⟨0⟩ ∧ ∀ uses key, Early ((c.clocked ⟨0⟩).run uses).now →
      ((c.clocked ⟨0⟩).run uses).Delays key := by
  have early : Early ⟨0⟩ := by decide
  obtain ⟨c, accepted, room⟩ : ∃ c, load (listed [("NETBOX_TOKEN", "t")]) = .ok c ∧
      c.backoffMax ≤ longest ∧ slowest < c.qps := ⟨_, rfl, by decide, by decide⟩
  exact ⟨c, accepted, early, (requeue_delays_iff accepted early).2 room⟩

theorem exists_accepted {α : Type} {lookup : String → Option String} {f : Config → α} {a : α}
    (known : (load lookup).toOption.map f = some a) : ∃ c, load lookup = .ok c ∧ f c = a := by
  cases loaded : load lookup with
  | error fault =>
      rw [loaded] at known
      cases known
  | ok c =>
      rw [loaded] at known
      exact ⟨c, rfl, Option.some.inj known⟩

/-- Settings are accepted under which the tenth failure of a key has no delay, because its
retry is due after the clock ends; and others under which the second failure has none,
because the wait for its token is too long. No time passes in either run. -/
theorem requeue_without_delay :
    (∃ c, load (listed [("NETBOX_TOKEN", "t"), ("BACKOFF_BASE_MS", "18446744073709551615"),
        ("BACKOFF_MAX_SECS", "18446744073709551615")]) = .ok c ∧
      ((c.clocked ⟨0⟩).run (List.replicate 9 (.fail "a"))).delay "a" = .error .instant) ∧
    ∃ c, load (listed [("NETBOX_TOKEN", "t"), ("RATE_LIMIT_BURST", "1"),
        ("RATE_LIMIT_QPS", "1e-300")]) = .ok c ∧
      ((c.clocked ⟨0⟩).run [.fail "a"]).delay "b" = .error .duration :=
  ⟨exists_accepted (by decide +kernel), exists_accepted (by decide +kernel)⟩

end InventorySync.Config
