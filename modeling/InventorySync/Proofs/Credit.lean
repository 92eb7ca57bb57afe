/-
# Proofs.Credit — for which time a bucket is credited, and when for the same time twice

A reservation is credited for the time since the last refill, and for none if it comes at an
earlier point. In both cases its point becomes the last refill. So a run of reservations is credited
for the way from the start to the last one, and once more for all the way that it went back in
between (`Bucket.credited_add`).

That is no more time than has passed exactly if no reservation comes before both an earlier and a
later one (`Dips`, `Bucket.credited_once_iff`). One that does can be enough for a token that the
rate does not allow (`Bucket.credited_twice`). None of this depends on the arithmetic.
-/
import InventorySync.Retry.Bucket
import Mathlib.Algebra.GroupWithZero.Nat
import Mathlib.Data.List.Basic

namespace InventorySync.Retry

set_option autoImplicit false

open InventorySync.Time

/-! ## Points in the order of the calls -/

/-- The latest of a starting point and those of some calls. -/
def latest (start : Instant) (calls : List Instant) : Instant :=
  ⟨(calls.map (·.nanos)).foldr max start.nanos⟩

/-- How far calls go back, in nanoseconds: each one behind the point just before it. -/
def setbacks : Instant → List Instant → Nat
  | _, [] => 0
  | start, now :: later => (start.since now).nanos + setbacks now later

/-- Some call comes before one that is made earlier, and before one that is made later. -/
def Dips (calls : List Instant) : Prop :=
  ∃ before low after, [before, low, after].Sublist calls ∧ low < before ∧ low < after

section Points

variable {first second : Instant} {calls : List Instant}

theorem nanos_latest_cons (first second : Instant) (calls : List Instant) :
    (latest first (second :: calls)).nanos = max first.nanos (latest second calls).nanos := by
  have front (start now : Instant) (later : List Instant) :
      (latest start (now :: later)).nanos = max now.nanos (latest start later).nanos := rfl
  induction calls with
  | nil => exact Nat.max_comm _ _
  | cons now later ih =>
      rw [front] at ih
      simp only [front]
      omega

theorem le_latest (start : Instant) (calls : List Instant) : start ≤ latest start calls := by
  induction calls with
  | nil => exact Nat.le_refl _
  | cons now later ih => exact Nat.le_trans ih (Nat.le_max_right _ _)

theorem Dips.mono {fewer : List Instant} (dips : Dips fewer) (among : fewer.Sublist calls) :
    Dips calls := by
  obtain ⟨before, low, after, made, order⟩ := dips
  exact ⟨before, low, after, made.trans among, order⟩

/-- A point that the next one does not come before makes no difference. -/
theorem dips_cons_of_le (order : first ≤ second) :
    Dips (first :: second :: calls) ↔ Dips (second :: calls) := by
  refine ⟨?_, fun dips => dips.mono (List.sublist_cons_self _ _)⟩
  rintro ⟨before, low, after, made, under, rises⟩
  obtain made | ⟨rest, same, made⟩ := List.sublist_cons_iff.1 made
  · exact ⟨before, low, after, made, under, rises⟩
  · obtain ⟨rfl, rfl⟩ := List.cons.inj same
    have lower : low < second := Nat.lt_of_lt_of_le under order
    obtain made | ⟨rest, same, -⟩ := List.sublist_cons_iff.1 made
    · exact ⟨second, low, after, made.cons_cons _, lower, rises⟩
    · obtain ⟨rfl, -⟩ := List.cons.inj same
      exact absurd lower (Nat.lt_irrefl _)

/-- A point that none comes before makes no difference. -/
theorem dips_cons_of_forall_le (order : ∀ t ∈ calls, first ≤ t) :
    Dips (first :: calls) ↔ Dips calls := by
  refine ⟨?_, fun dips => dips.mono (List.sublist_cons_self _ _)⟩
  rintro ⟨before, low, after, made, under, rises⟩
  obtain made | ⟨rest, same, made⟩ := List.sublist_cons_iff.1 made
  · exact ⟨before, low, after, made, under, rises⟩
  · obtain ⟨rfl, rfl⟩ := List.cons.inj same
    exact absurd under (Nat.not_lt.2 (order low (made.subset List.mem_cons_self)))

/-- After a step back, there is no dip as long as no call goes forwards again. -/
theorem not_dips_cons_of_lt (order : second < first) :
    ¬ Dips (first :: second :: calls) ↔ (second :: calls).Pairwise (· ≥ ·) := by
  constructor
  · intro none
    refine List.pairwise_iff_forall_sublist.2 fun {low after} made => Nat.not_lt.1 fun rises => ?_
    by_cases under : low < first
    · exact none ⟨first, low, after, made.cons_cons _, under, rises⟩
    · -- Then the second point is the one that comes before both.
      obtain made | ⟨rest, same, -⟩ := List.sublist_cons_iff.1 made
      · have listed : [low].Sublist calls := (List.sublist_append_left [low] [after]).trans made
        have rises : second < low := Nat.lt_of_lt_of_le order (Nat.not_lt.1 under)
        exact none ⟨first, second, low, (listed.cons_cons _).cons_cons _, order, rises⟩
      · obtain ⟨rfl, -⟩ := List.cons.inj same
        exact under order
  · rintro falls ⟨before, low, after, made, under, rises⟩
    have made : [low, after].Sublist (second :: calls) := made.of_cons_cons
    exact Nat.not_lt.2 (List.pairwise_iff_forall_sublist.1 falls made) rises

end Points

/-! ## Credit -/

namespace Bucket

variable {α : Type} [Quantity α]

/-- The spans that reservations are credited for when they are made one after the other. -/
def credits (b : Bucket α) : List Instant → List Duration
  | [] => []
  | now :: later => b.credit now :: (b.reserve now).2.credits later

/-- The sum of the credits, in nanoseconds. -/
def credited (b : Bucket α) (calls : List Instant) : Nat :=
  ((b.credits calls).map (·.nanos)).sum

variable (b : Bucket α) (now : Instant) (calls : List Instant)

@[simp] theorem lastRefill_reserve : (b.reserve now).2.lastRefill = now := rfl

theorem credited_cons : b.credited (now :: calls) =
    (now.nanos - b.lastRefill.nanos) + (b.reserve now).2.credited calls := rfl

/-- **What a run is credited for**: the way from the last refill to its end, and all the way that
it went back. -/
theorem credited_add : b.credited calls + b.lastRefill.nanos =
    (calls.getLastD b.lastRefill).nanos + setbacks b.lastRefill calls := by
  induction calls generalizing b with
  | nil => exact Nat.add_comm _ _
  | cons now later ih =>
      have rest := ih (b.reserve now).2
      have back : (b.lastRefill.since now).nanos = b.lastRefill.nanos - now.nanos := rfl
      rw [lastRefill_reserve] at rest
      rw [credited_cons, List.getLastD_cons, setbacks, back]
      omega

theorem latest_le_credited :
    (latest b.lastRefill calls).nanos ≤ b.credited calls + b.lastRefill.nanos := by
  induction calls generalizing b with
  | nil => exact Nat.le_add_left _ _
  | cons now later ih =>
      have rest := ih (b.reserve now).2
      rw [lastRefill_reserve] at rest
      rw [nanos_latest_cons, credited_cons]
      omega

/-- Only a run that never goes forwards is credited for nothing. -/
theorem credited_eq_zero_iff :
    b.credited calls = 0 ↔ (b.lastRefill :: calls).Pairwise (· ≥ ·) := by
  induction calls generalizing b with
  | nil => exact iff_of_true rfl (List.pairwise_singleton _ _)
  | cons now later ih =>
      have step : b.credited (now :: later) = 0 ↔
          b.lastRefill ≥ now ∧ (now :: later).Pairwise (· ≥ ·) := by
        rw [credited_cons, Nat.add_eq_zero_iff, ih, Nat.sub_eq_zero_iff_le]
        rfl
      refine step.trans (Iff.trans (and_congr_left fun falls => ?_) List.pairwise_cons.symm)
      constructor
      · intro back t member
        obtain rfl | member := List.mem_cons.1 member
        · exact back
        · exact Nat.le_trans (List.rel_of_pairwise_cons falls member) back
      · exact fun behind => behind now List.mem_cons_self

/-- From any state, a run is credited for no more than the way to its latest point exactly if it has
no dip, with the last refill as its first point. -/
theorem credited_le_iff :
    b.credited calls ≤ ((latest b.lastRefill calls).since b.lastRefill).nanos ↔
      ¬ Dips (b.lastRefill :: calls) := by
  induction calls generalizing b with
  | nil =>
      refine iff_of_true (Nat.zero_le _) ?_
      rintro ⟨before, low, after, made, -⟩
      exact absurd made.length_le (by simp)
  | cons now later ih =>
      have rest := ih (b.reserve now).2
      have reached := (b.reserve now).2.latest_le_credited later
      have ahead : now.nanos ≤ (latest now later).nanos := le_latest now later
      simp only [lastRefill_reserve, Instant.since] at rest reached
      simp only [Instant.since, nanos_latest_cons, credited_cons]
      by_cases order : b.lastRefill ≤ now
      · have order' : b.lastRefill.nanos ≤ now.nanos := order
        rw [dips_cons_of_le order, ← rest]
        omega
      · -- Nothing may be credited any more: the way up to here has been.
        have order : now < b.lastRefill := Nat.not_le.1 order
        have order' : now.nanos < b.lastRefill.nanos := order
        have nothing := (b.reserve now).2.credited_eq_zero_iff later
        rw [lastRefill_reserve] at nothing
        rw [not_dips_cons_of_lt order, ← nothing]
        omega

/-- **Time is credited once exactly if no reservation comes before both an earlier and a later
one.** A new bucket is credited for the way to its last reservation, and for all the way that it
went back; so far, that is never more than the time to the latest one if and only if there is no
such dip. -/
theorem credited_once_iff (burst : Nat) (qps : α) {start : Instant} {calls : List Instant}
    (valid : ∀ t ∈ calls, start ≤ t) :
    let b := new burst qps start
    b.credited calls + start.nanos = (calls.getLastD start).nanos + setbacks start calls ∧
      ((∀ past, past <+: calls → b.credited past ≤ ((latest start past).since start).nanos) ↔
        ¬ Dips calls) := by
  intro b
  have once (past : List Instant) (made : past <+: calls) :
      b.credited past ≤ ((latest start past).since start).nanos ↔ ¬ Dips past := by
    have valid : ∀ t ∈ past, start ≤ t := fun t member => valid t (made.subset member)
    rw [← dips_cons_of_forall_le valid]
    exact b.credited_le_iff past
  refine ⟨b.credited_add calls, fun bound => ?_, fun level past made => ?_⟩
  · exact (once calls List.prefix_rfl).1 (bound calls List.prefix_rfl)
  · exact (once past made).2 fun dips => level (dips.mono made.sublist)

/-- Two steps back from ten seconds: neither is credited, and nothing is credited twice. -/
theorem credited_once_falling :
    let b := new 1 (1 : Float) ⟨0⟩
    let calls : List Instant := [⟨10000000000⟩, ⟨4000000000⟩, ⟨3000000000⟩]
    b.credits calls = [.ofSeconds 10, .zero, .zero] ∧ (∀ t ∈ calls, ⟨0⟩ ≤ t) ∧ ¬ Dips calls ∧
      ∀ past, past <+: calls → b.credited past ≤ ((latest ⟨0⟩ past).since ⟨0⟩).nanos := by
  intro b calls
  have valid : ∀ t ∈ calls, ⟨0⟩ ≤ t := by decide
  have level : ¬ Dips calls := (not_dips_cons_of_lt (by decide)).2 (by decide)
  exact ⟨by decide, valid, level, (credited_once_iff 1 (1 : Float) valid).2.2 level⟩

/-- A reservation at 10 s, one at the start and one more at 10 s are credited for 20 s, though
10 s have passed. The third one waits for nothing, though the only token for that span is gone. -/
theorem credited_twice :
    let b := new 1 (1 : Float) ⟨0⟩
    let calls : List Instant := [⟨10000000000⟩, ⟨0⟩, ⟨10000000000⟩]
    (∀ t ∈ calls, ⟨0⟩ ≤ t) ∧ latest ⟨0⟩ calls = ⟨10000000000⟩ ∧
      b.credits calls = [.ofSeconds 10, .zero, .ofSeconds 10] ∧
      ¬ b.credited calls ≤ ((latest ⟨0⟩ calls).since ⟨0⟩).nanos ∧
      let first := b.reserveSpan ⟨10000000000⟩
      let second := first.2.reserveSpan ⟨0⟩
      (first.1, second.1, (second.2.reserveSpan ⟨10000000000⟩).1) =
        (.ok .zero, .ok (.ofSeconds 1), .ok .zero) := by
  decide +kernel

end Bucket

end InventorySync.Retry
