/-
# Proofs.Rate — over exact numbers, a bucket keeps its rate

The bucket of the controller counts in doubles. Here the same definition counts in exact rational
numbers, so that what it grants can be compared with what it should grant. The slot of a
reservation is the point that it waits for.

A bucket may be in debt when a reservation has been made. Its debt is paid at the slot of that
reservation (`Bucket.opens`), and what it holds then is its stock. One reservation moves that point
forwards, never back, and takes one token more out of the stock than the time between the two
brings (`Bucket.Fair.opens_le`, `Bucket.Fair.stock_le`). So the slots up to any point are no more
than the stock and what comes in until then (`Bucket.Fair.count_until`), and those of a window no
more than a full bucket and what comes in during it (`Bucket.Fair.count_within`).
-/
import InventorySync.Retry.Bucket
import Mathlib.Algebra.Order.Field.Rat
import Mathlib.Tactic.GCongr
import Mathlib.Tactic.Linarith
import Mathlib.Tactic.NormNum

namespace InventorySync

set_option autoImplicit false

/-! ## Exact time -/

namespace Time

/-- The seconds of a span, exactly. -/
def Duration.inSeconds (d : Duration) : ℚ := d.nanos / Duration.nanosPerSecond

/-- The seconds of the clock, exactly. -/
def Instant.inSeconds (t : Instant) : ℚ := t.nanos / Duration.nanosPerSecond

theorem Instant.inSeconds_le {t u : Instant} (order : t ≤ u) : t.inSeconds ≤ u.inSeconds := by
  have nanos : (t.nanos : ℚ) ≤ u.nanos := Nat.cast_le.2 order
  unfold inSeconds
  gcongr

theorem Instant.inSeconds_since {t u : Instant} (order : t ≤ u) :
    (u.since t).inSeconds = u.inSeconds - t.inSeconds := by
  have nanos : ((u.nanos - t.nanos : ℕ) : ℚ) = u.nanos - t.nanos := Nat.cast_sub order
  simp only [Duration.inSeconds, inSeconds, since, nanos, sub_div]

end Time

namespace Retry

open Time

/-- Exact numbers of tokens and seconds. -/
instance : Quantity ℚ where
  ofNat n := n
  ofDuration := Duration.inSeconds
  lesser := min
  decideLe _ _ := inferInstance

namespace Bucket

/-- The waits of reservations that are made one after the other. -/
def waits {α : Type} [Quantity α] (b : Bucket α) : List Instant → List α
  | [] => []
  | now :: later => (b.reserve now).1 :: (b.reserve now).2.waits later

/-- The slots of reservations: the point of each, and its wait after that. -/
def slots (b : Bucket ℚ) (calls : List Instant) : List ℚ :=
  List.zipWith (fun now wait => now.inSeconds + wait) calls (b.waits calls)

theorem slots_cons (b : Bucket ℚ) (now : Instant) (later : List Instant) :
    b.slots (now :: later) =
      (now.inSeconds + (b.reserve now).1) :: (b.reserve now).2.slots later := rfl

/-! ## One reservation -/

theorem reserve_tokens (b : Bucket ℚ) (now : Instant) : (b.reserve now).2.tokens =
    min (b.tokens + (now.since b.lastRefill).inSeconds * b.qps) b.burst - 1 := rfl

theorem reserve_burst (b : Bucket ℚ) (now : Instant) : (b.reserve now).2.burst = b.burst := rfl

theorem reserve_qps (b : Bucket ℚ) (now : Instant) : (b.reserve now).2.qps = b.qps := rfl

theorem reserve_wait_exact (b : Bucket ℚ) (now : Instant) : (b.reserve now).1 =
    if 0 ≤ (b.reserve now).2.tokens ∨ b.qps ≤ 0 then 0 else -(b.reserve now).2.tokens / b.qps := rfl

/-- What a bucket holds above zero. -/
def stock (b : Bucket ℚ) : ℚ := max 0 b.tokens

/-- What a bucket lacks to zero. -/
def debt (b : Bucket ℚ) : ℚ := max 0 (-b.tokens)

/-- The point at which a bucket has paid its debt: the slot of its latest reservation. -/
def opens (b : Bucket ℚ) : ℚ := b.lastRefill.inSeconds + b.debt / b.qps

theorem stock_nonneg (b : Bucket ℚ) : 0 ≤ b.stock := le_max_left 0 b.tokens

theorem debt_nonneg (b : Bucket ℚ) : 0 ≤ b.debt := le_max_left 0 (-b.tokens)

theorem neg_tokens_le_debt (b : Bucket ℚ) : -b.tokens ≤ b.debt := le_max_right 0 (-b.tokens)

theorem stock_sub_debt (b : Bucket ℚ) : b.stock - b.debt = b.tokens := by
  unfold stock debt
  rcases le_total 0 b.tokens with held | owed
  · rw [max_eq_right held, max_eq_left (neg_nonpos.2 held), sub_zero]
  · rw [max_eq_left owed, max_eq_right (neg_nonneg.2 owed), zero_sub, neg_neg]

/-- A bucket that gains tokens, has room for one, and is not overfull. -/
structure Fair (b : Bucket ℚ) : Prop where
  gains : 0 < b.qps
  room : 1 ≤ b.burst
  held : b.tokens ≤ b.burst

namespace Fair

variable {b : Bucket ℚ} {now : Instant}

theorem qps_mul_opens (fair : b.Fair) :
    b.qps * b.opens = b.qps * b.lastRefill.inSeconds + b.debt := by
  unfold opens
  rw [mul_add, mul_div_cancel₀ b.debt fair.gains.ne']

/-- A reservation takes a token that the time since the last one has brought, or an older one. -/
theorem tokens_reserve_le (order : b.lastRefill ≤ now) : (b.reserve now).2.tokens + 1 ≤
    b.tokens + b.qps * (now.inSeconds - b.lastRefill.inSeconds) := by
  rw [reserve_tokens, sub_add_cancel, Instant.inSeconds_since order, mul_comm b.qps]
  exact min_le_left _ _

theorem tokens_reserve_le_burst : (b.reserve now).2.tokens + 1 ≤ b.burst := by
  rw [reserve_tokens, sub_add_cancel]
  exact min_le_right _ _

theorem reserve (fair : b.Fair) : (b.reserve now).2.Fair where
  gains := fair.gains
  room := fair.room
  held := by
    have taken : (b.reserve now).2.tokens + 1 ≤ b.burst := tokens_reserve_le_burst
    rw [reserve_burst]
    linarith

/-- A reservation waits until the bucket has paid its debt. -/
theorem slot_reserve (fair : b.Fair) :
    now.inSeconds + (b.reserve now).1 = (b.reserve now).2.opens := by
  have wait : (b.reserve now).1 = (b.reserve now).2.debt / b.qps := by
    rw [reserve_wait_exact]
    unfold debt
    by_cases held : 0 ≤ (b.reserve now).2.tokens
    · rw [if_pos (Or.inl held), max_eq_left (neg_nonpos.2 held), zero_div]
    · have owed : ¬ (0 ≤ (b.reserve now).2.tokens ∨ b.qps ≤ 0) :=
        not_or.2 ⟨held, not_le.2 fair.gains⟩
      rw [if_neg owed, max_eq_right (neg_nonneg.2 (not_le.1 held).le)]
  rw [wait]
  rfl

/-- How far a reservation moves the point: the debt that it leaves is paid at the rate. -/
theorem qps_mul_opens_sub (fair : b.Fair) : b.qps * ((b.reserve now).2.opens - b.opens) =
    b.qps * (now.inSeconds - b.lastRefill.inSeconds) + (b.reserve now).2.debt - b.debt := by
  have before := fair.qps_mul_opens
  have after : b.qps * (b.reserve now).2.opens = b.qps * now.inSeconds + (b.reserve now).2.debt :=
    fair.reserve.qps_mul_opens
  linarith

theorem opens_le (fair : b.Fair) (order : b.lastRefill ≤ now) :
    b.opens ≤ (b.reserve now).2.opens := by
  have taken := tokens_reserve_le order
  have later := Instant.inSeconds_le order
  have gained : 0 ≤ b.qps * (now.inSeconds - b.lastRefill.inSeconds) :=
    mul_nonneg fair.gains.le (sub_nonneg.2 later)
  have owed := (b.reserve now).2.debt_nonneg
  have lacks := (b.reserve now).2.neg_tokens_le_debt
  have paid : b.debt ≤
      b.qps * (now.inSeconds - b.lastRefill.inSeconds) + (b.reserve now).2.debt :=
    max_le (by linarith) (by linarith)
  have moved : 0 ≤ b.qps * ((b.reserve now).2.opens - b.opens) := by
    rw [fair.qps_mul_opens_sub]
    exact sub_nonneg.2 paid
  exact sub_nonneg.1 ((mul_nonneg_iff_of_pos_left fair.gains).1 moved)

theorem stock_le (fair : b.Fair) (order : b.lastRefill ≤ now) : (b.reserve now).2.stock + 1 ≤
    b.stock + b.qps * ((b.reserve now).2.opens - b.opens) := by
  have taken := tokens_reserve_le order
  have before := b.stock_sub_debt
  have after := (b.reserve now).2.stock_sub_debt
  rw [fair.qps_mul_opens_sub]
  linarith

theorem stock_reserve_le_burst (fair : b.Fair) : (b.reserve now).2.stock + 1 ≤ b.burst := by
  have taken : (b.reserve now).2.tokens + 1 ≤ b.burst := tokens_reserve_le_burst
  have room := fair.room
  have bound : (b.reserve now).2.stock ≤ b.burst - 1 := max_le (by linarith) (by linarith)
  linarith

/-! ## A run of reservations -/

/-- No slot lies before the one of the latest reservation so far. -/
theorem opens_le_slots {calls : List Instant} (fair : b.Fair)
    (ordered : (b.lastRefill :: calls).Pairwise (· ≤ ·)) :
    ∀ slot ∈ b.slots calls, b.opens ≤ slot := by
  induction calls generalizing b with
  | nil => exact fun _ h => absurd h List.not_mem_nil
  | cons now later ih =>
    obtain ⟨first, rest⟩ := List.pairwise_cons.1 ordered
    have step := fair.opens_le (first now List.mem_cons_self)
    rw [slots_cons, fair.slot_reserve]
    intro slot h
    rcases List.mem_cons.1 h with rfl | h
    · exact step
    · exact step.trans (ih fair.reserve rest slot h)

theorem slots_ordered {calls : List Instant} (fair : b.Fair)
    (ordered : (b.lastRefill :: calls).Pairwise (· ≤ ·)) : (b.slots calls).Pairwise (· ≤ ·) := by
  induction calls generalizing b with
  | nil => exact List.Pairwise.nil
  | cons now later ih =>
    have rest := (List.pairwise_cons.1 ordered).2
    rw [slots_cons, fair.slot_reserve]
    exact List.pairwise_cons.2 ⟨opens_le_slots fair.reserve rest, ih fair.reserve rest⟩

theorem budget_nonneg {last : ℚ} (fair : b.Fair) (reached : b.opens ≤ last) :
    0 ≤ b.stock + b.qps * (last - b.opens) :=
  add_nonneg b.stock_nonneg (mul_nonneg fair.gains.le (sub_nonneg.2 reached))

/-- Up to any point from now on, there are no more slots than the stock and what comes in until
then. -/
theorem count_until {calls : List Instant} {last : ℚ} (fair : b.Fair)
    (ordered : (b.lastRefill :: calls).Pairwise (· ≤ ·)) (reached : b.opens ≤ last) :
    ((b.slots calls).countP (· ≤ last) : ℚ) ≤ b.stock + b.qps * (last - b.opens) := by
  induction calls generalizing b with
  | nil => exact fair.budget_nonneg reached
  | cons now later ih =>
    obtain ⟨first, rest⟩ := List.pairwise_cons.1 ordered
    by_cases inside : (b.reserve now).2.opens ≤ last
    · have step := fair.stock_le (first now List.mem_cons_self)
      have count := ih fair.reserve rest inside
      rw [slots_cons, fair.slot_reserve, List.countP_cons, if_pos (decide_eq_true inside),
        Nat.cast_succ]
      rw [reserve_qps] at count
      linarith
    · -- Every slot from this one on lies past the end.
      have none_left : (b.slots (now :: later)).countP (· ≤ last) = 0 := by
        refine List.countP_eq_zero.2 fun slot h early => inside ?_
        rw [slots_cons, fair.slot_reserve] at h
        have bound : (b.reserve now).2.opens ≤ slot := by
          rcases List.mem_cons.1 h with rfl | h
          · exact le_refl _
          · exact opens_le_slots fair.reserve rest slot h
        exact bound.trans (of_decide_eq_true early)
      rw [none_left, Nat.cast_zero]
      exact fair.budget_nonneg reached

/-- In any window there are no more slots than a full bucket and what comes in during it. -/
theorem count_within {calls : List Instant} {start width : ℚ} (fair : b.Fair)
    (ordered : (b.lastRefill :: calls).Pairwise (· ≤ ·)) (wide : 0 ≤ width) :
    ((b.slots calls).countP (fun slot => start ≤ slot ∧ slot ≤ start + width) : ℚ) ≤
      b.burst + b.qps * width := by
  induction calls generalizing b with
  | nil =>
    have room := fair.room
    have gained : 0 ≤ b.qps * width := mul_nonneg fair.gains.le wide
    change (0 : ℚ) ≤ _
    linarith
  | cons now later ih =>
    have rest := (List.pairwise_cons.1 ordered).2
    rw [slots_cons, fair.slot_reserve]
    by_cases inside : start ≤ (b.reserve now).2.opens ∧ (b.reserve now).2.opens ≤ start + width
    · -- The first slot of the window: from here on only its end counts.
      have fewer : ((b.reserve now).2.slots later).countP
            (fun slot => start ≤ slot ∧ slot ≤ start + width) ≤
          ((b.reserve now).2.slots later).countP (· ≤ start + width) :=
        List.countP_mono_left fun slot _ h => decide_eq_true (of_decide_eq_true h).2
      have fewer' := (Nat.cast_le (α := ℚ)).2 fewer
      have count := count_until fair.reserve rest inside.2
      have stock : (b.reserve now).2.stock + 1 ≤ b.burst := fair.stock_reserve_le_burst
      have left : b.qps * (start + width - (b.reserve now).2.opens) ≤ b.qps * width :=
        mul_le_mul_of_nonneg_left (by linarith [inside.1]) fair.gains.le
      rw [List.countP_cons, if_pos (decide_eq_true inside), Nat.cast_succ]
      rw [reserve_qps] at count
      linarith
    · rw [List.countP_cons, if_neg fun h => inside (of_decide_eq_true h)]
      exact ih fair.reserve rest

/-- As long as the bucket holds whole tokens, nothing waits. -/
theorem waits_of_le_tokens {calls : List Instant} {n : ℕ} (fair : b.Fair)
    (ordered : (b.lastRefill :: calls).Pairwise (· ≤ ·)) (whole : (n : ℚ) ≤ b.tokens) :
    (b.waits calls).take n = List.replicate (min n calls.length) 0 := by
  induction calls generalizing b n with
  | nil => rw [List.length_nil, Nat.min_zero]; exact List.take_nil
  | cons now later ih =>
    cases n with
    | zero => rw [List.take_zero, Nat.zero_min]; rfl
    | succ n =>
      obtain ⟨first, rest⟩ := List.pairwise_cons.1 ordered
      have order := Instant.inSeconds_le (first now List.mem_cons_self)
      have left : (n : ℚ) ≤ (b.reserve now).2.tokens := by
        have gained : 0 ≤ (now.since b.lastRefill).inSeconds * b.qps := by
          rw [Instant.inSeconds_since (first now List.mem_cons_self)]
          exact mul_nonneg (sub_nonneg.2 order) fair.gains.le
        have room := fair.held
        rw [Nat.cast_succ] at whole
        rw [reserve_tokens, le_sub_iff_add_le]
        exact le_min (by linarith) (by linarith)
      have served : (b.reserve now).1 = 0 := by
        rw [reserve_wait_exact]
        exact if_pos (Or.inl ((Nat.cast_nonneg n).trans left))
      rw [List.length_cons, Nat.succ_min_succ, List.replicate_succ]
      change (b.reserve now).1 :: ((b.reserve now).2.waits later).take n = _
      rw [served, ih fair.reserve rest left]

end Fair

theorem fair_new {burst : ℕ} {qps : ℚ} {start : Instant} (room : 1 ≤ burst) (positive : 0 < qps) :
    (new burst qps start).Fair where
  gains := positive
  room := Nat.one_le_cast.2 room
  held := le_refl _

/-- A new bucket keeps its rate. The first reservations, as many as it holds, wait for nothing;
slots come in the order of the calls; and a window of any length holds no more slots than a full
bucket and what comes in during it. -/
theorem keeps_rate {burst : ℕ} {qps : ℚ} {start : Instant} {calls : List Instant}
    (room : 1 ≤ burst) (positive : 0 < qps) (ordered : (start :: calls).Pairwise (· ≤ ·)) :
    ((new burst qps start).waits calls).take burst =
        List.replicate (min burst calls.length) 0 ∧
      ((new burst qps start).slots calls).Pairwise (· ≤ ·) ∧
      ∀ first width : ℚ, 0 ≤ width →
        (((new burst qps start).slots calls).countP
          (fun slot => first ≤ slot ∧ slot ≤ first + width) : ℚ) ≤ burst + qps * width := by
  have fair : (new burst qps start).Fair := fair_new room positive
  refine ⟨fair.waits_of_le_tokens ordered (le_refl _), fair.slots_ordered ordered, ?_⟩
  intro first width wide
  exact fair.count_within ordered wide

/-- Two tokens at ten per second: of three reservations at once the third waits for a tenth of a
second, and one a quarter of a second later waits for nothing. -/
theorem keeps_rate_burst :
    let b := new 2 (10 : ℚ) ⟨0⟩
    let calls : List Instant := [⟨0⟩, ⟨0⟩, ⟨0⟩, ⟨250000000⟩]
    b.waits calls = [0, 0, 1 / 10, 0] ∧ (b.slots calls).Pairwise (· ≤ ·) ∧
      ((b.slots calls).countP (fun slot => 0 ≤ slot ∧ slot ≤ 0 + 1 / 5) : ℚ) ≤
        (2 : ℕ) + 10 * (1 / 5) := by
  intro b calls
  have ordered : ((⟨0⟩ : Instant) :: calls).Pairwise (· ≤ ·) := by decide
  have room : 1 ≤ 2 := by decide
  have positive : (0 : ℚ) < 10 := by decide
  obtain ⟨-, order, window⟩ := keeps_rate room positive ordered
  exact ⟨by decide +kernel, order, window 0 (1 / 5) (by norm_num)⟩

end Bucket

end Retry

end InventorySync
