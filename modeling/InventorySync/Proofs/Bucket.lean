/-
# Proofs.Bucket — how far a bucket of doubles can go into debt

A reservation takes one token, and tokens are doubles: from `-2^53` on, taking one more
leaves the same number, so that is the deepest debt there is (`Holds.reserve`). The wait for
a token is the debt over the rate. So every wait is a span if the deepest debt is paid in
less than `2^64` seconds, which takes a rate above `2^-11`; at a lower one, the wait at the
deepest debt is none (`Holds.exists_span`, `Holds.no_span`).
-/
import InventorySync.Proofs.Seconds
import InventorySync.Retry.Bucket

namespace InventorySync.Retry

set_option autoImplicit false

open InventorySync.Time InventorySync.Numeral Float.Model

/-! ## The smaller of two doubles -/

section Lesser

variable {x y : Float} {u v : ℚ}

theorem hasValue_lesser (left : HasValue x u) (right : HasValue y v) :
    HasValue (Quantity.lesser x y) (min u v) := by
  change HasValue (if x.isNaN then y else if y.isNaN then x else if x ≤ y then x else y) _
  have number : x.isNaN = false := left.isNaN_eq_false
  have number' : y.isNaN = false := right.isNaN_eq_false
  rw [number, number', if_neg Bool.false_ne_true,
    if_neg Bool.false_ne_true]
  by_cases order : x ≤ y
  · rwa [if_pos order, min_eq_left ((le_iff left right).1 order)]
  · have less := mt (le_iff left right).2 order
    rwa [if_neg order, min_eq_right (not_le.1 less).le]

theorem lesser_infinity (infinite : parts x = .infinity .positive) (right : HasValue y v) :
    Quantity.lesser x y = y := by
  have number : x.isNaN = false := congrArg UnpackedFloat.isNaN infinite
  have greater : ¬ x ≤ y := by
    change ¬ decide ((parts x).le (parts y) = true) = true
    rw [infinite, right.infinity_le]
    exact Bool.false_ne_true
  have number' : y.isNaN = false := right.isNaN_eq_false
  change (if x.isNaN then y else if y.isNaN then x else if x ≤ y then x else y) = _
  rw [number, number', if_neg Bool.false_ne_true, if_neg Bool.false_ne_true,
    if_neg greater]

end Lesser

/-! ## One reservation -/

namespace Bucket

/-- The numbers that a bucket holds. -/
structure Holds (b : Bucket Float) (burst qps tokens : ℚ) : Prop where
  burst : HasValue b.burst burst
  qps : HasValue b.qps qps
  tokens : HasValue b.tokens tokens

theorem hasValue_one : HasValue (Quantity.ofNat 1) 1 := by
  exact_mod_cast hasValue_toFloat (n := 1) (by norm_num)

theorem hasValue_zero : HasValue (Quantity.ofNat 0) 0 := by
  exact_mod_cast hasValue_toFloat (n := 0) (by norm_num)

theorem isDouble_deepest : IsDouble (-2 ^ 53) := by
  have deepest := IsDouble.int (n := -2 ^ 53) (by norm_num)
  push_cast at deepest
  exact deepest

/-- One less than the deepest debt is the deepest debt. -/
theorem hasValue_sub_one_of_deepest {x : Float} (value : HasValue x (-2 ^ 53)) :
    HasValue (x - Quantity.ofNat 1) (-2 ^ 53) := by
  have deepest : Denotes (.finite .negative (2 ^ 52) 1 (by norm_num)) (-2 ^ 53) := by
    have number := Denotes.finite .negative (m := 2 ^ 52) (e := 1) (by norm_num)
      ⟨by norm_num, by norm_num, .inl le_rfl⟩ (by norm_num)
    convert number using 1
    norm_num [signed]
  have known : parts x = .finite .negative (2 ^ 52) 1 (by norm_num) :=
    value.unique deepest (by norm_num)
  have difference : parts (x - Quantity.ofNat 1) = .finite .negative (2 ^ 52) 1 (by norm_num) := by
    rw [parts_sub, known]
    rfl
  rw [HasValue, difference]
  exact deepest

theorem exists_sub_one {x : Float} {f : ℚ} (value : HasValue x f) (deep : -2 ^ 53 ≤ f) :
    ∃ w, HasValue (x - Quantity.ofNat 1) w ∧ -2 ^ 53 ≤ w := by
  obtain deepest | less := deep.eq_or_lt
  · rw [← deepest] at value
    exact ⟨_, hasValue_sub_one_of_deepest value, le_rfl⟩
  · -- Above the deepest debt, by one or more.
    have gap : -2 ^ 53 ≤ f - 1 := by
      by_contra near
      have past : ((2 ^ 53 - 1 : ℤ) : ℚ) * 2 ^ (0 : ℤ) < -f := by
        norm_num at near ⊢
        linarith
      have reach := value.isDouble.representable.neg.succ_le (by norm_num) past
      norm_num at reach less
      linarith
    obtain ⟨w, value', low, -⟩ := (value.sub hasValue_one).within isDouble_deepest value.isDouble
      gap (by linarith)
    exact ⟨w, value', low⟩

namespace Holds

variable {b : Bucket Float} {burst qps tokens : ℚ}

theorem new {n : ℕ} {rate : Float} (small : n ≤ 2 ^ 53) (value : HasValue rate qps)
    (now : Instant) : Holds (.new n rate now) n qps n :=
  ⟨hasValue_toFloat small, value, hasValue_toFloat small⟩

/-- Before one is taken, the tokens are not below the deepest debt either: time brings some, and
where those are too many, the burst is the smaller number. -/
theorem exists_filled (holds : Holds b burst qps tokens) (nonneg : 0 ≤ burst) (forwards : 0 ≤ qps)
    (deep : -2 ^ 53 ≤ tokens) (span : Duration) :
    ∃ f, HasValue (Quantity.lesser (b.tokens + span.toReal * b.qps) b.burst) f ∧ -2 ^ 53 ≤ f := by
  obtain ⟨seconds, elapsed, forwards'⟩ := span.exists_toReal
  have product := elapsed.mul holds.qps
  have full : -2 ^ 53 ≤ burst := by linarith
  obtain ⟨gain, gained, more⟩ | infinite := product.above .zero (by positivity)
  · have sum := holds.tokens.add gained
    obtain ⟨w, value, low⟩ | infinite := sum.above isDouble_deepest (by linarith)
    · exact ⟨_, hasValue_lesser value holds.burst, le_min low full⟩
    · rw [lesser_infinity infinite holds.burst]
      exact ⟨_, holds.burst, full⟩
  · have infinite : parts (b.tokens + span.toReal * b.qps) = .infinity .positive := by
      rw [parts_add, infinite, holds.tokens.add_infinity]
    rw [lesser_infinity infinite holds.burst]
    exact ⟨_, holds.burst, full⟩

/-- **A reservation does not go below the deepest debt.** -/
theorem reserve (holds : Holds b burst qps tokens) (nonneg : 0 ≤ burst) (forwards : 0 ≤ qps)
    (deep : -2 ^ 53 ≤ tokens) (now : Instant) :
    ∃ t, Holds (b.reserve now).2 burst qps t ∧ -2 ^ 53 ≤ t := by
  obtain ⟨f, filled, deep⟩ := holds.exists_filled nonneg forwards deep (b.credit now)
  obtain ⟨t, taken, deep⟩ := exists_sub_one filled deep
  exact ⟨t, ⟨holds.burst, holds.qps, taken⟩, deep⟩

/-- At the point of the last refill, a reservation takes one token off whole ones. -/
theorem reserve_at_once {k : ℤ} (holds : Holds b burst qps k) (most : k ≤ burst)
    (size : |k| ≤ 2 ^ 53) (size' : |k - 1| ≤ 2 ^ 53) :
    Holds (b.reserve b.lastRefill).2 burst qps (k - 1 : ℤ) := by
  have still : HasValue (b.credit b.lastRefill).toReal 0 := by
    rw [credit, Instant.since_self]
    exact .zero .positive
  have product := still.mul holds.qps
  rw [zero_mul] at product
  have sum := holds.tokens.add (product.exact .zero)
  rw [add_zero] at sum
  have filled := hasValue_lesser (sum.exact (.int size)) holds.burst
  rw [min_eq_left most] at filled
  have difference := filled.sub hasValue_one
  rw [← Int.cast_one, ← Int.cast_sub] at difference
  exact ⟨holds.burst, holds.qps, difference.exact (.int size')⟩

end Holds

/-! ## The wait -/

theorem reserve_wait (b : Bucket Float) (now : Instant) :
    (b.reserve now).1 = (if Quantity.ofNat 0 ≤ (b.reserve now).2.tokens ∨ b.qps ≤ Quantity.ofNat 0
      then Quantity.ofNat 0 else -(b.reserve now).2.tokens / b.qps) := rfl

theorem reserveSpan_after (b : Bucket Float) (now : Instant) :
    (b.reserveSpan now).2 = (b.reserve now).2 := by
  simp only [reserveSpan]
  split <;> rfl

theorem exists_span_iff (b : Bucket Float) (now : Instant) :
    (∃ d, (b.reserveSpan now).1 = .ok d) ↔ (Duration.ofReal? (b.reserve now).1).isSome := by
  simp only [reserveSpan]
  split
  next d found => exact iff_of_true ⟨d, rfl⟩ (found ▸ rfl)
  next none => exact iff_of_false nofun (none ▸ Bool.false_ne_true)

/-- The next double above `2^-11` pays the deepest debt in less than `2^64` seconds, and by so
much that rounding does not matter. -/
theorem div_le_below_limit {qps tokens : ℚ} (double : IsDouble qps) (fast : 2 ^ (-11 : ℤ) < qps)
    (deep : -2 ^ 53 ≤ tokens) : -tokens / qps ≤ 2 ^ 64 - 2 ^ 11 := by
  have positive : 0 < qps := lt_trans (by positivity) fast
  have past : ((2 ^ 52 : ℤ) : ℚ) * 2 ^ (-63 : ℤ) < qps := by
    norm_num at fast ⊢
    exact fast
  have faster := double.representable.succ_le le_rfl past
  rw [div_le_iff₀ positive]
  push_cast at faster
  norm_num at faster ⊢
  linarith

namespace Holds

variable {b : Bucket Float} {now : Instant} {burst qps tokens : ℚ}

/-- The wait for a token that is owed. -/
theorem wait_rounded (after : Holds (b.reserve now).2 burst qps tokens) (positive : 0 < qps)
    (owed : tokens < 0) : Rounded (parts (b.reserve now).1) (-tokens / qps) := by
  have below : ¬ Quantity.ofNat 0 ≤ (b.reserve now).2.tokens := fun above =>
    owed.not_ge ((le_iff hasValue_zero after.tokens).1 above)
  have some : ¬ b.qps ≤ Quantity.ofNat 0 := fun none =>
    positive.not_ge ((le_iff after.qps hasValue_zero).1 none)
  rw [reserve_wait, if_neg (not_or.2 ⟨below, some⟩)]
  exact after.tokens.neg.div after.qps positive.ne'

/-- A token that is there is not waited for. -/
theorem wait_zero (after : Holds (b.reserve now).2 burst qps tokens) (there : 0 ≤ tokens) :
    (b.reserve now).1 = Quantity.ofNat 0 := by
  rw [reserve_wait, if_pos (.inl ((le_iff hasValue_zero after.tokens).2 there))]

/-- **Above `2^-11` tokens a second, every wait is a span.** -/
theorem exists_span (after : Holds (b.reserve now).2 burst qps tokens) (deep : -2 ^ 53 ≤ tokens)
    (fast : 2 ^ (-11 : ℤ) < qps) : ∃ d, (b.reserveSpan now).1 = .ok d := by
  have positive : 0 < qps := lt_trans (by positivity) fast
  rw [exists_span_iff]
  obtain there | owed := le_or_gt 0 tokens
  · rw [after.wait_zero there, Duration.ofReal?_isSome_iff hasValue_zero]
    norm_num
  · have long : 0 ≤ -tokens / qps := div_nonneg (neg_nonneg.2 owed.le) positive.le
    have short := div_le_below_limit after.qps.isDouble fast deep
    obtain ⟨w, value, low, high⟩ := (after.wait_rounded positive owed).within .zero
      Duration.isDouble_below_limit long short
    rw [Duration.ofReal?_isSome_iff value]
    exact ⟨low, by linarith⟩

/-- **At a lower rate, the deepest debt has no span to wait for.** -/
theorem no_span (after : Holds (b.reserve now).2 burst qps (-2 ^ 53)) (positive : 0 < qps)
    (slow : qps ≤ 2 ^ (-11 : ℤ)) : ¬ ∃ d, (b.reserveSpan now).1 = .ok d := by
  rw [exists_span_iff]
  have long : 2 ^ 64 ≤ -(-2 ^ 53) / qps := by
    rw [le_div_iff₀ positive]
    norm_num at slow ⊢
    linarith
  obtain ⟨w, value, large⟩ | infinite :=
    (after.wait_rounded positive (by norm_num)).above Duration.isDouble_limit long
  · rw [Duration.ofReal?_isSome_iff value]
    exact fun bounds => bounds.2.not_ge large
  · rw [Duration.ofReal?_infinity infinite]
    exact Bool.false_ne_true

end Holds

end Bucket

end InventorySync.Retry
