/-
# Proofs.Seconds — spans as doubles of seconds, and back

The seconds of a span are a double that is not negative. Back, a double of seconds is a span
exactly if it lies between zero and `2^64` (`ofReal?_isSome_iff`): rounding to nanoseconds
does not carry a smaller one to the limit, because doubles next below `2^64` are `2^11`
apart.
-/
import InventorySync.Proofs.Arithmetic
import InventorySync.Time.Duration

namespace InventorySync.Time.Duration

set_option autoImplicit false

open InventorySync.Numeral Float.Model

/-! ## Rounding to a whole number -/

theorem le_roundEven {n d k : ℕ} (positive : 0 < d) (below : k * d ≤ n) : k ≤ roundEven n d := by
  have whole : k ≤ n / d := (Nat.le_div_iff_mul_le positive).2 below
  simp only [roundEven]
  split_ifs <;> omega

theorem roundEven_le {n d k : ℕ} (positive : 0 < d) (above : n ≤ k * d) : roundEven n d ≤ k := by
  have parts := Nat.div_add_mod n d
  have rest := Nat.mod_lt n positive
  -- A quotient that is `k` has no rest.
  obtain less | same := (Nat.div_le_of_le_mul (above.trans_eq (mul_comm k d))).lt_or_eq
  · simp only [roundEven]
    split_ifs <;> omega
  · rw [same] at parts
    have none : n % d = 0 := by
      rw [mul_comm] at parts
      omega
    simp only [roundEven, same, none]
    split_ifs <;> omega

/-- The ratio of a scaled number is that number. -/
theorem scaled_eq (n : ℕ) (e : ℤ) :
    ((Ratio.scaled n e).num : ℚ) = n * 2 ^ e * (Ratio.scaled n e).den := by
  have split : (2 : ℚ) ^ e * 2 ^ (-e).toNat = 2 ^ e.toNat := by
    rw [← zpow_natCast, ← zpow_natCast, ← zpow_add₀ two_ne_zero]
    congr 1
    omega
  change ((n * 2 ^ e.toNat : ℕ) : ℚ) = n * 2 ^ e * (2 ^ (-e).toNat : ℕ)
  push_cast
  rw [mul_assoc, split]

theorem scaled_den_pos (n : ℕ) (e : ℤ) : 0 < (Ratio.scaled n e).den :=
  Nat.two_pow_pos _

theorem isDouble_limit : IsDouble (2 ^ 64) :=
  IsDouble.zpow (e := 64) (by norm_num) (by norm_num)

/-- The largest double below the limit. -/
theorem isDouble_below_limit : IsDouble (2 ^ 64 - 2 ^ 11) := by
  have double := IsDouble.scaled (m := 2 ^ 53 - 1) (e := 11) (by norm_num) (by norm_num)
    (by norm_num)
  convert double using 1
  norm_num

/-- Below `2^64`, a double is below by `2^11`. -/
theorem le_of_lt_limit {v : ℚ} (double : IsDouble v) (below : v < 2 ^ 64) :
    v ≤ 2 ^ 64 - 2 ^ 11 := by
  by_contra above
  have past : ((2 ^ 53 - 1 : ℤ) : ℚ) * 2 ^ (11 : ℤ) < v := by
    norm_num at above ⊢
    exact above
  have reach := double.representable.succ_le (by norm_num) past
  norm_num at reach below
  linarith

/-- A double that is rounded to nanoseconds fits exactly if it is below the limit. -/
theorem fits_roundEven_iff {m : ℕ} {e : ℤ} (double : IsDouble (m * 2 ^ e)) :
    Fits ⟨roundEven (Ratio.scaled (m * nanosPerSecond) e).num
      (Ratio.scaled (m * nanosPerSecond) e).den⟩ ↔ (m : ℚ) * 2 ^ e < 2 ^ 64 := by
  have value := scaled_eq (m * nanosPerSecond) e
  have positive := scaled_den_pos (m * nanosPerSecond) e
  generalize Ratio.scaled (m * nanosPerSecond) e = r at value positive ⊢
  have den : (0 : ℚ) < r.den := by exact_mod_cast positive
  have value : (r.num : ℚ) = m * 2 ^ e * 10 ^ 9 * r.den := by
    rw [value, nanosPerSecond]
    push_cast
    ring
  have fits : Fits ⟨roundEven r.num r.den⟩ ↔ roundEven r.num r.den < 2 ^ 64 * 10 ^ 9 :=
    Nat.div_lt_iff_lt_mul (by decide)
  rw [fits]
  constructor
  · contrapose!
    intro large
    refine le_roundEven positive ?_
    have reach : (2 ^ 64 * 10 ^ 9 * r.den : ℚ) ≤ r.num := by
      rw [value]
      gcongr
    exact_mod_cast reach
  · intro below
    have small := le_of_lt_limit double below
    have reach : (r.num : ℚ) + 2 ^ 11 * 10 ^ 9 * r.den ≤ 2 ^ 64 * 10 ^ 9 * r.den := by
      rw [value, ← add_mul, ← add_mul]
      gcongr
      linarith
    have reach : r.num + 2 ^ 11 * 10 ^ 9 * r.den ≤ 2 ^ 64 * 10 ^ 9 * r.den := by
      exact_mod_cast reach
    have below : roundEven r.num r.den ≤ 2 ^ 64 * 10 ^ 9 - 1 := roundEven_le positive (by omega)
    exact Nat.lt_of_le_sub_one (by norm_num) below

/-- A double of seconds is a span if it is neither negative nor too large. -/
theorem ofReal?_isSome_iff {x : Float} {v : ℚ} (value : HasValue x v) :
    (ofReal? x).isSome ↔ 0 ≤ v ∧ v < 2 ^ 64 := by
  have double := value.isDouble
  change Denotes (parts x) v at value
  rw [ofReal?, ofFloat_eq]
  generalize parts x = x at value
  cases value with
  | zero s =>
      have nonnegative : (s == .negative && (0 : ℕ) != 0) = false := Bool.and_false _
      have double : IsDouble ((0 : ℕ) * 2 ^ (-1074 : ℤ)) := by simpa using double
      have fits := (fits_roundEven_iff double).2 (by norm_num)
      simp only [decoded, nonnegative]
      rw [if_neg Bool.false_ne_true, if_pos fits]
      exact iff_of_true rfl ⟨le_rfl, by norm_num⟩
  | @finite s m e positive canonical high =>
      have size : (0 : ℚ) < m * 2 ^ e := by positivity
      cases s with
      | negative =>
          have nonzero : (m != 0) = true := bne_iff_ne.2 positive.ne'
          have below : signed .negative (m * 2 ^ e : ℚ) < 0 := neg_lt_zero.2 size
          simp only [decoded, nonzero]
          exact iff_of_false Bool.false_ne_true fun bounds => below.not_ge bounds.1
      | positive =>
          have above : 0 ≤ signed .positive (m * 2 ^ e : ℚ) := size.le
          have plain : (UnpackedFloat.Sign.positive == .negative && m != 0) = false := rfl
          simp only [decoded, plain]
          rw [if_neg Bool.false_ne_true, Option.isSome_ite, fits_roundEven_iff double]
          exact (and_iff_right above).symm

theorem ofReal?_infinity {x : Float} {s} (infinite : parts x = .infinity s) : ofReal? x = none := by
  rw [ofReal?, ofFloat_eq, infinite]
  rfl

theorem toFloat_within (n : UInt64) : ∃ v, HasValue n.toFloat v ∧ 0 ≤ v ∧ v ≤ 2 ^ 64 := by
  have small : (n.toNat : ℚ) ≤ 2 ^ 64 := by exact_mod_cast n.toNat_lt.le
  exact (rounded_toFloat n).within .zero isDouble_limit (Nat.cast_nonneg _) small

theorem hasValue_giga : HasValue 1e9 (10 ^ 9) := by
  have known : parts 1e9 = .finite .positive 8388608000000000 (-23) (by norm_num) := rfl
  have value := hasValue_of_parts known ⟨by norm_num, by norm_num, .inl (by norm_num)⟩ (by norm_num)
  convert value using 1
  norm_num [signed]

/-- The seconds of a span are a double, and not negative. -/
theorem exists_toReal (d : Duration) : ∃ v, HasValue d.toReal v ∧ 0 ≤ v := by
  obtain ⟨w, whole, above, below⟩ := toFloat_within d.seconds.toUInt64
  obtain ⟨f, rest, above', below'⟩ := toFloat_within d.subsecond.toUInt64
  have double : IsDouble (2 ^ 65) := IsDouble.zpow (e := 65) (by norm_num) (by norm_num)
  have quotient := rest.div hasValue_giga (by norm_num)
  obtain ⟨g, part, above', below'⟩ := quotient.within .zero isDouble_limit (by positivity) (by linarith)
  have sum : Rounded (parts d.toReal) (w + g) := whole.add part
  obtain ⟨v, value, above, -⟩ := sum.within .zero double (by positivity) (by linarith)
  exact ⟨v, value, above⟩

end InventorySync.Time.Duration
