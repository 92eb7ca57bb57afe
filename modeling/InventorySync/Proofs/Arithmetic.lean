/-
# Proofs.Arithmetic — operations on doubles, as roundings of exact ones

A finite double denotes a rational number (`Denotes`). The sum, difference, product and
quotient of two are the exact result, rounded (`Rounded`): on the same side of every
representable number, and infinite where that is too large. So the result is exact if the
exact one is a double, and stays between any two doubles that the exact one lies between
(`Rounded.exact`, `Rounded.within`). Which neighbour a rounding takes is left open.
Comparisons of finite doubles are those of the numbers they denote.

The lemmas are about parts first, where the operations are exact functions; `HasValue` and
its own lemmas bring them to doubles.
-/
import InventorySync.Proofs.Packing

namespace InventorySync.Numeral

set_option autoImplicit false

open Float.Model Float.Model.UnpackedFloat

/-! ## The number of a double -/

def signed (s : Sign) (q : ℚ) : ℚ :=
  match s with
  | .negative => -q
  | .positive => q

/-- The number that a finite double is. -/
inductive Denotes : UnpackedFloat → ℚ → Prop
  | zero (s : Sign) : Denotes (.zero s) 0
  | finite (s : Sign) {m : ℕ} {e : ℤ} (positive : 0 < m) (canonical : Canonical m e)
      (high : e ≤ 971) : Denotes (.finite s m e positive) (signed s (m * 2 ^ e))

theorem repack_of_denotes {x : UnpackedFloat} {v : ℚ} (denotes : Denotes x v) : repack x = x := by
  cases denotes with
  | zero s => exact repack_zero s
  | finite s positive canonical high => exact repack_of_canonical s positive canonical high

/-! ## Rounded numbers -/

/-- Finite doubles stay below this. -/
def ceiling : ℚ := 2 ^ (1024 : ℤ)

/-- A double that a number was rounded to: a rounding of it, or infinite if that is too large. -/
def Rounded (x : UnpackedFloat) (q : ℚ) : Prop :=
  ∃ w, Rounds q w ∧ (Denotes x w ∨ (ceiling ≤ w ∧ x = .infinity .positive) ∨
    (w ≤ -ceiling ∧ x = .infinity .negative))

theorem Denotes.rounded {x : UnpackedFloat} {v : ℚ} (denotes : Denotes x v) :
    Rounded (repack x) v :=
  ⟨v, .refl v, .inl ((repack_of_denotes denotes).symm ▸ denotes)⟩

/-- The rounding of a magnitude, once it is packed. -/
theorem rounded_of_magnitude {s : Sign} {x : UnpackedFloat} {q w : ℚ} (rounds : Rounds q w)
    (magnitude : Magnitude s x w) : Rounded (repack x) (signed s q) := by
  have rounds' : Rounds (signed s q) (signed s w) := by
    cases s
    · exact rounds.neg
    · exact rounds
  refine ⟨signed s w, rounds', ?_⟩
  cases magnitude with
  | zero =>
      have zero : signed s 0 = 0 := by cases s <;> simp [signed]
      rw [repack_zero, zero]
      exact .inl (.zero s)
  | @finite m e positive canonical =>
      by_cases high : e ≤ 971
      · rw [repack_of_canonical s positive canonical high]
        exact .inl (.finite s positive canonical high)
      · -- Past the upper limit the coefficient is normal.
        have wide : (2 : ℚ) ^ 52 ≤ m := by
          exact_mod_cast canonical.normal.resolve_right (by omega)
        have large : ceiling ≤ m * 2 ^ e := by
          calc ceiling = 2 ^ 52 * 2 ^ (972 : ℤ) := by
                rw [ceiling, ← zpow_natCast, ← zpow_add₀ two_ne_zero]
                norm_num
            _ ≤ m * 2 ^ e := by gcongr; exacts [one_le_two, by omega]
        rw [repack_of_high s positive (by omega)]
        cases s with
        | negative => exact .inr (.inr ⟨neg_le_neg large, rfl⟩)
        | positive => exact .inr (.inl ⟨large, rfl⟩)

/-- A number that a finite double can be. -/
structure IsDouble (v : ℚ) : Prop where
  representable : Representable v
  below : |v| < ceiling

theorem IsDouble.scaled {m e : ℤ} (small : |m| ≤ 2 ^ 53) (low : -1074 ≤ e) (high : e ≤ 970) :
    IsDouble (m * 2 ^ e) := by
  refine ⟨representable_scaled small low, ?_⟩
  have coefficient : |(m : ℚ)| ≤ 2 ^ 53 := by exact_mod_cast small
  have place : (0 : ℚ) < 2 ^ e := by positivity
  calc |(m : ℚ) * 2 ^ e| = |(m : ℚ)| * 2 ^ e := by rw [abs_mul, abs_of_pos place]
    _ ≤ 2 ^ 53 * 2 ^ e := by gcongr
    _ = 2 ^ (53 + e) := by rw [zpow_add₀ two_ne_zero]; norm_num
    _ < ceiling := zpow_lt_zpow_right₀ one_lt_two (by omega)

theorem IsDouble.int {n : ℤ} (small : |n| ≤ 2 ^ 53) : IsDouble n := by
  simpa using IsDouble.scaled (e := 0) small (by norm_num) (by norm_num)

theorem IsDouble.zero : IsDouble 0 := by
  simpa using IsDouble.int (n := 0) (by norm_num)

theorem IsDouble.zpow {e : ℤ} (low : -1074 ≤ e) (high : e ≤ 970) : IsDouble (2 ^ e) := by
  simpa using IsDouble.scaled (m := 1) (by norm_num) low high

theorem Denotes.isDouble {x : UnpackedFloat} {v : ℚ} (denotes : Denotes x v) : IsDouble v := by
  cases denotes with
  | zero s => exact .zero
  | @finite s m e positive canonical high =>
      have size : (0 : ℚ) ≤ m * 2 ^ e := by positivity
      have coefficient : (m : ℚ) < 2 ^ 53 := by exact_mod_cast canonical.small
      have representable : Representable (m * 2 ^ e) :=
        ⟨m, e, by rw [abs_of_nonneg (by positivity)]; exact_mod_cast canonical.small,
          canonical.low, by push_cast; rfl⟩
      have below : (m : ℚ) * 2 ^ e < ceiling := by
        calc (m : ℚ) * 2 ^ e < 2 ^ 53 * 2 ^ e := by gcongr
          _ ≤ 2 ^ 53 * 2 ^ (971 : ℤ) := by gcongr; exact one_le_two
          _ = ceiling := by rw [ceiling, ← zpow_natCast, ← zpow_add₀ two_ne_zero]; norm_num
      cases s with
      | negative => exact ⟨representable.neg, by rwa [signed, abs_neg, abs_of_nonneg size]⟩
      | positive => exact ⟨representable, by rwa [signed, abs_of_nonneg size]⟩

namespace Rounded

variable {x : UnpackedFloat} {q : ℚ}

/-- From a double on upwards: such a number, or infinite. -/
theorem above {low : ℚ} (rounded : Rounded x q) (double : IsDouble low) (below : low ≤ q) :
    (∃ w, Denotes x w ∧ low ≤ w) ∨ x = .infinity .positive := by
  obtain ⟨w, rounds, denotes | ⟨-, infinite⟩ | ⟨small, -⟩⟩ := rounded
  · exact .inl ⟨w, denotes, (rounds low double.representable).2 below⟩
  · exact .inr infinite
  · have reach := (rounds low double.representable).2 below
    exact absurd (reach.trans small) (not_le.2 (neg_lt_of_abs_lt double.below))

/-- Between two doubles: such a number. -/
theorem within {low high : ℚ} (rounded : Rounded x q) (double : IsDouble low)
    (double' : IsDouble high) (below : low ≤ q) (above : q ≤ high) :
    ∃ w, Denotes x w ∧ low ≤ w ∧ w ≤ high := by
  obtain ⟨w, rounds, denotes | ⟨large, -⟩ | ⟨small, -⟩⟩ := rounded
  · exact ⟨w, denotes, (rounds low double.representable).2 below,
      (rounds high double'.representable).1 above⟩
  · have reach := (rounds high double'.representable).1 above
    exact absurd (large.trans reach) (not_le.2 (lt_of_abs_lt double'.below))
  · have reach := (rounds low double.representable).2 below
    exact absurd (reach.trans small) (not_le.2 (neg_lt_of_abs_lt double.below))

/-- A number that a double can be is met exactly. -/
theorem exact (rounded : Rounded x q) (double : IsDouble q) : Denotes x q := by
  obtain ⟨w, denotes, below, above⟩ := rounded.within double double le_rfl le_rfl
  rwa [le_antisymm above below] at denotes

end Rounded

/-! ## Operations -/

theorem rounded_roundWithAccuracy (s : Sign) {m : ℕ} {e : ℤ} {accuracy : Accuracy} {y : ℚ}
    (stands : Stands (given m accuracy) y) (fits : e ≤ max (m.log2 + e - 52) (-1074)) :
    Rounded (repack (roundWithAccuracy .binary64 s m e accuracy)) (signed s (y * 2 ^ e)) := by
  obtain ⟨w, rounds, magnitude⟩ := roundWithAccuracy_spec s stands fits
  exact rounded_of_magnitude rounds magnitude

theorem stands_exact (m : ℕ) : Stands (given m .exact) m := rfl

/-- A shift of the mantissa against the exponent keeps the number. -/
theorem decreaseExponent_eq (m : ℕ) (e t : ℤ) : ∃ k : ℕ, (t ≤ e → e - k = t) ∧ (e ≤ t → k = 0) ∧
    decreaseExponent m e t = (m * 2 ^ k, e - k) ∧
      ((m * 2 ^ k : ℕ) : ℚ) * 2 ^ (e - k) = m * 2 ^ e := by
  refine ⟨(e - t).toNat, by omega, by omega, ?_, ?_⟩
  · simp only [decreaseExponent, Nat.shiftLeft_eq]
  · rw [zpow_sub₀ two_ne_zero, zpow_natCast]
    push_cast
    field_simp

theorem log2_mul_two_pow {m : ℕ} (positive : 0 < m) (k : ℕ) : (m * 2 ^ k).log2 = m.log2 + k := by
  induction k with
  | zero => simp
  | succ k ih =>
      have double : m * 2 ^ (k + 1) = 2 * (m * 2 ^ k) := by ring
      rw [double, Nat.log2_two_mul (by positivity), ih, Nat.add_assoc]

theorem rounded_round (s : Sign) {m : ℕ} (e : ℤ) (positive : 0 < m) :
    Rounded (repack (UnpackedFloat.round .binary64 s m e)) (signed s (m * 2 ^ e)) := by
  obtain ⟨k, lower, same, shifted, value⟩ := decreaseExponent_eq m e (max (m.log2 + e - 52) (-1074))
  have width := log2_mul_two_pow positive k
  simp only [UnpackedFloat.round, target_eq, shifted]
  rw [← value]
  exact rounded_roundWithAccuracy s (stands_exact _) (by omega)

theorem rounded_normalize (k e : ℤ) :
    Rounded (repack (UnpackedFloat.normalize .binary64 k e .positive)) (k * 2 ^ e) := by
  obtain negative | rfl | positive := lt_trichotomy k 0
  · have order : compare k 0 = .lt := compare_lt_iff_lt.2 negative
    have cast : ((-k).toNat : ℤ) = -k := Int.toNat_of_nonneg (by omega)
    have magnitude : -(((-k).toNat : ℚ) * 2 ^ e) = k * 2 ^ e := by
      have cast : ((-k).toNat : ℚ) = -k := by exact_mod_cast cast
      rw [cast]
      ring
    simp only [UnpackedFloat.normalize, order]
    exact magnitude ▸ rounded_round .negative e (by omega)
  · rw [Int.cast_zero, zero_mul]
    exact (Denotes.zero .positive).rounded
  · have order : compare k 0 = .gt := compare_gt_iff_gt.2 positive
    have cast : (k.toNat : ℤ) = k := Int.toNat_of_nonneg (by omega)
    have magnitude : ((k.toNat : ℚ) * 2 ^ e) = k * 2 ^ e := by
      have cast : (k.toNat : ℚ) = k := by exact_mod_cast cast
      rw [cast]
    simp only [UnpackedFloat.normalize, order]
    exact magnitude ▸ rounded_round .positive e (by omega)

theorem apply_eq_signed (s : Sign) (m : ℕ) : ((s.apply m : ℤ) : ℚ) = signed s m := by
  cases s <;> simp [Sign.apply, signed]

theorem signed_mul (s : Sign) (q r : ℚ) : signed s (q * r) = signed s q * r := by
  cases s <;> simp [signed]

theorem signed_neg (s : Sign) (q : ℚ) : signed (-s) q = -signed s q := by
  cases s
  · exact (neg_neg q).symm
  · rfl

theorem signed_mul_signed (s s' : Sign) (q r : ℚ) :
    signed s q * signed s' r = signed (s * s') (q * r) := by
  cases s <;> cases s'
  · exact neg_mul_neg q r
  · exact neg_mul q r
  · exact mul_neg q r
  · rfl

theorem signed_div_signed (s s' : Sign) (q r : ℚ) :
    signed s q / signed s' r = signed (s / s') (q / r) := by
  cases s <;> cases s'
  · exact neg_div_neg_eq q r
  · exact neg_div r q
  · exact div_neg q
  · rfl

section Operations

variable {a b : UnpackedFloat} {u v : ℚ}

theorem rounded_add (left : Denotes a u) (right : Denotes b v) :
    Rounded (repack (UnpackedFloat.add .binary64 a b)) (u + v) := by
  cases left with
  | zero s =>
      rw [zero_add]
      cases right with
      | zero s' => cases s <;> cases s' <;> exact (Denotes.zero _).rounded
      | finite s' positive canonical high => exact (Denotes.finite s' positive canonical high).rounded
  | @finite s m e positive canonical high =>
      cases right with
      | zero s' =>
          rw [add_zero]
          exact (Denotes.finite s positive canonical high).rounded
      | @finite s' m' e' positive' canonical' high' =>
          obtain ⟨k, lower, -, shifted, value⟩ := decreaseExponent_eq m e (min e e')
          obtain ⟨k', lower', -, shifted', value'⟩ := decreaseExponent_eq m' e' (min e e')
          have sum : ((s.apply (m * 2 ^ k : ℕ) + s'.apply (m' * 2 ^ k' : ℕ) : ℤ) : ℚ) * 2 ^ min e e' =
              signed s (m * 2 ^ e) + signed s' (m' * 2 ^ e') := by
            rw [← value, ← value', lower (min_le_left _ _), lower' (min_le_right _ _), signed_mul,
              signed_mul, Int.cast_add, apply_eq_signed, apply_eq_signed, add_mul]
          simp only [UnpackedFloat.add, shifted, shifted']
          rw [← sum]
          exact rounded_normalize _ _

theorem Denotes.add_infinity (denotes : Denotes a u) :
    repack (UnpackedFloat.add .binary64 a (.infinity .positive)) = .infinity .positive := by
  cases denotes <;> exact repack_infinity .positive

theorem Denotes.neg (denotes : Denotes a u) : Denotes a.neg (-u) := by
  cases denotes with
  | zero s =>
      rw [neg_zero]
      exact .zero (-s)
  | finite s positive canonical high =>
      rw [← signed_neg]
      exact .finite (-s) positive canonical high

theorem sub_eq_add (left : Denotes a u) (right : Denotes b v) :
    UnpackedFloat.sub .binary64 a b = UnpackedFloat.add .binary64 a b.neg := by
  have apply_neg : ∀ (s : Sign) (n : ℤ), (-s).apply n = -s.apply n := fun s n => by
    cases s
    · exact (neg_neg n).symm
    · rfl
  cases left <;> cases right <;>
    first
    | rfl
    | simp only [UnpackedFloat.sub, UnpackedFloat.add, UnpackedFloat.neg, apply_neg, sub_eq_add_neg]

theorem rounded_sub (left : Denotes a u) (right : Denotes b v) :
    Rounded (repack (UnpackedFloat.sub .binary64 a b)) (u - v) := by
  rw [sub_eq_add left right, sub_eq_add_neg]
  exact rounded_add left right.neg

/-- The coefficient of a product is not too narrow for its exponent. -/
theorem fits_mul {m m' : ℕ} {e e' : ℤ} (positive : 0 < m) (positive' : 0 < m')
    (canonical : Canonical m e) (canonical' : Canonical m' e') :
    e + e' ≤ max ((m * m').log2 + (e + e') - 52) (-1074) := by
  have nonzero : m * m' ≠ 0 := by positivity
  obtain wide | lowest := canonical.normal
  · have width := (Nat.le_log2 nonzero).2 (wide.trans (Nat.le_mul_of_pos_right m positive'))
    omega
  · obtain wide | lowest' := canonical'.normal
    · have width := (Nat.le_log2 nonzero).2 (wide.trans (Nat.le_mul_of_pos_left m' positive))
      omega
    · omega

theorem rounded_mul (left : Denotes a u) (right : Denotes b v) :
    Rounded (repack (UnpackedFloat.mul .binary64 a b)) (u * v) := by
  cases left with
  | zero s =>
      rw [zero_mul]
      cases right <;> exact (Denotes.zero _).rounded
  | @finite s m e positive canonical high =>
      cases right with
      | zero s' =>
          rw [mul_zero]
          exact (Denotes.zero _).rounded
      | @finite s' m' e' positive' canonical' high' =>
          have product : (m * 2 ^ e : ℚ) * (m' * 2 ^ e') = (m * m' : ℕ) * 2 ^ (e + e') := by
            rw [zpow_add₀ two_ne_zero]
            push_cast
            ring
          rw [signed_mul_signed, product]
          exact rounded_roundWithAccuracy _ (stands_exact _)
            (fits_mul positive positive' canonical canonical')

/-- A quotient of whole numbers with its accuracy stands for the exact quotient. -/
theorem stands_quotient {m m' : ℕ} (positive : 0 < m') :
    Stands (given (m / m') (accuracyOfFraction (m % m') m')) (m / m') := by
  have whole : (m : ℚ) = m' * (m / m' : ℕ) + (m % m' : ℕ) := by
    exact_mod_cast (Nat.div_add_mod m m').symm
  have rest : ((m % m' : ℕ) : ℚ) < m' := by exact_mod_cast Nat.mod_lt m positive
  have size : (0 : ℚ) < m' := by exact_mod_cast positive
  have quotient : (m : ℚ) / m' = (m / m' : ℕ) + (m % m' : ℕ) / m' := by
    rw [whole]
    field_simp
  rw [quotient]
  generalize m / m' = q
  generalize m % m' = rem at rest
  by_cases exact : rem = 0
  · simp [exact, accuracyOfFraction, Stands, given, ExtendedMantissa.ofMantissaAndAccuracy]
  · have some : (0 : ℚ) < rem := by exact_mod_cast Nat.pos_of_ne_zero exact
    have part : 0 < (rem : ℚ) / m' := by positivity
    rw [accuracyOfFraction, if_neg exact]
    obtain below | middle | above := lt_trichotomy (2 * rem) m'
    · have half : (rem : ℚ) / m' < 1 / 2 := by
        have below : (2 * rem : ℚ) < m' := by exact_mod_cast below
        rw [div_lt_iff₀ size]
        linarith
      rw [compare_lt_iff_lt.2 below]
      exact ⟨lt_add_of_pos_right _ part, (add_lt_add_iff_left _).2 half⟩
    · have half : (rem : ℚ) / m' = 1 / 2 := by
        have middle : (2 * rem : ℚ) = m' := by exact_mod_cast middle
        rw [← middle]
        field_simp
      rw [compare_eq_iff_eq.2 middle, half]
      rfl
    · have half : 1 / 2 < (rem : ℚ) / m' := by
        have above : (m' : ℚ) < 2 * rem := by exact_mod_cast above
        rw [lt_div_iff₀ size]
        linarith
      have whole : (rem : ℚ) / m' < 1 := (div_lt_one size).2 rest
      rw [compare_gt_iff_gt.2 above]
      exact ⟨(add_lt_add_iff_left _).2 half, (add_lt_add_iff_left _).2 whole⟩

/-- The whole part of a quotient is not too narrow for its exponent. -/
theorem fits_div {m m' k : ℕ} {t : ℤ} (positive : 0 < m) (positive' : 0 < m')
    (shift : t ≤ -1074 ∨ m'.log2 + 53 ≤ m.log2 + k) :
    t ≤ max (((m * 2 ^ k) / m').log2 + t - 52) (-1074) := by
  obtain low | shift := shift
  · omega
  · have wide : 2 ^ 52 ≤ (m * 2 ^ k) / m' := by
      rw [Nat.le_div_iff_mul_le positive']
      calc 2 ^ 52 * m' ≤ 2 ^ 52 * 2 ^ (m'.log2 + 1) := by gcongr; exact Nat.lt_log2_self.le
        _ = 2 ^ (m'.log2 + 53) := by ring
        _ ≤ 2 ^ (m.log2 + k) := Nat.pow_le_pow_right two_pos shift
        _ = 2 ^ m.log2 * 2 ^ k := pow_add ..
        _ ≤ m * 2 ^ k := by gcongr; exact Nat.log2_self_le positive.ne'
    have width := (Nat.le_log2 (by omega)).2 wide
    omega

theorem rounded_div (left : Denotes a u) (right : Denotes b v) (nonzero : v ≠ 0) :
    Rounded (repack (UnpackedFloat.div .binary64 a b)) (u / v) := by
  cases right with
  | zero s' => exact absurd rfl nonzero
  | @finite s' m' e' positive' canonical' high' =>
      cases left with
      | zero s =>
          rw [zero_div]
          exact (Denotes.zero _).rounded
      | @finite s m e positive canonical high =>
          obtain ⟨t, target⟩ : ∃ t, min (e - e') (Format.binary64.targetExponent
              (totalExponent m e - totalExponent m' e')) = t := ⟨_, rfl⟩
          obtain ⟨k, shift⟩ : ∃ k : ℕ, e - e' - t = k := ⟨(e - e' - t).toNat, by omega⟩
          have fits : t ≤ -1074 ∨ m'.log2 + 53 ≤ m.log2 + k := by
            simp only [Format.targetExponent, totalExponent, mantissaBits_binary64,
              minExponent_binary64] at target
            omega
          have core : divCore .binary64 m e m' e' =
              (m * 2 ^ k / m', t, accuracyOfFraction (m * 2 ^ k % m') m') := by
            simp only [divCore, target, shift, Int.toNat_natCast, Nat.shiftLeft_eq]
          have quotient : (m * 2 ^ e : ℚ) / (m' * 2 ^ e') = (m * 2 ^ k : ℕ) / m' * 2 ^ t := by
            have exponent : t = e - e' - k := by omega
            rw [exponent, zpow_sub₀ two_ne_zero, zpow_sub₀ two_ne_zero, zpow_natCast]
            push_cast
            field_simp
          simp only [UnpackedFloat.div, core]
          rw [signed_div_signed, quotient]
          exact rounded_roundWithAccuracy _ (stands_quotient positive')
            (fits_div positive positive' fits)

end Operations

/-! ## Order -/

/-- Of two canonical doubles, the one of the larger exponent is larger. -/
theorem Canonical.lt_of_exponent {m m' : ℕ} {e e' : ℤ} (canonical : Canonical m e)
    (canonical' : Canonical m' e') (lower : e < e') : (m : ℚ) * 2 ^ e < m' * 2 ^ e' := by
  have below : (m : ℚ) < 2 ^ 53 := by exact_mod_cast canonical.small
  have low := canonical.low
  have wide : (2 : ℚ) ^ 52 ≤ m' := by
    exact_mod_cast canonical'.normal.resolve_right (by omega)
  calc (m : ℚ) * 2 ^ e < 2 ^ 53 * 2 ^ e := by gcongr
    _ = 2 ^ 52 * 2 ^ (e + 1) := by rw [zpow_add_one₀ two_ne_zero]; ring
    _ ≤ m' * 2 ^ e' := by gcongr; exacts [one_le_two, lower]

theorem Canonical.compare {m m' : ℕ} {e e' : ℤ} (canonical : Canonical m e)
    (canonical' : Canonical m' e') :
    (Ord.compare e e').then (Ord.compare m m') =
      Ord.compare ((m : ℚ) * 2 ^ e) ((m' : ℚ) * 2 ^ e') := by
  obtain lower | rfl | higher := lt_trichotomy e e'
  · rw [compare_lt_iff_lt.2 lower, compare_lt_iff_lt.2 (canonical.lt_of_exponent canonical' lower)]
    rfl
  · have place : (0 : ℚ) < 2 ^ e := by positivity
    rw [compare_eq_iff_eq.2 rfl]
    obtain less | rfl | more := lt_trichotomy m m'
    · rw [compare_lt_iff_lt.2 less, compare_lt_iff_lt.2]
      · rfl
      · gcongr
    · rw [compare_eq_iff_eq.2 rfl, compare_eq_iff_eq.2 rfl]
      rfl
    · rw [compare_gt_iff_gt.2 more, compare_gt_iff_gt.2]
      · rfl
      · exact (mul_lt_mul_iff_left₀ place).2 (by exact_mod_cast more)
  · have more := canonical'.lt_of_exponent canonical higher
    rw [compare_gt_iff_gt.2 higher, compare_gt_iff_gt.2 more]
    rfl

theorem compare_neg (q r : ℚ) : Ord.compare (-q) (-r) = (Ord.compare q r).swap := by
  obtain less | rfl | more := lt_trichotomy q r
  · rw [compare_lt_iff_lt.2 less, compare_gt_iff_gt.2 (neg_lt_neg less)]
    rfl
  · rw [compare_eq_iff_eq.2 rfl, compare_eq_iff_eq.2 rfl]
    rfl
  · rw [compare_gt_iff_gt.2 more, compare_lt_iff_lt.2 (neg_lt_neg more)]
    rfl

theorem Denotes.isNaN_eq_false {a : UnpackedFloat} {u : ℚ} (denotes : Denotes a u) :
    a.isNaN = false := by
  cases denotes <;> rfl

theorem Denotes.compare {a b : UnpackedFloat} {u v : ℚ} (left : Denotes a u) (right : Denotes b v) :
    a.compare b = some (Ord.compare u v) := by
  cases left with
  | zero s =>
      cases right with
      | zero s' => rfl
      | @finite s' m' e' positive' canonical' high' =>
          have size : (0 : ℚ) < m' * 2 ^ e' := by positivity
          cases s' with
          | negative => exact congrArg some (compare_gt_iff_gt.2 (neg_lt_zero.2 size)).symm
          | positive => exact congrArg some (compare_lt_iff_lt.2 size).symm
  | @finite s m e positive canonical high =>
      have size : (0 : ℚ) < m * 2 ^ e := by positivity
      cases right with
      | zero s' =>
          cases s with
          | negative => exact congrArg some (compare_lt_iff_lt.2 (neg_lt_zero.2 size)).symm
          | positive => exact congrArg some (compare_gt_iff_gt.2 size).symm
      | @finite s' m' e' positive' canonical' high' =>
          have size' : (0 : ℚ) < m' * 2 ^ e' := by positivity
          cases s <;> cases s'
          · exact congrArg some ((congrArg Ordering.swap (canonical.compare canonical')).trans
              (compare_neg _ _).symm)
          · exact congrArg some (compare_lt_iff_lt.2 ((neg_lt_zero.2 size).trans size')).symm
          · exact congrArg some (compare_gt_iff_gt.2 ((neg_lt_zero.2 size').trans size)).symm
          · exact congrArg some (canonical.compare canonical')

theorem Denotes.infinity_le {a : UnpackedFloat} {u : ℚ} (denotes : Denotes a u) :
    (UnpackedFloat.infinity .positive).le a = false := by
  cases denotes <;> rfl

/-- Not counting zeros, a number is one double only. -/
theorem Denotes.unique {x y : UnpackedFloat} {v : ℚ} (left : Denotes x v) (right : Denotes y v)
    (nonzero : v ≠ 0) : x = y := by
  have same := left.compare right
  rw [compare_eq_iff_eq.2 rfl] at same
  cases left with
  | zero s => exact absurd rfl nonzero
  | @finite s m e positive canonical high =>
      generalize signed s (m * 2 ^ e) = v at right nonzero
      cases right with
      | zero s' => exact absurd rfl nonzero
      | @finite s' m' e' positive' canonical' high' =>
          have congr (equal : (Ord.compare e e').then (Ord.compare m m') = .eq) :
              UnpackedFloat.finite s m e positive = .finite s m' e' positive' := by
            obtain ⟨exponents, coefficients⟩ := Ordering.then_eq_eq.1 equal
            exact finite_congr (compare_eq_iff_eq.1 coefficients) (compare_eq_iff_eq.1 exponents)
          cases s <;> cases s'
          · exact congr (Ordering.swap_inj.1 (Option.some.inj same))
          · change some Ordering.lt = some Ordering.eq at same
            cases same
          · change some Ordering.gt = some Ordering.eq at same
            cases same
          · exact congr (Option.some.inj same)

/-! ## Doubles -/

/-- The number that a double is, if it is one. -/
def HasValue (x : Float) (v : ℚ) : Prop := Denotes (parts x) v

theorem hasValue_of_parts {x : Float} {s : Sign} {m : ℕ} {e : ℤ} {positive : 0 < m}
    (known : parts x = .finite s m e positive) (canonical : Canonical m e) (high : e ≤ 971) :
    HasValue x (signed s (m * 2 ^ e)) := by
  rw [HasValue, known]
  exact .finite s positive canonical high

theorem parts_add (x y : Float) :
    parts (x + y) = repack (UnpackedFloat.add .binary64 (parts x) (parts y)) := rfl

theorem parts_sub (x y : Float) :
    parts (x - y) = repack (UnpackedFloat.sub .binary64 (parts x) (parts y)) := rfl

theorem parts_neg (x : Float) : parts (-x) = repack (parts x).neg := rfl

section

variable {x y : Float} {u v : ℚ}

theorem HasValue.add (left : HasValue x u) (right : HasValue y v) :
    Rounded (parts (x + y)) (u + v) :=
  rounded_add left right

theorem HasValue.sub (left : HasValue x u) (right : HasValue y v) :
    Rounded (parts (x - y)) (u - v) :=
  rounded_sub left right

theorem HasValue.mul (left : HasValue x u) (right : HasValue y v) :
    Rounded (parts (x * y)) (u * v) :=
  rounded_mul left right

theorem HasValue.div (left : HasValue x u) (right : HasValue y v) (nonzero : v ≠ 0) :
    Rounded (parts (x / y)) (u / v) :=
  rounded_div left right nonzero

theorem HasValue.neg (value : HasValue x v) : HasValue (-x) (-v) := by
  have negated := Denotes.neg value
  rwa [← repack_of_denotes negated, ← parts_neg] at negated

end

/-- A word as a double. -/
theorem rounded_toFloat (n : UInt64) : Rounded (parts n.toFloat) n.toNat := by
  have rounded : Rounded (parts n.toFloat) ((n.toNat : ℤ) * 2 ^ (0 : ℤ)) :=
    rounded_normalize n.toNat 0
  rw [zpow_zero, mul_one] at rounded
  exact_mod_cast rounded

theorem hasValue_toFloat {n : ℕ} (small : n ≤ 2 ^ 53) : HasValue n.toUInt64.toFloat n := by
  have near := rounded_toFloat n.toUInt64
  have stored : n.toUInt64.toNat = n := Nat.mod_eq_of_lt (by omega)
  rw [stored] at near
  have double : IsDouble (n : ℤ) := by
    apply IsDouble.int
    rw [abs_of_nonneg (Int.natCast_nonneg n)]
    exact_mod_cast small
  exact near.exact (by exact_mod_cast double)

theorem le_iff {x y : Float} {u v : ℚ} (left : HasValue x u) (right : HasValue y v) :
    x ≤ y ↔ u ≤ v := by
  change decide ((parts x).le (parts y) = true) = true ↔ u ≤ v
  rw [decide_eq_true_iff, UnpackedFloat.le, left.compare right]
  obtain less | rfl | more := lt_trichotomy u v
  · rw [compare_lt_iff_lt.2 less]
    exact iff_of_true rfl less.le
  · rw [compare_eq_iff_eq.2 rfl]
    exact iff_of_true rfl le_rfl
  · rw [compare_gt_iff_gt.2 more]
    exact iff_of_false Bool.false_ne_true (not_le.2 more)

theorem lt_iff {x y : Float} {u v : ℚ} (left : HasValue x u) (right : HasValue y v) :
    x < y ↔ u < v := by
  change decide ((parts x).lt (parts y) = true) = true ↔ u < v
  rw [decide_eq_true_iff, UnpackedFloat.lt, left.compare right]
  obtain less | rfl | more := lt_trichotomy u v
  · rw [compare_lt_iff_lt.2 less]
    exact iff_of_true rfl less
  · rw [compare_eq_iff_eq.2 rfl]
    exact iff_of_false Bool.false_ne_true (lt_irrefl _)
  · rw [compare_gt_iff_gt.2 more]
    exact iff_of_false Bool.false_ne_true more.asymm

/-- A double that is finite is a number. -/
theorem exists_hasValue {x : Float} (finite : x.isFinite = true) : ∃ v, HasValue x v := by
  obtain ⟨s, b, f, -, reads⟩ := reads_parts x
  have finite : (parts x).isFinite = true := finite
  change ∃ v, Denotes (parts x) v
  revert finite
  generalize parts x = x at reads
  cases reads with
  | infinity => simp [UnpackedFloat.isFinite]
  | notANumber => simp [UnpackedFloat.isFinite]
  | zero => exact fun _ => ⟨0, .zero s⟩
  | subnormal low positive =>
      have small : f.toNat < 2 ^ 53 := by omega
      exact fun _ => ⟨_, .finite s positive ⟨small, le_rfl, .inr rfl⟩ (by norm_num)⟩
  | normal notOnes notZero positive =>
      have size := f.isLt
      have size' := b.isLt
      have high : b.toNat ≠ 2047 := fun same => notOnes (BitVec.eq_of_toNat_eq same)
      have low : b.toNat ≠ 0 := fun same => notZero (BitVec.eq_of_toNat_eq same)
      exact fun _ => ⟨_, .finite s positive ⟨by omega, by omega, .inl (by omega)⟩ (by omega)⟩

end InventorySync.Numeral
