/-
# Proofs.Rounding — what the rounding of doubles does to an exact number

The result of an operation on doubles is an exact number, shifted to the exponent that its
size calls for and rounded there. `Stands` is what a mantissa with its two residual bits
stands for; shifting halves it, and rounding does not carry it past a whole number. So a
rounded number is on the same side of every representable one as the number that was
rounded (`Rounds`), and exact if that is representable itself.

`roundWithAccuracy_spec` says so of the rounding that every operation ends with.
-/
import Mathlib

namespace InventorySync.Numeral

set_option autoImplicit false

open Float.Model Float.Model.UnpackedFloat

/-! ## Representable numbers -/

/-- A whole number of 53 bits at an exponent that doubles have, or a larger one. -/
def Representable (b : ℚ) : Prop := ∃ m e : ℤ, |m| < 2 ^ 53 ∧ -1074 ≤ e ∧ b = m * 2 ^ e

theorem Representable.neg {b : ℚ} (representable : Representable b) : Representable (-b) := by
  obtain ⟨m, e, small, low, rfl⟩ := representable
  exact ⟨-m, e, by rwa [abs_neg], low, by push_cast; ring⟩

theorem representable_scaled {m e : ℤ} (small : |m| ≤ 2 ^ 53) (low : -1074 ≤ e) :
    Representable (m * 2 ^ e) := by
  obtain below | same := small.lt_or_eq
  · exact ⟨m, e, below, low, rfl⟩
  · have double : ((2 : ℚ) ^ e) * 2 ^ 53 = 2 ^ 52 * 2 ^ (e + 1) := by
      rw [zpow_add_one₀ two_ne_zero]
      ring
    obtain rfl | rfl := (abs_eq (by norm_num)).1 same
    · exact ⟨2 ^ 52, e + 1, by norm_num, by omega, by push_cast; linarith⟩
    · exact ⟨-2 ^ 52, e + 1, by norm_num, by omega, by push_cast; linarith⟩

/-- Past a number of 53 bits, the next representable one is a whole place further. -/
theorem Representable.succ_le {v : ℚ} (representable : Representable v) {k t : ℤ}
    (wide : 2 ^ 52 ≤ k) (past : k * 2 ^ t < v) : (k + 1) * 2 ^ t ≤ v := by
  obtain ⟨m, e, small, -, rfl⟩ := representable
  have place : (0 : ℚ) < 2 ^ t := by positivity
  have coefficient : (m : ℚ) < 2 ^ 53 := by exact_mod_cast (le_abs_self m).trans_lt small
  have wide : (2 : ℚ) ^ 52 ≤ k := by exact_mod_cast wide
  obtain fine | coarse := lt_or_ge e t
  · -- A finer number is not that large.
    have below : (m : ℚ) * 2 ^ e ≤ k * 2 ^ t := by
      calc (m : ℚ) * 2 ^ e ≤ 2 ^ 53 * 2 ^ e := by gcongr
        _ = 2 ^ 52 * 2 ^ (e + 1) := by rw [zpow_add_one₀ two_ne_zero]; ring
        _ ≤ k * 2 ^ t := by gcongr; exacts [one_le_two, fine]
    exact absurd past (not_lt.2 below)
  · obtain ⟨n, rfl⟩ : ∃ n : ℕ, e = n + t := ⟨(e - t).toNat, by omega⟩
    have multiple : (m : ℚ) * 2 ^ (n + t : ℤ) = (m * 2 ^ n : ℤ) * 2 ^ t := by
      rw [zpow_add₀ two_ne_zero, zpow_natCast]
      push_cast
      ring
    rw [multiple, mul_lt_mul_iff_left₀ place] at past
    rw [multiple, mul_le_mul_iff_left₀ place]
    exact_mod_cast Int.add_one_le_of_lt (by exact_mod_cast past)

/-- A number that stands to representable ones as another does. -/
def Rounds (x w : ℚ) : Prop := ∀ b, Representable b → (x ≤ b → w ≤ b) ∧ (b ≤ x → b ≤ w)

theorem Rounds.refl (x : ℚ) : Rounds x x := fun _ _ => ⟨id, id⟩

theorem Rounds.neg {x w : ℚ} (rounds : Rounds x w) : Rounds (-x) (-w) := fun _ representable =>
  ⟨fun above => neg_le.1 ((rounds _ representable.neg).2 (neg_le.1 above)),
    fun below => le_neg.1 ((rounds _ representable.neg).1 (le_neg.1 below))⟩

/-! ## Mantissas with residual bits -/

/-- The exact number that a mantissa and its residual bits stand for. -/
def Stands (em : ExtendedMantissa) (y : ℚ) : Prop :=
  match em.roundBit, em.stickyBit with
  | false, false => y = em.mantissa
  | false, true => em.mantissa < y ∧ y < em.mantissa + 1 / 2
  | true, false => y = em.mantissa + 1 / 2
  | true, true => em.mantissa + 1 / 2 < y ∧ y < em.mantissa + 1

namespace Stands

variable {em : ExtendedMantissa} {y : ℚ}

/-- The residual bits are clear, or stand for a part of a place. -/
theorem residue (stands : Stands em y) :
    (em.roundBit = false ∧ em.stickyBit = false ∧ y = em.mantissa) ∨
      ((em.roundBit || em.stickyBit) = true ∧ em.mantissa < y ∧ y < em.mantissa + 1) := by
  obtain ⟨m, round, sticky⟩ := em
  cases round <;> cases sticky <;> simp only [Stands] at stands
  · exact .inl ⟨rfl, rfl, stands⟩
  all_goals exact .inr ⟨rfl, by linarith, by linarith⟩

theorem mantissa_le (stands : Stands em y) : em.mantissa ≤ y ∧ y < em.mantissa + 1 := by
  obtain ⟨-, -, rfl⟩ | ⟨-, above, below⟩ := stands.residue
  · exact ⟨le_rfl, lt_add_one _⟩
  · exact ⟨above.le, below⟩

theorem shiftRightOne (stands : Stands em y) : Stands em.shiftRightOne (y / 2) := by
  -- The bit that leaves the mantissa becomes the round bit.
  have parts : (em.mantissa : ℚ) = 2 * (em.mantissa / 2 : ℕ) + (em.mantissa % 2 : ℕ) := by
    exact_mod_cast (Nat.div_add_mod em.mantissa 2).symm
  obtain even | odd := Nat.mod_two_eq_zero_or_one em.mantissa
  · rw [even, Nat.cast_zero] at parts
    obtain ⟨round, sticky, same⟩ | ⟨some, above, below⟩ := stands.residue
    · have shifted : em.shiftRightOne = ⟨em.mantissa / 2, false, false⟩ := by
        simp [ExtendedMantissa.shiftRightOne, even, round, sticky]
      rw [shifted]
      change y / 2 = _
      linarith
    · have shifted : em.shiftRightOne = ⟨em.mantissa / 2, false, true⟩ := by
        simp [ExtendedMantissa.shiftRightOne, even, some]
      rw [shifted]
      exact ⟨by linarith, by linarith⟩
  · rw [odd, Nat.cast_one] at parts
    obtain ⟨round, sticky, same⟩ | ⟨some, above, below⟩ := stands.residue
    · have shifted : em.shiftRightOne = ⟨em.mantissa / 2, true, false⟩ := by
        simp [ExtendedMantissa.shiftRightOne, odd, round, sticky]
      rw [shifted]
      change y / 2 = _ + 1 / 2
      linarith
    · have shifted : em.shiftRightOne = ⟨em.mantissa / 2, true, true⟩ := by
        simp [ExtendedMantissa.shiftRightOne, odd, some]
      rw [shifted]
      exact ⟨by linarith, by linarith⟩

theorem shiftRight (stands : Stands em y) (n : ℕ) : Stands (em >>> n) (y / 2 ^ n) := by
  change Stands (n.repeat ExtendedMantissa.shiftRightOne em) _
  induction n with
  | zero => simpa [Nat.repeat] using stands
  | succ n ih =>
      rw [Nat.repeat, pow_succ, ← div_div]
      exact ih.shiftRightOne

theorem mantissa_le_rounded (em : ExtendedMantissa) :
    em.mantissa ≤ em.roundedMantissa ∧ em.roundedMantissa ≤ em.mantissa + 1 := by
  obtain ⟨m, round, sticky⟩ := em
  have bit := Nat.mod_lt m two_pos
  cases round <;> cases sticky <;>
    simp only [ExtendedMantissa.roundedMantissa, ExtendedMantissa.accuracy,
      Accuracy.roundToNearestEven] <;> omega

/-- Rounding does not carry a number past a whole one above it. -/
theorem rounded_le (stands : Stands em y) {n : ℕ} (above : y ≤ n) : em.roundedMantissa ≤ n := by
  obtain ⟨round, sticky, same⟩ | ⟨-, past, -⟩ := stands.residue
  · obtain ⟨m, _, _⟩ := em
    subst round sticky
    exact_mod_cast same ▸ above
  · -- The number is past its mantissa, so a whole one above it ends the place.
    have next : em.mantissa < n := by exact_mod_cast past.trans_le above
    exact (mantissa_le_rounded em).2.trans next

/-- Rounding does not carry a number past a whole one below it. -/
theorem le_rounded (stands : Stands em y) {n : ℕ} (below : n ≤ y) : n ≤ em.roundedMantissa := by
  have reach : (n : ℚ) < em.mantissa + 1 := below.trans_lt stands.mantissa_le.2
  have reach : n < em.mantissa + 1 := by exact_mod_cast reach
  exact (Nat.lt_succ_iff.1 reach).trans (mantissa_le_rounded em).1

end Stands

/-- The mantissa and residual bits that an operation hands over. -/
abbrev given (m : ℕ) (accuracy : Accuracy) : ExtendedMantissa :=
  ExtendedMantissa.ofMantissaAndAccuracy m accuracy

/-! ## Doubles in normal form -/

/-- A coefficient and an exponent as a finite double has them, but for an upper limit. -/
structure Canonical (m : ℕ) (e : ℤ) : Prop where
  small : m < 2 ^ 53
  low : -1074 ≤ e
  /-- Small coefficients occur at the lowest exponent only. -/
  normal : 2 ^ 52 ≤ m ∨ e = -1074

theorem mantissaBits_binary64 : Format.binary64.mantissaBits = 53 := rfl

theorem minExponent_binary64 : Format.binary64.minExponent = -1074 := rfl

theorem target_eq (m : ℕ) (e : ℤ) :
    Format.binary64.targetExponent (totalExponent m e) = max (m.log2 + e - 52) (-1074) := by
  simp only [Format.targetExponent, totalExponent, mantissaBits_binary64, minExponent_binary64]
  push_cast
  congr 1
  ring

/-- A canonical double stays as it is when it is brought to its exponent once more. -/
theorem shift_of_canonical {m : ℕ} {e : ℤ} (small : m < 2 ^ 53) (low : -1074 ≤ e) :
    shiftToTargetExponent .binary64 m e .exact = (given m .exact, e) := by
  have width : m.log2 ≤ 52 := by
    by_cases zero : m = 0
    · simp [zero]
    · exact Nat.lt_succ_iff.1 ((Nat.log2_lt zero).2 small)
  have still : (max (m.log2 + e - 52) (-1074) - e).toNat = 0 := by omega
  simp only [shiftToTargetExponent, shiftToExponent, target_eq, still]
  exact congrArg (_, ·) (by simp)

/-- A coefficient that was carried to one bit more is halved. -/
theorem shift_of_carried {e : ℤ} (low : -1074 ≤ e) :
    shiftToTargetExponent .binary64 (2 ^ 53) e .exact = (given (2 ^ 52) .exact, e + 1) := by
  have one : (max ((2 ^ 53 : ℕ).log2 + e - 52) (-1074) - e).toNat = 1 := by
    rw [Nat.log2_two_pow]
    omega
  simp only [shiftToTargetExponent, shiftToExponent, target_eq, one]
  rfl

/-! ## Rounding -/

/-- A double of that sign, zero or finite but for the upper limit, and its magnitude. -/
inductive Magnitude (s : Sign) : UnpackedFloat → ℚ → Prop
  | zero : Magnitude s (.zero s) 0
  | finite {m : ℕ} {e : ℤ} (positive : 0 < m) (canonical : Canonical m e) :
      Magnitude s (.finite s m e positive) (m * 2 ^ e)

/-- What comes after the rounding of the mantissa keeps the number. -/
theorem magnitude_of_rounded (s : Sign) {m : ℕ} {e : ℤ} {accuracy : Accuracy}
    {em : ExtendedMantissa} {t : ℤ}
    (shifted : shiftToTargetExponent .binary64 m e accuracy = (em, t)) (low : -1074 ≤ t)
    (small : em.roundedMantissa ≤ 2 ^ 53) (normal : 2 ^ 52 ≤ em.roundedMantissa ∨ t = -1074) :
    Magnitude s (roundWithAccuracy .binary64 s m e accuracy) (em.roundedMantissa * 2 ^ t) := by
  obtain below | carried := small.lt_or_eq
  · have second := shift_of_canonical below low
    simp only [roundWithAccuracy, shifted, second]
    by_cases zero : em.roundedMantissa = 0
    · rw [dif_pos (by exact zero), zero, Nat.cast_zero, zero_mul]
      exact .zero
    · rw [dif_neg (by exact zero)]
      exact .finite _ ⟨below, low, normal⟩
  · have second : shiftToTargetExponent .binary64 em.roundedMantissa t .exact =
        (given (2 ^ 52) .exact, t + 1) := by
      rw [carried]
      exact shift_of_carried low
    have same : (em.roundedMantissa : ℚ) * 2 ^ t = ((2 ^ 52 : ℕ) : ℚ) * 2 ^ (t + 1) := by
      rw [carried, zpow_add_one₀ two_ne_zero]
      push_cast
      ring
    have bits : (2 : ℕ) ^ 52 < 2 ^ 53 := by norm_num
    simp only [roundWithAccuracy, shifted, second, same]
    rw [dif_neg (by decide)]
    exact .finite _ ⟨bits, by omega, .inl le_rfl⟩

/-- On a grid that is as fine as the number calls for, rounding to a whole place is rounding. -/
theorem rounds_of_grid {y : ℚ} {r : ℕ} {t : ℤ} (nonneg : 0 ≤ y)
    (rounded_le : ∀ n : ℕ, y ≤ n → r ≤ n) (le_rounded : ∀ n : ℕ, n ≤ y → n ≤ r)
    (normal : 2 ^ 52 ≤ y ∨ t = -1074) : Rounds (y * 2 ^ t) (r * 2 ^ t) := by
  have place : (0 : ℚ) < 2 ^ t := by positivity
  rintro b ⟨c, e, small, lowE, rfl⟩
  obtain fine | coarse := le_or_gt t e
  · -- The number lies on the grid.
    have onGrid : ((c : ℚ)) * 2 ^ e = (c * 2 ^ (e - t).toNat : ℤ) * 2 ^ t := by
      have split : (2 : ℚ) ^ e = 2 ^ (e - t).toNat * 2 ^ t := by
        rw [← zpow_natCast, ← zpow_add₀ two_ne_zero, Int.toNat_of_nonneg (by omega)]
        ring_nf
      rw [split]
      push_cast
      ring
    rw [onGrid, mul_le_mul_iff_left₀ place, mul_le_mul_iff_left₀ place, mul_le_mul_iff_left₀ place,
      mul_le_mul_iff_left₀ place]
    generalize c * 2 ^ (e - t).toNat = n
    constructor
    · intro above
      have natural : (0 : ℚ) ≤ n := nonneg.trans above
      lift n to ℕ using by exact_mod_cast natural
      exact_mod_cast rounded_le n (by exact_mod_cast above)
    · intro below
      obtain negative | natural := lt_or_ge n 0
      · exact (by exact_mod_cast negative.le : (n : ℚ) ≤ 0).trans (by positivity)
      · lift n to ℕ using natural
        exact_mod_cast le_rounded n (by exact_mod_cast below)
  · -- The number is finer than the grid, and so below the least one that this grid is for.
    obtain normal | lowest := normal
    · have below : ((c : ℚ)) * 2 ^ e < 2 ^ 52 * 2 ^ t := by
        have bound : (c : ℚ) < 2 ^ 53 := by exact_mod_cast (le_abs_self c).trans_lt small
        calc ((c : ℚ)) * 2 ^ e < 2 ^ 53 * 2 ^ e := by gcongr
          _ = 2 ^ 52 * 2 ^ (e + 1) := by rw [zpow_add_one₀ two_ne_zero]; ring
          _ ≤ 2 ^ 52 * 2 ^ t := by gcongr; exacts [one_le_two, coarse]
      have reached : (2 : ℚ) ^ 52 ≤ r := by
        exact_mod_cast le_rounded (2 ^ 52) (by exact_mod_cast normal)
      constructor
      · intro above
        exact absurd (above.trans_lt below) (not_lt.2 (by gcongr))
      · intro _
        exact below.le.trans (by gcongr)
    · omega

/-- **An exact number is rounded**: the result is on the same side of every representable
number, and canonical. -/
theorem roundWithAccuracy_spec (s : Sign) {m : ℕ} {e : ℤ} {accuracy : Accuracy} {y : ℚ}
    (stands : Stands (given m accuracy) y) (fits : e ≤ max (m.log2 + e - 52) (-1074)) :
    ∃ w, Rounds (y * 2 ^ e) w ∧ Magnitude s (roundWithAccuracy .binary64 s m e accuracy) w := by
  let t : ℤ := max (m.log2 + e - 52) (-1074)
  have low : -1074 ≤ t := le_max_right _ _
  obtain ⟨k, shift⟩ : ∃ k : ℕ, t = e + k := ⟨(t - e).toNat, by omega⟩
  have shifted : shiftToTargetExponent .binary64 m e accuracy = (given m accuracy >>> k, t) := by
    have amount : (max ((m.log2 : ℤ) + e - 52) (-1074) - e).toNat = k := by
      change (t - e).toNat = k
      omega
    simp only [shiftToTargetExponent, shiftToExponent, target_eq, amount, ← shift]
  have stands' := stands.shiftRight k
  have mantissa : (given m accuracy).mantissa = m := by
    rcases accuracy with _ | order
    · rfl
    · cases order <;> rfl
  have bounds := stands.mantissa_le
  rw [mantissa] at bounds
  have nonneg : (0 : ℚ) ≤ y := (Nat.cast_nonneg m).trans bounds.1
  -- The size of the number, read off the width of its mantissa.
  have width : y < 2 ^ (m.log2 + 1) := by
    refine bounds.2.trans_le ?_
    exact_mod_cast Nat.lt_log2_self
  have small : y / 2 ^ k ≤ (2 ^ 53 : ℕ) := by
    rw [div_le_iff₀ (by positivity)]
    refine width.le.trans ?_
    rw [Nat.cast_pow, Nat.cast_two, ← pow_add]
    exact pow_le_pow_right₀ one_le_two (by omega)
  have normal : 2 ^ 52 ≤ y / 2 ^ k ∨ t = -1074 := by
    by_cases lowest : t = -1074
    · exact .inr lowest
    · have positive : m ≠ 0 := by
        rintro rfl
        have empty : Nat.log2 0 = 0 := rfl
        omega
      refine .inl ?_
      rw [le_div_iff₀ (by positivity), ← pow_add]
      refine le_trans ?_ bounds.1
      have wide : 2 ^ (52 + k) ≤ m := by
        refine le_trans ?_ (Nat.log2_self_le positive)
        exact Nat.pow_le_pow_right two_pos (by omega)
      exact_mod_cast wide
  refine ⟨(given m accuracy >>> k).roundedMantissa * 2 ^ t, ?_, ?_⟩
  · have scaled : y * 2 ^ e = y / 2 ^ k * 2 ^ t := by
      rw [shift, zpow_add₀ two_ne_zero, zpow_natCast]
      field_simp
    rw [scaled]
    exact rounds_of_grid (by positivity) (fun _ => stands'.rounded_le) (fun _ => stands'.le_rounded)
      normal
  · refine magnitude_of_rounded s shifted low (stands'.rounded_le small) (normal.imp_left ?_)
    intro wide
    exact stands'.le_rounded (by exact_mod_cast wide)

end InventorySync.Numeral
