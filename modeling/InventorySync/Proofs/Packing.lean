/-
# Proofs.Packing — the bits of a double and its parts

A double is 64 bits: a sign, an exponent and a fraction. `parts` reads them; the exact
functions on parts end by packing their result, so every operation returns `repack` of
it. Packing keeps a canonical finite double (`repack_of_canonical`) and makes one that is
too large infinite (`repack_of_high`).

The other reading of the bits, the one that texts and spans start from, gives the same
parts (`ofFloat_eq`).
-/
import InventorySync.Numeral.Binary64
import InventorySync.Proofs.Rounding

namespace InventorySync.Numeral

set_option autoImplicit false

open Float.Model Float.Model.UnpackedFloat

/-! ## Packing -/

/-- A double, put into bits and taken out again. -/
def repack (x : UnpackedFloat) : UnpackedFloat :=
  UnpackedFloat.unpack .binary64 (UnpackedFloat.pack .binary64 x)

@[simp] theorem repack_infinity (s : Sign) : repack (.infinity s) = .infinity s := by
  cases s <;> rfl

@[simp] theorem repack_zero (s : Sign) : repack (.zero s) = .zero s := by
  cases s <;> rfl

theorem repack_of_high (s : Sign) {m : ℕ} {e : ℤ} (positive : 0 < m) (high : 972 ≤ e) :
    repack (.finite s m e positive) = .infinity s := by
  have beyond : 2 ^ 11 ≤ (e + 1023 + 52).toNat + 1 := by omega
  have packed : UnpackedFloat.pack .binary64 (.finite s m e positive) =
      packedInfinity .binary64 s := by
    simp only [UnpackedFloat.pack]
    exact if_pos beyond
  rw [repack, packed]
  cases s <;> rfl

theorem finite_congr {s : Sign} {m m' : ℕ} {e e' : ℤ} {positive : 0 < m} {positive' : 0 < m'}
    (coefficient : m = m') (exponent : e = e') :
    UnpackedFloat.finite s m e positive = .finite s m' e' positive' := by
  subst coefficient exponent
  rfl

/-- The parts of a normal double, from its bits. -/
theorem unpack_normal (s : Sign) {b : BitVec 11} (fraction : BitVec 52) {m : ℕ} {e : ℤ}
    (positive : 0 < m) (notZero : b ≠ 0#11) (notOnes : b ≠ -1#11)
    (coefficient : 2 ^ 52 + fraction.toNat = m) (exponent : (b.toNat : ℤ) = e + 1075) :
    UnpackedFloat.unpack .binary64 (packComponents .binary64 s b fraction) =
      .finite s m e positive := by
  have whole : (1#1 ++ fraction).toNat = m := by
    rw [BitVec.toNat_append, ← Nat.shiftLeft_add_eq_or_of_lt (BitVec.isLt _), BitVec.toNat_ofNat,
      Nat.shiftLeft_eq]
    omega
  simp only [UnpackedFloat.unpack, unpackMantissa_packComponents, unpackExponent_packComponents,
    unpackSign_packComponents, Sign.ofBitVec_toBitVec]
  rw [if_neg notOnes, if_neg notZero]
  refine finite_congr whole ?_
  change (b.toNat : ℤ) - ((1023 : ℕ) + (52 : ℕ)) = e
  omega

/-- The parts of a subnormal double, from its bits. -/
theorem unpack_subnormal (s : Sign) (fraction : BitVec 52) {m : ℕ} (positive : 0 < m)
    (coefficient : fraction.toNat = m) :
    UnpackedFloat.unpack .binary64 (packComponents .binary64 s 0#11 fraction) =
      .finite s m (-1074) positive := by
  have notZero : fraction ≠ 0#52 := fun same => by
    rw [same] at coefficient
    simp only [BitVec.toNat_zero] at coefficient
    omega
  simp only [UnpackedFloat.unpack, unpackMantissa_packComponents, unpackExponent_packComponents,
    unpackSign_packComponents, Sign.ofBitVec_toBitVec]
  rw [if_neg (by decide), if_pos trivial, dif_neg notZero]
  exact finite_congr coefficient rfl

theorem repack_of_canonical (s : Sign) {m : ℕ} {e : ℤ} (positive : 0 < m)
    (canonical : Canonical m e) (high : e ≤ 971) :
    repack (.finite s m e positive) = .finite s m e positive := by
  obtain ⟨small, low, normal⟩ := canonical
  obtain ⟨biased, shift, same⟩ : ∃ b : ℕ, (e + 1023 + 52).toNat = b ∧ (b : ℤ) = e + 1075 :=
    ⟨(e + 1075).toNat, by omega, by omega⟩
  have within : ¬ 2 ^ 11 ≤ biased + 1 := by omega
  have width : m.log2 + 1 = 53 ↔ 2 ^ 52 ≤ m := by
    have below := (Nat.log2_lt positive.ne').2 small
    rw [← Nat.le_log2 positive.ne']
    omega
  have packed : UnpackedFloat.pack .binary64 (.finite s m e positive) =
      if m.log2 + 1 = 53 then packComponents .binary64 s (BitVec.ofNat 11 biased) (BitVec.ofNat 52 m)
      else packComponents .binary64 s 0#11 (BitVec.ofNat 52 m) := by
    rw [← shift]
    exact if_neg (by exact shift ▸ within)
  rw [repack, packed]
  by_cases wide : 2 ^ 52 ≤ m
  · rw [if_pos (width.2 wide)]
    have stored : (BitVec.ofNat 11 biased).toNat = biased := by
      rw [BitVec.toNat_ofNat, Nat.mod_eq_of_lt (by omega)]
    have fraction : (BitVec.ofNat 52 m).toNat = m - 2 ^ 52 := by
      rw [BitVec.toNat_ofNat]
      omega
    refine unpack_normal s _ positive (fun zero => ?_) (fun ones => ?_) (by omega) (by omega)
    · have none : biased = 0 := stored.symm.trans (congrArg BitVec.toNat zero)
      omega
    · have all : biased = 2047 := stored.symm.trans (congrArg BitVec.toNat ones)
      omega
  · obtain rfl := normal.resolve_left wide
    rw [if_neg (fun bits => wide (width.1 bits))]
    refine unpack_subnormal s _ positive ?_
    rw [BitVec.toNat_ofNat, Nat.mod_eq_of_lt (not_le.1 wide)]

/-! ## Parts from bits -/

theorem toNat_packComponents (s : Sign) (b : BitVec 11) (f : BitVec 52) :
    (packComponents .binary64 s b f).toNat =
      (s.toBitVec.toNat * 2 ^ 11 + b.toNat) * 2 ^ 52 + f.toNat := by
  have append : ∀ {w w' : ℕ} (x : BitVec w) (y : BitVec w'),
      (x ++ y).toNat = x.toNat * 2 ^ w' + y.toNat := fun x y => by
    rw [BitVec.toNat_append, ← Nat.shiftLeft_add_eq_or_of_lt y.isLt, Nat.shiftLeft_eq]
  rw [packComponents, append, append]

/-- All bits are a sign, an exponent and a fraction. -/
theorem exists_components (bits : BitVec 64) :
    ∃ s b f, bits = packComponents .binary64 s b f := by
  have size := bits.isLt
  refine ⟨if bits.toNat / 2 ^ 63 = 1 then .negative else .positive,
    BitVec.ofNat 11 (bits.toNat / 2 ^ 52), BitVec.ofNat 52 bits.toNat, BitVec.eq_of_toNat_eq ?_⟩
  rw [toNat_packComponents, BitVec.toNat_ofNat, BitVec.toNat_ofNat]
  split
  · change _ = (1 * _ + _) * _ + _
    omega
  · change _ = (0 * _ + _) * _ + _
    omega

/-- The parts that a sign, an exponent and a fraction stand for. -/
inductive Reads (s : Sign) (b : BitVec 11) (f : BitVec 52) : UnpackedFloat → Prop
  | infinity (ones : b = -1#11) (zero : f = 0#52) : Reads s b f (.infinity s)
  | notANumber (ones : b = -1#11) (nonzero : f ≠ 0#52) : Reads s b f .notANumber
  | zero (low : b = 0#11) (zero : f = 0#52) : Reads s b f (.zero s)
  | subnormal (low : b = 0#11) (positive : 0 < f.toNat) :
      Reads s b f (.finite s f.toNat (-1074) positive)
  | normal (notOnes : b ≠ -1#11) (notZero : b ≠ 0#11) (positive : 0 < 2 ^ 52 + f.toNat) :
      Reads s b f (.finite s (2 ^ 52 + f.toNat) (b.toNat - 1075) positive)

theorem reads_unpack (s : Sign) (b : BitVec 11) (f : BitVec 52) :
    Reads s b f (UnpackedFloat.unpack .binary64 (packComponents .binary64 s b f)) := by
  by_cases ones : b = -1#11
  · by_cases zero : f = 0#52
    · subst ones zero
      change Reads s _ _ (repack (.infinity s))
      exact (repack_infinity s).symm ▸ .infinity rfl rfl
    · simp only [UnpackedFloat.unpack, unpackMantissa_packComponents,
        unpackExponent_packComponents, unpackSign_packComponents, Sign.ofBitVec_toBitVec]
      rw [if_pos ones, if_neg zero]
      exact .notANumber ones zero
  · by_cases low : b = 0#11
    · by_cases zero : f = 0#52
      · subst low zero
        change Reads s _ _ (repack (.zero s))
        exact (repack_zero s).symm ▸ .zero rfl rfl
      · have positive : 0 < f.toNat := Nat.pos_of_ne_zero fun none =>
          zero (BitVec.eq_of_toNat_eq none)
        subst low
        rw [unpack_subnormal s f positive rfl]
        exact .subnormal rfl positive
    · have positive : 0 < 2 ^ 52 + f.toNat := by positivity
      have exponent : (b.toNat : ℤ) = b.toNat - 1075 + 1075 := by omega
      rw [unpack_normal s f positive low ones rfl exponent]
      exact .normal ones low positive

/-- The parts of a double. -/
abbrev parts (x : Float) : UnpackedFloat := x.toModel.unpack

theorem reads_parts (x : Float) : ∃ s b f,
    x.toBits.toNat = (s.toBitVec.toNat * 2 ^ 11 + b.toNat) * 2 ^ 52 + f.toNat ∧
      Reads s b f (parts x) := by
  obtain ⟨s, b, f, components⟩ := exists_components x.toModel.toBits.toBitVec
  refine ⟨s, b, f, ?_, ?_⟩
  · rw [← toNat_packComponents, ← components]
    rfl
  · have read := reads_unpack s b f
    rwa [← components] at read

/-- The reading of a double's parts. -/
def decoded : UnpackedFloat → Binary64
  | .notANumber => .notANumber
  | .infinity s => .infinite (s == .negative)
  | .zero s => .finite (s == .negative) 0 (-1074)
  | .finite s m e _ => .finite (s == .negative) m e

theorem ofFloat_eq (x : Float) : Binary64.ofFloat x = decoded (parts x) := by
  obtain ⟨s, b, f, bits, reads⟩ := reads_parts x
  have sizeF := f.isLt
  have sizeB := b.isLt
  have sizeS := s.toBitVec.isLt
  have sign : x.toBits.toNat / 2 ^ 63 = s.toBitVec.toNat := by omega
  have power : x.toBits.toNat / 2 ^ 52 % 2 ^ 11 = b.toNat := by omega
  have fraction : x.toBits.toNat % 2 ^ 52 = f.toNat := by omega
  have negative : decide (s.toBitVec.toNat = 1) = (s == Sign.negative) := by cases s <;> rfl
  have read : Binary64.ofFloat x =
      if b.toNat = 2047 then
        if f.toNat = 0 then .infinite (s == .negative) else .notANumber
      else if b.toNat = 0 then .finite (s == .negative) f.toNat (-1074)
      else .finite (s == .negative) (2 ^ 52 + f.toNat) (b.toNat - 1075) := by
    rw [← negative, ← sign, ← power, ← fraction]
    rfl
  rw [read]
  generalize parts x = x at reads
  cases reads with
  | infinity ones zero => subst ones zero; rfl
  | notANumber ones nonzero =>
      subst ones
      exact (if_pos rfl).trans (if_neg fun zero => nonzero (BitVec.eq_of_toNat_eq zero))
  | zero low zero => subst low zero; rfl
  | subnormal low positive => subst low; rfl
  | normal notOnes notZero positive =>
      have high : b.toNat ≠ 2047 := fun same => notOnes (BitVec.eq_of_toNat_eq same)
      have low : b.toNat ≠ 0 := fun same => notZero (BitVec.eq_of_toNat_eq same)
      rw [if_neg high, if_neg low]
      rfl

end InventorySync.Numeral
