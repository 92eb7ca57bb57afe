/-
# Proofs.Curve — the delays of a key, against the curve that they are meant to follow

The curve doubles from the base with every failure and is cut off at the longest delay
(`curve`), in whole nanoseconds without a limit. A product that no span can hold is past every
longest delay that settings can name, so on the way to the thirty-second failure the delays are
the curve (`delayFor_of_lt`). From there on they are the longest delay, and so above the curve
until it has come up to it (`delayFor_eq_curve_iff`).

Settings are accepted for which it never has by then (`curve_left_early`).
-/
import InventorySync.Proofs.Backoff
import InventorySync.Proofs.Requeue

namespace InventorySync

set_option autoImplicit false

open Numeral Time

namespace Time.Duration

theorem fits_ofSeconds {n : Nat} (small : n < secondsLimit) : (ofSeconds n).Fits := by
  change n * nanosPerSecond / nanosPerSecond < secondsLimit
  rwa [Nat.mul_div_cancel n (by decide)]

/-- A span that is too long is longer than any that fits. -/
theorem lt_of_fits {d e : Duration} (fits : d.Fits) (long : ¬ e.Fits) : d < e := by
  have short : d.nanos / nanosPerSecond < secondsLimit := fits
  have long : ¬ e.nanos / nanosPerSecond < secondsLimit := long
  change d.nanos < e.nanos
  exact Nat.lt_of_div_lt_div (Nat.lt_of_lt_of_le short (Nat.not_lt.1 long))

end Time.Duration

namespace Retry.Backoff

/-- The delay that doubles with every failure, up to a longest one. -/
def curve (base most : Duration) (n : Nat) : Duration := ⟨min (base.nanos * 2 ^ n) most.nanos⟩

variable {b : Backoff} {n : Nat}

theorem delayFor_of_lt (fits : b.max.Fits) (few : n < doublingLimit) :
    b.delayFor n = curve b.base b.max n := by
  rw [delayFor, if_pos few, Duration.times?]
  by_cases product : (⟨b.base.nanos * Nat.pow 2 n⟩ : Duration).Fits
  · rw [if_pos product]
    rfl
  · rw [if_neg product]
    have past : b.max.nanos < b.base.nanos * 2 ^ n := Duration.lt_of_fits fits product
    exact congrArg Duration.mk (Nat.min_eq_right (Nat.le_of_lt past)).symm

/-- Where the delay is that of the curve. -/
theorem delayFor_eq_curve_iff (fits : b.max.Fits) (n : Nat) :
    b.delayFor n = curve b.base b.max n ↔
      n < doublingLimit ∨ b.max.nanos ≤ b.base.nanos * 2 ^ n := by
  by_cases few : n < doublingLimit
  · exact iff_of_true (delayFor_of_lt fits few) (.inl few)
  · rw [b.delayFor_of_le (Nat.not_lt.1 few)]
    constructor
    · intro same
      have same : b.max.nanos = min (b.base.nanos * 2 ^ n) b.max.nanos :=
        congrArg Duration.nanos same
      exact .inr (same ▸ Nat.min_le_left _ _)
    · rintro (still | past)
      · exact (few still).elim
      · exact congrArg Duration.mk (Nat.min_eq_right past).symm

/-- The curve is followed all the way exactly if it is flat by the time the doublings stop. -/
theorem follows_curve_iff (fits : b.max.Fits) :
    (∀ n ≤ countLimit, b.delayFor n = curve b.base b.max n) ↔
      b.max.nanos ≤ b.base.nanos * 2 ^ doublingLimit := by
  simp only [delayFor_eq_curve_iff fits]
  constructor
  · intro always
    exact (always doublingLimit (by decide)).resolve_left (Nat.lt_irrefl _)
  · intro flat n _
    by_cases few : n < doublingLimit
    · exact .inl few
    · have higher : 2 ^ doublingLimit ≤ 2 ^ n :=
        Nat.pow_le_pow_right (by decide) (Nat.not_lt.1 few)
      exact .inr (flat.trans (Nat.mul_le_mul_left _ higher))

end Retry.Backoff

namespace Config

open Retry Retry.Backoff

variable {lookup : String → Option String} {c : Config}

theorem fits_backoffMax (accepted : load lookup = .ok c) : c.backoffMax.Fits := by
  obtain ⟨n, read, most⟩ := (load_eq_ok accepted).most
  exact most ▸ Duration.fits_ofSeconds (unsigned_lt (by decide) read)

/-- **The delays of accepted settings follow the curve** for thirty-two failures, and after that
they are the longest delay at once: so they follow it for every count of failures exactly if the
longest delay is no more than `base · 2 ^ 32`. -/
theorem delays_follow_curve_iff (accepted : load lookup = .ok c) (start : Instant) :
    let delay := (c.requeue start).items.delayFor
    let documented := curve c.backoffBase c.backoffMax
    (∀ n, delay n = if n < doublingLimit then documented n else c.backoffMax) ∧
      (∀ n, delay n = documented n ↔
        n < doublingLimit ∨ c.backoffMax.nanos ≤ c.backoffBase.nanos * 2 ^ n) ∧
      ((∀ n ≤ countLimit, delay n = documented n) ↔
        c.backoffMax.nanos ≤ c.backoffBase.nanos * 2 ^ doublingLimit) := by
  intro delay documented
  have fits : (c.requeue start).items.max.Fits := fits_backoffMax accepted
  refine ⟨fun n => ?_, delayFor_eq_curve_iff fits, follows_curve_iff fits⟩
  split
  next few => exact delayFor_of_lt fits few
  next many => exact delayFor_of_le _ (Nat.not_lt.1 many)

theorem delays_follow_curve_default : ∃ c, load (listed [("NETBOX_TOKEN", "t")]) = .ok c ∧
    ∀ n ≤ countLimit,
      (c.requeue ⟨0⟩).items.delayFor n = curve c.backoffBase c.backoffMax n := by
  obtain ⟨c, accepted, flat⟩ : ∃ c, load (listed [("NETBOX_TOKEN", "t")]) = .ok c ∧
      c.backoffMax.nanos ≤ c.backoffBase.nanos * 2 ^ doublingLimit := ⟨_, rfl, by decide⟩
  exact ⟨c, accepted, (delays_follow_curve_iff accepted ⟨0⟩).2.2.2 flat⟩

/-- Settings are accepted under which the delay after thirty-two failures is the longest one,
eight days above the curve. -/
theorem curve_left_early :
    ∃ c, load (listed [("NETBOX_TOKEN", "t"), ("BACKOFF_BASE_MS", "1"),
        ("BACKOFF_MAX_SECS", "5000000")]) = .ok c ∧
      ((c.requeue ⟨0⟩).items.delayFor 32, curve c.backoffBase c.backoffMax 32) =
        (.ofSeconds 5000000, .ofMillis 4294967296) :=
  exists_accepted (by decide +kernel)

end Config

end InventorySync
