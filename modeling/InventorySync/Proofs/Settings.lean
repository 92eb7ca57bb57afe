/-
# Proofs.Settings — what accepted settings are

Settings that are accepted have passed every check (`load_eq_ok`), and each of their numbers
is the default or one that was read from text, so within the range of its type
(`number_eq_ok_iff`).
-/
import InventorySync.Config
import InventorySync.Proofs.Effect

namespace InventorySync.Config

set_option autoImplicit false

open Numeral Time

variable {lookup : String → Option String}

theorem bind_eq_ok {ε α β : Type} {x : Except ε α} {f : α → Except ε β} {b : β}
    (bound : x.bind f = .ok b) : ∃ a, x = .ok a ∧ f a = .ok b := by
  cases x with
  | error e => cases bound
  | ok a => exact ⟨a, rfl, bound⟩

/-- A check that was passed. -/
theorem check_eq_ok {ε α : Type} {p : Prop} [Decidable p] {e : ε} {f : Unit → Except ε α} {a : α}
    (checked : (if p then (Except.error e).bind f else f ()) = .ok a) : ¬ p ∧ f () = .ok a := by
  split at checked
  · cases checked
  · exact ⟨‹_›, checked⟩

/-- A number that is accepted is the default of an unset variable, or read. -/
theorem number_eq_ok_iff {α : Type} {name : String} {read : String → Except Numeral.Fault α}
    {default a : α} : number lookup name read default = .ok a ↔
      setting lookup name = none ∧ a = default ∨
        ∃ raw, setting lookup name = some raw ∧ read raw = .ok a := by
  cases found : setting lookup name with
  | none => simp [number, found, eq_comm]
  | some raw =>
      cases parsed : read raw with
      | error fault => simp [number, found, parsed]
      | ok b => simp [number, found, parsed]

theorem unsigned_lt {name : String} {limit default n : Nat} (small : default < limit)
    (accepted : number lookup name (readUnsigned limit) default = .ok n) : n < limit := by
  obtain ⟨-, rfl⟩ | ⟨raw, -, parsed⟩ := number_eq_ok_iff.1 accepted
  · exact small
  · exact readUnsigned_lt (by omega) parsed

/-- The checks that settings have passed, and where their texts come from. -/
structure Passes (lookup : String → Option String) (c : Config) : Prop where
  token : setting lookup "NETBOX_TOKEN" = some c.token
  interval : ∃ n,
    number lookup "RECONCILE_INTERVAL_SECS" (readUnsigned (wordLimit 64)) 300 = .ok n ∧
      n ≠ 0 ∧ c.interval = .ofSeconds n
  burst : number lookup "RATE_LIMIT_BURST" (readUnsigned (wordLimit 32)) 100 = .ok c.burst ∧
    c.burst ≠ 0
  qps : number lookup "RATE_LIMIT_QPS" readReal 10 = .ok c.qps ∧ isPositiveRate c.qps = true
  base : ∃ n, number lookup "BACKOFF_BASE_MS" (readUnsigned (wordLimit 64)) 5 = .ok n ∧
    c.backoffBase = .ofMillis n
  most : ∃ n, number lookup "BACKOFF_MAX_SECS" (readUnsigned (wordLimit 64)) 1000 = .ok n ∧
    c.backoffMax = .ofSeconds n
  ordered : ¬ (c.backoffBase = Duration.zero ∨ c.backoffMax < c.backoffBase)
  dryRun : flag lookup "DRY_RUN" = .ok c.dryRun
  url : c.url = (setting lookup "NETBOX_URL").getD "http://netbox.netbox:80"
  expectedPlatform : c.expectedPlatform = (setting lookup "EXPECTED_PLATFORM").getD "vmware-esxi"
  watchNamespace : c.watchNamespace = setting lookup "WATCH_NAMESPACE"
  deviceRole : c.deviceRole = setting lookup "DEVICE_ROLE"

theorem load_eq_ok {c : Config} (accepted : load lookup = .ok c) : Passes lookup c := by
  rw [load] at accepted
  split at accepted
  case h_2 => cases accepted
  next token found =>
    obtain ⟨interval, readInterval, accepted⟩ := bind_eq_ok accepted
    obtain ⟨someInterval, accepted⟩ := check_eq_ok accepted
    obtain ⟨burst, readBurst, accepted⟩ := bind_eq_ok accepted
    obtain ⟨someBurst, accepted⟩ := check_eq_ok accepted
    obtain ⟨qps, readQps, accepted⟩ := bind_eq_ok accepted
    obtain ⟨positive, accepted⟩ := check_eq_ok accepted
    obtain ⟨base, readBase, accepted⟩ := bind_eq_ok accepted
    obtain ⟨most, readMost, accepted⟩ := bind_eq_ok accepted
    obtain ⟨ordered, accepted⟩ := check_eq_ok accepted
    obtain ⟨dryRun, readDryRun, accepted⟩ := bind_eq_ok accepted
    cases accepted
    exact {
      token := found
      interval := ⟨interval, readInterval, someInterval, rfl⟩
      burst := ⟨readBurst, someBurst⟩
      qps := ⟨readQps, by simpa using positive⟩
      base := ⟨base, readBase, rfl⟩
      most := ⟨most, readMost, rfl⟩
      ordered := ordered
      dryRun := readDryRun
      url := rfl
      expectedPlatform := rfl
      watchNamespace := rfl
      deviceRole := rfl }

end InventorySync.Config
