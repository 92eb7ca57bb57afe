/-
# Config — settings from the environment

Eleven variables. Values are trimmed, and a blank one counts as unset. Only the token
is required; the others have defaults. The checks run in a fixed order, and the first
one that fails is the fault: token, interval, burst, rate, base and maximum of the
backoff, the two together, and the dry run flag.

The token never appears in the diagnostic text.
-/
import InventorySync.Pass.Reconcile
import InventorySync.Retry.Requeue

namespace InventorySync

set_option autoImplicit false

open Numeral Time

structure Config where
  url : String
  token : String
  /-- Every namespace is watched if none is set. -/
  watchNamespace : Option String
  expectedPlatform : String
  deviceRole : Option String
  interval : Duration
  burst : Nat
  qps : Float
  backoffBase : Duration
  backoffMax : Duration
  dryRun : Bool

/-- Why settings are refused. -/
inductive ConfigFault where
  | tokenMissing
  | unreadable (name raw : String) (cause : Numeral.Fault)
  | zeroInterval
  | zeroBurst
  | badRate (qps : Float)
  | badBackoff (base max : Duration)
  | badFlag (value : String)

namespace ConfigFault

def message : ConfigFault → String
  | tokenMissing => "NETBOX_TOKEN environment variable is required"
  | unreadable name raw cause => name ++ " has invalid value '" ++ raw ++ "': " ++ cause.message
  | zeroInterval => "RECONCILE_INTERVAL_SECS must be greater than zero"
  | zeroBurst => "RATE_LIMIT_BURST must be at least 1"
  | badRate qps =>
    "RATE_LIMIT_QPS must be a positive number, got " ++ realText .plain (.ofFloat qps)
  | badBackoff base max =>
    "backoff base (" ++ base.text ++ ") must be non-zero and not exceed backoff max (" ++
      max.text ++ ")"
  | badFlag value => "DRY_RUN must be true or false, got '" ++ value ++ "'"

end ConfigFault

namespace Config

/-- The variables that are read. -/
def variableNames : List String :=
  ["NETBOX_URL", "NETBOX_TOKEN", "WATCH_NAMESPACE", "EXPECTED_PLATFORM", "DEVICE_ROLE",
    "RECONCILE_INTERVAL_SECS", "RATE_LIMIT_BURST", "RATE_LIMIT_QPS", "BACKOFF_BASE_MS",
    "BACKOFF_MAX_SECS", "DRY_RUN"]

/-- The trimmed value of a variable, unless it is blank. -/
def setting (lookup : String → Option String) (name : String) : Option String :=
  match lookup name with
  | some raw => if (Text.trim raw).isEmpty then none else some (Text.trim raw)
  | none => none

/-- The value of a number, or its default. -/
def number {α : Type} (lookup : String → Option String) (name : String)
    (read : String → Except Numeral.Fault α) (default : α) : Except ConfigFault α :=
  match setting lookup name with
  | none => .ok default
  | some raw => (read raw).mapError (.unreadable name raw)

/-- The words of a flag, in any case of ASCII. -/
def flag? (value : String) : Option Bool :=
  match String.map Char.toLower value with
  | "true" => some true
  | "1" => some true
  | "yes" => some true
  | "false" => some false
  | "0" => some false
  | "no" => some false
  | _ => none

def flag (lookup : String → Option String) (name : String) : Except ConfigFault Bool :=
  match setting lookup name with
  | none => .ok false
  | some raw =>
    match flag? raw with
    | some b => .ok b
    | none => .error (.badFlag (String.map Char.toLower raw))

def isPositiveRate (qps : Float) : Bool := qps.isFinite && !(qps ≤ 0)

/-- The settings that a lookup of variables gives. -/
def load (lookup : String → Option String) : Except ConfigFault Config := do
  let some token := setting lookup "NETBOX_TOKEN" | .error .tokenMissing
  let interval ← number lookup "RECONCILE_INTERVAL_SECS" (readUnsigned (wordLimit 64)) 300
  if interval = 0 then .error .zeroInterval
  let burst ← number lookup "RATE_LIMIT_BURST" (readUnsigned (wordLimit 32)) 100
  if burst = 0 then .error .zeroBurst
  let qps ← number lookup "RATE_LIMIT_QPS" readReal 10
  if !isPositiveRate qps then .error (.badRate qps)
  let base ← number lookup "BACKOFF_BASE_MS" (readUnsigned (wordLimit 64)) 5
  let most ← number lookup "BACKOFF_MAX_SECS" (readUnsigned (wordLimit 64)) 1000
  let base := Duration.ofMillis base
  let most := Duration.ofSeconds most
  if base = Duration.zero ∨ most < base then .error (.badBackoff base most)
  let dryRun ← flag lookup "DRY_RUN"
  return {
    url := (setting lookup "NETBOX_URL").getD "http://netbox.netbox:80"
    token := token
    watchNamespace := setting lookup "WATCH_NAMESPACE"
    expectedPlatform := (setting lookup "EXPECTED_PLATFORM").getD "vmware-esxi"
    deviceRole := setting lookup "DEVICE_ROLE"
    interval := .ofSeconds interval
    burst := burst
    qps := qps
    backoffBase := base
    backoffMax := most
    dryRun := dryRun }

/-- The retry policy of these settings, starting now. -/
def requeue (c : Config) (now : Instant) : Retry.Requeue :=
  .new c.backoffBase c.backoffMax c.burst c.qps now

/-- The reconciler of these settings. -/
def reconciler (c : Config) : Reconciler where
  policy := .standard c.expectedPlatform
  deviceRole := c.deviceRole
  dryRun := c.dryRun

/-- The settings as diagnostic text, without the token. -/
def describe (c : Config) : String :=
  "Config \x7b netbox_url: " ++ Text.quoted c.url ++
    ", netbox_token: \"<redacted>\"" ++
    ", namespace: " ++ Text.quotedOption c.watchNamespace ++
    ", expected_platform: " ++ Text.quoted c.expectedPlatform ++
    ", device_role: " ++ Text.quotedOption c.deviceRole ++
    ", reconcile_interval: " ++ c.interval.text ++
    ", rate_limit_burst: " ++ toString c.burst ++
    ", rate_limit_qps: " ++ realText .diagnostic (.ofFloat c.qps) ++
    ", backoff_base: " ++ c.backoffBase.text ++
    ", backoff_max: " ++ c.backoffMax.text ++
    ", dry_run: " ++ toString c.dryRun ++ " \x7d"

end Config

end InventorySync
