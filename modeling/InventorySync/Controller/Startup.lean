/-
# Controller.Startup — from settings to a controller that may watch

Two things are asked of the inventory before any object is watched: that it takes the
token, and that it knows the expected platform exactly once. The first one that fails
is the fault, and every step is noted for the operator.
-/
import InventorySync.Controller.Fault
import InventorySync.Http.Inventory

namespace InventorySync

set_option autoImplicit false

open Http (Client Server Session)

namespace Config

/-- The settings, line by line. -/
def announcement (c : Config) : List Log.Entry :=
  [Log.info "Configuration:",
    Log.info ("  NetBox URL: " ++ c.url),
    Log.info ("  Namespace: " ++ c.watchNamespace.getD "all namespaces"),
    Log.info ("  Expected platform: " ++ c.expectedPlatform),
    Log.info ("  Device role: " ++ c.deviceRole.getD "any"),
    Log.info ("  Resync interval: " ++ c.interval.text),
    Log.info ("  Requeue: burst " ++ toString c.burst ++ ", " ++
      Numeral.realText .plain (.ofFloat c.qps) ++ " qps, backoff " ++
      c.backoffBase.text ++ ".." ++ c.backoffMax.text)] ++
  if c.dryRun then [Log.info "  Dry run: actions are logged, not applied"] else []

def client (c : Config) : Client := .new c.url c.token

end Config

namespace Startup

variable {σ : Type}

/-- What an operator can do about a token that is not taken. -/
def tokenAdvice (c : Config) (cause : Fault) : List Log.Entry :=
  [Log.error ("Failed to validate NetBox token: " ++ cause.message),
    Log.error "Please ensure:",
    Log.error "  1. NETBOX_TOKEN environment variable is set correctly",
    Log.error "  2. The token is valid in NetBox",
    Log.error ("  3. NetBox is reachable at " ++ c.url)]

/-- Check the token. -/
def connect (c : Config) (server : Server σ) :
    StateM (Session σ) (Except ControllerFault Unit) := do
  Session.note (Log.info "Validating NetBox token and connectivity...")
  match ← c.client.validateToken server with
  | .error cause =>
    Session.noteAll (tokenAdvice c cause)
    return .error (.inventory cause)
  | .ok () =>
    Session.note (Log.info "NetBox token validated and connectivity established")
    return .ok ()

/-- Look up the expected platform. -/
def resolvePlatform (c : Config) (server : Server σ) (pages : Nat) :
    StateM (Session σ) (Option (Except ControllerFault Platform)) := do
  let found ← (Program.findPlatform c.expectedPlatform).runOver c.client server pages
  match found with
  | none => return none
  | some (.error cause) => return some (.error (.platform c.expectedPlatform cause))
  | some (.ok p) =>
    Session.note
      (Log.info ("Expected platform " ++ p.name ++ " is NetBox platform " ++ toString p.id))
    return some (.ok p)

/-- All checks in order. There is no result if the listing of platforms does not end
within its bound. -/
def prepare (c : Config) (server : Server σ) (pages : Nat) :
    StateM (Session σ) (Option (Except ControllerFault Platform)) := do
  Session.note (Log.info "Initializing Cluster Sync Controller")
  match ← connect c server with
  | .error f => return some (.error f)
  | .ok () => resolvePlatform c server pages

/-- Read the settings, announce them, and make all checks. -/
def launch (lookup : String → Option String) (server : Server σ) (pages : Nat) :
    StateM (Session σ) (Option (Except ControllerFault Platform)) := do
  Session.note (Log.info "Starting Cluster Sync Controller")
  match Config.load lookup with
  | .error f => return some (.error (.settings f))
  | .ok c =>
    Session.noteAll c.announcement
    prepare c server pages

end Startup

end InventorySync
