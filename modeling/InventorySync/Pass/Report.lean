/-
# Pass.Report — what a successful pass did

Counters of the clusters, the devices, those skipped for not being active, and the
actions. The summary goes into the status and counts clusters only, so that a pass
which corrects something describes itself as one which does not.
-/

namespace InventorySync

set_option autoImplicit false

structure Report where
  clusters : Nat := 0
  devices : Nat := 0
  skipped : Nat := 0
  actions : Nat := 0
  dryRun : Bool := false
  deriving DecidableEq, Repr, Inhabited

namespace Report

/-- Add the counters of another report. -/
def merge (r other : Report) : Report :=
  { r with
    clusters := r.clusters + other.clusters
    devices := r.devices + other.devices
    skipped := r.skipped + other.skipped
    actions := r.actions + other.actions }

/-- A number and its noun. -/
def counted (n : Nat) (noun : String) : String :=
  if n = 1 then "1 " ++ noun else toString n ++ " " ++ noun ++ "s"

/-- The description of a status. -/
def summary (r : Report) : String :=
  counted r.clusters "cluster" ++ " in sync" ++ (if r.dryRun then " (dry run)" else "")

def display (r : Report) : String :=
  counted r.clusters "cluster" ++ ", " ++ counted r.devices "device" ++ " (" ++
    toString r.skipped ++ " skipped), " ++ counted r.actions "action" ++ " " ++
    (if r.dryRun then "planned (dry run)" else "applied")

end Report

end InventorySync
