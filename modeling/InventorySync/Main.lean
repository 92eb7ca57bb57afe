/-
# Main — the command line

`definition` prints the definition of ClusterSync. Without an argument the controller
starts from the variables of the environment: it shows its lines, those that `RUST_LOG`
asks for, and ends with the fault on the error stream if it cannot watch. No transport is
linked in, so every connection fails.
-/
import InventorySync.Controller.Startup
import InventorySync.Resource.Definition

namespace InventorySync.CommandLine

set_option autoImplicit false

/-- The variables that are set. -/
def readEnvironment : IO (List (String × String)) :=
  Config.variableNames.filterMapM fun name => do
    return (← IO.getEnv name).map (name, ·)

def startController : IO UInt32 := do
  let environment ← readEnvironment
  let launched := Startup.launch (fun name => environment.lookup name) Http.Server.unreachable 1
  let (result, session) := launched.run (.start ())
  let threshold := Log.Threshold.ofSetting (← IO.getEnv "RUST_LOG")
  for entry in session.notes.filter (·.isShown threshold) do
    IO.println entry.line
  match result with
  | some (.error f) =>
    IO.eprintln ("Error: " ++ f.diagnostic)
    return 1
  | _ => return 0

end InventorySync.CommandLine

def main (arguments : List String) : IO UInt32 :=
  match arguments with
  | ["definition"] => do
    IO.print InventorySync.Definition.manifest
    return 0
  | _ => InventorySync.CommandLine.startController
