/-
# Inventory.Program — work on an inventory, as data

A program makes calls one after the other, notes lines for the operator, and ends
with a value or a failure. What it does next depends on the answers, never on a
fault: a call that fails ends the program, and the call itself says with which
failure. So whatever inventory runs a program, the calls it makes under faults are
those it makes without, up to the first one that fails.

The lookups by identity are programs of one call each.
-/
import InventorySync.Inventory.Call
import InventorySync.Log

namespace InventorySync

set_option autoImplicit false

inductive Program (ε α : Type) : Type where
  | done (a : α)
  | fail (e : ε)
  | note (line : Log.Entry) (rest : Program ε α)
  | call (c : Call) (onFault : Fault → ε) (next : c.Answer → Program ε α)

namespace Program

variable {ε ε' α β : Type}

/-- Continue with the value of a program. -/
def bind : Program ε α → (α → Program ε β) → Program ε β
  | done a, f => f a
  | fail e, _ => fail e
  | note line rest, f => note line (rest.bind f)
  | call c onFault next, f => call c onFault fun answer => (next answer).bind f

instance : Monad (Program ε) where
  pure := done
  bind := bind

/-- Give every failure a context. -/
def mapFailure (g : ε → ε') : Program ε α → Program ε' α
  | done a => done a
  | fail e => fail (g e)
  | note line rest => note line (rest.mapFailure g)
  | call c onFault next => call c (fun f => g (onFault f)) fun answer => (next answer).mapFailure g

def ofExcept : Except ε α → Program ε α
  | .ok a => done a
  | .error e => fail e

/-- Note one line. -/
def say (line : Log.Entry) : Program ε Unit := note line (done ())

/-- One call. -/
def ask (c : Call) : Program Fault c.Answer := call c id done

/-! ## Lookups by identity -/

def findCluster (f : ClusterFilter) : Program Fault Cluster := do
  ofExcept (exactlyOne "cluster" f.query (← ask (.listClusters f)))

def findInterface (deviceId : Id) (name : String) : Program Fault Interface := do
  let f : InterfaceFilter := { deviceId := deviceId, name := name }
  ofExcept (exactlyOne "interface" f.query (← ask (.listInterfaces f)))

def findPlatform (name : String) : Program Fault Platform := do
  let f : NameFilter := ⟨name⟩
  ofExcept (exactlyOne "platform" f.query (← ask (.listPlatforms f)))

def findDeviceRole (name : String) : Program Fault DeviceRole := do
  let f : NameFilter := ⟨name⟩
  ofExcept (exactlyOne "device role" f.query (← ask (.listDeviceRoles f)))

end Program

end InventorySync
