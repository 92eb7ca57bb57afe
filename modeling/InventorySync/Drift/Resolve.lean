/-
# Drift.Resolve — from what a device has to what must change

`resolve` is a pure decision: from a snapshot of one device it computes the actions
that bring the device in line, in the order in which they are carried out. The
out-of-band interface comes first, then its address, then the platform; the first of
these that is not unique stops the decision. Ephemeral interfaces come last, each
after its own addresses, so no address outlives the interface it is bound to.
-/
import InventorySync.Drift.Policy
import InventorySync.Inventory.Record

namespace InventorySync.Drift

set_option autoImplicit false

/-- Everything about one device that a decision depends on. -/
structure Snapshot where
  device : Device
  interfaces : List Interface
  /-- The addresses bound to an interface. -/
  bound : Id → List Address
  /-- The platforms that bear the expected name. -/
  platforms : List Platform

/-- A corrective write. -/
inductive Action where
  | renameInterface (id : Id) (name : String)
  /-- Carries both references; the one that is right keeps its value. -/
  | updateDevice (id platform oobIp : Id)
  | deleteAddress (id : Id)
  | deleteInterface (id : Id)
  deriving DecidableEq, Repr

namespace Action

def describe : Action → String
  | renameInterface id name => "rename interface " ++ toString id ++ " to " ++ name
  | updateDevice id platform oobIp =>
    "update device " ++ toString id ++ " (platform " ++ toString platform ++ ", oob ip " ++
      toString oobIp ++ ")"
  | deleteAddress id => "delete ip address " ++ toString id
  | deleteInterface id => "delete interface " ++ toString id

end Action

/-- Why a device's data has no single answer. -/
inductive Ambiguity where
  | noOobInterface
  | manyOobInterfaces (legacy canonical : Nat)
  | oobAddress (interface : String) (interfaceId : Id) (count : Nat)
  | platform (name : String) (count : Nat)
  deriving DecidableEq, Repr

namespace Ambiguity

def message : Ambiguity → String
  | noOobInterface => "no remoteboard or iDRAC interface found"
  | manyOobInterfaces legacy canonical =>
    "ambiguous OOB interface: found " ++ toString legacy ++ " iDRAC and " ++ toString canonical ++
      " remoteboard interfaces"
  | oobAddress interface interfaceId count =>
    "expected exactly one ip address on interface " ++ interface ++ " (" ++ toString interfaceId ++
      "), found " ++ toString count
  | platform name count =>
    "expected exactly one platform named " ++ name ++ ", found " ++ toString count

end Ambiguity

/-- The out-of-band interface, and whether it still bears its legacy name. -/
def oobInterface (p : Policy) (interfaces : List Interface) : Except Ambiguity (Interface × Bool) :=
  let legacy := interfaces.filter (·.name == p.legacyOobName)
  let canonical := interfaces.filter (·.name == p.oobName)
  match legacy, canonical with
  | [], [] => .error .noOobInterface
  | [i], [] => .ok (i, true)
  | [], [i] => .ok (i, false)
  | _, _ => .error (.manyOobInterfaces legacy.length canonical.length)

/-- The only address bound to the out-of-band interface. -/
def oobAddress (s : Snapshot) (oob : Interface) : Except Ambiguity Id :=
  match s.bound oob.id with
  | [a] => .ok a.id
  | found => .error (.oobAddress oob.name oob.id found.length)

/-- The only platform of the expected name. -/
def expectedPlatform (p : Policy) (s : Snapshot) : Except Ambiguity Id :=
  match s.platforms with
  | [platform] => .ok platform.id
  | found => .error (.platform p.expectedPlatform found.length)

/-- Set both references, if one of them is wrong. -/
def correction (d : Device) (platform oobIp : Id) : List Action :=
  if d.platformId = platform ∧ d.oobIpId = oobIp then [] else [.updateDevice d.id platform oobIp]

/-- Remove the ephemeral interfaces, each after its addresses. -/
def cleanup (p : Policy) (s : Snapshot) : List Action :=
  (s.interfaces.filter fun i => p.isEphemeral i.name).flatMap fun i =>
    (s.bound i.id).map (fun a => .deleteAddress a.id) ++ [.deleteInterface i.id]

/-- The actions that bring a device in line. -/
def resolve (p : Policy) (s : Snapshot) : Except Ambiguity (List Action) := do
  let (oob, isLegacy) ← oobInterface p s.interfaces
  let oobIp ← oobAddress s oob
  let platform ← expectedPlatform p s
  let rename := if isLegacy then [.renameInterface oob.id p.oobName] else []
  .ok (rename ++ correction s.device platform oobIp ++ cleanup p s)

end InventorySync.Drift
