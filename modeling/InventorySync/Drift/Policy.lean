/-
# Drift.Policy — what a compliant device looks like

A device has one out-of-band interface under its proper name; an older name for it
is still met and gets renamed. Interfaces whose name begins like an ephemeral one
are leftovers and go, with their addresses. The device refers to the platform that
is expected and to the address of its out-of-band interface.
-/
import InventorySync.Text.Quoted

namespace InventorySync.Drift

set_option autoImplicit false

structure Policy where
  expectedPlatform : String
  oobName : String
  legacyOobName : String
  ephemeralStart : String
  deriving DecidableEq, Repr

namespace Policy

/-- The house rules, with the platform that devices should have. -/
def standard (expectedPlatform : String) : Policy where
  expectedPlatform := expectedPlatform
  oobName := "remoteboard"
  legacyOobName := "iDRAC"
  ephemeralStart := "vmk"

def isEphemeral (p : Policy) (name : String) : Bool :=
  p.ephemeralStart.toList.isPrefixOf name.toList

theorem isEphemeral_iff {p : Policy} {name : String} :
    p.isEphemeral name = true ↔ p.ephemeralStart.toList <+: name.toList :=
  List.isPrefixOf_iff_prefix

theorem isEphemeral_eq_false_iff {p : Policy} {name : String} :
    p.isEphemeral name = false ↔ ¬ p.ephemeralStart.toList <+: name.toList := by
  rw [← isEphemeral_iff, Bool.not_eq_true]

/-- Interfaces whose addresses matter. -/
def readsAddresses (p : Policy) (name : String) : Bool :=
  name == p.oobName || name == p.legacyOobName || p.isEphemeral name

/-- The policy as diagnostic text. -/
def describe (p : Policy) : String :=
  "DriftPolicy \x7b expected_platform: " ++ Text.quoted p.expectedPlatform ++
    ", oob_interface: " ++ Text.quoted p.oobName ++
    ", legacy_oob_interface: " ++ Text.quoted p.legacyOobName ++
    ", ephemeral_prefix: " ++ Text.quoted p.ephemeralStart ++ " \x7d"

end Policy

end InventorySync.Drift
