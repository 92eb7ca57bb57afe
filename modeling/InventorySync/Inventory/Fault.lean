/-
# Inventory.Fault — why a call on the inventory fails

Each constructor is a cause, and `message` is its wording. A failed write carries
the verb, the kind of record and the id around the cause below it. `isNotFound`
tells a record that is not there from a call that did not get through; the wrapping
of a write does not hide it.
-/
import InventorySync.Inventory.Record
import InventorySync.Text.Quoted

namespace InventorySync

set_option autoImplicit false

/-- Failures below the level of an answer. -/
inductive TransportFault where
  /-- The address or a header cannot be sent as it is. -/
  | unbuildable
  /-- The address is not one of the web. -/
  | foreign (url : String)
  /-- No connection, or none that lasted. -/
  | unsent (url : String)
  /-- An answer that is not what was asked for. -/
  | undecodable
  deriving DecidableEq, Repr

namespace TransportFault

def message : TransportFault → String
  | unbuildable => "builder error"
  | foreign url => "builder error for url (" ++ url ++ ")"
  | unsent url => "error sending request for url (" ++ url ++ ")"
  | undecodable => "error decoding response body"

end TransportFault

inductive Fault where
  | transport (cause : TransportFault)
  | api (message : String)
  | authentication (message : String)
  | notFound (message : String)
  /-- A lookup that wants exactly one record found another number of them. -/
  | notFoundCount (kind filters : String) (count : Nat)
  /-- A write on one record failed. -/
  | operation (verb kind : String) (id : Id) (source : Fault)
  | invalidRequest (message : String)
  deriving DecidableEq, Repr

namespace Fault

def message : Fault → String
  | transport cause => "HTTP error: " ++ cause.message
  | api m => m
  | authentication m => "Authentication failed: " ++ m
  | notFound m => "Not found: " ++ m
  | notFoundCount kind filters count =>
    "expected exactly one " ++ kind ++ " matching [" ++ filters ++ "], found " ++ toString count
  | operation verb kind id source =>
    "unable to " ++ verb ++ " " ++ kind ++ " " ++ toString id ++ ": " ++ source.message
  | invalidRequest m => "Invalid request: " ++ m

/-- The fault as diagnostic text: its kind around its parts. -/
def diagnostic : Fault → String
  | transport cause => "Http(" ++ Text.quoted cause.message ++ ")"
  | api m => "Api(" ++ Text.quoted m ++ ")"
  | authentication m => "Authentication(" ++ Text.quoted m ++ ")"
  | notFound m => "NotFound(" ++ Text.quoted m ++ ")"
  | notFoundCount kind filters count =>
    "NotFoundCount \x7b kind: " ++ Text.quoted kind ++ ", filters: " ++ Text.quoted filters ++
      ", count: " ++ toString count ++ " \x7d"
  | operation verb kind id source =>
    "Operation \x7b action: " ++ Text.quoted verb ++ ", kind: " ++ Text.quoted kind ++ ", id: " ++
      toString id ++ ", source: " ++ source.diagnostic ++ " \x7d"
  | invalidRequest m => "InvalidRequest(" ++ Text.quoted m ++ ")"

def isNotFound : Fault → Bool
  | notFound _ => true
  | notFoundCount .. => true
  | operation _ _ _ source => source.isNotFound
  | _ => false

end Fault

end InventorySync
