/-
# Resource.ClusterSync — what an operator asks for, and what is reported back

A ClusterSync lists clusters, each by the name, region and type that the inventory
knows it under; an empty name matches any. Its status holds the state of the latest
pass, a description, when it ran, and the generation of the list it ran against.

An object is known by its namespace and name, and its key joins the two. A name that
the server has yet to make is stood for by the start it will have.
-/
import InventorySync.Json.Codec
import InventorySync.Time.Timestamp

namespace InventorySync

set_option autoImplicit false

open Json (Codec Layout)
open Time (Timestamp)

/-- One cluster to bring in line. -/
structure Descriptor where
  name : String := ""
  region : String
  kind : String
  deriving DecidableEq, Repr, Inhabited

namespace Descriptor

def display (d : Descriptor) : String := d.name ++ "/" ++ d.region ++ "/" ++ d.kind

def layout : Layout [String, String, String] :=
  .cons { name := "name", presence := .default "", codec := .string } <|
  .cons (.needed "region" .string) <| .cons (.needed "type" .string) .nil

def codec : Codec Descriptor :=
  .record layout (fun r => (r.name, r.region, r.kind, ())) fun (name, region, kind, ()) =>
    ⟨name, region, kind⟩

end Descriptor

structure SyncSpec where
  clusters : List Descriptor
  deriving DecidableEq, Repr, Inhabited

namespace SyncSpec

def layout : Layout [List Descriptor] :=
  .cons { name := "clusters", presence := .default [], codec := Descriptor.codec.list } .nil

def codec : Codec SyncSpec :=
  .record layout (fun r => (r.clusters, ())) fun (clusters, ()) => ⟨clusters⟩

end SyncSpec

inductive SyncState where
  | pending
  | ready
  | error
  deriving DecidableEq, Repr, Inhabited

namespace SyncState

def name : SyncState → String
  | pending => "Pending"
  | ready => "Ready"
  | error => "Error"

/-- A state is read in lower case as well. -/
def ofName? (s : String) : Option SyncState :=
  match s with
  | "Pending" => some pending
  | "pending" => some pending
  | "Ready" => some ready
  | "ready" => some ready
  | "Error" => some error
  | "error" => some error
  | _ => none

theorem ofName?_name (s : SyncState) : ofName? s.name = some s := by cases s <;> rfl

def codec : Codec SyncState := .variant name ofName?

end SyncState

structure SyncStatus where
  state : SyncState
  description : Option String := none
  lastReconciled : Option Timestamp := none
  observedGeneration : Option Int64 := none
  deriving DecidableEq

namespace SyncStatus

/-- A timestamp in a record. -/
def timestampCodec : Codec Timestamp := .text (Timestamp.render .letter) Timestamp.read?

/-- A member that is left out when it is not set. -/
def ifPresent {α : Type} (name : String) (codec : Codec α) : Json.Member (Option α) :=
  { name := name, presence := .default none, codec := codec.option, isOmitted := Option.isNone }

def layout : Layout [SyncState, Option String, Option Timestamp, Option Int64] :=
  .cons (.needed "state" SyncState.codec) <| .cons (ifPresent "description" .string) <|
  .cons (ifPresent "lastReconciled" timestampCodec) <|
  .cons (ifPresent "observedGeneration" .signedWord) .nil

def codec : Codec SyncStatus :=
  .record layout (fun r => (r.state, r.description, r.lastReconciled, r.observedGeneration, ()))
    fun (state, description, lastReconciled, observedGeneration, ()) =>
      ⟨state, description, lastReconciled, observedGeneration⟩

end SyncStatus

/-! ## Objects -/

/-- What names an object. -/
structure ObjectName where
  name : Option String := none
  namespaceName : Option String := none
  /-- The start of a name that the server will complete. -/
  nameStart : Option String := none
  deriving DecidableEq, Repr, Inhabited

namespace ObjectName

/-- Namespace and name, joined by a slash. -/
def key (o : ObjectName) : String :=
  o.namespaceName.getD "" ++ "/" ++ (o.name <|> o.nameStart).getD ""

end ObjectName

/-- A ClusterSync as the server stores it. -/
structure SyncObject where
  metadata : ObjectName
  generation : Option Int64 := none
  clusters : List Descriptor
  status : Option SyncStatus := none

end InventorySync
