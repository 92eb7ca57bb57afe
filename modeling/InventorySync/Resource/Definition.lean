/-
# Resource.Definition — how a cluster learns of ClusterSync

The definition names the kind, gives the schema of its list and its status, and says
which columns a listing of objects shows. `manifest` is the text that is applied to a
cluster.
-/
import InventorySync.Json.Block
import InventorySync.Resource.ClusterSync
import InventorySync.Resource.Schema

namespace InventorySync.Definition

set_option autoImplicit false

def group : String := "dcops.microscaler.io"
def version : String := "v1alpha1"
def kind : String := "ClusterSync"
def plural : String := "clustersyncs"

/-! ## Schemas -/

def descriptorSchema : Schema :=
  .described "One reconcile target, matched against NetBox virtualization clusters" <|
    .record
      [("name", .described "Cluster name (empty matches any name)"
         (.defaulting (.str "") (.text none))),
       ("region", .described "Region slug" (.text none)),
       ("type", .described "Cluster type slug" (.text none))]
      ["region", "type"]

def specSchema : Schema :=
  .record
    [("clusters", .described "Clusters to reconcile, processed in order"
      (.defaulting (.arr []) (.list descriptorSchema)))]
    []

def stateSchema : Schema := .choice ([SyncState.pending, .ready, .error].map SyncState.name)

def statusSchema : Schema :=
  .record
    [("state", .described "Outcome of the latest pass" stateSchema),
     ("description", .described "Human-readable outcome; the chained error message on failure"
       (.nullable (.text none))),
     ("lastReconciled", .described "Last reconciliation timestamp"
       (.nullable (.text (some "date-time")))),
     ("observedGeneration", .described "Generation of the spec the latest pass ran against"
       (.nullable (.integer "int64")))]
    ["state"]

def schema : Schema :=
  .titled kind <|
    .described "Auto-generated derived type for ClusterSyncSpec via \x60CustomResource\x60" <|
      .record [("spec", specSchema), ("status", .nullable statusSchema)] ["spec"]

/-! ## The definition -/

/-- A column of a listing, and where its text stands in an object. -/
def column (name path : String) : Json :=
  .obj [("jsonPath", .str path), ("name", .str name), ("type", .str "string")]

def document : Json :=
  .obj [
    ("apiVersion", .str "apiextensions.k8s.io/v1"),
    ("kind", .str "CustomResourceDefinition"),
    ("metadata", .obj [("name", .str (plural ++ "." ++ group))]),
    ("spec", .obj [
      ("group", .str group),
      ("names", .obj [
        ("categories", .arr []),
        ("kind", .str kind),
        ("plural", .str plural),
        ("shortNames", .arr [.str "csync"]),
        ("singular", .str "clustersync")]),
      ("scope", .str "Namespaced"),
      ("versions", .arr [.obj [
        ("additionalPrinterColumns",
          .arr [column "State" ".status.state", column "Description" ".status.description"]),
        ("name", .str version),
        ("schema", .obj [("openAPIV3Schema", schema.document)]),
        ("served", .bool true),
        ("storage", .bool true),
        ("subresources", .obj [("status", .obj [])])]])])]

def manifest : String := document.block

end InventorySync.Definition
