/-
# Resource.Schema — what the cluster lets into an object

A schema is text, whole numbers, one of a few words, a list or a record, with remarks
around it: a description, a default, or that null will do. Its document lists facts and
properties by name.
-/
import InventorySync.Json.Value

namespace InventorySync

set_option autoImplicit false

inductive Schema where
  | text (format : Option String)
  | integer (format : String)
  | choice (words : List String)
  | list (item : Schema)
  | record (properties : List (String × Schema)) (required : List String)
  | described (remark : String) (schema : Schema)
  | defaulting (value : Json) (schema : Schema)
  | nullable (schema : Schema)
  | titled (title : String) (schema : Schema)

namespace Schema

/-- The name of a type. -/
def typed (name : String) : String × Json := ("type", .str name)

/-- A list of names, unless there are none. -/
def names (fact : String) (items : List String) : List (String × Json) :=
  if items.isEmpty then [] else [(fact, .arr (items.map .str))]

mutual

/-- The facts that a schema states. -/
def facts : Schema → List (String × Json)
  | .text format => (format.map fun f => ("format", Json.str f)).toList ++ [typed "string"]
  | .integer format => [("format", .str format), typed "integer"]
  | .choice words => names "enum" words ++ [typed "string"]
  | .list item => [("items", .obj (facts item)), typed "array"]
  | .record properties required =>
    ("properties", .obj (propertyFacts properties)) ::
      (names "required" required ++ [typed "object"])
  | .described remark schema => ("description", .str remark) :: facts schema
  | .defaulting value schema => ("default", value) :: facts schema
  | .nullable schema => ("nullable", .bool true) :: facts schema
  | .titled title schema => ("title", .str title) :: facts schema

def propertyFacts : List (String × Schema) → List (String × Json)
  | [] => []
  | (name, schema) :: rest => (name, .obj (facts schema)) :: propertyFacts rest

end

def document (s : Schema) : Json := Json.sorted (.obj s.facts)

end Schema

end InventorySync
