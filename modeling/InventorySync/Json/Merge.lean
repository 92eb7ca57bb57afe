/-
# Json.Merge — a value changed by a patch

A merge patch shows the shape that a value is to have. A patch that is an object changes the
members it names and leaves the others as they are: null removes a member, an object changes
what the member holds, and any other value takes its place. What is no object counts as an
empty one. A patch that is no object is the new value.

The members of an object have no order, so a changed one goes to the end
(`mergeMembers_eq` for changes that hold no objects).
-/
import InventorySync.Json.Value

namespace InventorySync.Json

set_option autoImplicit false

/-- The members of an object. -/
def members : Json → List (String × Json)
  | .obj members => members
  | _ => []

/-- All members but those of that name. -/
def without (name : String) (members : List (String × Json)) : List (String × Json) :=
  members.filter (·.1 != name)

mutual

/-- Change a value by a patch. -/
def merge : Json → Json → Json
  | target, .obj changes => .obj (mergeMembers target.members changes)
  | _, j => j

/-- Change the members of an object one by one. -/
def mergeMembers : List (String × Json) → List (String × Json) → List (String × Json)
  | members, [] => members
  | members, (name, .null) :: rest => mergeMembers (without name members) rest
  | members, (name, j) :: rest =>
    let held := ((Json.obj members).get? name).getD .null
    mergeMembers (without name members ++ [(name, merge held j)]) rest

end

def isObject : Json → Bool
  | .obj _ => true
  | _ => false

def isNull : Json → Bool
  | .null => true
  | _ => false

/-- One change that is no object: null removes, and anything else takes the place. -/
theorem mergeMembers_cons {j : Json} (plain : j.isObject = false) (name : String)
    (members rest : List (String × Json)) :
    mergeMembers members ((name, j) :: rest) =
      mergeMembers (without name members ++ if j.isNull then [] else [(name, j)]) rest := by
  cases j with
  | null => simp [mergeMembers, isNull]
  | obj changes => simp [isObject] at plain
  | _ => rfl

/-- Changes that are no objects, all at once: the members that none of them names are kept, and
those that are not null come to the end. -/
theorem mergeMembers_eq {changes : List (String × Json)}
    (plain : ∀ m ∈ changes, m.2.isObject = false) (distinct : (changes.map (·.1)).Nodup)
    (members : List (String × Json)) :
    mergeMembers members changes =
      members.filter (fun m => !(changes.map (·.1)).contains m.1) ++
        changes.filter (fun m => !m.2.isNull) := by
  induction changes generalizing members with
  | nil => exact ((List.append_nil _).trans (List.filter_eq_self.2 fun _ _ => rfl)).symm
  | cons change rest ih =>
      obtain ⟨name, j⟩ := change
      obtain ⟨fresh, distinct⟩ := List.nodup_cons.1 distinct
      rw [mergeMembers_cons (plain _ List.mem_cons_self),
        ih (fun m member => plain m (List.mem_cons_of_mem _ member)) distinct, List.filter_append,
        List.append_assoc]
      have kept : (without name members).filter (fun m => !(rest.map (·.1)).contains m.1) =
          members.filter (fun m => !(((name, j) :: rest).map (·.1)).contains m.1) := by
        rw [without, List.filter_filter]
        refine List.filter_congr fun m _ => ?_
        by_cases same : m.1 = name
        · simp [same]
        · simp [same, bne, Bool.and_comm]
      rw [kept]
      cases null : j.isNull with
      | true => simp [null]
      | false => simp [null, fresh]

/-- A member that was changed is what the patch made of it. -/
theorem get?_append_without (name : String) (j : Json) (members : List (String × Json)) :
    (Json.obj (without name members ++ [(name, j)])).get? name = some j := by
  have none : (without name members).find? (·.1 == name) = none := by
    rw [List.find?_eq_none]
    intro m member same
    have other := (List.mem_filter.1 member).2
    simp_all
  simp [get?, List.find?_append, none]

end InventorySync.Json
