/-
# Json.Document — JSON text as far as it can be read

A record is decoded from text whose grammar may break somewhere, and the first
problem from the left decides the fault, whether it lies in the grammar or in a
value of the wrong kind. So reading never fails: it gives a tree of what stands in
the text, which ends where the text stops being JSON, and a decoder that walks the
tree from left to right meets the problems in order.

Two things are grammatical and yet stand for no value: a number beyond the range
of doubles, and a string in which a surrogate has lost its partner. They are no
problem in a member that nobody reads.

`Document.isWhole` says the text of a tree was complete; `toJson?` gives the value
of a tree that stands for one; `ofJson` is the tree of a value's text.
-/
import InventorySync.Json.Value

namespace InventorySync

set_option autoImplicit false

open InventorySync.Numeral

/-- How an object's members come to an end. `stray`: a value that is no string
stands where a name should. -/
inductive Ending where
  | closed
  | broken
  | stray
  deriving DecidableEq, Repr

inductive Document where
  | null
  | bool (b : Bool)
  | int (n : Int)
  | real (negative : Bool) (digits : Nat) (exponent : Int)
  | str (s : String)
  /-- A literal of the grammar that stands for no value. -/
  | unusable
  /-- Here the text stops being JSON. -/
  | broken
  | arr (items : List Document) (closed : Bool)
  /-- A name is missing if its text stands for no string. -/
  | obj (members : List (Option String × Document)) (ending : Ending)
  deriving Inhabited

namespace Document

mutual

/-- Nothing below breaks off. -/
def isWhole : Document → Bool
  | .broken => false
  | .arr items closed => closed && wholeItems items
  | .obj members ending => ending == .closed && wholeMembers members
  | _ => true

def wholeItems : List Document → Bool
  | [] => true
  | d :: rest => isWhole d && wholeItems rest

def wholeMembers : List (Option String × Document) → Bool
  | [] => true
  | (_, d) :: rest => isWhole d && wholeMembers rest

end

mutual

/-- The value, if the tree is whole and every literal in it stands for one. -/
def toJson? : Document → Option Json
  | .null => some .null
  | .bool b => some (.bool b)
  | .int n => some (.int n)
  | .real negative digits exponent => some (.real negative digits exponent)
  | .str s => some (.str s)
  | .unusable => none
  | .broken => none
  | .arr items closed => if closed then (itemValues? items).map .arr else none
  | .obj members ending => if ending = .closed then (memberValues? members).map .obj else none

def itemValues? : List Document → Option (List Json)
  | [] => some []
  | d :: rest => do some ((← toJson? d) :: (← itemValues? rest))

def memberValues? : List (Option String × Document) → Option (List (String × Json))
  | [] => some []
  | (some name, d) :: rest => do some ((name, ← toJson? d) :: (← memberValues? rest))
  | (none, _) :: _ => none

end

mutual

/-- The tree of a value's text. -/
def ofJson : Json → Document
  | .null => .null
  | .bool b => .bool b
  | .int n => .int n
  | .real negative digits exponent => .real negative digits exponent
  | .str s => .str s
  | .arr items => .arr (ofItems items) true
  | .obj members => .obj (ofMembers members) .closed

def ofItems : List Json → List Document
  | [] => []
  | j :: rest => ofJson j :: ofItems rest

def ofMembers : List (String × Json) → List (Option String × Document)
  | [] => []
  | (name, j) :: rest => (some name, ofJson j) :: ofMembers rest

end

mutual

/-- How deeply arrays and objects are nested. -/
def depth : Document → Nat
  | .arr items _ => 1 + itemDepth items
  | .obj members _ => 1 + memberDepth members
  | _ => 0

def itemDepth : List Document → Nat
  | [] => 0
  | d :: rest => max (depth d) (itemDepth rest)

def memberDepth : List (Option String × Document) → Nat
  | [] => 0
  | (_, d) :: rest => max (depth d) (memberDepth rest)

end

end Document

end InventorySync
