/-
# Text.Lowercase — lower case of a whole text

Slugs are lower case. Most characters have one lower case form of their own;
two need more. The dotted capital I becomes two characters, and a capital sigma
becomes the final form where it ends a word: a cased character stands before it
and none after it, ignorable characters in between aside.
-/
import InventorySync.Text.CaseTable

namespace InventorySync.Text

set_option autoImplicit false

def inRanges (ranges : List (Nat × Nat)) (c : Char) : Bool :=
  ranges.any fun r => r.1 ≤ c.toNat && c.toNat ≤ r.2

namespace LowerRun

def holds (run : LowerRun) (n : Nat) : Bool :=
  run.first ≤ n && n ≤ run.last && (n - run.first) % run.step == 0

def apply (run : LowerRun) (n : Nat) : Char := Char.ofNat (n + run.offset).toNat

end LowerRun

/-- The lower case form of a character that stands alone. -/
def lowerChar (c : Char) : List Char :=
  if c.toNat = 0x130 then ['i', Char.ofNat 0x307]
  else
    match lowerRuns.find? (·.holds c.toNat) with
    | some run => [run.apply c.toNat]
    | none => [c]

/-- The first character that is not ignorable is cased. -/
def meetsCased (s : List Char) : Bool :=
  match s.dropWhile (inRanges ignorableRanges) with
  | c :: _ => inRanges casedRanges c
  | [] => false

/-- Lower case of `s`, where `before` is what precedes it, nearest first. -/
def lowerAfter (before : List Char) : List Char → List Char
  | [] => []
  | c :: rest =>
    let lower :=
      if c.toNat = 0x3A3 then
        [Char.ofNat (if meetsCased before && !meetsCased rest then 0x3C2 else 0x3C3)]
      else lowerChar c
    lower ++ lowerAfter (c :: before) rest

def lowercase (s : String) : String := String.ofList (lowerAfter [] s.toList)

/-- The text in lower case with a hyphen for every space. -/
def slug (s : String) : String :=
  String.ofList ((lowercase s).toList.map fun c => if c = ' ' then '-' else c)

end InventorySync.Text
