/-
# Text.Blank — white space and trimming

Settings arrive from people and shells, so every value is trimmed before it is
read, and a value of nothing but white space counts as absent. White space is
the Unicode property of that name: twenty-five characters, the ASCII blanks
among them.

`trim_blank` says that a blank text trims to nothing.
-/

namespace InventorySync.Text

set_option autoImplicit false

/-- The Unicode property White_Space. -/
def isBlank (c : Char) : Bool :=
  let n := c.toNat
  (0x09 ≤ n && n ≤ 0x0D) || n == 0x20 || n == 0x85 || n == 0xA0 || n == 0x1680 ||
    (0x2000 ≤ n && n ≤ 0x200A) || n == 0x2028 || n == 0x2029 || n == 0x202F ||
    n == 0x205F || n == 0x3000

/-- Drop the blanks in front. -/
def trimStart (s : List Char) : List Char := s.dropWhile isBlank

/-- Drop the blanks at both ends. -/
def trimChars (s : List Char) : List Char := (trimStart (trimStart s).reverse).reverse

def trim (s : String) : String := String.ofList (trimChars s.toList)

theorem trim_blank {s : List Char} (h : ∀ c ∈ s, isBlank c = true) : trimChars s = [] := by
  have front : trimStart s = [] := by
    induction s with
    | nil => rfl
    | cons c s ih => simp_all [trimStart]
  simp [trimChars, front]
  rfl

/-- Drop every `c` at the end of a text. -/
def dropTrailing (c : Char) (s : String) : String :=
  String.ofList (s.toList.reverse.dropWhile (· == c)).reverse

end InventorySync.Text
