/-
# Text.Utf8 — text from bytes

A page of a listing is read as text whatever its bytes are: each maximal run of
bytes that begins a character but does not complete one becomes a single
replacement character, and so does each byte that cannot begin one. A single
record is read strictly: `strict?` has a value only if every byte belongs to a
well-formed character.

Which second bytes may follow a first byte is the table of the standard: it
excludes overlong forms, surrogates and numbers above U+10FFFF.
-/

namespace InventorySync.Text.Utf8

set_option autoImplicit false

def replacement : Char := Char.ofNat 0xFFFD

/-- What a first byte announces: how many bytes follow, and the range that the
second byte must lie in. -/
structure Lead where
  payload : Nat
  follow : Nat
  low : Nat
  high : Nat

def lead? (b : Nat) : Option Lead :=
  if b < 0x80 then some ⟨b, 0, 0, 0⟩
  else if b < 0xC2 then none
  else if b < 0xE0 then some ⟨b - 0xC0, 1, 0x80, 0xBF⟩
  else if b = 0xE0 then some ⟨0, 2, 0xA0, 0xBF⟩
  else if b = 0xED then some ⟨0x0D, 2, 0x80, 0x9F⟩
  else if b < 0xF0 then some ⟨b - 0xE0, 2, 0x80, 0xBF⟩
  else if b = 0xF0 then some ⟨0, 3, 0x90, 0xBF⟩
  else if b < 0xF4 then some ⟨b - 0xF0, 3, 0x80, 0xBF⟩
  else if b = 0xF4 then some ⟨4, 3, 0x80, 0x8F⟩
  else none

/-- Take up to `n` continuation bytes, the first of them in `low … high`: the
code point so far, how many were taken, and whether all were there. -/
def continued (acc : Nat) : Nat → Nat → Nat → List UInt8 → Nat × Nat × Bool
  | 0, _, _, _ => (acc, 0, true)
  | _ + 1, _, _, [] => (acc, 0, false)
  | n + 1, low, high, b :: rest =>
    if low ≤ b.toNat && b.toNat ≤ high then
      let (code, taken, complete) := continued (acc * 64 + (b.toNat - 0x80)) n 0x80 0xBF rest
      (code, taken + 1, complete)
    else (acc, 0, false)

/-- The character at the front, none if it is malformed, and how many bytes
after the first one belong to it. -/
def front (b : UInt8) (rest : List UInt8) : Option Char × Nat :=
  match lead? b.toNat with
  | none => (none, 0)
  | some l =>
    let (code, taken, complete) := continued l.payload l.follow l.low l.high rest
    (if complete then some (Char.ofNat code) else none, taken)

/-- Each item is a character, or none for a malformed run. -/
def items : List UInt8 → List (Option Char)
  | [] => []
  | b :: rest =>
    let item := front b rest
    item.1 :: items (rest.drop item.2)
termination_by bytes => bytes.length
decreasing_by simp only [List.length_drop, List.length_cons]; omega

/-- The text of the bytes, a replacement character for each malformed run. -/
def lossy (bytes : List UInt8) : String :=
  String.ofList ((items bytes).map (·.getD replacement))

/-- The text of the bytes, if they are well-formed throughout. -/
def strict? (bytes : List UInt8) : Option String :=
  ((items bytes).mapM id).map String.ofList

end InventorySync.Text.Utf8
