/-
# Text.Percent — percent-encoding of query components

A component of a query keeps the unreserved characters (letters, digits, and
`-_.~`); every other character is written as the bytes of its UTF-8 encoding,
each a percent sign and two upper case hexadecimal digits. `decode` reads the
encoding back, and refuses a percent sign without its digits and bytes that are
no UTF-8.
-/

namespace InventorySync.Text.Percent

set_option autoImplicit false

def isUnreserved (c : Char) : Bool :=
  ('A' ≤ c && c ≤ 'Z') || ('a' ≤ c && c ≤ 'z') || ('0' ≤ c && c ≤ '9') ||
    c == '-' || c == '_' || c == '.' || c == '~'

/-- The upper case hexadecimal digit of `n < 16`. -/
def hexDigit (n : Nat) : Char := Char.ofNat (if n < 10 then 0x30 + n else 0x37 + n)

def escapedByte (b : UInt8) : List Char :=
  ['%', hexDigit (b.toNat / 16), hexDigit (b.toNat % 16)]

def encodeChar (c : Char) : List Char :=
  if isUnreserved c then [c] else (String.utf8EncodeChar c).flatMap escapedByte

def encodeChars (s : List Char) : List Char := s.flatMap encodeChar

def encode (s : String) : String := String.ofList (encodeChars s.toList)

/-- The value of a hexadecimal digit of either case. -/
def hexValue? (c : Char) : Option Nat :=
  if '0' ≤ c && c ≤ '9' then some (c.toNat - 0x30)
  else if 'A' ≤ c && c ≤ 'F' then some (c.toNat - 0x37)
  else if 'a' ≤ c && c ≤ 'f' then some (c.toNat - 0x57)
  else none

/-- The bytes that an encoded text stands for. -/
def decodeBytes : List Char → Option (List UInt8)
  | [] => some []
  | '%' :: h :: l :: rest => do
    let high ← hexValue? h
    let low ← hexValue? l
    let bytes ← decodeBytes rest
    some (UInt8.ofNat (high * 16 + low) :: bytes)
  | c :: rest =>
    if c = '%' then none
    else (decodeBytes rest).map (String.utf8EncodeChar c ++ ·)

/-- The text that was encoded, or none if the bytes are no UTF-8. -/
def decode? (s : String) : Option String := do
  String.fromUTF8? ⟨(← decodeBytes s.toList).toArray⟩

end InventorySync.Text.Percent
