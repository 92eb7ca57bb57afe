/-
# Text.Quoted — a text between quotes, one line, nothing invisible

Diagnostics show settings and names as quoted text. Quote and backslash are
escaped, the usual controls have their letters, and every other character that
would be invisible, or would change the one before it, is written by number as
`\u{…}` in lower case hexadecimal.
-/
import InventorySync.Text.QuotedTable

namespace InventorySync.Text

set_option autoImplicit false

def hexDigits (n : Nat) : List Char := Nat.toDigits 16 n

/-- A character written by number. -/
def numbered (c : Char) : List Char := '\\' :: 'u' :: '{' :: (hexDigits c.toNat ++ ['}'])

def isUnprinted (c : Char) : Bool :=
  unprintedRanges.any fun r => r.1 ≤ c.toNat && c.toNat ≤ r.2

def quoteChar (c : Char) : List Char :=
  if c = '"' || c = '\\' then ['\\', c]
  else if c = '\t' then ['\\', 't']
  else if c = '\r' then ['\\', 'r']
  else if c = '\n' then ['\\', 'n']
  else if c.toNat = 0 then ['\\', '0']
  else if isUnprinted c then numbered c
  else [c]

def quoted (s : String) : String :=
  String.ofList ('"' :: (s.toList.flatMap quoteChar ++ ['"']))

/-- The quoted form of a text that may be absent. -/
def quotedOption : Option String → String
  | some s => "Some(" ++ quoted s ++ ")"
  | none => "None"

end InventorySync.Text
