/-
# Json.Value — JSON values and their compact text

A value keeps the members of an object in the order they were given. Numbers are
integers, or decimals with a fraction or an exponent. The compact text has no
blanks; of a string it escapes the quote, the backslash and the controls only.

`sorted` gives the form in which the order of members carries nothing: members
ascend by name at every level, and of members that share a name the last one
stays.
-/
import InventorySync.Numeral.Binary64

namespace InventorySync

set_option autoImplicit false

open InventorySync.Numeral

inductive Json where
  | null
  | bool (b : Bool)
  | int (n : Int)
  | real (negative : Bool) (digits : Nat) (exponent : Int)
  | str (s : String)
  | arr (items : List Json)
  | obj (members : List (String × Json))
  deriving Inhabited, Repr

namespace Json

def nat (n : Nat) : Json := .int n

/-- Null for an absent value. -/
def ofOption {α : Type} (f : α → Json) : Option α → Json
  | some a => f a
  | none => .null

/-! ## Access -/

/-- The value of the first member of that name. -/
def get? (j : Json) (name : String) : Option Json :=
  match j with
  | .obj members => (members.find? (·.1 == name)).map (·.2)
  | _ => none

/-! ## Text -/

/-- The two hexadecimal digits of a control's number. -/
def controlDigits (n : Nat) : List Char := [Nat.digitChar (n / 16), Nat.digitChar (n % 16)]

def escapeChar (c : Char) : List Char :=
  if c = '"' then ['\\', '"']
  else if c = '\\' then ['\\', '\\']
  else if c = '\n' then ['\\', 'n']
  else if c = '\r' then ['\\', 'r']
  else if c = '\t' then ['\\', 't']
  else if c.toNat = 8 then ['\\', 'b']
  else if c.toNat = 12 then ['\\', 'f']
  else if c.toNat < 32 then '\\' :: 'u' :: '0' :: '0' :: controlDigits c.toNat
  else [c]

def stringChars (s : String) : List Char := '"' :: (s.toList.flatMap escapeChar ++ ['"'])

def intChars (n : Int) : List Char :=
  if n < 0 then '-' :: decimal n.natAbs else decimal n.natAbs

def realChars (negative : Bool) (digits : Nat) (exponent : Int) : List Char :=
  let x := nearest digits exponent
  (realText .json (.ofFloat (if negative then -x else x))).toList

mutual

def chars : Json → List Char
  | .null => ['n', 'u', 'l', 'l']
  | .bool true => ['t', 'r', 'u', 'e']
  | .bool false => ['f', 'a', 'l', 's', 'e']
  | .int n => intChars n
  | .real negative digits exponent => realChars negative digits exponent
  | .str s => stringChars s
  | .arr items => '[' :: itemChars items
  | .obj members => '{' :: memberChars members

/-- The items of an array up to its closing bracket. -/
def itemChars : List Json → List Char
  | [] => [']']
  | [j] => chars j ++ [']']
  | j :: rest => chars j ++ ',' :: itemChars rest

/-- The members of an object up to its closing brace. -/
def memberChars : List (String × Json) → List Char
  | [] => ['}']
  | [(name, j)] => stringChars name ++ ':' :: (chars j ++ ['}'])
  | (name, j) :: rest => stringChars name ++ ':' :: (chars j ++ ',' :: memberChars rest)

end

def compact (j : Json) : String := String.ofList j.chars

/-! ## Order of members -/

/-- Insert a member by name, or replace the one of that name. -/
def insertMember (name : String) (j : Json) : List (String × Json) → List (String × Json)
  | [] => [(name, j)]
  | (other, k) :: rest =>
    if name < other then (name, j) :: (other, k) :: rest
    else if name = other then (name, j) :: rest
    else (other, k) :: insertMember name j rest

mutual

def sorted : Json → Json
  | .arr items => .arr (sortedItems items)
  | .obj members => .obj (sortedMembers members [])
  | j => j

def sortedItems : List Json → List Json
  | [] => []
  | j :: rest => sorted j :: sortedItems rest

/-- Members added one by one to those sorted so far. -/
def sortedMembers : List (String × Json) → List (String × Json) → List (String × Json)
  | [], done => done
  | (name, j) :: rest, done => sortedMembers rest (insertMember name (sorted j) done)

end

end Json

end InventorySync
