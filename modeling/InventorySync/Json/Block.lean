/-
# Json.Block — values as indented text

A value is written over many lines: one line per member or item, nested ones two
columns further in, and the items of a list under the column of its name. Scalars
and empty collections stay on the line of their name. A text stands as it is unless
it could be read as something else; then it stands between single quotes, which are
doubled inside.
-/
import InventorySync.Json.Value

namespace InventorySync.Json

set_option autoImplicit false

/-! ## Scalars -/

/-- Characters that begin something other than a text. -/
def indicators : List Char :=
  ['-', '?', ':', ',', '[', ']', '{', '}', '#', '&', '*', '!', '|', '>', '\'', '"', '%', '@',
    Char.ofNat 0x60]

/-- Characters that begin a number, a null or an indentation. -/
def doubtful : List Char := ['.', '+', '~', ' ']

/-- Words that name other scalars. -/
def reservedWords : List String := ["null", "true", "false", "yes", "no", "on", "off", "y", "n"]

/-- A mark that would end the text: a colon or a number sign beside a blank. -/
def hasMark : List Char → Bool
  | [] => false
  | [c] => c == ':'
  | c :: d :: rest => (c == ':' && d == ' ') || (c == ' ' && d == '#') || hasMark (d :: rest)

/-- The text cannot be read as anything else. -/
def isPlain (s : String) : Bool :=
  let cs := s.toList
  let startsAsText : Bool :=
    match cs with
    | c :: _ => !indicators.contains c && !c.isDigit && !doubtful.contains c
    | [] => false
  startsAsText && cs.all (fun c => 0x20 ≤ c.toNat) && cs.getLast? != some ' ' && !hasMark cs &&
    !reservedWords.contains (String.ofList (cs.map Char.toLower))

def quoteSingly (s : String) : String :=
  String.ofList ('\'' :: (s.toList.flatMap fun c => if c = '\'' then [c, c] else [c]) ++ ['\''])

/-- A dot that begins a path reads as text. -/
def isPath : List Char → Bool
  | '.' :: c :: _ => c.isAlpha
  | _ => false

def scalarText (s : String) : String :=
  if isPlain s || isPath s.toList then s else quoteSingly s

/-- What stays on one line. -/
def inline? : Json → Option String
  | .str s => some (scalarText s)
  | .arr [] => some "[]"
  | .obj [] => some "\x7b\x7d"
  | .arr _ => none
  | .obj _ => none
  | j => some j.compact

/-! ## Lines -/

/-- Two columns further in. -/
def indented (lines : List String) : List String := lines.map ("  " ++ ·)

/-- Lines under the mark of an item. -/
def hung : List String → List String
  | [] => []
  | first :: rest => ("- " ++ first) :: indented rest

mutual

def blockLines : Json → List String
  | .arr items => blockItems items
  | .obj members => blockMembers members
  | j => [(inline? j).getD ""]

def blockItems : List Json → List String
  | [] => []
  | j :: rest => hung ((inline? j).elim (blockLines j) ([·])) ++ blockItems rest

def blockMembers : List (String × Json) → List String
  | [] => []
  | (name, .obj (m :: more)) :: rest =>
    (scalarText name ++ ":") :: (indented (blockMembers (m :: more)) ++ blockMembers rest)
  | (name, .arr (j :: more)) :: rest =>
    (scalarText name ++ ":") :: (blockItems (j :: more) ++ blockMembers rest)
  | (name, j) :: rest =>
    (scalarText name ++ ": " ++ (inline? j).getD "") :: blockMembers rest

end

/-- A value as a document of its own. -/
def block (j : Json) : String := String.join (("---" :: blockLines j).map (· ++ "\n"))

end InventorySync.Json
