/-
# Json.Codec — typed records in JSON

A codec writes a type as JSON and reads it back from the tree of a text. Reading
meets the problems of the text from the left, and the first one is the fault.

A record is described once, by its `Layout`: a list of members with their names,
codecs, and what stands for a member that is missing. Writing, reading from an
object in any order of members, and reading from an array in the order of the
layout all come from it. In an object, members that the layout does not name are
skipped, as long as their text is whole; a second member of one name is a fault as
soon as its name is read; a missing member is noted at the closing brace.
-/
import InventorySync.Json.Reader

namespace InventorySync.Json

set_option autoImplicit false

/-- Why a text does not decode. -/
inductive Fault where
  | missingField (name : String)
  | duplicateField (name : String)
  | unknownVariant (name : String)
  | invalidType
  | invalidValue
  | invalidLength
  | invalidText
  | malformed
  deriving DecidableEq, Repr

namespace Fault

/-- A backquoted name. -/
def named (what name : String) : String := what ++ " \x60" ++ name ++ "\x60"

def message : Fault → String
  | missingField name => named "missing field" name
  | duplicateField name => named "duplicate field" name
  | unknownVariant name => named "unknown variant" name
  | invalidType => "invalid type"
  | invalidValue => "invalid value"
  | invalidLength => "invalid length"
  | invalidText => "other"
  | malformed => "syntax"

end Fault

structure Codec (α : Type) where
  write : α → Json
  read : Document → Except Fault α

namespace Codec

variable {α β : Type}

/-- The fault of a tree that is not of the kind asked for. -/
def mismatch : Document → Fault
  | .broken => .malformed
  | .unusable => .malformed
  | _ => .invalidType

/-- Decode a whole text. -/
def decode (c : Codec α) (text : String) : Except Fault α :=
  let (d, ended) := Document.ofString text
  match c.read d with
  | .error e => .error e
  | .ok a => if ended then .ok a else .error .malformed

/-- Text of a value. -/
def encode (c : Codec α) (a : α) : String := (c.write a).compact

/-! ## Plain values -/

def string : Codec String where
  write := .str
  read
    | .str s => .ok s
    | d => .error (mismatch d)

def bool : Codec Bool where
  write := .bool
  read
    | .bool b => .ok b
    | d => .error (mismatch d)

/-- Unsigned words of 64 bits. -/
def word : Codec UInt64 where
  write n := .int n.toNat
  read
    | .int n =>
      if 0 ≤ n ∧ n < Numeral.wordLimit 64 then .ok (UInt64.ofNat n.toNat)
      else if -(Numeral.wordLimit 63) ≤ n ∧ n < 0 then .error .invalidValue
      else .error .invalidType
    | d => .error (mismatch d)

/-- Signed words of 64 bits. -/
def signedWord : Codec Int64 where
  write n := .int n.toInt
  read
    | .int n =>
      if -(Numeral.wordLimit 63) ≤ n ∧ n < Numeral.wordLimit 63 then .ok (Int64.ofInt n)
      else if 0 ≤ n ∧ n < Numeral.wordLimit 64 then .error .invalidValue
      else .error .invalidType
    | d => .error (mismatch d)

/-- Text that only some strings are. -/
def text (write : α → String) (read? : String → Option α) : Codec α where
  write a := .str (write a)
  read
    | .str s =>
      match read? s with
      | some a => .ok a
      | none => .error .invalidText
    | d => .error (mismatch d)

/-- Null for an absent value. -/
def option (c : Codec α) : Codec (Option α) where
  write := Json.ofOption c.write
  read
    | .null => .ok none
    | d => (c.read d).map some

def readItems (c : Codec α) : List Document → Except Fault (List α)
  | [] => .ok []
  | d :: rest => do .ok ((← c.read d) :: (← c.readItems rest))

def list (c : Codec α) : Codec (List α) where
  write as := .arr (as.map c.write)
  read
    | .arr items closed => do
      let as ← c.readItems items
      if closed then .ok as else .error .malformed
    | d => .error (mismatch d)

/-- A word from a list. It may also stand as the name of the only member of an
object, with null for its value. -/
def variant (name : α → String) (ofName? : String → Option α) : Codec α where
  write a := .str (name a)
  read d :=
    let named (s : String) : Except Fault α :=
      match ofName? s with
      | some a => .ok a
      | none => .error (.unknownVariant s)
    match d with
    | .str s => named s
    | .obj ((some s, value) :: rest) ending => do
      let a ← named s
      match value with
      | .null => if rest.isEmpty && ending == .closed then .ok a else .error .malformed
      | d => .error (mismatch d)
    | .obj [] .stray => .error .invalidType
    | _ => .error .malformed

end Codec

/-! ## Records -/

/-- What stands for a member that is missing. -/
inductive Presence (α : Type) where
  | required
  /-- May be left out of an object. -/
  | optional (absent : α)
  /-- May be left out of an object, or cut off the end of an array. -/
  | default (absent : α)

structure Member (α : Type) where
  name : String
  /-- A second name that is read, but never written. -/
  alternative : Option String := none
  presence : Presence α := .required
  codec : Codec α
  /-- Values that are left out when the record is written. -/
  isOmitted : α → Bool := fun _ => false

namespace Member

variable {α : Type}

/-- A member that has to be there. -/
def needed (name : String) (codec : Codec α) : Member α := { name := name, codec := codec }

/-- A member that may be null or left out, and is null when written without a value. -/
def nullable (name : String) (codec : Codec α) : Member (Option α) :=
  { name := name, presence := .default none, codec := codec.option }

/-- A member of a patch: null or left out when read, left out when not set. -/
def patched (name : String) (codec : Codec α) : Member (Option α) :=
  { name := name, presence := .optional none, codec := codec.option, isOmitted := Option.isNone }

def answersTo (m : Member α) (name : String) : Bool :=
  name == m.name || m.alternative == some name

/-- The value of a member that an object does not have. -/
def missing (m : Member α) : Except Fault α :=
  match m.presence with
  | .required => .error (.missingField m.name)
  | .optional a => .ok a
  | .default a => .ok a

/-- The value of a member that an array is too short for. -/
def cutOff (m : Member α) : Except Fault α :=
  match m.presence with
  | .default a => .ok a
  | _ => .error .invalidLength

end Member

/-- The members of a record, with the types of their values. -/
inductive Layout : List Type → Type 1 where
  | nil : Layout []
  | cons {α : Type} {ts : List Type} (m : Member α) (rest : Layout ts) : Layout (α :: ts)

/-- One value for each member. -/
@[reducible] def Values : List Type → Type
  | [] => Unit
  | t :: ts => t × Values ts

/-- What has been read of each member. -/
@[reducible] def Slots : List Type → Type
  | [] => Unit
  | t :: ts => Option t × Slots ts

namespace Layout

def noneRead : {ts : List Type} → Layout ts → Slots ts
  | _, .nil => ()
  | _, .cons _ rest => (none, rest.noneRead)

/-- Read a member of that name into its slot; none if no member answers to the
name. -/
def fill : {ts : List Type} → Layout ts → String → Document → Slots ts →
    Option (Except Fault (Slots ts))
  | _, .nil, _, _, _ => none
  | _, .cons m rest, name, d, (slot, slots) =>
    if m.answersTo name then
      some <|
        match slot with
        | some _ => .error (.duplicateField m.name)
        | none => (m.codec.read d).map fun a => (some a, slots)
    else (rest.fill name d slots).map fun r => r.map fun slots => (slot, slots)

/-- Take in one member of an object. -/
def take {ts : List Type} (l : Layout ts) (slots : Slots ts) (member : Option String × Document) :
    Except Fault (Slots ts) :=
  match member.1 with
  | none => .error .malformed
  | some name =>
    match l.fill name member.2 slots with
    | some result => result
    | none => if member.2.isWhole then .ok slots else .error .malformed

/-- The values once the closing brace is reached. -/
def finish : {ts : List Type} → Layout ts → Slots ts → Except Fault (Values ts)
  | _, .nil, _ => .ok ()
  | _, .cons m rest, (slot, slots) => do
    let a ← match slot with
      | some a => .ok a
      | none => m.missing
    .ok (a, ← rest.finish slots)

def readMembers {ts : List Type} (l : Layout ts) (members : List (Option String × Document))
    (ending : Ending) : Except Fault (Values ts) := do
  let slots ← members.foldlM l.take l.noneRead
  if ending = .closed then l.finish slots else .error .malformed

/-- Read the members from an array, in the order of the layout. -/
def readItems : {ts : List Type} → Layout ts → List Document → Bool → Except Fault (Values ts)
  | _, .nil, items, closed => if items.isEmpty && closed then .ok () else .error .malformed
  | _, .cons m rest, d :: items, closed => do
    let a ← m.codec.read d
    .ok (a, ← rest.readItems items closed)
  | _, .cons m rest, [], closed => do
    let a ← if closed then m.cutOff else .error .malformed
    .ok (a, ← rest.readItems [] closed)

def write : {ts : List Type} → Layout ts → Values ts → List (String × Json)
  | _, .nil, _ => []
  | _, .cons m rest, (a, as) =>
    if m.isOmitted a then rest.write as else (m.name, m.codec.write a) :: rest.write as

end Layout

namespace Codec

/-- A record with the given layout. -/
def record {ρ : Type} {ts : List Type} (layout : Layout ts) (values : ρ → Values ts)
    (make : Values ts → ρ) : Codec ρ where
  write r := .obj (layout.write (values r))
  read
    | .obj members ending => (layout.readMembers members ending).map make
    | .arr items closed => (layout.readItems items closed).map make
    | d => .error (mismatch d)

end Codec

end InventorySync.Json
