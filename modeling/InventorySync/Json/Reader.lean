/-
# Json.Reader — from text to the tree of what stands in it

One pass from left to right. Each reading function returns what it read and the
rest of the text, or no rest if the text broke off there; the functions around it
then stop as well. The fuel bounds the number of calls on the way down; of three
calls in a row at least one consumes a character, so three times the length of the
text is enough.
-/
import InventorySync.Json.Document

namespace InventorySync.Document

set_option autoImplicit false

open InventorySync.Numeral

/-- The blanks that the grammar allows between tokens. -/
def isSpace (c : Char) : Bool := c == ' ' || c == '\n' || c == '\t' || c == '\r'

def skipSpace (s : List Char) : List Char := s.dropWhile isSpace

/-- What was read, and the rest of the text unless it broke off. -/
abbrev Reading (α : Type) := α × Option (List Char)

/-! ## Literals -/

/-- The rest after a word. -/
def afterWord : List Char → List Char → Option (List Char)
  | [], s => some s
  | w :: ws, c :: s => if w = c then afterWord ws s else none
  | _ :: _, [] => none

def readWord (word : String) (value : Document) (s : List Char) : Reading Document :=
  match afterWord word.toList s with
  | some rest => (value, some rest)
  | none => (.broken, none)

/-- The digits in front. -/
def takeDigits (s : List Char) : List Char × List Char :=
  (s.takeWhile fun c => (digit? c).isSome, s.dropWhile fun c => (digit? c).isSome)

def digitsValue (ds : List Char) : Nat := ds.foldl (fun n c => n * 10 + (c.toNat - 48)) 0

/-- A fraction if a point stands here; none if no digit follows the point. -/
def readFraction : List Char → Option (List Char × List Char)
  | '.' :: rest =>
    let (ds, after) := takeDigits rest
    if ds.isEmpty then none else some (ds, after)
  | s => some ([], s)

/-- An exponent if its letter stands here; none if no digit follows. -/
def readPower (s : List Char) : Option (Option Int × List Char) :=
  let signed (sign : Int) (rest : List Char) : Option (Option Int × List Char) :=
    let (ds, after) := takeDigits rest
    if ds.isEmpty then none else some (some (sign * digitsValue ds), after)
  let afterLetter (rest : List Char) : Option (Option Int × List Char) :=
    match rest with
    | '+' :: ds => signed 1 ds
    | '-' :: ds => signed (-1) ds
    | ds => signed 1 ds
  match s with
  | 'e' :: rest => afterLetter rest
  | 'E' :: rest => afterLetter rest
  | _ => some (none, s)

/-- Whether `digits · 10^exponent` rounds to a finite double: it lies below the
middle between the largest double and the next power of two. -/
def isFinite (digits : Nat) (exponent : Int) : Bool :=
  if digits = 0 then true
  else
    let magnitude : Int := exponent + (decimal digits).length
    if magnitude > 320 then false
    else if magnitude < 300 then true
    else
      let middle := Nat.pow 2 1024 - Nat.pow 2 970
      digits * Nat.pow 10 exponent.toNat < middle * Nat.pow 10 (-exponent).toNat

/-- The document of a number with the given parts. -/
def ofNumber (negative : Bool) (whole part : List Char) (power : Option Int) : Document :=
  let digits := digitsValue (whole ++ part)
  let exponent := power.getD 0 - part.length
  if !isFinite digits exponent then .unusable
  else if part.isEmpty && power.isNone && !(negative && digits == 0) then
    .int (if negative then -(digits : Int) else digits)
  else .real negative digits exponent

/-- A number after its sign: no zero in front of other digits. -/
def readNumber (negative : Bool) (s : List Char) : Reading Document :=
  let (whole, rest) := takeDigits s
  if whole.isEmpty || (whole.head? == some '0' && whole.length > 1) then (.broken, none)
  else
    match readFraction rest with
    | none => (.broken, none)
    | some (part, rest) =>
      match readPower rest with
      | none => (.broken, none)
      | some (power, rest) => (ofNumber negative whole part power, some rest)

/-! ## Strings -/

/-- Where in a string's text the reader stands. -/
inductive Escape where
  | none
  | backslash
  | unit (left value : Nat)

/-- A string read so far: its characters, last first, a surrogate that waits for
its partner, and whether one was left alone. -/
structure StringState where
  text : List Char
  waiting : Option Nat
  alone : Bool

namespace StringState

def start : StringState := ⟨[], none, false⟩

/-- No partner comes for a waiting surrogate. -/
def settle (st : StringState) : StringState :=
  { st with waiting := none, alone := st.alone || st.waiting.isSome }

def push (st : StringState) (c : Char) : StringState :=
  let st := st.settle
  { st with text := c :: st.text }

/-- Add a code unit: a character, half of one, or a surrogate left alone. -/
def pushUnit (st : StringState) (n : Nat) : StringState :=
  if 0xDC00 ≤ n ∧ n < 0xE000 then
    match st.waiting with
    | some high =>
      { st with
        waiting := none
        text := Char.ofNat (0x10000 + (high - 0xD800) * 0x400 + (n - 0xDC00)) :: st.text }
    | none => { st with alone := true }
  else if 0xD800 ≤ n ∧ n < 0xDC00 then { st.settle with waiting := some n }
  else st.push (Char.ofNat n)

/-- The string, or none if a surrogate was left alone. -/
def result (st : StringState) : Option String :=
  let st := st.settle
  if st.alone then none else some (String.ofList st.text.reverse)

end StringState

def hexValue? (c : Char) : Option Nat :=
  if '0' ≤ c && c ≤ '9' then some (c.toNat - 48)
  else if 'a' ≤ c && c ≤ 'f' then some (c.toNat - 87)
  else if 'A' ≤ c && c ≤ 'F' then some (c.toNat - 55)
  else none

/-- The character that a letter after a backslash stands for. -/
def escaped? (c : Char) : Option Char :=
  match c with
  | '"' => some '"'
  | '\\' => some '\\'
  | '/' => some '/'
  | 'b' => some (Char.ofNat 8)
  | 'f' => some (Char.ofNat 12)
  | 'n' => some '\n'
  | 'r' => some '\r'
  | 't' => some '\t'
  | _ => none

/-- Read up to the closing quote: the string or none, and the rest; nothing at all
if the text breaks off. -/
def readStringFrom (st : StringState) : Escape → List Char → Option (Option String × List Char)
  | _, [] => none
  | .none, c :: rest =>
    if c = '"' then some (st.result, rest)
    else if c = '\\' then readStringFrom st .backslash rest
    else if c.toNat < 32 then none
    else readStringFrom (st.push c) .none rest
  | .backslash, c :: rest =>
    if c = 'u' then readStringFrom st (.unit 4 0) rest
    else
      match escaped? c with
      | some d => readStringFrom (st.push d) .none rest
      | none => none
  | .unit left value, c :: rest =>
    match hexValue? c with
    | none => none
    | some d =>
      if left ≤ 1 then readStringFrom (st.pushUnit (value * 16 + d)) .none rest
      else readStringFrom st (.unit (left - 1) (value * 16 + d)) rest

def readString (s : List Char) : Reading Document :=
  match readStringFrom .start .none s with
  | some (some text, rest) => (.str text, some rest)
  | some (none, rest) => (.unusable, some rest)
  | none => (.broken, none)

/-! ## Values -/

mutual

def readValue : Nat → List Char → Reading Document
  | 0, _ => (.broken, none)
  | fuel + 1, s =>
    match skipSpace s with
    | '{' :: rest =>
      let (members, ending, after) := readMembers fuel true rest
      (.obj members ending, after)
    | '[' :: rest =>
      let (items, after) := readItems fuel true rest
      (.arr items after.isSome, after)
    | '"' :: rest => readString rest
    | 't' :: rest => readWord "rue" (.bool true) rest
    | 'f' :: rest => readWord "alse" (.bool false) rest
    | 'n' :: rest => readWord "ull" .null rest
    | '-' :: rest => readNumber true rest
    | rest => readNumber false rest

/-- The items up to the closing bracket; `first` if none was read before. -/
def readItems : Nat → Bool → List Char → Reading (List Document)
  | 0, _, _ => ([], none)
  | fuel + 1, first, s =>
    match skipSpace s, first with
    | ']' :: rest, _ => ([], some rest)
    | ',' :: rest, false =>
      match skipSpace rest with
      | ']' :: _ => ([], none)
      | rest => readItem fuel rest
    | _, false => ([], none)
    | rest, true => readItem fuel rest

/-- One item and those after it. -/
def readItem : Nat → List Char → Reading (List Document)
  | 0, _ => ([], none)
  | fuel + 1, s =>
    match readValue fuel s with
    | (d, none) => ([d], none)
    | (d, some rest) =>
      let (items, after) := readItems fuel false rest
      (d :: items, after)

/-- The members up to the closing brace, and how they end. -/
def readMembers : Nat → Bool → List Char →
    List (Option String × Document) × Ending × Option (List Char)
  | 0, _, _ => ([], .broken, none)
  | fuel + 1, first, s =>
    match skipSpace s, first with
    | '}' :: rest, _ => ([], .closed, some rest)
    | ',' :: rest, false => readMember fuel (skipSpace rest)
    | _, false => ([], .broken, none)
    | rest, true => readMember fuel rest

/-- One member and those after it. -/
def readMember : Nat → List Char →
    List (Option String × Document) × Ending × Option (List Char)
  | 0, _ => ([], .broken, none)
  | fuel + 1, s =>
    match s with
    | '"' :: rest =>
      match readStringFrom .start .none rest with
      | none => ([], .broken, none)
      | some (name, rest) =>
        match skipSpace rest with
        | ':' :: rest =>
          match readValue fuel rest with
          | (d, none) => ([(name, d)], .broken, none)
          | (d, some rest) =>
            let (members, ending, after) := readMembers fuel false rest
            ((name, d) :: members, ending, after)
        | _ => ([(name, .broken)], .broken, none)
    | s =>
      match readValue fuel s with
      | (.broken, _) => ([], .broken, none)
      | (.unusable, _) => ([], .broken, none)
      | _ => ([], .stray, none)

end

/-- A text and whether nothing but blanks follows the value in it. -/
def ofChars (s : List Char) : Document × Bool :=
  match readValue (3 * s.length + 3) s with
  | (d, some rest) => (d, (skipSpace rest).isEmpty)
  | (d, none) => (d, false)

def ofString (s : String) : Document × Bool := ofChars s.toList

end InventorySync.Document

namespace InventorySync.Json

set_option autoImplicit false

/-- The value that a text writes, if it is JSON throughout. -/
def read? (s : String) : Option Json :=
  match Document.ofString s with
  | (d, true) => d.toJson?
  | (_, false) => none

end InventorySync.Json
