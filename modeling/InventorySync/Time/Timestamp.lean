/-
# Time.Timestamp — calendar time in UTC

A timestamp is a date of the Gregorian calendar, extended to all years that the
record can hold, with a time of day to the nanosecond. A second may be 60, in a
minute that a leap second lengthens.

The written form is that of RFC 3339: four digits of the year (a sign and more
digits outside 0 to 9999), a `T`, and the fewest of 0, 3, 6 or 9 digits of a
fraction that are exact. The offset is written as `Z` in records and as `+00:00`
in patches.

Reading is more lenient than writing: blanks may stand before a number and before
a separator, date and time may be separated by a blank, and any offset of less
than a day is accepted and brought to UTC, which moves the date by at most one
day.
-/
import InventorySync.Numeral.Decimal
import InventorySync.Text.Blank

namespace InventorySync.Time

set_option autoImplicit false

open InventorySync.Numeral InventorySync.Text

/-! ## The calendar -/

def isLeapYear (year : Int) : Bool := year % 4 == 0 && (year % 100 != 0 || year % 400 == 0)

def daysInMonth (year : Int) (month : Nat) : Nat :=
  match month with
  | 2 => if isLeapYear year then 29 else 28
  | 4 | 6 | 9 | 11 => 30
  | _ => 31

/-- Date and time of day, as numbers. -/
structure Civil where
  year : Int
  month : Nat
  day : Nat
  hour : Nat
  minute : Nat
  second : Nat
  nano : Nat
  deriving DecidableEq, Repr

namespace Civil

def firstYear : Int := -262143
def lastYear : Int := 262142

/-- The numbers name a date and a time that exist. -/
def Valid (c : Civil) : Prop :=
  firstYear ≤ c.year ∧ c.year ≤ lastYear ∧ 1 ≤ c.month ∧ c.month ≤ 12 ∧
    1 ≤ c.day ∧ c.day ≤ daysInMonth c.year c.month ∧
    c.hour < 24 ∧ c.minute < 60 ∧ c.second ≤ 60 ∧ c.nano < 1000000000

instance (c : Civil) : Decidable c.Valid :=
  inferInstanceAs (Decidable (_ ∧ _ ∧ _ ∧ _ ∧ _ ∧ _ ∧ _ ∧ _ ∧ _ ∧ _))

def nextDay (c : Civil) : Civil :=
  if c.day < daysInMonth c.year c.month then { c with day := c.day + 1 }
  else if c.month < 12 then { c with month := c.month + 1, day := 1 }
  else { c with year := c.year + 1, month := 1, day := 1 }

def previousDay (c : Civil) : Civil :=
  if 1 < c.day then { c with day := c.day - 1 }
  else if 1 < c.month then
    { c with month := c.month - 1, day := daysInMonth c.year (c.month - 1) }
  else { c with year := c.year - 1, month := 12, day := 31 }

/-- The same moment in UTC, given the minutes by which this clock is ahead. -/
def toUtc (c : Civil) (ahead : Int) : Civil :=
  let minutes : Int := c.hour * 60 + c.minute - ahead
  let timed (d : Civil) (m : Int) : Civil :=
    { d with hour := m.toNat / 60, minute := m.toNat % 60 }
  if minutes < 0 then timed c.previousDay (minutes + 1440)
  else if minutes < 1440 then timed c minutes
  else timed c.nextDay (minutes - 1440)

end Civil

/-- A moment in UTC. -/
structure Timestamp where
  civil : Civil
  valid : civil.Valid
  deriving DecidableEq

namespace Timestamp

def ofCivil? (c : Civil) : Option Timestamp :=
  if h : c.Valid then some ⟨c, h⟩ else none

/-- The first moment of 1970. -/
def epoch : Timestamp := ⟨⟨1970, 1, 1, 0, 0, 0, 0⟩, by decide⟩

instance : Inhabited Timestamp := ⟨epoch⟩

/-! ## Writing -/

/-- How the zero offset is written. -/
inductive Offset where
  | letter
  | numeric

def yearChars (year : Int) : List Char :=
  if 0 ≤ year ∧ year ≤ 9999 then padded 4 year.toNat
  else (if year < 0 then '-' else '+') :: padded 4 year.natAbs

/-- The fewest of 0, 3, 6 or 9 digits that are exact. -/
def fractionChars (nano : Nat) : List Char :=
  if nano = 0 then []
  else if nano % 1000000 = 0 then '.' :: padded 3 (nano / 1000000)
  else if nano % 1000 = 0 then '.' :: padded 6 (nano / 1000)
  else '.' :: padded 9 nano

def offsetChars : Offset → List Char
  | .letter => ['Z']
  | .numeric => ['+', '0', '0', ':', '0', '0']

def render (offset : Offset) (t : Timestamp) : String :=
  let c := t.civil
  String.ofList
    (yearChars c.year ++ '-' :: padded 2 c.month ++ '-' :: padded 2 c.day ++
      'T' :: padded 2 c.hour ++ ':' :: padded 2 c.minute ++ ':' :: padded 2 c.second ++
      fractionChars c.nano ++ offsetChars offset)

/-! ## Reading -/

/-- Between one and `most` digits. -/
def takeNumber (most : Nat) (s : List Char) : Option (Nat × List Char) :=
  let digits := (s.take most).takeWhile fun c => (digit? c).isSome
  if digits.isEmpty then none
  else some (digits.foldl (fun n c => n * 10 + (c.toNat - 48)) 0, s.drop digits.length)

/-- A number of at most two digits, blanks in front allowed. -/
def takeField (s : List Char) : Option (Nat × List Char) := takeNumber 2 (trimStart s)

/-- A year: four digits at most, or a sign and any number of digits. -/
def takeYear (s : List Char) : Option (Int × List Char) :=
  match trimStart s with
  | '-' :: rest => (takeNumber rest.length rest).map fun r => (-(r.1 : Int), r.2)
  | '+' :: rest => (takeNumber rest.length rest).map fun r => ((r.1 : Int), r.2)
  | rest => (takeNumber 4 rest).map fun r => ((r.1 : Int), r.2)

/-- A separator, blanks in front allowed. -/
def takeMark (mark : Char) (s : List Char) : Option (List Char) :=
  match trimStart s with
  | c :: rest => if c = mark then some rest else none
  | [] => none

/-- The mark between date and time. -/
def takeDateEnd : List Char → Option (List Char)
  | 'T' :: rest => some rest
  | 't' :: rest => some rest
  | ' ' :: rest => some rest
  | _ => none

/-- A fraction: nine digits count, more are read and dropped. -/
def takeFraction : List Char → Option (Nat × List Char)
  | '.' :: rest => do
    let (n, after) ← takeNumber 9 rest
    let width := rest.length - after.length
    some (n * Nat.pow 10 (9 - width), after.dropWhile fun c => (digit? c).isSome)
  | s => some (0, s)

/-- Two digits exactly. -/
def takePair : List Char → Option (Nat × List Char)
  | a :: b :: rest => do some ((← digit? a) * 10 + (← digit? b), rest)
  | _ => none

/-- An offset in minutes: a letter Z, the name of UTC, or a sign with hours and
minutes, which colons and blanks may separate. -/
def takeOffset (s : List Char) : Option (Int × List Char) :=
  let signed (sign : Int) (rest : List Char) : Option (Int × List Char) := do
    let (hours, rest) ← takePair rest
    let (minutes, rest) ← takePair (rest.dropWhile fun c => c == ':' || isBlank c)
    if minutes < 60 then some (sign * (hours * 60 + minutes : Nat), rest) else none
  match s with
  | 'Z' :: rest => some (0, rest)
  | 'z' :: rest => some (0, rest)
  | '+' :: rest => signed 1 rest
  | '-' :: rest => signed (-1) rest
  | '−' :: rest => signed (-1) rest
  | a :: b :: c :: rest => if [a, b, c].map Char.toUpper = ['U', 'T', 'C'] then some (0, rest) else none
  | _ => none

/-- The numbers of a text, and the minutes its clock is ahead of UTC. -/
def readCivil (s : List Char) : Option (Civil × Int) := do
  let (year, s) ← takeYear s
  let s ← takeMark '-' s
  let (month, s) ← takeField s
  let s ← takeMark '-' s
  let (day, s) ← takeField s
  let s ← takeDateEnd s
  let (hour, s) ← takeField s
  let s ← takeMark ':' s
  let (minute, s) ← takeField s
  let s ← takeMark ':' s
  let (second, s) ← takeField s
  let (nano, s) ← takeFraction s
  let (ahead, s) ← takeOffset (trimStart s)
  if (trimStart s).isEmpty then some (⟨year, month, day, hour, minute, second, nano⟩, ahead) else none

/-- The moment that a text names. -/
def read? (text : String) : Option Timestamp := do
  let (civil, ahead) ← readCivil text.toList
  if civil.Valid ∧ ahead.natAbs < 1440 then ofCivil? (civil.toUtc ahead) else none

end Timestamp

end InventorySync.Time
