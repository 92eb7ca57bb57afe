/-
# Numeral.Decimal — reading unsigned numbers

Settings and counters are unsigned decimal numbers below a limit that their
field sets. A leading plus sign is allowed. Digits are read from the left, and
the first thing wrong decides the fault: a character that is no digit, or a
value that has reached the limit.
-/

namespace InventorySync.Numeral

set_option autoImplicit false

/-- Why a text is not a number of its field. -/
inductive Fault where
  | empty
  | invalidDigit
  | tooLarge
  | invalidReal
  deriving DecidableEq, Repr

namespace Fault

def message : Fault → String
  | empty => "cannot parse integer from empty string"
  | invalidDigit => "invalid digit found in string"
  | tooLarge => "number too large to fit in target type"
  | invalidReal => "invalid float literal"

end Fault

/-- How many numbers a word of that many bits can hold. -/
def wordLimit (bits : Nat) : Nat := Nat.pow 2 bits

def digit? (c : Char) : Option Nat :=
  if '0' ≤ c && c ≤ '9' then some (c.toNat - '0'.toNat) else none

/-- Continue a number whose digits so far are worth `acc`. -/
def readDigits (limit : Nat) (acc : Nat) : List Char → Except Fault Nat
  | [] => .ok acc
  | c :: rest =>
    match digit? c with
    | none => .error .invalidDigit
    | some d =>
      if acc * 10 + d < limit then readDigits limit (acc * 10 + d) rest else .error .tooLarge

/-- The number below `limit` that the text writes. -/
def readUnsigned (limit : Nat) (s : String) : Except Fault Nat :=
  match s.toList with
  | [] => .error .empty
  | ['+'] => .error .invalidDigit
  | '+' :: digits => readDigits limit 0 digits
  | digits => readDigits limit 0 digits

theorem readDigits_lt {limit acc n : Nat} {s : List Char} (hacc : acc < limit)
    (h : readDigits limit acc s = .ok n) : n < limit := by
  induction s generalizing acc with
  | nil => simp_all [readDigits]
  | cons c rest ih =>
    simp only [readDigits] at h
    split at h
    · simp at h
    · split at h
      · exact ih ‹_› h
      · simp at h

/-- What is read is below the limit. -/
theorem readUnsigned_lt {limit n : Nat} {s : String} (hpos : 0 < limit)
    (h : readUnsigned limit s = .ok n) : n < limit := by
  unfold readUnsigned at h
  split at h
  · simp at h
  · simp at h
  · exact readDigits_lt hpos h
  · exact readDigits_lt hpos h

/-- The decimal digits of a number, as text. -/
def decimal (n : Nat) : List Char := Nat.toDigits 10 n

/-- A number with at least `width` digits, zeros in front. -/
def padded (width n : Nat) : List Char :=
  List.replicate (width - (decimal n).length) '0' ++ decimal n

end InventorySync.Numeral
