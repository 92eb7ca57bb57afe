/-
# Time.Duration — spans of time

A span is a whole number of nanoseconds; its seconds fit an unsigned 64-bit
word. Spans come from whole seconds and milliseconds, or from a double of
seconds, which rounds to the nearest nanosecond, ties to even, on the exact value
of the double.

The text of a span uses the largest of `s`, `ms`, `µs`, `ns` that it reaches, with
the fraction that is left and no trailing zeros.
-/
import InventorySync.Numeral.Binary64

namespace InventorySync.Time

set_option autoImplicit false

open InventorySync.Numeral

/-- A span of time in nanoseconds. -/
structure Duration where
  nanos : Nat
  deriving DecidableEq, Repr

namespace Duration

def nanosPerSecond : Nat := 1000000000

/-- The seconds of a span stay below this. -/
def secondsLimit : Nat := wordLimit 64

def zero : Duration := ⟨0⟩

instance : Inhabited Duration := ⟨zero⟩

def ofSeconds (n : Nat) : Duration := ⟨n * nanosPerSecond⟩

def ofMillis (n : Nat) : Duration := ⟨n * 1000000⟩

def ofParts (seconds nanos : Nat) : Duration := ⟨seconds * nanosPerSecond + nanos⟩

/-- Whole seconds. -/
def seconds (d : Duration) : Nat := d.nanos / nanosPerSecond

/-- Nanoseconds past the whole seconds. -/
def subsecond (d : Duration) : Nat := d.nanos % nanosPerSecond

/-- The span is one that a word of seconds can hold. -/
def Fits (d : Duration) : Prop := d.seconds < secondsLimit

instance (d : Duration) : Decidable d.Fits := inferInstanceAs (Decidable (_ < _))

instance : LE Duration := ⟨fun a b => a.nanos ≤ b.nanos⟩
instance : LT Duration := ⟨fun a b => a.nanos < b.nanos⟩
instance (a b : Duration) : Decidable (a ≤ b) := Nat.decLe a.nanos b.nanos
instance (a b : Duration) : Decidable (a < b) := Nat.decLt a.nanos b.nanos
instance : Min Duration := ⟨fun a b => ⟨min a.nanos b.nanos⟩⟩
instance : Max Duration := ⟨fun a b => ⟨max a.nanos b.nanos⟩⟩

/-- A multiple of a span, if it fits. -/
def times? (d : Duration) (n : Nat) : Option Duration :=
  let product : Duration := ⟨d.nanos * n⟩
  if product.Fits then some product else none

/-- Seconds as a double: the whole seconds plus the rest over a thousand
million, each rounded. -/
def toReal (d : Duration) : Float :=
  d.seconds.toUInt64.toFloat + d.subsecond.toUInt64.toFloat / 1e9

/-- `n / d` rounded to the nearest whole number, ties to even. -/
def roundEven (n d : Nat) : Nat :=
  let q := n / d
  let r := n % d
  if 2 * r < d then q
  else if 2 * r = d then q + q % 2
  else q + 1

/-- The span nearest to a double of seconds; none if it is negative, not a
number, or beyond the limit. -/
def ofReal? (x : Float) : Option Duration :=
  match Binary64.ofFloat x with
  | .finite negative m q =>
    if negative && m != 0 then none
    else
      let r := Ratio.scaled (m * nanosPerSecond) q
      let d : Duration := ⟨roundEven r.num r.den⟩
      if d.Fits then some d else none
  | _ => none

/-- A fraction of `width` digits after a point, trailing zeros dropped; nothing
if it is zero. -/
def fraction (width n : Nat) : List Char :=
  if n = 0 then []
  else '.' :: ((padded width n).reverse.dropWhile (· == '0')).reverse

/-- The text of a span. -/
def text (d : Duration) : String :=
  let amount (unit width : Nat) (name : String) : String :=
    String.ofList (decimal (d.nanos / unit) ++ fraction width (d.nanos % unit)) ++ name
  if d.nanos ≥ 1000000000 then amount 1000000000 9 "s"
  else if d.nanos ≥ 1000000 then amount 1000000 6 "ms"
  else if d.nanos ≥ 1000 then amount 1000 3 "µs"
  else amount 1 0 "ns"

end Duration

end InventorySync.Time
