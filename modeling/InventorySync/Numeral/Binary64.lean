/-
# Numeral.Binary64 — the text of a double, and a double from text

A finite double is `m · 2^q`. The reals that round to it form an interval, and
the text of the double is the decimal in that interval with the fewest digits,
the nearest such decimal if there are several. `shortest` finds it in exact
arithmetic; `Layout` says where its point goes. Plain text never uses an
exponent and drops a zero fraction; diagnostic text keeps `.0` and turns to an
exponent below `1e-4` and from `1e16` on.

Reading accepts an optional sign, digits with an optional point, and an optional
exponent, or one of the names of infinity and not-a-number in any case.
-/
import InventorySync.Numeral.Decimal

namespace InventorySync.Numeral

set_option autoImplicit false

/-- The parts of a double. A finite one is `± coefficient · 2 ^ exponent`. -/
inductive Binary64 where
  | notANumber
  | infinite (negative : Bool)
  | finite (negative : Bool) (coefficient : Nat) (exponent : Int)
  deriving DecidableEq, Repr

namespace Binary64

def ofBits (bits : Nat) : Binary64 :=
  let negative := decide (bits / Nat.pow 2 63 = 1)
  let fraction := bits % Nat.pow 2 52
  let power : Nat := bits / Nat.pow 2 52 % Nat.pow 2 11
  if power = 2047 then
    if fraction = 0 then infinite negative else notANumber
  else if power = 0 then finite negative fraction (-1074)
  else finite negative (Nat.pow 2 52 + fraction) ((power : Int) - 1075)

def ofFloat (x : Float) : Binary64 := ofBits x.toBits.toNat

end Binary64

/-- `digits · 10 ^ exponent`. -/
structure Scientific where
  digits : Nat
  exponent : Int
  deriving DecidableEq, Repr

/-- A positive rational as numerator and denominator. -/
structure Ratio where
  num : Nat
  den : Nat

namespace Ratio

/-- `n · 2^q`. -/
def scaled (n : Nat) (q : Int) : Ratio := ⟨n * Nat.pow 2 q.toNat, Nat.pow 2 (-q).toNat⟩

/-- Compare with `d · 10^e`. -/
def compareScientific (r : Ratio) (d : Nat) (e : Int) : Ordering :=
  compare (r.num * Nat.pow 10 (-e).toNat) (d * Nat.pow 10 e.toNat * r.den)

/-- `⌊r / 10^e⌋`. -/
def floorScientific (r : Ratio) (e : Int) : Nat :=
  r.num * Nat.pow 10 (-e).toNat / (r.den * Nat.pow 10 e.toNat)

/-- Search downwards for the `k` with `10^(k-1) ≤ r < 10^k`. -/
def magnitudeFrom (r : Ratio) : Nat → Int → Int
  | 0, k => k
  | fuel + 1, k => if r.compareScientific 1 (k - 1) == .lt then magnitudeFrom r fuel (k - 1) else k

/-- The number of digits before the point; zero or negative for a fraction. -/
def magnitude (r : Ratio) : Int :=
  let whole := (Nat.toDigits 10 (r.num / r.den)).length
  r.magnitudeFrom 400 whole

end Ratio

/-- The reals that round to a positive double, ends included or not. -/
structure Rounding where
  value : Ratio
  low : Ratio
  high : Ratio
  closed : Bool

namespace Rounding

/-- The interval of `m · 2^q`, in quarters of the last place: half a place on
either side, but a quarter below a power of two, where the spacing changes. -/
def of (m : Nat) (q : Int) : Rounding :=
  let below := if m = Nat.pow 2 52 && q > -1074 then 1 else 2
  { value := .scaled (4 * m) (q - 2)
    low := .scaled (4 * m - below) (q - 2)
    high := .scaled (4 * m + 2) (q - 2)
    closed := m % 2 = 0 }

def holds (i : Rounding) (d : Nat) (e : Int) : Bool :=
  match i.low.compareScientific d e, i.high.compareScientific d e with
  | .lt, .gt => true
  | .eq, _ => i.closed
  | _, .eq => i.closed
  | _, _ => false

/-- The decimal of exponent `e` next to the value that lies in the interval; of
two, the nearer one, and the upper one of two equally near. -/
def onGrid (i : Rounding) (e : Int) : Option Scientific :=
  let d := i.value.floorScientific e
  match i.holds d e && d != 0, i.holds (d + 1) e with
  | true, true =>
    -- the value against the middle of the two
    if i.value.compareScientific (10 * d + 5) (e - 1) == .lt then some ⟨d, e⟩ else some ⟨d + 1, e⟩
  | true, false => some ⟨d, e⟩
  | false, true => some ⟨d + 1, e⟩
  | false, false => none

/-- The coarsest of the next `n` grids, each ten times finer, that has a decimal
in the interval. -/
def coarsest (i : Rounding) : Nat → Int → Option Scientific
  | 0, _ => none
  | n + 1, e => (i.onGrid e).orElse fun _ => i.coarsest n (e - 1)

end Rounding

/-- Move trailing zeros of the digits into the exponent. -/
def Scientific.strip (s : Scientific) : Nat → Scientific
  | 0 => s
  | n + 1 =>
    if s.digits % 10 = 0 && s.digits != 0 then
      Scientific.strip ⟨s.digits / 10, s.exponent + 1⟩ n
    else s

/-- The shortest decimal that reads back as the positive double `m · 2^q`. -/
def shortest (m : Nat) (q : Int) : Scientific :=
  let i := Rounding.of m q
  let found := (i.coarsest 17 (i.value.magnitude - 1)).getD ⟨m, 0⟩
  found.strip 20

/-- How a decimal is laid out: the magnitudes written with a point and no
exponent, and whether a whole number keeps its `.0`. -/
structure Layout where
  positional : Int → Bool
  keepsZero : Bool

namespace Layout

/-- No exponent ever, and no fraction of zero. -/
def plain : Layout := ⟨fun _ => true, false⟩

/-- At least one digit after the point, and an exponent outside `1e-4 … 1e16`. -/
def diagnostic : Layout := ⟨fun k => -4 < k && k ≤ 16, true⟩

/-- As diagnostic text, with one more magnitude below the point: numbers in JSON. -/
def json : Layout := ⟨fun k => -5 < k && k ≤ 16, true⟩

/-- Write digits whose point stands after the first `point` of them. -/
def place (l : Layout) (digits : List Char) (point : Int) : List Char :=
  let count : Int := digits.length
  if point ≤ 0 then '0' :: '.' :: (List.replicate (-point).toNat '0' ++ digits)
  else if count ≤ point then
    digits ++ List.replicate (point - count).toNat '0' ++ (if l.keepsZero then ['.', '0'] else [])
  else digits.take point.toNat ++ '.' :: digits.drop point.toNat

/-- Write digits with an exponent: one digit before the point. -/
def exponential (digits : List Char) (point : Int) : List Char :=
  let mantissa :=
    match digits with
    | d :: e :: rest => d :: '.' :: e :: rest
    | ds => ds
  mantissa ++ 'e' :: (toString (point - 1)).toList

def render (l : Layout) (s : Scientific) : List Char :=
  let digits := decimal s.digits
  let point := s.exponent + digits.length
  if l.positional point then l.place digits point else exponential digits point

end Layout

/-- The text of a double in a layout. -/
def realText (l : Layout) (x : Binary64) : String :=
  match x with
  | .notANumber => "NaN"
  | .infinite negative => if negative then "-inf" else "inf"
  | .finite negative m q =>
    let body := if m = 0 then l.place ['0'] 1 else l.render (shortest m q)
    String.ofList (if negative then '-' :: body else body)

/-! ## Reading -/

/-- Digits with an optional point: the digits' value, how many stand after the
point, how many there are in all, and the rest. -/
def readCoefficient (s : List Char) : Nat × Nat × Nat × List Char :=
  let value (ds : List Char) (acc : Nat) : Nat := ds.foldl (fun n c => n * 10 + (c.toNat - 48)) acc
  let isDigit (c : Char) : Bool := (digit? c).isSome
  let whole := s.takeWhile isDigit
  match s.dropWhile isDigit with
  | '.' :: rest =>
    let part := rest.takeWhile isDigit
    (value part (value whole 0), part.length, whole.length + part.length, rest.dropWhile isDigit)
  | rest => (value whole 0, 0, whole.length, rest)

/-- An exponent, or zero if the text ends here. -/
def readExponent : List Char → Option Int
  | [] => some 0
  | e :: rest =>
    if e = 'e' || e = 'E' then
      let (negative, digits) : Bool × List Char :=
        match rest with
        | '-' :: ds => (true, ds)
        | '+' :: ds => (false, ds)
        | ds => (false, ds)
      if digits.isEmpty || digits.any (fun c => (digit? c).isNone) then none
      else
        let n : Int := digits.foldl (fun n c => n * 10 + (c.toNat - 48)) (0 : Nat)
        some (if negative then -n else n)
    else none

/-- The double nearest to `digits · 10^exponent`. Exponents so large or small
that no double can be finite or positive are settled first. -/
def nearest (digits : Nat) (exponent : Int) : Float :=
  if digits = 0 then 0
  else
    let magnitude : Int := exponent + (decimal digits).length
    if magnitude > 320 then 1.0 / 0.0
    else if magnitude < -340 then 0
    else Float.ofScientific digits (exponent < 0) exponent.natAbs

def readUnsignedReal (s : List Char) : Option Float :=
  let name := String.ofList (s.map Char.toLower)
  if name = "inf" || name = "infinity" then some (1.0 / 0.0)
  else if name = "nan" then some (0.0 / 0.0)
  else
    let (value, places, count, rest) := readCoefficient s
    if count = 0 then none
    else (readExponent rest).map fun e => nearest value (e - places)

/-- The double that a text writes. -/
def readReal (s : String) : Except Fault Float :=
  let read : Option Float :=
    match s.toList with
    | '-' :: rest => (readUnsignedReal rest).map (-·)
    | '+' :: rest => readUnsignedReal rest
    | rest => readUnsignedReal rest
  match read with
  | some x => .ok x
  | none => .error .invalidReal

end InventorySync.Numeral
