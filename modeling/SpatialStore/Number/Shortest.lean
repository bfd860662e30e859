import SpatialStore.Number.Bits

/-! The shortest decimal text of a double: the fewest digits that only this double is nearest to, of
those the nearest, and of two equally near the larger. The search for the digits is exact, on natural
numbers. -/

namespace SpatialStore.Shortest

/-- A positive number as `significand · 2 ^ power`, in quarters of the last place, together with the
halfway points to its neighbours: `low` and `high` round to it when its significand is even. -/
structure Interval where
  low : Nat
  value : Nat
  high : Nat
  /-- What all three are multiplied by is two to this power. -/
  power : Int
  closed : Bool

def Interval.ofBits (bits : Nat) : Interval :=
  let field := bits / 0x10000000000000 % 0x800
  let fraction := bits % 0x10000000000000
  let significand := if field = 0 then fraction else 0x10000000000000 + fraction
  let power : Int := (if field = 0 then 1 else field : Nat) - 1077
  /- Below a power of two the neighbour is at half the distance. -/
  let step := if fraction = 0 && 1 < field then 1 else 2
  { low := 4 * significand - step, value := 4 * significand, high := 4 * significand + 2
    power, closed := significand % 2 = 0 }

structure Decimal where
  digits : Nat
  exponent : Int

/-- Both sides of a comparison between `left · 2 ^ power` and `right · 10 ^ exponent`, as natural
numbers. -/
def scaled (left : Nat) (power : Int) (right : Nat) (exponent : Int) : Nat × Nat :=
  let (left, right) := match power with
    | .ofNat up => (left <<< up, right)
    | .negSucc down => (left, right <<< (down + 1))
  match exponent with
  | .ofNat up => (left, right * Nat.pow 10 up)
  | .negSucc down => (left * Nat.pow 10 (down + 1), right)

def Interval.holds (interval : Interval) (decimal : Decimal) : Bool :=
  let (low, fromLow) := scaled interval.low interval.power decimal.digits decimal.exponent
  let (high, fromHigh) := scaled interval.high interval.power decimal.digits decimal.exponent
  if interval.closed then low ≤ fromLow && fromHigh ≤ high else low < fromLow && fromHigh < high

/-- The better of two neighbours on a decimal grid, if one lies in the interval. From halfway between
them on, the upper one is better. -/
def Interval.pick (interval : Interval) (exponent : Int) : Option Decimal :=
  let (value, unit) := scaled interval.value interval.power 1 exponent
  let below : Decimal := ⟨value / unit, exponent⟩
  let above : Decimal := ⟨value / unit + 1, exponent⟩
  let nearest := if 2 * (value % unit) < unit then [below, above] else [above, below]
  nearest.find? interval.holds

/-- The exponent of the first digit: the largest power of ten that is not above the number. -/
def Interval.leading (interval : Interval) : (fuel : Nat) → Int → Int
  | 0, exponent => exponent
  | fuel + 1, exponent =>
    let (value, unit) := scaled interval.value interval.power 1 exponent
    if unit ≤ value then exponent else interval.leading fuel (exponent - 1)

def Interval.search (interval : Interval) (leading : Int) : (count used : Nat) → Option Decimal
  | 0, _ => none
  | count + 1, used =>
    match interval.pick (leading - used) with
    | some decimal => some decimal
    | none => interval.search leading count (used + 1)

def Decimal.trim : (fuel : Nat) → Decimal → Decimal
  | 0, decimal => decimal
  | fuel + 1, decimal =>
    if decimal.digits ≠ 0 && decimal.digits % 10 = 0 then
      trim fuel ⟨decimal.digits / 10, decimal.exponent + 1⟩
    else decimal

def decimal (bits : Nat) : Decimal :=
  let interval := Interval.ofBits bits
  ((interval.search (interval.leading 700 310) 18 0).getD ⟨0, 0⟩).trim 20

def zeros (count : Nat) : String := "".pushn '0' count

def positional (digits : String) (exponent : Int) : String :=
  match exponent with
  | .ofNat up => digits ++ zeros up ++ ".0"
  | .negSucc down =>
    let places := down + 1
    if places < digits.length then
      (digits.take (digits.length - places)).toString ++ "." ++
        (digits.drop (digits.length - places)).toString
    else "0." ++ zeros (places - digits.length) ++ digits

def scientific (digits : String) (exponent : Int) : String :=
  let leading := exponent + (digits.length - 1 : Nat)
  let mantissa :=
    if digits.length = 1 then digits
    else (digits.take 1).toString ++ "." ++ (digits.drop 1).toString
  s!"{mantissa}e{leading}"

/-- From a ten-thousandth up to ten to the sixteenth, numbers are written without an exponent. -/
def magnitudeText (bits : Nat) : String :=
  if bits = 0 then "0.0"
  else
    let decimal := decimal bits
    let digits := toString decimal.digits
    let leading := decimal.exponent + (digits.length - 1 : Nat)
    if -4 ≤ leading ∧ leading < 16 then positional digits decimal.exponent
    else scientific digits decimal.exponent

def text (number : Double) : String :=
  let bits := number.magnitude
  let minus := if number.isNegative then "-" else ""
  if number.isNaN then "NaN"
  else if bits = 0x7ff0000000000000 then minus ++ "inf"
  else minus ++ magnitudeText bits

end SpatialStore.Shortest
