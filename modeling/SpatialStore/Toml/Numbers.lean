import SpatialStore.Toml.Text

/-! Integers and floats. An integer is a signed 64-bit number. A float is kept as it is written, since
no setting is a float, but one that is too large to be a double is not a float. -/

namespace SpatialStore.Toml

/-- Digits that may be parted by single underscores; returned without them. -/
def digitRun (isDigit : Char → Bool) : (fuel : Nat) → List Char → Option (List Char × List Char)
  | 0, _ => none
  | fuel + 1, text =>
    let digits := text.takeWhile isDigit
    if digits.isEmpty then none
    else match text.dropWhile isDigit with
      | '_' :: rest => do
        let (tail, rest) ← digitRun isDigit fuel rest
        return (digits ++ tail, rest)
      | rest => some (digits, rest)

def digits (isDigit : Char → Bool) (text : List Char) : Option (List Char × List Char) :=
  digitRun isDigit (text.length + 1) text

/-- Takes a sign; `true` is minus. -/
def sign (text : List Char) : Bool × List Char :=
  match text with
  | '+' :: rest => (false, rest)
  | '-' :: rest => (true, rest)
  | _ => (false, text)

/-- A decimal number without leading zeros. -/
def decimalDigits : Reader (List Char)
  | '0' :: rest => some (['0'], rest)
  | text => digits Char.isDigit text

def inRange (number : Int) : Option Int :=
  if -0x8000000000000000 ≤ number ∧ number < 0x8000000000000000 then some number else none

def radixInteger (base : Nat) (isDigit : Char → Bool) (text : List Char) :
    Option (Int × List Char) := do
  let (digits, rest) ← digits isDigit text
  let number ← inRange (numeral base digits)
  return (number, rest)

def integer : Reader Int
  | '0' :: 'x' :: rest => radixInteger 16 isHexDigit rest
  | '0' :: 'o' :: rest => radixInteger 8 (fun c => '0' ≤ c && c ≤ '7') rest
  | '0' :: 'b' :: rest => radixInteger 2 (fun c => c = '0' || c = '1') rest
  | text => do
    let (negative, unsigned) := sign text
    let (digits, rest) ← decimalDigits unsigned
    let magnitude : Int := numeral 10 digits
    let number ← inRange (if negative then -magnitude else magnitude)
    return (number, rest)

def fraction : Reader (List Char)
  | '.' :: rest => digits Char.isDigit rest
  | _ => none

def exponent : Reader Int
  | c :: rest =>
    if c = 'e' || c = 'E' then do
      let (negative, unsigned) := sign rest
      let (digits, rest) ← digits Char.isDigit unsigned
      let magnitude : Int := numeral 10 digits
      return (if negative then -magnitude else magnitude, rest)
    else none
  | [] => none

/-- Whether `mantissa · 10 ^ exponent` rounds to infinity as a double. The first test settles exponents
that are far away without computing the power. -/
def overflows (mantissa : Nat) (exponent : Int) : Bool :=
  let places : Int := (Nat.toDigits 10 mantissa).length
  if mantissa = 0 || places + exponent < 309 then false
  else if 310 < places + exponent then true
  else
    let limit := 1 <<< 1024 - 1 <<< 970
    match exponent with
    | .ofNat up => limit ≤ mantissa * Nat.pow 10 up
    | .negSucc down => limit * Nat.pow 10 (down + 1) ≤ mantissa

def decimalFloat (text : List Char) : Option (Unit × List Char) := do
  let (negative, unsigned) := sign text
  let (whole, rest) ← decimalDigits unsigned
  let (parts, power, rest) ← match fraction rest with
    | some (parts, rest) =>
      match exponent rest with
      | some (power, rest) => some (parts, power, rest)
      | none => some (parts, 0, rest)
    | none => (exponent rest).map fun (power, rest) => ([], power, rest)
  if !negative && overflows (numeral 10 (whole ++ parts)) (power - parts.length) then none
  else some ((), rest)

def specialFloat (text : List Char) : Option (Unit × List Char) :=
  match (sign text).2 with
  | 'i' :: 'n' :: 'f' :: rest => some ((), rest)
  | 'n' :: 'a' :: 'n' :: rest => some ((), rest)
  | _ => none

def float (text : List Char) : Option (Unit × List Char) :=
  (decimalFloat text).orElse fun _ => specialFloat text

end SpatialStore.Toml
