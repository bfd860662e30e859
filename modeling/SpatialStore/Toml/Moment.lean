import SpatialStore.Toml.Text

/-! Dates and times of day. They are checked against the calendar and then dropped, since no setting is
one. -/

namespace SpatialStore.Toml

def fixedNumber (count low high : Nat) (text : List Char) : Option (Nat × List Char) :=
  let digits := text.take count
  let number := numeral 10 digits
  if digits.length = count && digits.all Char.isDigit && low ≤ number && number ≤ high then
    some (number, text.drop count)
  else none

def expect (c : Char) : List Char → Option (List Char)
  | d :: rest => if d = c then some rest else none
  | [] => none

def isLeapYear (year : Nat) : Bool := year % 4 = 0 && (year % 100 ≠ 0 || year % 400 = 0)

def daysInMonth (year month : Nat) : Nat :=
  if month = 2 then if isLeapYear year then 29 else 28
  else if month = 4 || month = 6 || month = 9 || month = 11 then 30
  else 31

def date (text : List Char) : Option (List Char) := do
  let (year, rest) ← fixedNumber 4 0 9999 text
  let rest ← expect '-' rest
  let (month, rest) ← fixedNumber 2 1 12 rest
  let rest ← expect '-' rest
  let (_, rest) ← fixedNumber 2 1 (daysInMonth year month) rest
  return rest

def skipFraction : List Char → List Char
  | '.' :: rest => if (rest.takeWhile Char.isDigit).isEmpty then '.' :: rest
    else rest.dropWhile Char.isDigit
  | text => text

/-- A time of day; a minute may have a leap second. -/
def timeOfDay (text : List Char) : Option (List Char) := do
  let (_, rest) ← fixedNumber 2 0 23 text
  let rest ← expect ':' rest
  let (_, rest) ← fixedNumber 2 0 59 rest
  let rest ← expect ':' rest
  let (_, rest) ← fixedNumber 2 0 60 rest
  return skipFraction rest

def zone : List Char → Option (List Char)
  | c :: rest =>
    if c = 'Z' || c = 'z' then some rest
    else if c = '+' || c = '-' then do
      let (_, rest) ← fixedNumber 2 0 23 rest
      let rest ← expect ':' rest
      let (_, rest) ← fixedNumber 2 0 59 rest
      return rest
    else none
  | [] => none

def timeAfterDate (text : List Char) : Option (List Char) :=
  match text with
  | c :: rest =>
    if c = 'T' || c = 't' || c = ' ' then do
      let rest ← timeOfDay rest
      return (zone rest).getD rest
    else none
  | [] => none

def moment (text : List Char) : Option (Unit × List Char) :=
  match date text with
  | some rest => some ((), (timeAfterDate rest).getD rest)
  | none => (timeOfDay text).map fun rest => ((), rest)

end SpatialStore.Toml
