import SpatialStore.Toml.Text

/-! Strings: basic ones with escapes, literal ones without, each on one line or on several. -/

namespace SpatialStore.Toml

def codePoint (count : Nat) (text : List Char) : Option (Char × List Char) :=
  let digits := text.take count
  let point := numeral 16 digits
  if digits.length = count && digits.all isHexDigit then
    if h : point.isValidChar then some (Char.ofNatAux point h, text.drop count) else none
  else none

def escape : Reader Char
  | 'b' :: rest => some ('\x08', rest)
  | 't' :: rest => some ('\t', rest)
  | 'n' :: rest => some ('\n', rest)
  | 'f' :: rest => some ('\x0c', rest)
  | 'r' :: rest => some ('\r', rest)
  | '"' :: rest => some ('"', rest)
  | '\\' :: rest => some ('\\', rest)
  | 'u' :: rest => codePoint 4 rest
  | 'U' :: rest => codePoint 8 rest
  | _ => none

def basicBody : (fuel : Nat) → Reader (List Char)
  | 0, _ => none
  | _ + 1, [] => none
  | fuel + 1, c :: rest =>
    if c = '"' then some ([], rest)
    else if c = '\\' then do
      let (escaped, rest) ← escape rest
      let (tail, rest) ← basicBody fuel rest
      return (escaped :: tail, rest)
    else if isPlain c then do
      let (tail, rest) ← basicBody fuel rest
      return (c :: tail, rest)
    else none

def literalBody (text : List Char) : Option (List Char × List Char) :=
  let inside := text.takeWhile fun c => c ≠ '\'' && isPlain c
  match text.dropWhile fun c => c ≠ '\'' && isPlain c with
  | '\'' :: rest => some (inside, rest)
  | _ => none

/-- A run of quotes inside a string of several lines: fewer than three belong to it, three end it, and
up to two before those three belong to it again. -/
inductive QuoteRun
  | inside (count : Nat) (rest : List Char)
  | closing (count : Nat) (rest : List Char)

def quoteRun (quote : Char) (text : List Char) : QuoteRun :=
  let count := (text.takeWhile (· = quote)).length
  if count < 3 then .inside count (text.drop count)
  else .closing (min (count - 3) 2) (text.drop (min count 5))

def skipBlankLines : (fuel : Nat) → List Char → List Char
  | 0, text => text
  | fuel + 1, text =>
    let rest := skipBlanks text
    match newline? rest with
    | some next => skipBlankLines fuel next
    | none => rest

/-- The rest of a basic string of several lines. A backslash at the end of a line takes the line end
and all blanks and line ends after it away. -/
def basicLines : (fuel : Nat) → Reader (List Char)
  | 0, _ => none
  | _ + 1, [] => none
  | fuel + 1, c :: rest =>
    if c = '"' then
      match quoteRun '"' (c :: rest) with
      | .closing count rest => some (List.replicate count '"', rest)
      | .inside count rest => do
        let (tail, rest) ← basicLines fuel rest
        return (List.replicate count '"' ++ tail, rest)
    else if c = '\\' then
      match newline? (skipBlanks rest) with
      | some next => basicLines fuel (skipBlankLines next.length next)
      | none => do
        let (escaped, rest) ← escape rest
        let (tail, rest) ← basicLines fuel rest
        return (escaped :: tail, rest)
    else
      match newline? (c :: rest) with
      | some next => do
        let (tail, rest) ← basicLines fuel next
        return ('\n' :: tail, rest)
      | none =>
        if isPlain c then do
          let (tail, rest) ← basicLines fuel rest
          return (c :: tail, rest)
        else none

def literalLines : (fuel : Nat) → Reader (List Char)
  | 0, _ => none
  | _ + 1, [] => none
  | fuel + 1, c :: rest =>
    if c = '\'' then
      match quoteRun '\'' (c :: rest) with
      | .closing count rest => some (List.replicate count '\'', rest)
      | .inside count rest => do
        let (tail, rest) ← literalLines fuel rest
        return (List.replicate count '\'' ++ tail, rest)
    else
      match newline? (c :: rest) with
      | some next => do
        let (tail, rest) ← literalLines fuel next
        return ('\n' :: tail, rest)
      | none =>
        if isPlain c then do
          let (tail, rest) ← literalLines fuel rest
          return (c :: tail, rest)
        else none

def lineString : Reader String
  | '"' :: rest => (basicBody (rest.length + 1) rest).map fun (body, rest) => (String.ofList body, rest)
  | '\'' :: rest => (literalBody rest).map fun (body, rest) => (String.ofList body, rest)
  | _ => none

/-- A string of several lines; a line end right after the opening quotes does not count. -/
def blockString (body : Nat → Reader (List Char)) (text : List Char) :
    Option (String × List Char) :=
  let start := (newline? text).getD text
  (body (start.length + 1) start).map fun (body, rest) => (String.ofList body, rest)

def string : Reader String
  | '"' :: '"' :: '"' :: rest => blockString basicLines rest
  | '\'' :: '\'' :: '\'' :: rest => blockString literalLines rest
  | text => lineString text

end SpatialStore.Toml
