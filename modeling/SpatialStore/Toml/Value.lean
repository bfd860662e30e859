import SpatialStore.Toml.Strings
import SpatialStore.Toml.Numbers
import SpatialStore.Toml.Moment
import SpatialStore.Toml.Table

/-! Keys and values. Arrays and inline tables nest, and `depth` bounds how far. -/

namespace SpatialStore.Toml

/-- Nesting, and the parts of a key, stay below this. -/
def depthLimit : Nat := 80

def isBareKeyChar (c : Char) : Bool := c.isAlphanum || c = '-' || c = '_'

def keyPart (text : List Char) : Option (String × List Char) :=
  let bare := text.takeWhile isBareKeyChar
  if bare.isEmpty then lineString text
  else some (String.ofList bare, text.dropWhile isBareKeyChar)

def keyParts : (fuel : Nat) → Reader (List String)
  | 0, _ => none
  | fuel + 1, text => do
    let (part, rest) ← keyPart (skipBlanks text)
    match skipBlanks rest with
    | '.' :: rest => do
      let (parts, rest) ← keyParts fuel rest
      return (part :: parts, rest)
    | rest => return ([part], rest)

def key (text : List Char) : Option ((List String × String) × List Char) := do
  let (parts, rest) ← keyParts (text.length + 1) text
  if parts.length < depthLimit then
    let last ← parts.getLast?
    return ((parts.dropLast, last), rest)
  else none

/-- The elements of an array, after its opening bracket. A comma may follow the last. -/
def elements (element : Reader Item) : (fuel : Nat) → List Char → Option (List Char)
  | 0, _ => none
  | fuel + 1, text =>
    match skipTrivia text with
    | ']' :: rest => some rest
    | text => do
      let (_, rest) ← element text
      match skipTrivia rest with
      | ',' :: rest => elements element fuel rest
      | ']' :: rest => return rest
      | _ => none

def assignment (value : Reader Item) (text : List Char) :
    Option ((List String × String) × Item × List Char) := do
  let (name, rest) ← key text
  let rest ← expect '=' rest
  let (item, rest) ← value (skipBlanks rest)
  return (name, item, rest)

/-- The pairs of an inline table, after its opening brace. No comma may follow the last, and the table
stays on its line. -/
def pairs (value : Reader Item) : (fuel : Nat) → Entries → List Char → Option (List Char)
  | 0, _, _ => none
  | fuel + 1, entries, text => do
    let ((path, last), item, rest) ← assignment value text
    let entries ← entries.assign path last item
    match skipBlanks rest with
    | ',' :: rest => pairs value fuel entries rest
    | '}' :: rest => return rest
    | _ => none

def simpleValue (text : List Char) : Option (Item × List Char) :=
  match text with
  | 't' :: 'r' :: 'u' :: 'e' :: rest => some (.other, rest)
  | 'f' :: 'a' :: 'l' :: 's' :: 'e' :: rest => some (.other, rest)
  | c :: _ =>
    if c = '"' || c = '\'' then (string text).map fun (_, rest) => (.other, rest)
    else match (moment text).orElse fun _ => float text with
      | some (_, rest) => some (.other, rest)
      | none => (integer text).map fun (number, rest) => (.integer number, rest)
  | [] => none

def value : (depth : Nat) → Reader Item
  | 0, text => match text with
    | '[' :: _ => none
    | '\x7b' :: _ => none
    | _ => simpleValue text
  | depth + 1, text => match text with
    | '[' :: rest =>
      (elements (value depth) (rest.length + 1) rest).map fun rest => (.other, rest)
    | '\x7b' :: rest =>
      match skipBlanks rest with
      | '}' :: rest => some (.other, rest)
      | rest => (pairs (value depth) (rest.length + 1) [] rest).map fun rest => (.other, rest)
    | _ => simpleValue text

end SpatialStore.Toml
