import SpatialStore.Toml.Value

/-! Documents: a sequence of settings, each under the last header before it. -/

namespace SpatialStore.Toml

structure Draft where
  entries : Entries := []
  header? : Option (List String × String) := none

namespace Draft

def path (draft : Draft) : List String :=
  match draft.header? with
  | none => []
  | some (path, last) => path ++ [last]

def set (draft : Draft) (name : List String × String) (item : Item) : Option Draft :=
  (draft.entries.changeAt draft.path fun inner => inner.assign name.1 name.2 item).map
    fun entries => { draft with entries }

def startTable (draft : Draft) (name : List String × String) : Option Draft :=
  (draft.entries.openTable name.1 name.2).map fun entries => { entries, header? := some name }

def startElement (draft : Draft) (name : List String × String) : Option Draft :=
  (draft.entries.openElement name.1 name.2).map fun entries => { entries, header? := some name }

end Draft

/-- A statement that starts with something other than a comment or a line end. -/
def statement (draft : Draft) (text : List Char) : Option (Draft × List Char) :=
  match text with
  | '[' :: '[' :: rest => do
    let (name, rest) ← key rest
    let rest ← expect ']' rest
    let rest ← expect ']' rest
    let rest ← endLine? rest
    return (← draft.startElement name, rest)
  | '[' :: rest => do
    let (name, rest) ← key rest
    let rest ← expect ']' rest
    let rest ← endLine? rest
    return (← draft.startTable name, rest)
  | text => do
    let (name, item, rest) ← assignment (value (depthLimit - 1)) text
    let rest ← endLine? rest
    return (← draft.set name item, rest)

def statements : (fuel : Nat) → Draft → List Char → Option Entries
  | 0, draft, text => if text.isEmpty then some draft.entries else none
  | fuel + 1, draft, text =>
    match skipBlanks text with
    | [] => some draft.entries
    | text =>
      match newline? text with
      | some rest => statements fuel draft rest
      | none =>
        if text.head? = some '#' then do
          let rest ← endLine? text
          statements fuel draft rest
        else do
          let (draft, rest) ← statement draft text
          statements fuel draft rest

/-- Reads a document; a byte order mark may precede it. -/
def read (text : String) : Option Entries :=
  let characters := match text.toList with
    | '\ufeff' :: rest => rest
    | characters => characters
  statements (characters.length + 1) {} characters

end SpatialStore.Toml
