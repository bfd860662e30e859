/-! Tables. A table remembers how it came to be, because that decides what may still be added to it: a
table with a header of its own is closed to dotted keys, one that only dotted keys have made is closed
to headers, and one that a longer header has implied is open to a header. -/

namespace SpatialStore.Toml

inductive Origin
  | header
  | implied
  | dotted
  deriving DecidableEq

/-- What a key can hold: a number, some other value, a table or an array of tables. -/
inductive Item
  | integer (number : Int)
  | other
  | table (origin : Origin) (entries : List (String × Item))
  | tables (elements : List (List (String × Item)))

abbrev Entries := List (String × Item)

namespace Entries

def put (entries : Entries) (key : String) (item : Item) : Entries :=
  match entries with
  | [] => [(key, item)]
  | (other, held) :: rest =>
    if other = key then (key, item) :: rest else (other, held) :: put rest key item

def changeLast (change : Entries → Option Entries) (elements : List Entries) :
    Option (List Entries) :=
  match elements.getLast? with
  | none => none
  | some last => (change last).map fun last => elements.dropLast ++ [last]

/-- Sets the key at the end of a dotted path. The tables on the way are made as needed, none of them
may have a header, and the key must be new. -/
def assign (entries : Entries) (path : List String) (key : String) (item : Item) : Option Entries :=
  match path with
  | [] => match entries.lookup key with
    | none => some (entries.put key item)
    | some _ => none
  | first :: path => match entries.lookup first with
    | none => (assign [] path key item).map fun inner => entries.put first (.table .dotted inner)
    | some (.table origin inner) =>
      if origin = .header || (path.isEmpty && origin ≠ .dotted) then none
      else (assign inner path key item).map fun inner => entries.put first (.table origin inner)
    | some (.tables elements) =>
      if path.isEmpty then none
      else (changeLast (fun last => assign last path key item) elements).map fun elements =>
        entries.put first (.tables elements)
    | some _ => none

/-- Changes the entries at the end of a header's path. The tables on the way are implied as needed; of
an array of tables the last element is meant. -/
def changeAt (entries : Entries) (path : List String) (change : Entries → Option Entries) :
    Option Entries :=
  match path with
  | [] => change entries
  | first :: path => match entries.lookup first with
    | none => (changeAt [] path change).map fun inner => entries.put first (.table .implied inner)
    | some (.table origin inner) =>
      (changeAt inner path change).map fun inner => entries.put first (.table origin inner)
    | some (.tables elements) =>
      (changeLast (fun last => changeAt last path change) elements).map fun elements =>
        entries.put first (.tables elements)
    | some _ => none

/-- Opens a table under its own header: it must be new, or only implied so far. -/
def openTable (entries : Entries) (path : List String) (key : String) : Option Entries :=
  entries.changeAt path fun inner => match inner.lookup key with
    | none => some (inner.put key (.table .header []))
    | some (.table .implied held) => some (inner.put key (.table .header held))
    | some _ => none

def openElement (entries : Entries) (path : List String) (key : String) : Option Entries :=
  entries.changeAt path fun inner => match inner.lookup key with
    | none => some (inner.put key (.tables [[]]))
    | some (.tables elements) => some (inner.put key (.tables (elements ++ [[]])))
    | some _ => none

end Entries

end SpatialStore.Toml
