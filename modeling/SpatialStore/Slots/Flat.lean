import SpatialStore.Slots.Store

/-! Flat slot stores: all slots in one buffer, one after the other. -/

namespace SpatialStore

structure FlatSlots (γ : Type) where
  cells : Array γ
  width : Nat
  width_pos : 0 < width

namespace FlatSlots

variable {γ : Type}

def size (store : FlatSlots γ) : Nat := store.cells.size / store.width

def make [Cell γ] (count width : Nat) : Except Fault (FlatSlots γ) :=
  if width_pos : 0 < width then do
    let size ← Size.checked (count * width)
    let size ← Size.buffer size
    return { cells := Cells.blank size, width, width_pos }
  else .error .noWidth

def resize [Cell γ] (store : FlatSlots γ) (count : Nat) : Except Fault (FlatSlots γ) := do
  let size ← Size.checked (count * store.width)
  let size ← Size.buffer size
  return { store with cells := Cells.resize store.cells size }

def start (store : FlatSlots γ) (slot : Nat) : Except Fault Nat := do
  let start ← Size.checked (slot * store.width)
  let stop ← Size.checked (start + store.width)
  if stop ≤ store.cells.size then return start else throw .outOfRange

def read (store : FlatSlots γ) (slot : Nat) : Except Fault (List γ) := do
  let start ← store.start slot
  return Cells.read store.cells start store.width

def write (store : FlatSlots γ) (slot : Nat) (content : List γ) : FlatSlots γ :=
  { store with cells := Cells.write store.cells (slot * store.width) content }

def swap (store : FlatSlots γ) (first second : Nat) : Except Fault (FlatSlots γ) := do
  if first = second then return store
  let firstStart ← Size.checked (first * store.width)
  let secondStart ← Size.checked (second * store.width)
  let cells ← Cells.exchange store.cells firstStart secondStart store.width
  return { store with cells }

def copy (store : FlatSlots γ) (source target : Nat) : Except Fault (FlatSlots γ) := do
  if source = target then return store
  let sourceStart ← Size.checked (source * store.width)
  let _ ← Size.checked (sourceStart + store.width)
  let targetStart ← Size.checked (target * store.width)
  let cells ← Cells.copy store.cells sourceStart store.cells targetStart store.width
  return { store with cells }

instance [Cell γ] : SlotStore (FlatSlots γ) γ where
  make count width _ := make count width
  size := size
  width := width
  resize := resize
  read := read
  write := write
  swap := swap
  copy := copy

end FlatSlots

end SpatialStore
