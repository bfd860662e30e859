import SpatialStore.Slots.Store

/-! Chunked slot stores: slots are spread over buffers of `chunkSlots` slots each, so that growing never
moves a cell. A chunk can hold more slots than are in use, with cells left over from before the store
shrank. -/

namespace SpatialStore

structure ChunkedSlots (γ : Type) where
  chunks : Array (Array γ)
  chunkSlots : Nat
  width : Nat
  size : Nat
  width_pos : 0 < width
  chunkSlots_pos : 0 < chunkSlots

namespace ChunkedSlots

variable {γ : Type}

def locate (store : ChunkedSlots γ) (slot : Nat) : Except Fault (Nat × Nat) :=
  if slot < store.size then do
    let start ← Size.checked ((slot % store.chunkSlots) * store.width)
    let _ ← Size.checked (start + store.width)
    return (slot / store.chunkSlots, start)
  else .error (.slotOutOfBounds slot store.size)

def readAt (store : ChunkedSlots γ) (chunk start : Nat) : List γ :=
  Cells.read (store.chunks.getD chunk #[]) start store.width

def writeAt (store : ChunkedSlots γ) (chunk start : Nat) (content : List γ) : ChunkedSlots γ :=
  { store with chunks := store.chunks.modify chunk fun cells => Cells.write cells start content }

def read (store : ChunkedSlots γ) (slot : Nat) : Except Fault (List γ) := do
  let (chunk, start) ← store.locate slot
  return store.readAt chunk start

def write (store : ChunkedSlots γ) (slot : Nat) (content : List γ) : ChunkedSlots γ :=
  store.writeAt (slot / store.chunkSlots) ((slot % store.chunkSlots) * store.width) content

def blankFrom [Cell γ] (store : ChunkedSlots γ) (slot : Nat) : (count : Nat) → ChunkedSlots γ
  | 0 => store
  | count + 1 =>
    (store.write slot (List.replicate store.width Cell.blank)).blankFrom (slot + 1) count

def addChunks [Cell γ] (store : ChunkedSlots γ) (count : Nat) : Except Fault (ChunkedSlots γ) :=
  if count = 0 then .ok store
  else do
    let size ← Size.buffer (store.chunkSlots * store.width)
    return { store with chunks := store.chunks ++ Array.replicate count (Cells.blank size) }

/-- Drops whole chunks when it shrinks, and keeps what the last chunk holds. So when it grows, the
slots that come back in that chunk are blanked before new chunks are added. -/
def resize [Cell γ] (store : ChunkedSlots γ) (count : Nat) : Except Fault (ChunkedSlots γ) := do
  let needed := Size.boxes count store.chunkSlots
  let _ ← Size.checked (store.chunkSlots * store.width)
  if store.size < count then
    let kept ← Size.checked (store.chunks.size * store.chunkSlots)
    let cleared := store.blankFrom store.size (min count kept - store.size)
    let grown ← cleared.addChunks (needed - store.chunks.size)
    return { grown with size := count }
  else
    return { store with chunks := store.chunks.extract 0 needed, size := count }

def make [Cell γ] (count width chunkSlots : Nat) : Except Fault (ChunkedSlots γ) :=
  if width_pos : 0 < width then
    if chunkSlots_pos : 0 < chunkSlots then
      resize { chunks := #[], chunkSlots, width, size := 0, width_pos, chunkSlots_pos } count
    else .error .noChunkSlots
  else .error .noWidth

def chunk (store : ChunkedSlots γ) (index : Nat) : Except Fault (Array γ) :=
  match store.chunks[index]? with
  | some cells => .ok cells
  | none => .error .outOfRange

def setChunk (store : ChunkedSlots γ) (index : Nat) (cells : Array γ) : ChunkedSlots γ :=
  { store with chunks := store.chunks.setIfInBounds index cells }

def exchange (store : ChunkedSlots γ) (lowerChunk lowerStart upperChunk upperStart : Nat) :
    Except Fault (ChunkedSlots γ) := do
  let lower ← store.chunk lowerChunk
  let upper ← store.chunk upperChunk
  let lowerNext ← Cells.copy upper upperStart lower lowerStart store.width
  let upperNext ← Cells.copy lower lowerStart upper upperStart store.width
  return (store.setChunk lowerChunk lowerNext).setChunk upperChunk upperNext

/-- Exchanges two slots. A slot and itself need no exchange, wherever they are. -/
def swap (store : ChunkedSlots γ) (first second : Nat) : Except Fault (ChunkedSlots γ) := do
  if first = second then return store
  let (firstChunk, firstStart) ← store.locate first
  let (secondChunk, secondStart) ← store.locate second
  if firstChunk = secondChunk then
    let cells ← store.chunk firstChunk
    let next ← Cells.exchange cells firstStart secondStart store.width
    return store.setChunk firstChunk next
  else if firstChunk < secondChunk then
    store.exchange firstChunk firstStart secondChunk secondStart
  else store.exchange secondChunk secondStart firstChunk firstStart

/-- Copies one slot over another, in the same chunk or in another one. -/
def copy (store : ChunkedSlots γ) (source target : Nat) : Except Fault (ChunkedSlots γ) := do
  if source = target then return store
  let (sourceChunk, sourceStart) ← store.locate source
  let (targetChunk, targetStart) ← store.locate target
  let origin ← store.chunk sourceChunk
  let cells ← store.chunk targetChunk
  let next ← Cells.copy origin sourceStart cells targetStart store.width
  return store.setChunk targetChunk next

instance [Cell γ] : SlotStore (ChunkedSlots γ) γ where
  make := make
  size := size
  width := width
  resize := resize
  read := read
  write := write
  swap := swap
  copy := copy

end ChunkedSlots

end SpatialStore
