import SpatialStore.Slots.Store
import SpatialStore.Sizing.Basic

/-! Slot pools. The slots in use are always the first `len`: freeing one moves the last into the gap and
says so. A pool counts the frees and clears that it has done, and remembers for each slot when the record
in it last stopped being the one it was. -/

namespace SpatialStore

structure Relocation where
  source : Nat
  target : Nat
  deriving DecidableEq

structure SlotPool (α : Type) where
  store : α
  len : Nat := 0
  maximum : Option Nat
  modifications : Nat := 0
  /-- The count at which each slot last lost its record; slots beyond the end never did. -/
  stamps : Array Nat := #[]
  clearedAt : Nat := 0

namespace SlotPool

variable {α γ β : Type} [SlotStore α γ]

def make (width : Nat) (sizing : Sizing) : Except PoolFailure (SlotPool α) :=
  match sizing.validate with
  | .error reason => .error (.refused reason)
  | .ok () =>
    if width = 0 then .error (.refused (.invalidSizing .noWidth))
    else match SlotStore.make sizing.initialCapacity width sizing.chunkSlots with
      | .error fault => .error (.fault fault)
      | .ok store => .ok { store, maximum := sizing.maxCapacity }

def capacity (pool : SlotPool α) : Nat := SlotStore.size pool.store

def freeCount (pool : SlotPool α) : Nat := pool.capacity - pool.len

def width (pool : SlotPool α) : Nat := SlotStore.width pool.store

def limit (pool : SlotPool α) : Nat :=
  match pool.maximum with
  | none => SlotStore.maxSize pool.store
  | some maximum => Nat.min maximum (SlotStore.maxSize pool.store)

/-- The count at which the record in a slot last stopped being the one it was. -/
def stamp (pool : SlotPool α) (slot : Nat) : Nat :=
  Nat.max (pool.stamps.getD slot 0) pool.clearedAt

/-- Doubles the capacity, up to the limit; an empty store gets one slot. -/
def grow (pool : SlotPool α) : Except PoolFailure (SlotPool α) :=
  if pool.limit ≤ pool.capacity then .error (.refused (.outOfCapacity pool.limit))
  else
    let capacity := Nat.min (Nat.max (2 * pool.capacity) (pool.capacity + 1)) pool.limit
    match SlotStore.resize pool.store capacity with
    | .error fault => .error (.fault fault)
    | .ok store => .ok { pool with store }

def take [Cell γ] (pool : SlotPool α) : SlotPool α :=
  let blank := List.replicate pool.width Cell.blank
  { pool with store := SlotStore.write pool.store pool.len blank, len := pool.len + 1 }

/-- Takes the next slot, blank whatever it held before. -/
def allocate [Cell γ] : Step PoolFailure (SlotPool α) Nat := fun pool =>
  if pool.len = pool.capacity then
    match pool.grow with
    | .error failure => .error failure pool
    | .ok grown => .ok grown.len grown.take
  else .ok pool.len pool.take

def stampSlot (stamps : Array Nat) (slot count : Nat) : Array Nat :=
  (stamps ++ Array.replicate (slot + 1 - stamps.size) 0).setIfInBounds slot count

/-- The pool after the record in `slot` was dropped and the last slot given up. -/
def shrink (pool : SlotPool α) (slot : Nat) : SlotPool α :=
  let last := pool.len - 1
  let count := pool.modifications + 1
  { pool with
    len := last
    modifications := count
    stamps := stampSlot (stampSlot pool.stamps slot count) last count }

/-- Frees a slot. Unless it is the last, the last slot's record moves into it. -/
def free (slot : Nat) : Step PoolFailure (SlotPool α) (Option Relocation) := fun pool =>
  if slot < pool.len then
    let last := pool.len - 1
    if slot = last then .ok none (pool.shrink slot)
    else match SlotStore.swap pool.store slot last with
      | .error fault => .error (.fault fault) pool
      | .ok store => .ok (some ⟨last, slot⟩) ({ pool with store }.shrink slot)
  else .error (.refused (.invalidHandle (some slot) pool.len)) pool

/-- Frees all slots; what they hold stays until they are taken again. -/
def clear (pool : SlotPool α) : SlotPool α :=
  { pool with
    len := 0
    modifications := pool.modifications + 1
    clearedAt := pool.modifications + 1 }

def check (pool : SlotPool α) (slot : Nat) : Except PoolFailure Unit :=
  if slot < pool.len then .ok () else .error (.refused (.invalidHandle (some slot) pool.len))

def read (pool : SlotPool α) (slot : Nat) : Except PoolFailure (List γ) := do
  pool.check slot
  (SlotStore.read pool.store slot).mapError .fault

@[inline] def edit (slot : Nat) (step : Step Fault (List γ) β) : Step PoolFailure (SlotPool α) β :=
  fun pool =>
    if slot < pool.len then
      Step.within SlotPool.store (fun store pool => { pool with store }) .fault
        (SlotStore.edit slot step) pool
    else .error (.refused (.invalidHandle (some slot) pool.len)) pool

def contents (pool : SlotPool α) : Except PoolFailure (List (List γ)) :=
  (SlotStore.contents pool.store pool.len).mapError .fault

end SlotPool

end SpatialStore
