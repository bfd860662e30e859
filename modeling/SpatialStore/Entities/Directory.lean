import Std.Data.TreeMap
import SpatialStore.Entities.Id
import SpatialStore.Slots.Pool

/-! Directories: which slot an entity is in, and which entity a slot holds. The slots are always the
first ones, as in the pool that a directory goes with. -/

namespace SpatialStore

structure Directory where
  slots : Std.TreeMap EntityId Nat := {}
  ids : Array EntityId := #[]

namespace Directory

/-- The most entities that room can be asked for at once. Room is a power of two of places, of seventeen
bytes each, and one place in eight stays free; the largest that is a buffer has 2^58 places. -/
def largestRoom : Nat := 7 * 0x80000000000000

/-- An empty directory with room for `capacity` entities, if there can be that much. -/
def ofCapacity (capacity : Nat) : Except Fault Directory :=
  if capacity ≤ largestRoom then .ok {} else .error .tooLarge

def len (directory : Directory) : Nat := directory.ids.size

def contains (directory : Directory) (id : EntityId) : Bool := directory.slots.contains id

def slotOf (directory : Directory) (id : EntityId) : Option Nat := directory.slots[id]?

def idAt (directory : Directory) (slot : Nat) : Option EntityId := directory.ids[slot]?

def checkVacant (directory : Directory) (id : EntityId) : Except PoolFailure Unit :=
  if directory.contains id then .error (.refused (.duplicateKey id.raw)) else .ok ()

/-- Enters an entity at the next slot. Any other slot is a fault. -/
def insert (id : EntityId) (slot : Nat) : Step PoolFailure Directory Unit := do
  Step.read (fun directory => directory.checkVacant id)
  if slot = (← get).len then
    modify fun directory =>
      { slots := directory.slots.insert id slot, ids := directory.ids.push id }
  else throw (.fault .outOfRange)

/-- Moves the entry of a slot. Both slots have to be there. -/
def relocate (relocation : Relocation) : Step PoolFailure Directory Unit := do
  match (← get).idAt relocation.source with
  | none => throw (.fault .outOfRange)
  | some moved =>
    if relocation.target < (← get).len then
      modify fun directory =>
        { slots := directory.slots.insert moved relocation.target
          ids := directory.ids.setIfInBounds relocation.target moved }
    else throw (.fault .outOfRange)

/-- Drops the entity in a slot, moves the entry that the pool has moved, and gives up the last slot. -/
def removeSlot (slot : Nat) (relocation : Option Relocation) :
    Step PoolFailure Directory EntityId := do
  match (← get).idAt slot with
  | none => throw (.refused (.invalidHandle (some slot) (← get).len))
  | some id =>
    modify fun directory => { directory with slots := directory.slots.erase id }
    if let some relocation := relocation then relocate relocation
    modify fun directory => { directory with ids := directory.ids.pop }
    return id

def clear (_ : Directory) : Directory := {}

end Directory

end SpatialStore
