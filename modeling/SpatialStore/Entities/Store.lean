import SpatialStore.Entities.Directory
import SpatialStore.Records.Fields

/-! Entity stores: records that are reached by an identifier, which stays the same when the record
moves. New identifiers count upwards, past any that a caller has chosen. -/

namespace SpatialStore

structure EntityStore (α γ : Type) where
  records : RecordPool α γ
  directory : Directory := {}
  nextId : UInt32 := 0

namespace EntityStore

variable {α γ β : Type} [SlotStore α γ]

def make (poolId : Nat) (form : Form γ) (sizing : Sizing) :
    Except PoolFailure (EntityStore α γ) := do
  let records ← RecordPool.make poolId form sizing
  let directory ← (Directory.ofCapacity sizing.initialCapacity).mapError .fault
  return { records, directory }

def len (store : EntityStore α γ) : Nat := store.records.len

def contains (store : EntityStore α γ) (id : EntityId) : Bool := store.directory.contains id

def slotOf (store : EntityStore α γ) (id : EntityId) : Option Nat := store.directory.slotOf id

def idAt (store : EntityStore α γ) (slot : Nat) : Option EntityId := store.directory.idAt slot

def ids (store : EntityStore α γ) : List EntityId := store.directory.ids.toList

def describe (store : EntityStore α γ) : String :=
  s!"EntityPool \x7b pool: {store.records.describe}, next_id: {store.nextId.toNat} \x7d"

@[inline] def onRecords (step : Step PoolFailure (RecordPool α γ) β) :
    Step PoolFailure (EntityStore α γ) β :=
  Step.within EntityStore.records (fun records store => { store with records }) id step

@[inline] def onDirectory (step : Step PoolFailure Directory β) :
    Step PoolFailure (EntityStore α γ) β :=
  Step.within EntityStore.directory (fun directory store => { store with directory }) id step

def require (store : EntityStore α γ) (id : EntityId) : Except PoolFailure Nat :=
  match store.slotOf id with
  | some slot => .ok slot
  | none => .error (.refused (.unknownId id.raw))

/-- The first identifier from `raw` on that no entity has; the last one stands in if there is none. -/
def firstVacant (directory : Directory) (raw : UInt32) : Option UInt32 :=
  if directory.contains ⟨raw⟩ then
    if raw.toNat + 1 < 0x100000000 then firstVacant directory (raw + 1) else none
  else some raw
termination_by 0x100000000 - raw.toNat
decreasing_by
  have step : (raw + 1).toNat = raw.toNat + 1 := by
    rw [UInt32.toNat_add]
    exact Nat.mod_eq_of_lt (by simpa using ‹raw.toNat + 1 < 0x100000000›)
  omega

def advance : Step PoolFailure (EntityStore α γ) Unit := do
  let store ← get
  if store.nextId.toNat + 1 < 0x100000000 then set { store with nextId := store.nextId + 1 }
  else throw (.refused (.outOfCapacity store.records.capacity))

def skipTaken : Step PoolFailure (EntityStore α γ) Unit := do
  let store ← get
  match firstVacant store.directory store.nextId with
  | some raw => set { store with nextId := raw }
  | none =>
    set { store with nextId := (0xffffffff : UInt32) }
    throw (.refused (.outOfCapacity store.records.capacity))

/-- Adds a record for an identifier. The record comes first, so that no room for it leaves the directory
as it was. -/
def enter [Cell γ] (id : EntityId) : Step PoolFailure (EntityStore α γ) Unit := do
  let slot ← onRecords RecordPool.allocate
  onDirectory (Directory.insert id slot)
  modify fun store =>
    if store.nextId ≤ id.raw then
      { store with nextId := if id.raw.toNat + 1 < 0x100000000 then id.raw + 1 else id.raw }
    else store

def create [Cell γ] : Step PoolFailure (EntityStore α γ) EntityId := do
  skipTaken
  let store ← get
  let id : EntityId := ⟨store.nextId⟩
  if id.isNull then throw (.refused (.outOfCapacity store.records.capacity))
  else
    enter id
    advance
    return id

def createWithId [Cell γ] (id : EntityId) : Step PoolFailure (EntityStore α γ) EntityId := do
  if id.isNull then throw (.refused (.unknownId id.raw))
  else
    Step.read (fun store => store.directory.checkVacant id)
    enter id
    return id

/-- Removes an entity. Another one may have moved into its slot. -/
def remove (id : EntityId) : Step PoolFailure (EntityStore α γ) (Option Relocation) := do
  let slot ← Step.read (fun store => store.require id)
  let relocation ← onRecords (RecordPool.deleteAt slot)
  let _ ← onDirectory (Directory.removeSlot slot relocation)
  return relocation

/-- Removes all entities. Their identifiers are not given out again. -/
def clear (store : EntityStore α γ) : EntityStore α γ :=
  { store with records := store.records.clear, directory := store.directory.clear }

/-! ### Handles -/

def lend : Step PoolFailure (EntityStore α γ) Handle := onRecords RecordPool.lend

def takeBack (handle : Handle) : Step PoolFailure (EntityStore α γ) Unit :=
  onRecords (RecordPool.takeBack handle)

def bind (store : EntityStore α γ) (id : EntityId) (handle : Handle) : Except PoolFailure Handle := do
  let slot ← store.require id
  store.records.bind slot handle

def idOf (store : EntityStore α γ) (handle : Handle) : Except PoolFailure EntityId := do
  let slot ← store.records.slotOf handle
  match store.idAt slot with
  | some id => return id
  | none => throw (.refused (.invalidHandle (some slot) store.len))

/-! ### Records -/

def read (store : EntityStore α γ) (id : EntityId) : Except PoolFailure (List γ) := do
  let slot ← store.require id
  store.records.read slot

def edit (id : EntityId) (step : Step Fault (List γ) β) : Step PoolFailure (EntityStore α γ) β := do
  let slot ← Step.read (fun store => store.require id)
  onRecords (RecordPool.edit slot step)

def get (τ : Type) [Stored τ γ] (store : EntityStore α γ) (id : EntityId) : Except PoolFailure τ := do
  let slot ← store.require id
  store.records.get τ slot

def update {τ : Type} [Stored τ γ] (id : EntityId) (change : τ → τ) :
    Step PoolFailure (EntityStore α γ) Unit := do
  let slot ← Step.read (fun store => store.require id)
  onRecords (RecordPool.update slot change)

def getField {α : Type} [SlotStore α UInt8] (store : EntityStore α UInt8) (id : EntityId)
    (field : Field) : Except PoolFailure field.Value := do
  let slot ← store.require id
  store.records.getAt slot field

def setField {α : Type} [SlotStore α UInt8] (id : EntityId) (field : Field) (value : field.Value) :
    Step PoolFailure (EntityStore α UInt8) Unit := do
  let slot ← Step.read (fun store => store.require id)
  onRecords (RecordPool.setAt slot field value)

end EntityStore

end SpatialStore
