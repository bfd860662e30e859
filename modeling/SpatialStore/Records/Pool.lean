import SpatialStore.Slots.Pool
import SpatialStore.Records.Handle
import SpatialStore.Records.Form

/-! Record pools: a slot pool whose records all have one form, reached by slot or through handles. A
handle is good as long as the record it was bound to is still in the slot it was bound to. -/

namespace SpatialStore

structure RecordPool (α γ : Type) where
  slots : SlotPool α
  form : Form γ
  lending : Lending
  poolId : Nat

namespace RecordPool

variable {α γ β : Type} [SlotStore α γ]

def make (poolId : Nat) (form : Form γ) (sizing : Sizing) : Except PoolFailure (RecordPool α γ) :=
  (SlotPool.make form.width sizing).map fun slots =>
    { slots, form, lending := { limit := sizing.maxHandles }, poolId }

def len (pool : RecordPool α γ) : Nat := pool.slots.len

def capacity (pool : RecordPool α γ) : Nat := pool.slots.capacity

def modifications (pool : RecordPool α γ) : Nat := pool.slots.modifications

def outstanding (pool : RecordPool α γ) : Nat := pool.lending.outstanding

def describe (pool : RecordPool α γ) : String :=
  s!"Pool \x7b pool_id: {pool.poolId}, len: {pool.len}, capacity: {pool.capacity}, " ++
    s!"outstanding_refs: {pool.outstanding} \x7d"

@[inline] def onSlots (step : Step PoolFailure (SlotPool α) β) :
    Step PoolFailure (RecordPool α γ) β :=
  Step.within RecordPool.slots (fun slots pool => { pool with slots }) id step

/-! ### Handles -/

def checkOwner (pool : RecordPool α γ) (handle : Handle) : Except PoolFailure Unit :=
  if handle.poolId = pool.poolId then .ok () else .error (.refused .foreignHandle)

def lend : Step PoolFailure (RecordPool α γ) Handle := do
  let number ← Step.within RecordPool.lending (fun lending pool => { pool with lending }) id
    Lending.acquire
  return { poolId := (← get).poolId, number }

def takeBack (handle : Handle) : Step PoolFailure (RecordPool α γ) Unit := do
  Step.read (fun pool => pool.checkOwner handle)
  modify fun pool => { pool with lending := pool.lending.release handle.number }

/-- Lends a handle for as long as `body` runs. It is taken back also if `body` is turned down, but not
if `body` stops at a fault. -/
def withHandle (body : Handle → Step PoolFailure (RecordPool α γ) β) :
    Step PoolFailure (RecordPool α γ) β := fun pool =>
  match lend pool with
  | .error failure pool => .error failure pool
  | .ok handle pool =>
    match body handle pool with
    | .ok answer pool => (do takeBack handle; return answer : Step PoolFailure _ _) pool
    | .error (.refused reason) pool =>
      (do takeBack handle; throw (.refused reason) : Step PoolFailure _ _) pool
    | .error (.fault fault) pool => .error (.fault fault) pool

def bound (pool : RecordPool α γ) (handle : Handle) (slot : Nat) : Handle :=
  { handle with slot := some slot, boundAt := pool.modifications }

def bind (pool : RecordPool α γ) (slot : Nat) (handle : Handle) : Except PoolFailure Handle := do
  pool.checkOwner handle
  pool.slots.check slot
  return pool.bound handle slot

def slotOf (pool : RecordPool α γ) (handle : Handle) : Except PoolFailure Nat := do
  pool.checkOwner handle
  match handle.slot with
  | some slot =>
    if slot < pool.len ∧ pool.slots.stamp slot ≤ handle.boundAt then return slot
    else throw (.refused (.invalidHandle (some slot) pool.len))
  | none => throw (.refused (.invalidHandle none pool.len))

/-! ### Records -/

def allocate [Cell γ] : Step PoolFailure (RecordPool α γ) Nat := do
  let slot ← onSlots SlotPool.allocate
  let fresh := (← get).form.fresh
  onSlots (SlotPool.edit slot (set fresh))
  return slot

def create [Cell γ] (handle : Handle) : Step PoolFailure (RecordPool α γ) (Nat × Handle) := do
  Step.read (fun pool => pool.checkOwner handle)
  let slot ← allocate
  return (slot, (← get).bound handle slot)

def deleteAt (slot : Nat) : Step PoolFailure (RecordPool α γ) (Option Relocation) :=
  onSlots (SlotPool.free slot)

/-- Deletes the record that a handle is bound to; the handle is free after that. -/
def delete (handle : Handle) : Step PoolFailure (RecordPool α γ) (Option Relocation × Handle) := do
  let slot ← Step.read (fun pool => pool.slotOf handle)
  let relocation ← deleteAt slot
  return (relocation, { handle with slot := none })

/-- Deletes all records. Handles stay lent, but none of them is good any more. -/
def clear (pool : RecordPool α γ) : RecordPool α γ := { pool with slots := pool.slots.clear }

def read (pool : RecordPool α γ) (slot : Nat) : Except PoolFailure (List γ) := pool.slots.read slot

@[inline] def edit (slot : Nat) (step : Step Fault (List γ) β) :
    Step PoolFailure (RecordPool α γ) β :=
  onSlots (SlotPool.edit slot step)

/-! ### Records that are values -/

variable {τ : Type} [Stored τ γ]

/-- A pool of records that are values of `τ`. -/
def ofStored (τ : Type) [Stored τ γ] (poolId : Nat) (sizing : Sizing) :
    Except PoolFailure (RecordPool α γ) :=
  make poolId (Stored.form τ) sizing

def get (τ : Type) [Stored τ γ] (pool : RecordPool α γ) (slot : Nat) : Except PoolFailure τ :=
  (pool.read slot).map Stored.decode

def update (slot : Nat) (change : τ → τ) : Step PoolFailure (RecordPool α γ) Unit :=
  edit slot (modify fun cells => Stored.encode (change (Stored.decode cells)))

def values (τ : Type) [Stored τ γ] (pool : RecordPool α γ) : Except PoolFailure (List τ) :=
  pool.slots.contents.map fun contents => contents.map Stored.decode

end RecordPool

end SpatialStore
