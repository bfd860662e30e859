import SpatialStore.Records.Pool
import SpatialStore.Bytes.Field

/-! Fields of records that are kept as bytes, by slot and through handles. -/

namespace SpatialStore.RecordPool

variable {α : Type} [SlotStore α UInt8]

def getAt (pool : RecordPool α UInt8) (slot : Nat) (field : Field) :
    Except PoolFailure field.Value := do
  let bytes ← pool.read slot
  (field.get bytes).mapError .fault

def setAt (slot : Nat) (field : Field) (value : field.Value) :
    Step PoolFailure (RecordPool α UInt8) Unit :=
  edit slot (field.put value)

def getField (pool : RecordPool α UInt8) (handle : Handle) (field : Field) :
    Except PoolFailure field.Value := do
  let slot ← pool.slotOf handle
  pool.getAt slot field

def setField (handle : Handle) (field : Field) (value : field.Value) :
    Step PoolFailure (RecordPool α UInt8) Unit := do
  let slot ← Step.read (fun pool => pool.slotOf handle)
  setAt slot field value

end SpatialStore.RecordPool
