/-! What can go wrong. A *refusal* is an answer that the caller can act on; a *fault* is a broken
precondition, and stops the operation where it stands. Each constructor names a cause, and its wording
is in one place. -/

namespace SpatialStore

def slotText : Option Nat → String
  | none => "None"
  | some slot => s!"Some({slot})"

inductive SizingIssue
  | unreadable
  | noHandles
  | noChunkSlots
  | noWidth
  | initialAboveMaximum (initial maximum : Nat)
  deriving DecidableEq

def SizingIssue.message : SizingIssue → String
  | .unreadable => "failed to parse pool config"
  | .noHandles => "max_refs must be greater than zero"
  | .noChunkSlots => "chunk_slots must be greater than zero"
  | .noWidth => "bytes_per_element must be greater than zero"
  | .initialAboveMaximum initial maximum =>
    s!"initial_capacity {initial} exceeds max_capacity {maximum}"

inductive Refusal
  | outOfCapacity (capacity : Nat)
  | invalidHandle (slot : Option Nat) (len : Nat)
  | foreignHandle
  | handlesExhausted (limit : Nat)
  | indexOverflow (slot : Nat)
  | duplicateKey (id : UInt32)
  | unknownId (id : UInt32)
  | invalidSizing (issue : SizingIssue)
  deriving DecidableEq

def Refusal.message : Refusal → String
  | .outOfCapacity capacity =>
    s!"pool out of capacity: hard maximum of {capacity} slots reached"
  | .invalidHandle slot len =>
    s!"invalid handle: slot {slotText slot} is unallocated or stale (pool holds {len} objects)"
  | .foreignHandle => "handle belongs to a different pool"
  | .handlesExhausted limit => s!"reference handles exhausted: {limit} handles outstanding"
  | .indexOverflow slot => s!"slot index {slot} does not fit in an index field"
  | .duplicateKey id => s!"duplicate key: entity id {id.toNat} already exists"
  | .unknownId id => s!"unknown entity id: {id.toNat}"
  | .invalidSizing issue => s!"invalid configuration: {issue.message}"

inductive TreeRefusal
  | pool (reason : Refusal)
  | nodeOutOfRange (node size : Nat)
  | duplicateSlot (slot : Nat)
  | notInTree (data : Nat)
  deriving DecidableEq

def TreeRefusal.message : TreeRefusal → String
  | .pool reason => s!"pool error: {reason.message}"
  | .nodeOutOfRange node size => s!"node {node} out of range (tree has {size} nodes)"
  | .duplicateSlot slot => s!"source slot {slot} listed more than once"
  | .notInTree data => s!"data index {data} is not in the tree"

/-- A broken precondition. -/
inductive Fault
  | noWidth
  | noChunkSlots
  | slotOutOfBounds (slot size : Nat)
  | elementOutOfRange (element count : Nat)
  | nodeOutOfRange (node size : Nat)
  | outOfRange
  | overflow
  | tooLarge
  deriving DecidableEq

def Fault.message? : Fault → Option String
  | .noWidth => some "Slot width must be greater than zero"
  | .noChunkSlots => some "Chunk size must be greater than zero"
  | .slotOutOfBounds slot size => some s!"Slot {slot} out of bounds (len {size})"
  | .elementOutOfRange element count => some s!"element {element} out of range for array of {count}"
  | .nodeOutOfRange node size => some s!"node {node} out of range (tree has {size} nodes)"
  | .outOfRange => none
  | .overflow => none
  | .tooLarge => none

/-- An operation ends early with a refusal, or with a fault. -/
inductive Failure (ρ : Type)
  | refused (reason : ρ)
  | fault (fault : Fault)
  deriving DecidableEq

abbrev PoolFailure := Failure Refusal

abbrev TreeFailure := Failure TreeRefusal

def PoolFailure.inTree : PoolFailure → TreeFailure
  | .refused reason => .refused (.pool reason)
  | .fault fault => .fault fault

end SpatialStore
