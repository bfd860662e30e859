import SpatialStore.Failure

/-! Sizes are 64-bit numbers. An index calculation that leaves their range is a fault, and so is a
buffer of more than half of it. -/

namespace SpatialStore.Size

/-- The first number that is not a size. -/
def bound : Nat := 0x10000000000000000

def largestBuffer : Nat := 0x7fffffffffffffff

def checked (size : Nat) : Except Fault Nat :=
  if size < bound then .ok size else .error .overflow

def buffer (size : Nat) : Except Fault Nat :=
  if size ≤ largestBuffer then .ok size else .error .tooLarge

theorem checked_eq_ok {size : Nat} (h : size < bound) : checked size = .ok size := if_pos h

theorem buffer_eq_ok {size : Nat} (h : size ≤ largestBuffer) : buffer size = .ok size := if_pos h

/-- How many boxes of `capacity` hold `count` things. -/
def boxes (count capacity : Nat) : Nat :=
  count / capacity + if count % capacity = 0 then 0 else 1

end SpatialStore.Size
