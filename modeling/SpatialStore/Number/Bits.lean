/-! Floating-point numbers as their bits, so that storing one and reading it back gives the same one,
whatever it is. Doubles are compared by their bits, without arithmetic. -/

namespace SpatialStore

/-- A number of 32 bits. Nothing is computed with it. -/
structure Single where
  bits : UInt32
  deriving DecidableEq

structure Double where
  bits : UInt64
  deriving DecidableEq

namespace Single

def isNaN (number : Single) : Bool := 0x7f800000 < number.bits.toNat % 0x80000000

end Single

namespace Double

def toFloat (number : Double) : Float := Float.ofBits number.bits

def ofFloat (number : Float) : Double := ⟨number.toBits⟩

/-- The bits but for the sign, which grow with the size of the number. Above those of the infinities
there are only bits of what is not a number. -/
def magnitude (number : Double) : Nat := number.bits.toNat % 0x8000000000000000

def isNegative (number : Double) : Bool := 0x8000000000000000 ≤ number.bits.toNat

def isNaN (number : Double) : Bool := 0x7ff0000000000000 < number.magnitude

/-! ### The order of numbers -/

/-- A number's place among the numbers. Both zeros are in one place. -/
def place (number : Double) : Int :=
  if number.isNegative then -number.magnitude else number.magnitude

def lt (first second : Double) : Bool :=
  !first.isNaN && !second.isNaN && first.place < second.place

def le (first second : Double) : Bool :=
  !first.isNaN && !second.isNaN && first.place ≤ second.place

/-- The smaller of two; one that is not a number does not count. -/
def min (first second : Double) : Double :=
  if first.isNaN || second.lt first then second else first

/-- The larger of two; one that is not a number does not count. -/
def max (first second : Double) : Double :=
  if first.isNaN || first.lt second then second else first

/-! ### The order of all doubles -/

/-- A place of its own for every double: negative ones that are not numbers, negative numbers, the zero
with a minus sign, the zero, positive numbers, and positive ones that are not numbers. -/
def rank (number : Double) : Int :=
  if number.isNegative then -number.magnitude - 1 else number.magnitude

/-- Among numbers that differ by more than the sign of a zero, ranks are as places. -/
theorem rank_lt_rank {first second : Double} (less : first.place < second.place) :
    first.rank < second.rank := by
  cases sign : first.isNegative <;> cases otherSign : second.isNegative <;>
    simp only [place, rank, sign, otherSign, if_true, if_false, Bool.false_eq_true] at less ⊢ <;>
    omega

end Double

end SpatialStore
