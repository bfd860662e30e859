import SpatialStore.Number.Bits

/-! What the trees and the searches need of a number. The operations carry no laws here: they run on
doubles, and the same code can be read over exact numbers. -/

namespace SpatialStore

class Scalar (S : Type) where
  zero : S
  /-- What a sum starts from. -/
  sumStart : S
  /-- A bound above every number. -/
  top : S
  /-- A bound below every number. -/
  bottom : S
  add : S → S → S
  sub : S → S → S
  mul : S → S → S
  neg : S → S
  lt : S → S → Bool
  le : S → S → Bool
  /-- The smaller of two numbers; one that is not a number does not count. -/
  min : S → S → S
  /-- The larger of two numbers; one that is not a number does not count. -/
  max : S → S → S
  /-- A total order, in which also those have a place that are not a number. -/
  rankLe : S → S → Bool

class AnalyticScalar (S : Type) extends Scalar S where
  ofNat : Nat → S
  div : S → S → S
  sqrt : S → S
  acos : S → S
  cos : S → S

namespace Scalar

variable {S : Type} [Scalar S]

/-- A sum, taken from left to right. -/
def sum (terms : List S) : S := terms.foldl add sumStart

end Scalar

namespace Double

/-- Doubles are added, multiplied and so on with one rounding. A sum starts from the zero with a minus
sign, which is neutral also for itself. Adding the bit of the sign turns it around. -/
instance : AnalyticScalar Double where
  zero := ⟨0⟩
  sumStart := ⟨0x8000000000000000⟩
  top := ⟨0x7ff0000000000000⟩
  bottom := ⟨0xfff0000000000000⟩
  add first second := ofFloat (first.toFloat + second.toFloat)
  sub first second := ofFloat (first.toFloat - second.toFloat)
  mul first second := ofFloat (first.toFloat * second.toFloat)
  neg number := ⟨number.bits + 0x8000000000000000⟩
  lt := lt
  le := le
  min := min
  max := max
  rankLe first second := decide (first.rank ≤ second.rank)
  ofNat number := ofFloat number.toFloat
  div first second := ofFloat (first.toFloat / second.toFloat)
  sqrt number := ofFloat number.toFloat.sqrt
  acos number := ofFloat number.toFloat.acos
  cos number := ofFloat number.toFloat.cos

end Double

end SpatialStore
