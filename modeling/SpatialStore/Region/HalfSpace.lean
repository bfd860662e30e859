import SpatialStore.Geometry.Point

/-! Half-spaces, and where a box lies relative to one. -/

namespace SpatialStore

structure HalfSpace (S : Type) (N : Nat) where
  normal : Point S N
  offset : S

inductive Side
  | inside
  | outside
  | straddling
  deriving DecidableEq

namespace HalfSpace

variable {S : Type} {N : Nat} [Scalar S]

/-- How far inside a point lies, in lengths of the normal. -/
def evaluate (plane : HalfSpace S N) (point : Point S N) : S :=
  Scalar.sub (plane.normal.dot point) plane.offset

/-- Whether a point lies inside; one on the plane does. -/
def contains (plane : HalfSpace S N) (point : Point S N) : Bool :=
  Scalar.le Scalar.zero (plane.evaluate point)

/-- Adds the least and the greatest product that each dimension of a box has with a normal. -/
def reach : (normal low high : List S) → S × S → S × S
  | n :: normal, l :: low, h :: high, (least, greatest) =>
    if Scalar.le Scalar.zero n then
      reach normal low high
        (Scalar.add least (Scalar.mul n l), Scalar.add greatest (Scalar.mul n h))
    else
      reach normal low high
        (Scalar.add least (Scalar.mul n h), Scalar.add greatest (Scalar.mul n l))
  | _, _, _, extremes => extremes

def classify (plane : HalfSpace S N) (box : Box S N) : Side :=
  let start := Scalar.neg plane.offset
  let (least, greatest) :=
    reach plane.normal.toList box.low.toList box.high.toList (start, start)
  if Scalar.le Scalar.zero least then .inside
  else if Scalar.lt greatest Scalar.zero then .outside
  else .straddling

end HalfSpace

structure Polytope (S : Type) (N : Nat) where
  planes : List (HalfSpace S N)

def Polytope.contains {S : Type} {N : Nat} [Scalar S] (region : Polytope S N) (point : Point S N) :
    Bool :=
  region.planes.all fun plane => plane.contains point

end SpatialStore
