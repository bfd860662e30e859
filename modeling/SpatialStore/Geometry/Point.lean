import SpatialStore.Number.Scalar

/-! Points, their distances, and boxes along the axes. -/

namespace SpatialStore

abbrev Point (S : Type) (N : Nat) := Vector S N

namespace Point

variable {S : Type} {N : Nat} [Scalar S]

/-- One coordinate of a point; zero in a dimension that the point does not have. -/
def coordinate (point : Point S N) (dimension : Nat) : S :=
  (point[dimension]?).getD Scalar.zero

def squaredDifference (first second : S) : S :=
  let difference := Scalar.sub first second
  Scalar.mul difference difference

def squaredDistance (point query : Point S N) : S :=
  Scalar.sum (List.zipWith squaredDifference point.toList query.toList)

def dot (direction point : Point S N) : S :=
  Scalar.sum (List.zipWith Scalar.mul direction.toList point.toList)

end Point

structure Box (S : Type) (N : Nat) where
  low : Point S N
  high : Point S N

namespace Box

variable {S : Type} {N : Nat} [Scalar S]

def widen (box : Box S N) (point : Point S N) : Box S N :=
  ⟨Vector.zipWith Scalar.min box.low point, Vector.zipWith Scalar.max box.high point⟩

def around : List (Point S N) → Option (Box S N)
  | [] => none
  | first :: rest => some ((first :: rest).foldl widen ⟨first, first⟩)

def below (box : Box S N) (dimension : Nat) (bound : S) : Box S N :=
  { box with high := box.high.setIfInBounds dimension bound }

def above (box : Box S N) (dimension : Nat) (bound : S) : Box S N :=
  { box with low := box.low.setIfInBounds dimension bound }

end Box

end SpatialStore
