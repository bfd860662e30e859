import SpatialStore.Proofs.Geometry.Point
import SpatialStore.Proofs.Number.Partial
import SpatialStore.Proofs.Query.Visit

/-! Points of which some coordinates are not numbers. Such a point has no distance from any other, and a node that
splits in such a coordinate sends every search to the right. -/

namespace SpatialStore

namespace Point

variable {R : Type} {N : Nat} [Scalar R]

/-- A point of numbers, among points that may have something else for a coordinate. -/
def whole (point : Point R N) : Point (Option R) N := Vector.map some point

theorem coordinate_whole (point : Point R N) (dimension : Nat) :
    point.whole.coordinate dimension = some (point.coordinate dimension) := by
  by_cases inside : dimension < N
  · rw [coordinate_of_lt _ inside, coordinate_of_lt _ inside, whole, Vector.getElem_map]
  · rw [coordinate_of_le _ (Nat.le_of_not_lt inside), coordinate_of_le _ (Nat.le_of_not_lt inside)]
    rfl

theorem whole_or_missing (point : Point (Option R) N) :
    (∃ numbers : Point R N, point = numbers.whole) ∨ ∃ dimension < N, point.coordinate dimension = none := by
  by_cases missing : ∃ dimension < N, point.coordinate dimension = none
  · exact Or.inr missing
  · refine Or.inl ⟨Vector.map (fun number => number.getD Scalar.zero) point, ?_⟩
    apply Vector.ext
    intro dimension inside
    rw [whole, Vector.getElem_map, Vector.getElem_map]
    cases here : point[dimension] with
    | none => exact absurd ⟨dimension, inside, (coordinate_of_lt point inside).trans here⟩ missing
    | some number => rfl

theorem squaredDistance_whole (point query : Point R N) :
    point.whole.squaredDistance query.whole = some (point.squaredDistance query) := by
  have terms : List.zipWith squaredDifference point.whole.toList query.whole.toList =
      (List.zipWith squaredDifference point.toList query.toList).map some := by
    rw [whole, whole, Vector.toList_map, Vector.toList_map, List.zipWith_map, List.map_zipWith]
    rfl
  rw [squaredDistance, terms, Scalar.sum_some]
  rfl

theorem squaredDistance_of_missing {point : Point (Option R) N} {dimension : Nat} (inside : dimension < N)
    (missing : point.coordinate dimension = none) (query : Point (Option R) N) :
    point.squaredDistance query = none := by
  apply Scalar.sum_none
  refine mem_zipWith.mpr ⟨dimension, inside, ?_⟩
  rw [missing]
  rfl

theorem isNumber_squaredDistance_iff [CommRing R] [LinearOrder R] [ExactScalar R] {point : Point (Option R) N}
    (query : Point R N) : Scalar.IsNumber (point.squaredDistance query.whole) ↔ point.AllNumbers := by
  rcases point.whole_or_missing with ⟨numbers, rfl⟩ | ⟨dimension, inside, missing⟩
  · constructor
    · intro _ dimension _
      rw [coordinate_whole]
      exact Scalar.isNumber_some _
    · intro _
      rw [squaredDistance_whole]
      exact Scalar.isNumber_some _
  · constructor
    · intro number
      rw [squaredDistance_of_missing inside missing] at number
      exact absurd number Scalar.not_isNumber_none
    · intro numbers
      have number := numbers dimension inside
      rw [missing] at number
      exact absurd number Scalar.not_isNumber_none

end Point

namespace KdNode

abbrev HasPlane {S : Type} {N : Nat} [Scalar S] (record : KdNode S N) : Prop :=
  Scalar.IsNumber (record.position.coordinate record.dimension)

section

variable {R : Type} {N : Nat} [Scalar R]

/-- The node with zeros for what is not a number. -/
def filled (record : KdNode (Option R) N) : KdNode R N :=
  { record with position := Vector.map (fun number => number.getD Scalar.zero) record.position }

theorem coordinate_filled (record : KdNode (Option R) N) (dimension : Nat) :
    record.filled.position.coordinate dimension =
      (record.position.coordinate dimension).getD Scalar.zero := by
  by_cases inside : dimension < N
  · rw [Point.coordinate_of_lt _ inside, Point.coordinate_of_lt _ inside, filled, Vector.getElem_map]
  · rw [Point.coordinate_of_le _ (Nat.le_of_not_lt inside), Point.coordinate_of_le _ (Nat.le_of_not_lt inside)]
    rfl

end

variable {R : Type} {N : Nat} [CommRing R] [LinearOrder R] [Scalar R] [ExactScalar R]

/-- A plane that there is shields points of numbers as it would among numbers only. -/
theorem shields_whole [IsStrictOrderedRing R] {record : KdNode (Option R) N} (plane : record.HasPlane)
    (query point : Point R N) : record.Shields query.whole point.whole := by
  obtain ⟨split, here⟩ := Scalar.isNumber_iff_some.mp plane
  have place : record.filled.position.coordinate record.filled.dimension = split := by
    rw [coordinate_filled]
    exact congrArg (fun number : Option R => number.getD Scalar.zero) here
  have offset : record.offset query.whole = some (record.filled.offset query) := by
    rw [KdNode.offset, KdNode.offset, Point.coordinate_whole, here]
    exact congrArg some (congrArg _ place.symm)
  have left : record.leftFirst query.whole = record.filled.leftFirst query := by
    rw [leftFirst, leftFirst, offset]
    rfl
  have squared : record.squaredOffset query.whole = some (record.filled.squaredOffset query) := by
    rw [squaredOffset, squaredOffset, offset]
    rfl
  have shields := record.filled.shields query point
  constructor
  · intro side ranked
    rw [here, Point.coordinate_whole] at ranked
    rw [squared, Point.squaredDistance_whole]
    exact shields.above (left ▸ side) (by rw [place]; exact ranked)
  · intro side ranked
    rw [here, Point.coordinate_whole] at ranked
    rw [squared, Point.squaredDistance_whole]
    exact shields.below (left ▸ side) (by rw [place]; exact ranked)

theorem shields_of_number [IsStrictOrderedRing R] {record : KdNode (Option R) N} (plane : record.HasPlane)
    {query : Point R N} {point : Point (Option R) N}
    (number : Scalar.IsNumber (point.squaredDistance query.whole)) : record.Shields query.whole point := by
  rcases point.whole_or_missing with ⟨numbers, rfl⟩ | ⟨dimension, inside, missing⟩
  · exact shields_whole plane query numbers
  · rw [Point.squaredDistance_of_missing inside missing] at number
    exact absurd number Scalar.not_isNumber_none

/-- Without a plane every search goes right first, and the left side is at no distance. -/
theorem offset_of_missing {record : KdNode (Option R) N} (bare : ¬record.HasPlane) (query : Point (Option R) N) :
    record.leftFirst query = false ∧ ¬Scalar.IsNumber (record.squaredOffset query) := by
  have missing : record.position.coordinate record.dimension = none := by
    cases here : record.position.coordinate record.dimension with
    | none => rfl
    | some split => exact absurd (Scalar.isNumber_iff_some.mpr ⟨split, here⟩) bare
  have offset : record.offset query = none := by
    rw [KdNode.offset, missing]
    cases query.coordinate record.dimension <;> rfl
  constructor
  · rw [leftFirst, offset]
    rfl
  · rw [squaredOffset, offset]
    exact Scalar.not_isNumber_none

end KdNode

end SpatialStore
