import Mathlib.Algebra.Order.BigOperators.Group.List
import SpatialStore.Geometry.Point
import SpatialStore.Proofs.Number.Exact

/-! Points by their coordinates, and distances and products of points with exact ones. -/

namespace SpatialStore.Point

section

variable {S : Type} {N : Nat} [Scalar S]

theorem coordinate_of_le (point : Point S N) {dimension : Nat} (beyond : N ≤ dimension) :
    point.coordinate dimension = Scalar.zero := by
  rw [coordinate, Vector.getElem?_eq_none beyond]
  rfl

theorem coordinate_of_lt (point : Point S N) {dimension : Nat} (inside : dimension < N) :
    point.coordinate dimension = point[dimension] := by
  rw [coordinate, Vector.getElem?_eq_getElem inside]
  rfl

theorem coordinate_zipWith (combine : S → S → S) (first second : Point S N) {dimension : Nat}
    (inside : dimension < N) : coordinate (Vector.zipWith combine first second) dimension =
      combine (first.coordinate dimension) (second.coordinate dimension) := by
  rw [coordinate_of_lt _ inside, coordinate_of_lt _ inside, coordinate_of_lt _ inside, Vector.getElem_zipWith]

theorem coordinate_setIfInBounds (point : Point S N) (dimension : Nat) (value : S) {other : Nat}
    (inside : other < N) : coordinate (point.setIfInBounds dimension value) other =
      if dimension = other then value else point.coordinate other := by
  rw [coordinate_of_lt _ inside, coordinate_of_lt _ inside, Vector.getElem_setIfInBounds]

def AllNumbers (point : Point S N) : Prop :=
  ∀ dimension < N, Scalar.IsNumber (point.coordinate dimension)

theorem mem_zipWith {combine : S → S → S} {first second : Point S N} {term : S} :
    term ∈ List.zipWith combine first.toList second.toList ↔
      ∃ dimension < N, combine (first.coordinate dimension) (second.coordinate dimension) = term := by
  have present : ∀ (point : Point S N) {dimension : Nat}, dimension < N →
      point.toList[dimension]? = some (point.coordinate dimension) := by
    intro point dimension inside
    rw [Vector.getElem?_toList, coordinate_of_lt _ inside, Vector.getElem?_eq_getElem inside]
  constructor
  · intro member
    obtain ⟨dimension, found⟩ := List.mem_iff_getElem?.mp member
    obtain ⟨_, _, atFirst, atSecond, same⟩ := List.getElem?_zipWith_eq_some.mp found
    have inside : dimension < N := by
      have bound := (List.getElem?_eq_some_iff.mp atFirst).1
      rwa [Vector.length_toList] at bound
    rw [present first inside] at atFirst
    rw [present second inside] at atSecond
    obtain rfl := Option.some.inj atFirst
    obtain rfl := Option.some.inj atSecond
    exact ⟨dimension, inside, same⟩
  · rintro ⟨dimension, inside, rfl⟩
    exact List.mem_of_getElem? (List.getElem?_zipWith_eq_some.mpr
      ⟨_, _, present first inside, present second inside, rfl⟩)

end

/-! ### Exact coordinates -/

variable {S : Type} {N : Nat} [CommRing S] [LinearOrder S] [Scalar S] [ExactScalar S]

theorem squaredDifference_eq (first second : S) :
    squaredDifference first second = (first - second) * (first - second) := by
  simp only [squaredDifference, ExactScalar.sub_eq, ExactScalar.mul_eq]

theorem squaredDistance_eq (point query : Point S N) :
    point.squaredDistance query = (List.zipWith squaredDifference point.toList query.toList).sum :=
  Scalar.sum_eq _

theorem dot_eq (direction point : Point S N) :
    direction.dot point = (List.zipWith (· * ·) direction.toList point.toList).sum := by
  rw [dot, Scalar.sum_eq]
  congr 2
  funext first second
  exact ExactScalar.mul_eq first second

theorem squaredDifference_le [IsStrictOrderedRing S] (point query : Point S N) (dimension : Nat) :
    squaredDifference (point.coordinate dimension) (query.coordinate dimension) ≤
      point.squaredDistance query := by
  have nonneg : ∀ term ∈ List.zipWith squaredDifference point.toList query.toList, 0 ≤ term := by
    intro term member
    obtain ⟨_, _, rfl⟩ := mem_zipWith.mp member
    rw [squaredDifference_eq]
    exact mul_self_nonneg _
  rw [squaredDistance_eq]
  by_cases inside : dimension < N
  · exact List.single_le_sum nonneg _ (mem_zipWith.mpr ⟨dimension, inside, rfl⟩)
  · have beyond := Nat.le_of_not_lt inside
    rw [coordinate_of_le _ beyond, coordinate_of_le _ beyond, squaredDifference_eq, sub_self, mul_zero]
    exact List.sum_nonneg nonneg

end SpatialStore.Point
