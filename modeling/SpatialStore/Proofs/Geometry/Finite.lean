import SpatialStore.Proofs.Geometry.Point
import SpatialStore.Proofs.Number.Arithmetic

/-! Distances of points with finite coordinates. They can be infinite, but they are numbers, and none is less
than what one dimension contributes to it. -/

namespace SpatialStore

open Rounding

/-- A sum of numbers that are not negative is not less than any of them. -/
theorem Double.sum_spec {terms : List Double} (numbers : ∀ term ∈ terms, Scalar.IsNumber term ∧ 0 ≤ term.place) :
    Scalar.IsNumber (Scalar.sum terms) ∧ 0 ≤ (Scalar.sum terms).place ∧
      ∀ term ∈ terms, term.place ≤ (Scalar.sum terms).place := by
  have each : ∀ start : Double, Scalar.IsNumber start → 0 ≤ start.place →
      Scalar.IsNumber (terms.foldl Scalar.add start) ∧ start.place ≤ (terms.foldl Scalar.add start).place ∧
        ∀ term ∈ terms, term.place ≤ (terms.foldl Scalar.add start).place := by
    induction terms with
    | nil => exact fun start number _ => ⟨number, Int.le_refl _, nofun⟩
    | cons first rest ih =>
      intro start number nonneg
      obtain ⟨firstNumber, firstNonneg⟩ := numbers first List.mem_cons_self
      obtain ⟨sumNumber, aboveStart, aboveFirst⟩ := Double.add_spec number firstNumber nonneg firstNonneg
      obtain ⟨whole, aboveSum, aboveRest⟩ := ih (fun term member => numbers term (List.mem_cons_of_mem _ member))
        (Scalar.add start first) sumNumber (Int.le_trans nonneg aboveStart)
      refine ⟨whole, Int.le_trans aboveStart aboveSum, ?_⟩
      intro term member
      rcases List.mem_cons.mp member with rfl | later
      · exact Int.le_trans aboveFirst aboveSum
      · exact aboveRest term later
  exact each Scalar.sumStart (Double.isNumber_iff.mpr rfl) (by decide)

namespace Point

variable {N : Nat}

def IsFinite (point : Point Double N) : Prop :=
  ∀ dimension < N, (point.coordinate dimension).isFinite = true

theorem IsFinite.coordinate {point : Point Double N} (finite : point.IsFinite) (dimension : Nat) :
    (point.coordinate dimension).isFinite = true := by
  by_cases inside : dimension < N
  · exact finite dimension inside
  · rw [coordinate_of_le _ (Nat.le_of_not_lt inside)]
    rfl

theorem squaredDifference_spec {first second : Double} (firstFinite : first.isFinite = true)
    (secondFinite : second.isFinite = true) : Scalar.IsNumber (squaredDifference first second) ∧
      (squaredDifference first second).place = squared (rounded 0 (first.value - second.value).natAbs) := by
  obtain ⟨number, place⟩ := Double.sub_spec firstFinite secondFinite
  obtain ⟨squareNumber, squarePlace⟩ := Double.mul_self_spec number
  refine ⟨squareNumber, squarePlace.trans ?_⟩
  rw [← Double.natAbs_place, place, natAbs_placeOf]

theorem squaredDifference_mono {first second third fourth : Double} (firstFinite : first.isFinite = true)
    (secondFinite : second.isFinite = true) (thirdFinite : third.isFinite = true)
    (fourthFinite : fourth.isFinite = true)
    (nearer : (first.value - second.value).natAbs ≤ (third.value - fourth.value).natAbs) :
    (squaredDifference first second).place ≤ (squaredDifference third fourth).place := by
  rw [(squaredDifference_spec firstFinite secondFinite).2, (squaredDifference_spec thirdFinite fourthFinite).2]
  exact Int.ofNat_le.mpr (squared_mono (rounded_mono nearer 0))

theorem squaredDistance_spec {point query : Point Double N} (finite : point.IsFinite)
    (queryFinite : query.IsFinite) : Scalar.IsNumber (point.squaredDistance query) ∧
      ∀ dimension, (squaredDifference (point.coordinate dimension) (query.coordinate dimension)).place ≤
        (point.squaredDistance query).place := by
  have each := fun dimension => squaredDifference_spec (finite.coordinate dimension) (queryFinite.coordinate dimension)
  have numbers : ∀ term ∈ List.zipWith squaredDifference point.toList query.toList,
      Scalar.IsNumber term ∧ 0 ≤ term.place := by
    intro term member
    obtain ⟨dimension, _, rfl⟩ := mem_zipWith.mp member
    refine ⟨(each dimension).1, ?_⟩
    rw [(each dimension).2]
    exact Int.natCast_nonneg _
  obtain ⟨number, nonneg, above⟩ := Double.sum_spec numbers
  refine ⟨number, fun dimension => ?_⟩
  by_cases inside : dimension < N
  · exact above _ (mem_zipWith.mpr ⟨dimension, inside, rfl⟩)
  · have beyond := Nat.le_of_not_lt inside
    have nothing : (squaredDifference (point.coordinate dimension) (query.coordinate dimension)).place = 0 := by
      rw [coordinate_of_le _ beyond, coordinate_of_le _ beyond]
      decide +kernel
    rw [nothing]
    exact nonneg

end Point

end SpatialStore
