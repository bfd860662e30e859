import Mathlib.Analysis.SpecialFunctions.Trigonometric.Inverse
import SpatialStore.Proofs.Number.Exact

/-! Real numbers, with the roots and angles that an ellipsoid needs. -/

namespace SpatialStore

noncomputable instance : AnalyticScalar ℝ where
  zero := 0
  sumStart := 0
  top := 1000000
  bottom := -1000000
  add := (· + ·)
  sub := (· - ·)
  mul := (· * ·)
  neg := (- ·)
  lt first second := decide (first < second)
  le first second := decide (first ≤ second)
  min := min
  max := max
  rankLe first second := decide (first ≤ second)
  ofNat number := number
  div := (· / ·)
  sqrt := Real.sqrt
  acos := Real.arccos
  cos := Real.cos

instance : ExactScalar ℝ where
  zero_eq := rfl
  sumStart_eq := rfl
  add_eq _ _ := rfl
  sub_eq _ _ := rfl
  mul_eq _ _ := rfl
  neg_eq _ := rfl
  lt_eq _ _ := rfl
  le_eq _ _ := rfl
  min_eq _ _ := rfl
  max_eq _ _ := rfl
  rankLe_eq _ _ := rfl

end SpatialStore
