import Mathlib.Algebra.Field.Rat
import Mathlib.Algebra.Order.Field.Basic
import Mathlib.Algebra.Order.Ring.Rat
import SpatialStore.Number.Scalar

/-! What can be relied on when numbers are ranked and compared, and numbers that are computed without
rounding: there the operations are those of a linearly ordered ring, such as an ordered field. No number of
it is above all others, so that nothing is said of the two bounds. -/

namespace SpatialStore

/-- Numbers that can be ranked, whether or not they can be compared. -/
class RankedScalar (S : Type) [Scalar S] : Prop where
  rankLe_trans {first second third : S} : Scalar.rankLe first second = true →
    Scalar.rankLe second third = true → Scalar.rankLe first third = true
  rankLe_total (first second : S) : (Scalar.rankLe first second || Scalar.rankLe second first) = true

/-- Something is a number if it is not more than itself; what is no number cannot be compared. -/
def Scalar.IsNumber {S : Type} [Scalar S] (number : S) : Prop := Scalar.le number number = true

/-- Numbers that can be compared with each other, possibly beside some that cannot be compared. -/
class ComparableScalar (S : Type) [Scalar S] : Prop where
  le_trans {first second third : S} : Scalar.le first second = true → Scalar.le second third = true →
    Scalar.le first third = true
  isNumber_left {first second : S} : Scalar.le first second = true → Scalar.IsNumber first
  isNumber_right {first second : S} : Scalar.le first second = true → Scalar.IsNumber second
  isNumber_top : Scalar.IsNumber (Scalar.top : S)
  le_total {first second : S} : Scalar.IsNumber first → Scalar.IsNumber second →
    Scalar.le first second = true ∨ Scalar.le second first = true
  lt_iff {first second : S} : Scalar.lt first second = true ↔
    Scalar.IsNumber first ∧ Scalar.IsNumber second ∧ Scalar.le second first = false
  min_le {first second : S} : Scalar.IsNumber first → Scalar.IsNumber second →
    Scalar.le (Scalar.min first second) first = true ∧ Scalar.le (Scalar.min first second) second = true
  le_max {first second : S} : Scalar.IsNumber first → Scalar.IsNumber second →
    Scalar.le first (Scalar.max first second) = true ∧ Scalar.le second (Scalar.max first second) = true
  le_of_rankLe {first second : S} : Scalar.IsNumber first → Scalar.IsNumber second →
    Scalar.rankLe first second = true → Scalar.le first second = true

class ExactScalar (S : Type) [CommRing S] [LinearOrder S] [Scalar S] : Prop where
  zero_eq : (Scalar.zero : S) = 0
  sumStart_eq : (Scalar.sumStart : S) = 0
  add_eq (first second : S) : Scalar.add first second = first + second
  sub_eq (first second : S) : Scalar.sub first second = first - second
  mul_eq (first second : S) : Scalar.mul first second = first * second
  neg_eq (number : S) : Scalar.neg number = -number
  lt_eq (first second : S) : Scalar.lt first second = decide (first < second)
  le_eq (first second : S) : Scalar.le first second = decide (first ≤ second)
  min_eq (first second : S) : Scalar.min first second = min first second
  max_eq (first second : S) : Scalar.max first second = max first second
  rankLe_eq (first second : S) : Scalar.rankLe first second = decide (first ≤ second)

section

variable {S : Type} [CommRing S] [LinearOrder S] [Scalar S] [ExactScalar S]

instance : RankedScalar S where
  rankLe_trans {first second third} := by
    simp only [ExactScalar.rankLe_eq, decide_eq_true_eq]
    exact le_trans
  rankLe_total first second := by
    simp only [ExactScalar.rankLe_eq, Bool.or_eq_true, decide_eq_true_eq]
    exact le_total first second

theorem Scalar.isNumber_exact (number : S) : IsNumber number := by
  rw [IsNumber, ExactScalar.le_eq, decide_eq_true_eq]

instance : ComparableScalar S where
  le_trans {first second third} := by
    simp only [ExactScalar.le_eq, decide_eq_true_eq]
    exact le_trans
  isNumber_left _ := Scalar.isNumber_exact _
  isNumber_right _ := Scalar.isNumber_exact _
  isNumber_top := Scalar.isNumber_exact _
  le_total {first second} _ _ := by
    simp only [ExactScalar.le_eq, decide_eq_true_eq]
    exact le_total first second
  lt_iff {first second} := by
    simp only [ExactScalar.lt_eq, ExactScalar.le_eq, decide_eq_true_eq, decide_eq_false_iff_not, not_le,
      Scalar.isNumber_exact, true_and]
  min_le {first second} _ _ := by
    simp only [ExactScalar.le_eq, ExactScalar.min_eq, decide_eq_true_eq]
    exact ⟨min_le_left _ _, min_le_right _ _⟩
  le_max {first second} _ _ := by
    simp only [ExactScalar.le_eq, ExactScalar.max_eq, decide_eq_true_eq]
    exact ⟨le_max_left _ _, le_max_right _ _⟩
  le_of_rankLe {first second} _ _ := by
    simp only [ExactScalar.rankLe_eq, ExactScalar.le_eq]
    exact id

theorem Scalar.sum_eq (terms : List S) : Scalar.sum terms = terms.sum := by
  rw [Scalar.sum, ExactScalar.sumStart_eq, List.sum_eq_foldl]
  congr 1
  funext first second
  exact ExactScalar.add_eq first second

end

/-- Rational numbers, with two bounds that are far out but not beyond all others. -/
instance : Scalar ℚ where
  zero := 0
  sumStart := 0
  top := 1000000
  bottom := -1000000
  add := (· + ·)
  sub := (· - ·)
  mul := (· * ·)
  neg := (- ·)
  lt first second := decide (first < second)
  le first second := decide (first ≤ second)
  min := min
  max := max
  rankLe first second := decide (first ≤ second)

instance : ExactScalar ℚ where
  zero_eq := rfl
  sumStart_eq := rfl
  add_eq _ _ := rfl
  sub_eq _ _ := rfl
  mul_eq _ _ := rfl
  neg_eq _ := rfl
  lt_eq _ _ := rfl
  le_eq _ _ := rfl
  min_eq _ _ := rfl
  max_eq _ _ := rfl
  rankLe_eq _ _ := rfl

end SpatialStore
