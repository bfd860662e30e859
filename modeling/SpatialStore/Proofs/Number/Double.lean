import SpatialStore.Proofs.Number.Exact

/-! Doubles in order. All of them can be ranked, and those that are numbers can be compared. -/

namespace SpatialStore.Double

def isFinite (number : Double) : Bool := number.magnitude < 0x7ff0000000000000

theorem isNumber_iff {number : Double} : Scalar.IsNumber number ↔ number.isNaN = false := by
  change le number number = true ↔ _
  simp only [le, Int.le_refl, decide_true, Bool.and_true, Bool.and_self, Bool.not_eq_true']

theorem isNumber_of_isFinite {number : Double} (finite : number.isFinite = true) : Scalar.IsNumber number := by
  rw [isNumber_iff, isNaN, decide_eq_false_iff_not]
  rw [isFinite, decide_eq_true_eq] at finite
  omega

theorem le_iff {first second : Double} :
    Scalar.le first second = true ↔
      Scalar.IsNumber first ∧ Scalar.IsNumber second ∧ first.place ≤ second.place := by
  change le first second = true ↔ _
  simp only [le, isNumber_iff, Bool.and_eq_true, Bool.not_eq_true', decide_eq_true_eq, and_assoc]

theorem lt_iff {first second : Double} :
    Scalar.lt first second = true ↔
      Scalar.IsNumber first ∧ Scalar.IsNumber second ∧ first.place < second.place := by
  change lt first second = true ↔ _
  simp only [lt, isNumber_iff, Bool.and_eq_true, Bool.not_eq_true', decide_eq_true_eq, and_assoc]

theorem place_min {first second : Double} (firstNumber : Scalar.IsNumber first)
    (secondNumber : Scalar.IsNumber second) :
    Scalar.IsNumber (min first second) ∧ (min first second).place = Min.min first.place second.place := by
  rw [min, isNumber_iff.mp firstNumber, Bool.false_or]
  split
  next below =>
    have less := (lt_iff.mp below).2.2
    exact ⟨secondNumber, (Int.min_eq_right (Int.le_of_lt less)).symm⟩
  next above =>
    have least : first.place ≤ second.place :=
      Int.not_lt.mp fun less => above (lt_iff.mpr ⟨secondNumber, firstNumber, less⟩)
    exact ⟨firstNumber, (Int.min_eq_left least).symm⟩

theorem place_max {first second : Double} (firstNumber : Scalar.IsNumber first)
    (secondNumber : Scalar.IsNumber second) :
    Scalar.IsNumber (max first second) ∧ (max first second).place = Max.max first.place second.place := by
  rw [max, isNumber_iff.mp firstNumber, Bool.false_or]
  split
  next below =>
    have less := (lt_iff.mp below).2.2
    exact ⟨secondNumber, (Int.max_eq_right (Int.le_of_lt less)).symm⟩
  next above =>
    have greatest : second.place ≤ first.place :=
      Int.not_lt.mp fun less => above (lt_iff.mpr ⟨firstNumber, secondNumber, less⟩)
    exact ⟨firstNumber, (Int.max_eq_left greatest).symm⟩

theorem rankLe_iff {first second : Double} : Scalar.rankLe first second = true ↔ first.rank ≤ second.rank :=
  decide_eq_true_iff

instance : RankedScalar Double where
  rankLe_trans := by
    simp only [rankLe_iff]
    exact Int.le_trans
  rankLe_total first second := by
    rw [Bool.or_eq_true, rankLe_iff, rankLe_iff]
    exact Int.le_total _ _

instance : ComparableScalar Double where
  le_trans below above := by
    obtain ⟨firstNumber, _, firstLe⟩ := le_iff.mp below
    obtain ⟨_, thirdNumber, secondLe⟩ := le_iff.mp above
    exact le_iff.mpr ⟨firstNumber, thirdNumber, Int.le_trans firstLe secondLe⟩
  isNumber_left below := (le_iff.mp below).1
  isNumber_right below := (le_iff.mp below).2.1
  isNumber_top := isNumber_iff.mpr rfl
  le_total {first second} firstNumber secondNumber := by
    rw [le_iff, le_iff]
    rcases Int.le_total first.place second.place with below | above
    · exact Or.inl ⟨firstNumber, secondNumber, below⟩
    · exact Or.inr ⟨secondNumber, firstNumber, above⟩
  lt_iff {first second} := by
    rw [lt_iff]
    refine and_congr_right fun firstNumber => and_congr_right fun secondNumber => ?_
    rw [Bool.eq_false_iff, ne_eq, le_iff, not_and, not_and, Int.not_le]
    exact ⟨fun below _ _ => below, fun below => below secondNumber firstNumber⟩
  min_le firstNumber secondNumber := by
    obtain ⟨number, place⟩ := place_min firstNumber secondNumber
    constructor
    · exact le_iff.mpr ⟨number, firstNumber, place ▸ Int.min_le_left _ _⟩
    · exact le_iff.mpr ⟨number, secondNumber, place ▸ Int.min_le_right _ _⟩
  le_max firstNumber secondNumber := by
    obtain ⟨number, place⟩ := place_max firstNumber secondNumber
    constructor
    · exact le_iff.mpr ⟨firstNumber, number, place ▸ Int.le_max_left _ _⟩
    · exact le_iff.mpr ⟨secondNumber, number, place ▸ Int.le_max_right _ _⟩
  -- Ranks tell the two zeros apart, which are in one place.
  le_of_rankLe {first second} firstNumber secondNumber ranked := by
    refine le_iff.mpr ⟨firstNumber, secondNumber, Int.not_lt.mp fun above => ?_⟩
    exact Int.not_lt.mpr (rankLe_iff.mp ranked) (rank_lt_rank above)

end SpatialStore.Double
