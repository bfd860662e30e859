import SpatialStore.Proofs.Number.Double
import SpatialStore.Proofs.Number.Packing

/-! Sums, differences and squares of doubles. Each is the exact result, rounded once, so that a larger exact
result never gives a smaller double, and a result that is too large is infinite. -/

namespace SpatialStore

namespace Rounding

open Float.Model (Format UnpackedFloat)
open Float.Model.UnpackedFloat

/-! ### Places -/

def placeOf (number : Int) : Int :=
  if number < 0 then -rounded 0 number.natAbs else rounded 0 number.natAbs

theorem natAbs_placeOf (number : Int) : (placeOf number).natAbs = rounded 0 number.natAbs := by
  unfold placeOf
  split
  next => rw [Int.natAbs_neg, Int.natAbs_natCast]
  next => exact Int.natAbs_natCast _

theorem placeOf_mono {first second : Int} (le : first ≤ second) : placeOf first ≤ placeOf second := by
  unfold placeOf
  split
  next firstNegative =>
    split
    next =>
      have := rounded_mono (show second.natAbs ≤ first.natAbs by omega) 0
      omega
    next => omega
  next firstNonneg =>
    have := rounded_mono (show first.natAbs ≤ second.natAbs by omega) 0
    rw [if_neg (by omega)]
    omega

theorem placeOf_neg {number : Int} : placeOf number < 0 ↔ number < 0 := by
  unfold placeOf
  split
  next negative =>
    have := rounded_pos (show 0 < number.natAbs by omega)
    omega
  next nonneg => omega

theorem placeOf_apply (sign : Sign) (number : Nat) :
    placeOf (sign.apply number) = sign.apply (rounded 0 number) := by
  cases sign with
  | positive => exact if_neg (Int.not_lt.mpr (Int.natCast_nonneg number))
  | negative =>
    change placeOf (-number) = -rounded 0 number
    rcases Nat.eq_zero_or_pos number with rfl | some
    · rfl
    · rw [placeOf, if_pos (by omega), Int.natAbs_neg, Int.natAbs_natCast]

theorem apply_zero (sign : Sign) : sign.apply 0 = 0 := by
  cases sign with
  | negative => rfl
  | positive => rfl

theorem apply_neg (sign : Sign) (number : Int) : (-sign).apply number = -sign.apply number := by
  cases sign with
  | negative => exact (Int.neg_neg number).symm
  | positive => rfl

theorem apply_steps_mono {first second : Sign} {firstMagnitude secondMagnitude : Nat}
    (le : first.apply firstMagnitude ≤ second.apply secondMagnitude) :
    first.apply (steps firstMagnitude) ≤ second.apply (steps secondMagnitude) := by
  cases first with
  | negative =>
    cases second with
    | negative =>
      exact Int.neg_le_neg (Int.ofNat_le.mpr (steps_mono (Int.ofNat_le.mp (Int.neg_le_neg_iff.mp le))))
    | positive =>
      change -(steps firstMagnitude : Int) ≤ steps secondMagnitude
      omega
  | positive =>
    cases second with
    | negative =>
      -- Between the two there is only room for both zeros.
      change (firstMagnitude : Int) ≤ -secondMagnitude at le
      obtain ⟨rfl, rfl⟩ : firstMagnitude = 0 ∧ secondMagnitude = 0 := by omega
      exact Int.le_refl 0
    | positive => exact Int.ofNat_le.mpr (steps_mono (Int.ofNat_le.mp le))

theorem apply_mul (sign : Sign) (number factor : Int) :
    sign.apply number * factor = sign.apply (number * factor) := by
  cases sign with
  | negative => exact Int.neg_mul _ _
  | positive => rfl

def Packs (place : Int) (unpacked : UnpackedFloat) : Prop :=
  ∃ (sign : Sign) (magnitude : Nat), (pack Format.binary64 unpacked).toNat =
    sign.toBitVec.toNat * 2 ^ 63 + magnitude ∧ magnitude ≤ infinite ∧ sign.apply magnitude = place

theorem Unpacks.packs {sign : Sign} {magnitude : Nat} {unpacked : UnpackedFloat}
    (unpacks : Unpacks sign magnitude unpacked) : Packs (sign.apply magnitude) unpacked :=
  ⟨sign, magnitude, unpacks.toNat_pack, unpacks.magnitude_le, rfl⟩

theorem packs_zero (sign : Sign) : Packs 0 (.zero sign) := by
  have packs := (Unpacks.zero sign).packs
  rwa [Int.natCast_zero, apply_zero] at packs

theorem packs_round (sign : Sign) (number : Nat) (some : 0 < number) (power : Nat) :
    Packs (placeOf (sign.apply number * 2 ^ power))
      (UnpackedFloat.round Format.binary64 sign number (power - 1074)) := by
  refine ⟨sign, _, toNat_pack_round sign some power, rounded_le _ _, ?_⟩
  rw [apply_mul, ← placeOf_apply, Int.natCast_mul, Int.natCast_pow]
  rfl

theorem packs_normalize (number : Int) (power : Nat) (zero : Sign) :
    Packs (placeOf (number * 2 ^ power)) (UnpackedFloat.normalize Format.binary64 number (power - 1074) zero) := by
  rcases Int.lt_trichotomy number 0 with below | rfl | above
  · have whole : number = Sign.negative.apply (-number).toNat := by
      change _ = -((-number).toNat : Int)
      omega
    rw [UnpackedFloat.normalize, Int.compare_eq_lt.mpr below]
    have packs := packs_round .negative (-number).toNat (by omega) power
    rwa [← whole] at packs
  · rw [Int.zero_mul]
    exact packs_zero zero
  · have whole : number = Sign.positive.apply number.toNat := by
      change _ = (number.toNat : Int)
      omega
    rw [UnpackedFloat.normalize, Int.compare_eq_gt.mpr above]
    have packs := packs_round .positive number.toNat (by omega) power
    rwa [← whole] at packs

theorem sub_eq_add_neg (first second : UnpackedFloat) :
    sub Format.binary64 first second = add Format.binary64 first second.neg := by
  cases first with
  | notANumber => cases second <;> rfl
  | infinity sign => cases second <;> rfl
  | zero sign => cases second <;> rfl
  | finite sign mantissa exponent some =>
    cases second with
    | notANumber => rfl
    | infinity => rfl
    | zero => rfl
    | finite other mantissa exponent some =>
      unfold sub add neg
      dsimp only
      rw [apply_neg, Int.sub_eq_add_neg]

theorem apply_decreaseExponent (sign : Sign) {least power : Nat} (above : least ≤ power) (number : Nat) :
    sign.apply (decreaseExponent number (power - 1074) (least - 1074)).1 * 2 ^ least =
      sign.apply ((number * 2 ^ power : Nat) : Int) := by
  have amount : ((power - 1074 : Int) - (least - 1074)).toNat = power - least := by omega
  have cast : ((2 ^ least : Nat) : Int) = 2 ^ least := Int.natCast_pow 2 least
  rw [apply_mul, decreaseExponent, amount, Nat.shiftLeft_eq]
  simp only
  rw [← cast, ← Int.natCast_mul, Nat.mul_assoc, ← Nat.pow_add, Nat.sub_add_cancel above]

theorem packs_add_finite (first second : Sign) {firstPower firstNumber secondPower secondNumber : Nat}
    (firstSome : 0 < firstNumber) (secondSome : 0 < secondNumber) :
    Packs (placeOf (first.apply ((firstNumber * 2 ^ firstPower : Nat) : Int) +
        second.apply ((secondNumber * 2 ^ secondPower : Nat) : Int)))
      (add Format.binary64 (.finite first firstNumber (firstPower - 1074) firstSome)
        (.finite second secondNumber (secondPower - 1074) secondSome)) := by
  obtain ⟨least, minimum⟩ : ∃ least, least = min firstPower secondPower := ⟨_, rfl⟩
  have exponent : min ((firstPower : Int) - 1074) (secondPower - 1074) = least - 1074 := by omega
  rw [← apply_decreaseExponent first (show least ≤ firstPower by omega),
    ← apply_decreaseExponent second (show least ≤ secondPower by omega), ← Int.add_mul]
  unfold add
  dsimp only
  rw [exponent]
  exact packs_normalize _ least .positive

/-- A sum of finite numbers is rounded once. -/
theorem packs_add {first second : Sign} {firstMagnitude secondMagnitude : Nat} {u v : UnpackedFloat}
    (firstUnpacks : Unpacks first firstMagnitude u) (secondUnpacks : Unpacks second secondMagnitude v)
    (firstFinite : firstMagnitude < infinite) (secondFinite : secondMagnitude < infinite) :
    Packs (placeOf (first.apply (steps firstMagnitude) + second.apply (steps secondMagnitude)))
      (add Format.binary64 u v) := by
  have nothing : ∀ sign : Sign, sign.apply (steps 0) = 0 := apply_zero
  have firstPacks := firstUnpacks.packs
  have secondPacks := secondUnpacks.packs
  cases firstUnpacks with
  | infinity => exact absurd firstFinite (Nat.lt_irrefl _)
  | zero =>
    rw [nothing, Int.zero_add, placeOf_apply, rounded_steps (Nat.le_of_lt secondFinite)]
    cases secondUnpacks with
    | infinity => exact absurd secondFinite (Nat.lt_irrefl _)
    | zero =>
      rw [Int.natCast_zero, apply_zero]
      change Packs 0 (if (first == second) = true then .zero first else .zero .positive)
      by_cases same : (first == second) = true
      · rw [if_pos same]
        exact packs_zero first
      · rw [if_neg same]
        exact packs_zero .positive
    | finite => exact secondPacks
  | finite _ firstSome firstSmall firstFull firstScaled firstWhole _ =>
    cases secondUnpacks with
    | infinity => exact absurd secondFinite (Nat.lt_irrefl _)
    | zero =>
      rw [nothing, Int.add_zero, placeOf_apply, rounded_steps (Nat.le_of_lt firstFinite)]
      exact firstPacks
    | finite _ secondSome secondSmall secondFull secondScaled secondWhole _ =>
      subst firstScaled secondScaled firstWhole secondWhole
      rw [steps_eq firstSmall firstFull, steps_eq secondSmall secondFull]
      exact packs_add_finite first second firstSome secondSome

/-- What is infinite stays so when something is added to it that is not infinite on the other side. -/
theorem packs_add_infinity {sign : Sign} {magnitude : Nat} {u : UnpackedFloat}
    (unpacks : Unpacks sign magnitude u) (sameSide : magnitude = infinite → sign = .positive) :
    Packs infinite (add Format.binary64 (.infinity .positive) u) ∧
      Packs infinite (add Format.binary64 u (.infinity .positive)) := by
  have packs := (Unpacks.infinity .positive).packs
  cases unpacks with
  | zero => exact ⟨packs, packs⟩
  | finite => exact ⟨packs, packs⟩
  | infinity =>
    rw [sameSide rfl]
    exact ⟨packs, packs⟩

def squared (magnitude : Nat) : Nat :=
  if magnitude < infinite then rounded 1074 (steps magnitude * steps magnitude) else infinite

theorem squared_mono {first second : Nat} (le : first ≤ second) : squared first ≤ squared second := by
  unfold squared
  split
  next =>
    split
    next =>
      have worth := steps_mono le
      exact rounded_mono (Nat.mul_le_mul worth worth) 1074
    next => exact rounded_le _ _
  next notBelow =>
    rw [if_neg fun below => notBelow (Nat.lt_of_le_of_lt le below)]

theorem packs_mul_self {sign : Sign} {magnitude : Nat} {u : UnpackedFloat}
    (unpacks : Unpacks sign magnitude u) : Packs (squared magnitude) (mul Format.binary64 u u) := by
  have positive : sign * sign = Sign.positive := by
    cases sign with
    | negative => rfl
    | positive => rfl
  cases unpacks with
  | zero =>
    have nothing : steps 0 * steps 0 = 0 := by decide
    rw [squared, if_pos (by decide), nothing, rounded_zero]
    exact packs_zero _
  | infinity =>
    change Packs _ (.infinity (sign * sign))
    rw [positive]
    exact (Unpacks.infinity .positive).packs
  | @finite _ number _ power some small full scaled whole below =>
    subst scaled
    have enough : 2 * power ≤ 1074 ∨ 52 ≤ (number * number).log2 := by
      rcases full with least | filled
      · exact Or.inl (by omega)
      · refine Or.inr ((Nat.le_log2 (Nat.ne_of_gt (Nat.mul_pos some some))).mpr ?_)
        exact Nat.le_trans filled (Nat.le_mul_of_pos_right number some)
    have exponent : ((power : Int) - 1074) + (power - 1074) = (2 * power : Nat) - 1074 - (1074 : Nat) := by omega
    have worth : squared magnitude = rounded 1074 (number * number * 2 ^ (2 * power)) := by
      rw [squared, if_pos below, whole, steps_eq small full, Nat.two_mul, Nat.pow_add, Nat.mul_mul_mul_comm]
    unfold mul
    dsimp only
    rw [positive, exponent]
    exact ⟨.positive, _, toNat_pack_roundWithAccuracy .positive (Nat.mul_pos some some) enough, rounded_le _ _,
      worth ▸ rfl⟩

end Rounding

namespace Double

open Rounding
open Float.Model (Format UnpackedFloat)
open Float.Model.UnpackedFloat (Sign)

def sign (number : Double) : Sign := if number.isNegative then .negative else .positive

theorem toNat_bits (number : Double) :
    number.bits.toNat = number.sign.toBitVec.toNat * 2 ^ 63 + number.magnitude := by
  have := number.bits.toNat_lt
  unfold sign magnitude isNegative
  split
  next negative =>
    rw [decide_eq_true_eq] at negative
    change _ = 1 * 2 ^ 63 + _
    omega
  next positive =>
    rw [decide_eq_true_eq] at positive
    change _ = 0 * 2 ^ 63 + _
    omega

theorem magnitude_le_of_isNumber {number : Double} (isNumber : Scalar.IsNumber number) :
    number.magnitude ≤ infinite := by
  rw [isNumber_iff, isNaN, decide_eq_false_iff_not, Nat.not_lt] at isNumber
  exact isNumber

def unpacked (number : Double) : UnpackedFloat := number.toFloat.toModel.unpack

theorem unpacks {number : Double} (isNumber : Scalar.IsNumber number) :
    Unpacks number.sign number.magnitude number.unpacked := by
  have unpacks := unpacks_unpack number.toNat_bits (magnitude_le_of_isNumber isNumber)
  have same : UnpackedFloat.pack Format.binary64 (UnpackedFloat.unpack Format.binary64 number.bits.toBitVec) =
      number.bits.toBitVec := by
    apply BitVec.eq_of_toNat_eq
    rw [unpacks.toNat_pack]
    exact number.toNat_bits.symm
  change Unpacks _ _ (UnpackedFloat.unpack Format.binary64
    (UnpackedFloat.pack Format.binary64 (UnpackedFloat.unpack Format.binary64 number.bits.toBitVec)))
  rw [same]
  exact unpacks

theorem place_eq (number : Double) : number.place = number.sign.apply number.magnitude := by
  unfold place sign
  split
  next => rfl
  next => rfl

/-- What a double is worth, in multiples of the least positive one. -/
def value (number : Double) : Int := number.sign.apply (steps number.magnitude)

theorem of_packs (number : Double) {place : Int} {unpacked : UnpackedFloat} (packs : Packs place unpacked)
    (bits : number.bits.toBitVec = UnpackedFloat.pack Format.binary64 unpacked) :
    Scalar.IsNumber number ∧ number.place = place := by
  obtain ⟨sign, magnitude, packed, small, rfl⟩ := packs
  rw [← bits] at packed
  change number.bits.toNat = _ at packed
  unfold infinite at small
  rw [isNumber_iff, isNaN, decide_eq_false_iff_not, place, isNegative, Double.magnitude]
  cases sign with
  | negative =>
    change _ = 1 * 2 ^ 63 + magnitude at packed
    have rest : number.bits.toNat % 0x8000000000000000 = magnitude := by omega
    rw [if_pos (decide_eq_true (by omega)), rest]
    exact ⟨Nat.not_lt.mpr small, rfl⟩
  | positive =>
    change _ = 0 * 2 ^ 63 + magnitude at packed
    have rest : number.bits.toNat % 0x8000000000000000 = magnitude := by omega
    have low : ¬0x8000000000000000 ≤ number.bits.toNat := by omega
    rw [if_neg (mt of_decide_eq_true low), rest]
    exact ⟨Nat.not_lt.mpr small, rfl⟩

theorem isFinite_iff {number : Double} : number.isFinite = true ↔ number.magnitude < infinite := decide_eq_true_iff

theorem natAbs_place (number : Double) : number.place.natAbs = number.magnitude := by
  rw [place_eq]
  cases number.sign with
  | negative => exact Int.natAbs_neg _
  | positive => rfl

theorem placeOf_value {number : Double} (finite : number.isFinite = true) : placeOf number.value = number.place := by
  rw [value, placeOf_apply, rounded_steps (Nat.le_of_lt (isFinite_iff.mp finite)), place_eq]

theorem value_mono {first second : Double} (le : first.place ≤ second.place) : first.value ≤ second.value := by
  rw [place_eq, place_eq] at le
  exact apply_steps_mono le

/-! ### Operations -/

theorem sub_spec {first second : Double} (firstFinite : first.isFinite = true)
    (secondFinite : second.isFinite = true) : Scalar.IsNumber (Scalar.sub first second) ∧
      (Scalar.sub first second).place = placeOf (first.value - second.value) := by
  have packs := packs_add (unpacks (isNumber_of_isFinite firstFinite))
    (unpacks (isNumber_of_isFinite secondFinite)).neg (isFinite_iff.mp firstFinite) (isFinite_iff.mp secondFinite)
  rw [apply_neg, ← sub_eq_add_neg, ← Int.sub_eq_add_neg] at packs
  exact of_packs _ packs rfl

theorem mul_self_spec {number : Double} (isNumber : Scalar.IsNumber number) :
    Scalar.IsNumber (Scalar.mul number number) ∧ (Scalar.mul number number).place = squared number.magnitude :=
  of_packs _ (packs_mul_self (unpacks isNumber)) rfl

section

variable {number : Double}

theorem value_nonneg (nonneg : 0 ≤ number.place) : 0 ≤ number.value :=
  @value_mono ⟨0⟩ number nonneg

theorem sign_of_infinite (nonneg : 0 ≤ number.place) (top : number.magnitude = infinite) :
    number.sign = .positive := by
  rw [place_eq, top] at nonneg
  cases sign : number.sign with
  | positive => rfl
  | negative =>
    rw [sign] at nonneg
    exact absurd nonneg (by decide)

theorem unpacked_of_infinite (isNumber : Scalar.IsNumber number) (nonneg : 0 ≤ number.place)
    (top : number.magnitude = infinite) : number.unpacked = .infinity .positive := by
  rw [(unpacks isNumber).eq_infinity top, sign_of_infinite nonneg top]

theorem place_le (isNumber : Scalar.IsNumber number) : number.place ≤ infinite := by
  have size := number.natAbs_place
  have small := magnitude_le_of_isNumber isNumber
  omega

end

/-- Adding two numbers that are not negative gives a number that is not less than either. -/
theorem add_spec {first second : Double} (firstNumber : Scalar.IsNumber first)
    (secondNumber : Scalar.IsNumber second) (firstNonneg : 0 ≤ first.place) (secondNonneg : 0 ≤ second.place) :
    Scalar.IsNumber (Scalar.add first second) ∧ first.place ≤ (Scalar.add first second).place ∧
      second.place ≤ (Scalar.add first second).place := by
  have beyond : Packs infinite (UnpackedFloat.add Format.binary64 first.unpacked second.unpacked) →
      Scalar.IsNumber (Scalar.add first second) ∧ first.place ≤ (Scalar.add first second).place ∧
        second.place ≤ (Scalar.add first second).place := by
    intro packs
    obtain ⟨isNumber, place⟩ := of_packs (Scalar.add first second) packs rfl
    rw [place]
    exact ⟨isNumber, place_le firstNumber, place_le secondNumber⟩
  rcases Nat.lt_or_eq_of_le (magnitude_le_of_isNumber firstNumber) with firstFinite | firstTop
  · rcases Nat.lt_or_eq_of_le (magnitude_le_of_isNumber secondNumber) with secondFinite | secondTop
    · have packs := packs_add (unpacks firstNumber) (unpacks secondNumber) firstFinite secondFinite
      obtain ⟨isNumber, place⟩ := of_packs (Scalar.add first second) packs rfl
      have firstValue := value_nonneg firstNonneg
      have secondValue := value_nonneg secondNonneg
      rw [← placeOf_value (isFinite_iff.mpr firstFinite), ← placeOf_value (isFinite_iff.mpr secondFinite), place]
      exact ⟨isNumber, placeOf_mono (Int.le_add_of_nonneg_right secondValue),
        placeOf_mono (Int.le_add_of_nonneg_left firstValue)⟩
    · apply beyond
      rw [unpacked_of_infinite secondNumber secondNonneg secondTop]
      exact (packs_add_infinity (unpacks firstNumber) (sign_of_infinite firstNonneg)).2
  · apply beyond
    rw [unpacked_of_infinite firstNumber firstNonneg firstTop]
    exact (packs_add_infinity (unpacks secondNumber) (sign_of_infinite secondNonneg)).1

end Double

end SpatialStore
