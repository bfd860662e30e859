import SpatialStore.Proofs.Number.Rounding

/-! Doubles as they are computed with: taken apart into a sign, a mantissa and a power of two, rounded, and put
together again. The bits that come out are those of the magnitude that is nearest. -/

namespace SpatialStore.Rounding

open Float.Model (Format totalExponent UnpackedFloat)
open Float.Model.UnpackedFloat

/-! ### Leaving out bits of a mantissa -/

/-- What is left of a mantissa when bits are left out, whether the last of these is set, and whether any of
the others is. -/
theorem shifted (number drop : Nat) :
    ExtendedMantissa.ofMantissaAndAccuracy number .exact >>> drop =
      ⟨number / 2 ^ drop, decide (2 ^ drop ≤ 2 * (number % 2 ^ drop)),
        decide (number % 2 ^ drop ≠ 0 ∧ 2 * (number % 2 ^ drop) ≠ 2 ^ drop)⟩ := by
  induction drop with
  | zero =>
    simp only [Nat.pow_zero, Nat.div_one, Nat.mod_one]
    rfl
  | succ drop ih =>
    have positive := Nat.two_pow_pos drop
    have rest := Nat.mod_lt number positive
    have bits : number % 2 ^ (drop + 1) = number % 2 ^ drop + 2 ^ drop * (number / 2 ^ drop % 2) := by
      rw [Nat.pow_succ, Nat.mod_mul]
    change ExtendedMantissa.shiftRightOne (ExtendedMantissa.ofMantissaAndAccuracy number .exact >>> drop) = _
    rw [ih, ExtendedMantissa.shiftRightOne, Nat.div_div_eq_div_mul, ← Nat.pow_succ, bits, Nat.pow_succ]
    congr 1
    · rw [Bool.eq_iff_iff, bne_iff_ne, decide_eq_true_eq]
      rcases Nat.mod_two_eq_zero_or_one (number / 2 ^ drop) with even | odd
      · rw [even]
        omega
      · rw [odd]
        omega
    · rw [Bool.eq_iff_iff, Bool.or_eq_true, decide_eq_true_eq, decide_eq_true_eq, decide_eq_true_eq]
      rcases Nat.mod_two_eq_zero_or_one (number / 2 ^ drop) with even | odd
      · rw [even]
        omega
      · rw [odd]
        omega

theorem roundedMantissa_shifted (number drop : Nat) :
    (ExtendedMantissa.ofMantissaAndAccuracy number .exact >>> drop).roundedMantissa = nearest number drop := by
  rw [shifted]
  have rest := Nat.mod_lt number (Nat.two_pow_pos drop)
  unfold nearest
  simp only
  split
  next low =>
    have noRound : ¬2 ^ drop ≤ 2 * (number % 2 ^ drop) := Nat.not_le.mpr low
    rw [decide_eq_false noRound]
    cases decide (number % 2 ^ drop ≠ 0 ∧ 2 * (number % 2 ^ drop) ≠ 2 ^ drop) with
    | true => rfl
    | false => rfl
  next high =>
    have round : 2 ^ drop ≤ 2 * (number % 2 ^ drop) := Nat.not_lt.mp high
    rw [decide_eq_true round]
    split
    next tie =>
      have noSticky : ¬(number % 2 ^ drop ≠ 0 ∧ 2 * (number % 2 ^ drop) ≠ 2 ^ drop) :=
        fun sticky => sticky.2 tie
      rw [decide_eq_false noSticky]
      rfl
    next above =>
      have sticky : number % 2 ^ drop ≠ 0 ∧ 2 * (number % 2 ^ drop) ≠ 2 ^ drop := by
        have := Nat.two_pow_pos drop
        omega
      rw [decide_eq_true sticky]
      rfl

/-! ### Packing -/

theorem toNat_packComponents (sign : Sign) (exponent : BitVec 11) (mantissa : BitVec 52) :
    (packComponents Format.binary64 sign exponent mantissa).toNat =
      sign.toBitVec.toNat * 2 ^ 63 + exponent.toNat * 2 ^ 52 + mantissa.toNat := by
  unfold packComponents
  rw [BitVec.toNat_append, BitVec.toNat_append]
  have := exponent.isLt
  have := mantissa.isLt
  rw [← Nat.shiftLeft_add_eq_or_of_lt mantissa.isLt, ← Nat.shiftLeft_add_eq_or_of_lt exponent.isLt,
    Nat.shiftLeft_eq, Nat.shiftLeft_eq]
  omega

theorem toNat_pack_zero (sign : Sign) :
    (pack Format.binary64 (.zero sign)).toNat = sign.toBitVec.toNat * 2 ^ 63 :=
  (toNat_packComponents sign 0 0).trans (by simp)

theorem toNat_pack_infinity (sign : Sign) :
    (pack Format.binary64 (.infinity sign)).toNat = sign.toBitVec.toNat * 2 ^ 63 + infinite :=
  (toNat_packComponents sign (-1#_) 0).trans (by simp [infinite])

/-- With a mantissa that fills its bits unless the power is the least one, packing only joins the two. -/
theorem toNat_pack_finite (sign : Sign) {power number : Nat} (some : 0 < number) (small : number < 2 ^ 53)
    (full : power = 0 ∨ 2 ^ 52 ≤ number) :
    (pack Format.binary64 (.finite sign number (power - 1074) some)).toNat =
      sign.toBitVec.toNat * 2 ^ 63 + min (power * 2 ^ 52 + number) infinite := by
  have biased : ((power - 1074 : Int) + Format.binary64.exponentBias +
      Format.binary64.mantissaBitsWithoutImplicit).toNat = power + 1 := by
    change ((power - 1074 : Int) + (1023 : Nat) + (52 : Nat)).toNat = _
    omega
  unfold pack
  dsimp only
  rw [biased]
  split
  next beyond =>
    change 2 ^ 11 ≤ power + 1 + 1 at beyond
    have far : infinite ≤ power * 2 ^ 52 + number := by
      unfold infinite
      omega
    rw [Nat.min_eq_right far]
    exact toNat_pack_infinity sign
  next within =>
    change ¬2 ^ 11 ≤ power + 1 + 1 at within
    have near : power * 2 ^ 52 + number ≤ infinite := by
      unfold infinite
      omega
    rw [Nat.min_eq_left near]
    split
    next normal =>
      change number.log2 + 1 = 53 at normal
      have filled := Nat.log2_self_le (Nat.ne_of_gt some)
      rw [Nat.succ.inj normal] at filled
      rw [toNat_packComponents, BitVec.toNat_ofNat, BitVec.toNat_ofNat]
      omega
    next subnormal =>
      change ¬number.log2 + 1 = 53 at subnormal
      have least : power = 0 := by
        refine full.resolve_right fun filled => subnormal ?_
        rw [(Nat.log2_eq_iff (Nat.ne_of_gt some)).mpr ⟨filled, small⟩]
      have notFull : number < 2 ^ 52 := by
        refine Nat.lt_of_not_le fun filled => subnormal ?_
        rw [(Nat.log2_eq_iff (Nat.ne_of_gt some)).mpr ⟨filled, small⟩]
      rw [toNat_packComponents, BitVec.toNat_ofNat, least]
      change _ + 0 * 2 ^ 52 + number % 2 ^ 52 = _
      omega

/-! ### Rounding a mantissa -/

theorem targetExponent_eq (number : Nat) (exponent : Int) :
    Format.binary64.targetExponent (totalExponent number exponent) =
      max (number.log2 - 52 + exponent) (-1074) := by
  change max ((number.log2 + 1 + exponent : Int) - (53 : Nat)) (3 - 2 ^ 10 - (53 : Nat)) = _
  omega

theorem shiftToTargetExponent_eq (number drop : Nat) (exponent : Int)
    (target : max (number.log2 - 52 + exponent) (-1074) = exponent + drop ∨
      (drop = 0 ∧ max (number.log2 - 52 + exponent) (-1074) ≤ exponent)) :
    shiftToTargetExponent Format.binary64 number exponent .exact =
      (ExtendedMantissa.ofMantissaAndAccuracy number .exact >>> drop, exponent + drop) := by
  have amount : (max (number.log2 - 52 + exponent) (-1074) - exponent).toNat = drop := by omega
  rw [shiftToTargetExponent, targetExponent_eq, shiftToExponent, amount]

/-- A mantissa that was rounded up to one bit too many loses its last bit, which is zero. -/
theorem toNat_pack_shifted (sign : Sign) {power number : Nat} (small : number ≤ 2 ^ 53)
    (full : power = 0 ∨ 2 ^ 52 ≤ number) :
    let shifted := shiftToTargetExponent Format.binary64 number (power - 1074) .exact
    (pack Format.binary64 (if none : shifted.1.mantissa = 0 then .zero sign else
      .finite sign shifted.1.mantissa shifted.2 (Nat.pos_of_ne_zero none))).toNat =
      sign.toBitVec.toNat * 2 ^ 63 + min (power * 2 ^ 52 + number) infinite := by
  rcases Nat.lt_or_eq_of_le small with fits | carry
  · have bits : number.log2 ≤ 52 := by
      by_cases none : number = 0
      · rw [none, Nat.log2_zero]
        omega
      · exact Nat.le_of_lt_succ ((Nat.log2_lt none).mpr fits)
    have kept := shiftToTargetExponent_eq number 0 (power - 1074) (by omega)
    rw [Int.natCast_zero, Int.add_zero] at kept
    rw [kept]
    change (pack Format.binary64 (if none : number = 0 then .zero sign else
      .finite sign number (power - 1074) (Nat.pos_of_ne_zero none))).toNat = _
    by_cases none : number = 0
    · have least : power = 0 := by omega
      rw [dif_pos none, toNat_pack_zero, least, none, Nat.zero_mul, Nat.zero_add, Nat.zero_min, Nat.add_zero]
    · rw [dif_neg none]
      exact toNat_pack_finite sign (Nat.pos_of_ne_zero none) fits full
  · subst carry
    have kept := shiftToTargetExponent_eq (2 ^ 53) 1 (power - 1074) (by
      rw [Nat.log2_two_pow]
      omega)
    have raised : (power - 1074 : Int) + (1 : Nat) = (power + 1 : Nat) - 1074 := by omega
    rw [raised] at kept
    have half : (2 ^ 53 / 2 ^ 1 : Nat) = 2 ^ 52 := Nat.pow_div (by omega) Nat.two_pos
    have some : (2 ^ 52 : Nat) ≠ 0 := Nat.ne_of_gt (Nat.two_pow_pos 52)
    rw [kept, shifted, half]
    change (pack Format.binary64 (if none : 2 ^ 52 = 0 then .zero sign else
      .finite sign (2 ^ 52) ((power + 1 : Nat) - 1074) (Nat.pos_of_ne_zero none))).toNat = _
    have same : (power + 1) * 2 ^ 52 + 2 ^ 52 = power * 2 ^ 52 + 2 ^ 53 := by omega
    rw [dif_neg some, toNat_pack_finite sign _ (by omega) (Or.inr (Nat.le_refl _)), same]

/-- Rounding gives the nearest double, as long as there are not fewer bits than have to be left out. -/
theorem toNat_pack_roundWithAccuracy (sign : Sign) {number : Nat} (some : 0 < number) {unit power : Nat}
    (enough : power ≤ unit ∨ 52 ≤ number.log2) :
    (pack Format.binary64 (roundWithAccuracy Format.binary64 sign number (power - 1074 - unit) .exact)).toNat =
      sign.toBitVec.toNat * 2 ^ 63 + rounded unit (number * 2 ^ power) := by
  have drop : excess unit (number * 2 ^ power) = max (number.log2 + power - 52) unit := by
    rw [excess, log2_mul_two_pow (Nat.ne_of_gt some)]
  obtain ⟨more, split⟩ : ∃ more, excess unit (number * 2 ^ power) = more + power :=
    ⟨excess unit (number * 2 ^ power) - power, by omega⟩
  obtain ⟨beyond, above⟩ : ∃ beyond, excess unit (number * 2 ^ power) = beyond + unit :=
    ⟨excess unit (number * 2 ^ power) - unit, by omega⟩
  have kept := shiftToTargetExponent_eq number more (power - 1074 - unit) (by omega)
  have exponent : (power - 1074 - unit : Int) + more = beyond - 1074 := by omega
  have rounds : (ExtendedMantissa.ofMantissaAndAccuracy number .exact >>> more).roundedMantissa =
      nearest (number * 2 ^ power) (excess unit (number * 2 ^ power)) := by
    rw [roundedMantissa_shifted, split, nearest_mul]
  have full : beyond = 0 ∨ 2 ^ 52 ≤ nearest (number * 2 ^ power) (excess unit (number * 2 ^ power)) := by
    rcases Nat.eq_zero_or_pos beyond with least | positive
    · exact Or.inl least
    · exact Or.inr (le_nearest_excess (by omega))
  have packed := toNat_pack_shifted sign (nearest_excess_le unit (number * 2 ^ power)) full
  rw [rounded, above, Nat.add_sub_cancel, ← above, ← packed, roundWithAccuracy, kept, exponent, ← rounds]

theorem toNat_pack_round (sign : Sign) {number : Nat} (some : 0 < number) (power : Nat) :
    (pack Format.binary64 (UnpackedFloat.round Format.binary64 sign number (power - 1074))).toNat =
      sign.toBitVec.toNat * 2 ^ 63 + rounded 0 (number * 2 ^ power) := by
  obtain ⟨added, amount⟩ : ∃ added,
      ((power - 1074 : Int) - max ((number.log2 : Int) - 52 + (power - 1074)) (-1074)).toNat = added := ⟨_, rfl⟩
  obtain ⟨rest, split⟩ : ∃ rest, power = rest + added := ⟨power - added, by omega⟩
  have widened : 0 < number * 2 ^ added := Nat.mul_pos some (Nat.two_pow_pos added)
  have enough : rest ≤ 0 ∨ 52 ≤ (number * 2 ^ added).log2 := by
    rw [log2_mul_two_pow (Nat.ne_of_gt some)]
    omega
  have exponent : (power - 1074 : Int) - added = rest - 1074 - (0 : Nat) := by omega
  have whole : number * 2 ^ added * 2 ^ rest = number * 2 ^ power := by
    rw [Nat.mul_assoc, ← Nat.pow_add, split, Nat.add_comm]
  rw [UnpackedFloat.round, targetExponent_eq, decreaseExponent, amount, Nat.shiftLeft_eq, exponent]
  exact (toNat_pack_roundWithAccuracy sign widened enough).trans (by rw [whole])

/-! ### Unpacking -/

inductive Unpacks : Sign → Nat → UnpackedFloat → Prop
  | zero (sign : Sign) : Unpacks sign 0 (.zero sign)
  | finite (sign : Sign) {magnitude number : Nat} {exponent : Int} (power : Nat) (some : 0 < number)
      (small : number < 2 ^ 53) (full : power = 0 ∨ 2 ^ 52 ≤ number) (scaled : exponent = power - 1074)
      (whole : magnitude = power * 2 ^ 52 + number) (below : magnitude < infinite) :
      Unpacks sign magnitude (.finite sign number exponent some)
  | infinity (sign : Sign) : Unpacks sign infinite (.infinity sign)

namespace Unpacks

variable {sign : Sign} {magnitude : Nat} {unpacked : UnpackedFloat}

theorem toNat_pack (unpacks : Unpacks sign magnitude unpacked) :
    (pack Format.binary64 unpacked).toNat = sign.toBitVec.toNat * 2 ^ 63 + magnitude := by
  cases unpacks with
  | zero =>
    rw [Nat.add_zero]
    exact toNat_pack_zero sign
  | finite power some small full scaled whole below =>
    subst scaled whole
    rw [toNat_pack_finite sign some small full, Nat.min_eq_left (Nat.le_of_lt below)]
  | infinity => exact toNat_pack_infinity sign

theorem magnitude_le (unpacks : Unpacks sign magnitude unpacked) : magnitude ≤ infinite := by
  cases unpacks with
  | zero => exact Nat.zero_le _
  | finite _ _ _ _ _ _ below => exact Nat.le_of_lt below
  | infinity => exact Nat.le_refl _

theorem eq_infinity (unpacks : Unpacks sign magnitude unpacked) (top : magnitude = infinite) :
    unpacked = .infinity sign := by
  cases unpacks with
  | zero => exact absurd top (by decide)
  | finite _ _ _ _ _ _ below => exact absurd top (Nat.ne_of_lt below)
  | infinity => rfl

theorem neg (unpacks : Unpacks sign magnitude unpacked) : Unpacks (-sign) magnitude unpacked.neg := by
  cases unpacks with
  | zero => exact .zero _
  | finite power some small full scaled whole below => exact .finite _ power some small full scaled whole below
  | infinity => exact .infinity _

end Unpacks

section

variable {bits : BitVec 64} {sign : Sign} {magnitude : Nat}
  (whole : bits.toNat = sign.toBitVec.toNat * 2 ^ 63 + magnitude) (bounded : magnitude ≤ infinite)

include whole

theorem toNat_unpackMantissa : (@unpackMantissa Format.binary64 bits).toNat = magnitude % 2 ^ 52 := by
  have kept : (@unpackMantissa Format.binary64 bits).toNat = bits.toNat % 2 ^ 52 := by simp [unpackMantissa]
  omega

include bounded

theorem toNat_unpackExponent : (@unpackExponent Format.binary64 bits).toNat = magnitude / 2 ^ 52 := by
  have kept : (@unpackExponent Format.binary64 bits).toNat = bits.toNat / 2 ^ 52 % 2 ^ 11 := by
    simp [unpackExponent, Nat.shiftRight_eq_div_pow]
  unfold infinite at bounded
  omega

theorem ofBitVec_unpackSign : Sign.ofBitVec (@unpackSign Format.binary64 bits) = sign := by
  have kept : (@unpackSign Format.binary64 bits).toNat = bits.toNat / 2 ^ 63 % 2 := by
    unfold unpackSign
    simp [Nat.shiftRight_eq_div_pow]
  have same : @unpackSign Format.binary64 bits = sign.toBitVec := by
    apply BitVec.eq_of_toNat_eq
    have := sign.toBitVec.isLt
    unfold infinite at bounded
    omega
  rw [same]
  cases sign with
  | negative => rfl
  | positive => rfl

theorem unpacks_unpack : Unpacks sign magnitude (unpack Format.binary64 bits) := by
  have mantissa := toNat_unpackMantissa whole
  have exponent := toNat_unpackExponent whole bounded
  unfold infinite at bounded
  unfold unpack
  dsimp only
  rw [ofBitVec_unpackSign whole bounded]
  by_cases all : @unpackExponent Format.binary64 bits = -1#_
  · rw [all] at exponent
    change 2047 = _ at exponent
    obtain rfl : magnitude = infinite := by
      unfold infinite
      omega
    rw [if_pos all, if_pos (BitVec.eq_of_toNat_eq mantissa)]
    exact .infinity sign
  have below : magnitude / 2 ^ 52 < 2047 := by
    refine Nat.lt_of_not_le fun top => all ?_
    apply BitVec.eq_of_toNat_eq
    rw [exponent]
    change _ = 2047
    omega
  have finite : magnitude < infinite := by
    unfold infinite
    omega
  rw [if_neg all]
  by_cases least : @unpackExponent Format.binary64 bits = 0#_
  · rw [if_pos least]
    rw [least] at exponent
    change 0 = _ at exponent
    by_cases none : @unpackMantissa Format.binary64 bits = 0#_
    · rw [dif_pos none]
      rw [none] at mantissa
      change 0 = _ at mantissa
      obtain rfl : magnitude = 0 := by omega
      exact .zero sign
    · rw [dif_neg none]
      have positive : (@unpackMantissa Format.binary64 bits).toNat ≠ 0 :=
        fun zero => none (BitVec.eq_of_toNat_eq zero)
      refine .finite sign 0 _ (by omega) (Or.inl rfl) ?_ (by omega) finite
      rw [least]
      rfl
  · rw [if_neg least]
    have positive : (@unpackExponent Format.binary64 bits).toNat ≠ 0 :=
      fun zero => least (BitVec.eq_of_toNat_eq zero)
    have filled : (1#1 ++ @unpackMantissa Format.binary64 bits).toNat = 2 ^ 52 + magnitude % 2 ^ 52 := by
      rw [BitVec.toNat_append, ← Nat.shiftLeft_add_eq_or_of_lt (BitVec.isLt _), mantissa]
      change 1 <<< 52 + _ = _
      omega
    refine .finite sign (magnitude / 2 ^ 52 - 1) _ (by omega) (Or.inr (by omega)) ?_ (by omega) finite
    rw [exponent]
    change ((_ : Nat) : Int) - ((1023 : Nat) + (52 : Nat)) = _
    omega

end

end SpatialStore.Rounding
