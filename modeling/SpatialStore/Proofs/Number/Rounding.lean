import Mathlib.Algebra.Order.Ring.Nat
import Mathlib.Data.Nat.Log
import Mathlib.Tactic.SplitIfs

/-! Rounding to the nearest double, in whole numbers. What a double is worth is counted in multiples of the
least positive one, and what is to be rounded in multiples of a power of two times finer. -/

namespace SpatialStore.Rounding

/-! ### What a magnitude is worth -/

def scale (magnitude : Nat) : Nat := magnitude / 2 ^ 52 - 1

def mantissa (magnitude : Nat) : Nat := magnitude - scale magnitude * 2 ^ 52

/-- A magnitude in multiples of the least positive double. -/
def steps (magnitude : Nat) : Nat := mantissa magnitude * 2 ^ scale magnitude

theorem magnitude_eq (magnitude : Nat) : magnitude = scale magnitude * 2 ^ 52 + mantissa magnitude := by
  unfold mantissa scale
  omega

theorem mantissa_lt (magnitude : Nat) : mantissa magnitude < 2 ^ 53 := by
  unfold mantissa scale
  omega

theorem scale_eq_zero_or (magnitude : Nat) : scale magnitude = 0 ∨ 2 ^ 52 ≤ mantissa magnitude := by
  unfold mantissa scale
  omega

theorem scale_mantissa_unique {power number : Nat} (small : number < 2 ^ 53) (full : power = 0 ∨ 2 ^ 52 ≤ number) :
    scale (power * 2 ^ 52 + number) = power ∧ mantissa (power * 2 ^ 52 + number) = number := by
  have same : scale (power * 2 ^ 52 + number) = power := by
    unfold scale
    omega
  refine ⟨same, ?_⟩
  rw [mantissa, same]
  omega

theorem steps_eq {power number : Nat} (small : number < 2 ^ 53) (full : power = 0 ∨ 2 ^ 52 ≤ number) :
    steps (power * 2 ^ 52 + number) = number * 2 ^ power := by
  obtain ⟨scaled, kept⟩ := scale_mantissa_unique small full
  rw [steps, scaled, kept]

/-! ### Leaving out bits -/

/-- Leaves out the lowest bits, rounding to the nearest whole number, and halves to the even one. -/
def nearest (number drop : Nat) : Nat :=
  let kept := number / 2 ^ drop
  if 2 * (number % 2 ^ drop) < 2 ^ drop then kept
  else if 2 * (number % 2 ^ drop) = 2 ^ drop then kept + kept % 2
  else kept + 1

theorem nearest_zero (number : Nat) : nearest number 0 = number := by
  simp [nearest, Nat.mod_one]

theorem le_nearest (number drop : Nat) : number / 2 ^ drop ≤ nearest number drop := by
  unfold nearest
  simp only
  split
  · exact Nat.le_refl _
  · split <;> omega

theorem nearest_le (number drop : Nat) : nearest number drop ≤ number / 2 ^ drop + 1 := by
  unfold nearest
  simp only
  split
  · omega
  · split <;> omega

theorem nearest_mono {first second : Nat} (le : first ≤ second) (drop : Nat) :
    nearest first drop ≤ nearest second drop := by
  have kept : first / 2 ^ drop ≤ second / 2 ^ drop := Nat.div_le_div_right le
  rcases Nat.lt_or_eq_of_le kept with less | same
  · calc nearest first drop ≤ first / 2 ^ drop + 1 := nearest_le first drop
      _ ≤ second / 2 ^ drop := less
      _ ≤ nearest second drop := le_nearest second drop
  · -- With the same bits kept, it is the bits left out that decide.
    have split := Nat.div_add_mod first (2 ^ drop)
    have splitSecond := Nat.div_add_mod second (2 ^ drop)
    rw [same] at split
    have rest : first % 2 ^ drop ≤ second % 2 ^ drop := by omega
    simp only [nearest, same]
    split_ifs <;> omega

theorem nearest_mul (number drop more : Nat) : nearest (number * 2 ^ more) (drop + more) = nearest number drop := by
  have positive : 0 < 2 ^ more := Nat.two_pow_pos more
  unfold nearest
  rw [Nat.pow_add, Nat.mul_div_mul_right _ _ positive, Nat.mul_mod_mul_right, ← Nat.mul_assoc]
  simp only [Nat.mul_lt_mul_right positive, Nat.mul_left_inj (Nat.ne_of_gt positive)]

theorem log2_mul_two_pow {number : Nat} (some : number ≠ 0) (power : Nat) :
    (number * 2 ^ power).log2 = number.log2 + power := by
  induction power with
  | zero => rw [Nat.pow_zero, Nat.mul_one, Nat.add_zero]
  | succ power ih =>
    have positive : number * 2 ^ power ≠ 0 := Nat.mul_ne_zero some (Nat.ne_of_gt (Nat.two_pow_pos power))
    rw [Nat.pow_succ, ← Nat.mul_assoc, Nat.mul_comm _ 2, Nat.log2_two_mul positive, ih, Nat.add_assoc]

/-! ### Rounding -/

def infinite : Nat := 0x7ff0000000000000

def excess (unit number : Nat) : Nat := max (number.log2 - 52) unit

/-- The magnitude of the double that is nearest to a number. The number is counted in multiples of the least
positive double divided by a power of two. -/
def rounded (unit number : Nat) : Nat :=
  min ((excess unit number - unit) * 2 ^ 52 + nearest number (excess unit number)) infinite

theorem rounded_le (unit number : Nat) : rounded unit number ≤ infinite := Nat.min_le_right _ _

theorem rounded_zero (unit : Nat) : rounded unit 0 = 0 := by
  have drop : excess unit 0 = unit := Nat.zero_max unit
  simp [rounded, drop, nearest]

theorem nearest_excess_le (unit number : Nat) : nearest number (excess unit number) ≤ 2 ^ 53 := by
  have short : number < 2 ^ (excess unit number + 53) := by
    apply Nat.lt_of_lt_of_le Nat.lt_log2_self
    apply Nat.pow_le_pow_right Nat.two_pos
    unfold excess
    omega
  rw [Nat.add_comm, Nat.pow_add] at short
  have kept := Nat.div_lt_of_lt_mul (Nat.mul_comm _ _ ▸ short)
  exact Nat.le_trans (nearest_le _ _) kept

/-- Where more bits are left out than it takes at least, the mantissa is full. -/
theorem le_nearest_excess {unit number : Nat} (more : unit < excess unit number) :
    2 ^ 52 ≤ nearest number (excess unit number) := by
  have bits : excess unit number = number.log2 - 52 := by
    unfold excess at more ⊢
    omega
  apply Nat.le_trans _ (le_nearest _ _)
  rw [Nat.le_div_iff_mul_le (Nat.two_pow_pos _), ← Nat.pow_add, bits]
  have some : number ≠ 0 := by
    rintro rfl
    rw [Nat.log2_zero] at bits
    omega
  apply (Nat.le_log2 some).mp
  omega

theorem rounded_mono {first second : Nat} (le : first ≤ second) (unit : Nat) :
    rounded unit first ≤ rounded unit second := by
  have logs : first.log2 ≤ second.log2 := by
    rw [Nat.log2_eq_log_two, Nat.log2_eq_log_two]
    exact Nat.log_mono_right le
  have drops : excess unit first ≤ excess unit second := by
    unfold excess
    omega
  have least : unit ≤ excess unit first := Nat.le_max_right _ _
  have whole : (excess unit first - unit) * 2 ^ 52 + nearest first (excess unit first) ≤
      (excess unit second - unit) * 2 ^ 52 + nearest second (excess unit second) := by
    rcases Nat.lt_or_eq_of_le drops with more | same
    · have below := nearest_excess_le unit first
      have above := le_nearest_excess (Nat.lt_of_le_of_lt least more)
      omega
    · rw [same]
      exact Nat.add_le_add_left (nearest_mono le _) _
  exact Nat.le_min.mpr ⟨Nat.le_trans (Nat.min_le_left _ _) whole, Nat.min_le_right _ _⟩

theorem rounded_steps {magnitude : Nat} (finite : magnitude ≤ infinite) :
    rounded 0 (steps magnitude) = magnitude := by
  have small := mantissa_lt magnitude
  have drop : excess 0 (steps magnitude) = scale magnitude := by
    rcases scale_eq_zero_or magnitude with least | full
    · have number : steps magnitude < 2 ^ 53 := by
        rw [steps, least, Nat.pow_zero, Nat.mul_one]
        exact small
      have bits : (steps magnitude).log2 < 53 := by
        by_cases none : steps magnitude = 0
        · rw [none, Nat.log2_zero]
          omega
        · exact (Nat.log2_lt none).mpr number
      rw [least, excess]
      omega
    · have bits : (mantissa magnitude).log2 = 52 :=
        (Nat.log2_eq_iff (by omega)).mpr ⟨full, small⟩
      rw [excess, steps, log2_mul_two_pow (by omega), bits]
      omega
  rw [rounded, drop, steps, Nat.sub_zero]
  have whole := nearest_mul (mantissa magnitude) 0 (scale magnitude)
  rw [Nat.zero_add, nearest_zero] at whole
  rw [whole, ← magnitude_eq]
  exact Nat.min_eq_left finite

/-- Nothing positive is rounded to zero, as long as it is a multiple of the least positive double. -/
theorem rounded_pos {number : Nat} (positive : 0 < number) : 0 < rounded 0 number := by
  have one : steps 1 = 1 := by decide
  have least := rounded_mono (one ▸ positive : steps 1 ≤ number) 0
  rw [rounded_steps (by decide)] at least
  exact least

theorem steps_mono {first second : Nat} (le : first ≤ second) : steps first ≤ steps second := by
  have scales : scale first ≤ scale second := Nat.sub_le_sub_right (Nat.div_le_div_right le) 1
  rcases Nat.lt_or_eq_of_le scales with less | same
  · have full := (scale_eq_zero_or second).resolve_left (Nat.ne_of_gt (Nat.zero_lt_of_lt less))
    calc steps first ≤ 2 ^ 53 * 2 ^ scale first := Nat.mul_le_mul_right _ (Nat.le_of_lt (mantissa_lt first))
      _ = 2 ^ 52 * 2 ^ (scale first + 1) := by rw [← Nat.pow_add, ← Nat.pow_add]; congr 1; omega
      _ ≤ 2 ^ 52 * 2 ^ scale second := Nat.mul_le_mul_left _ (Nat.pow_le_pow_right Nat.two_pos less)
      _ ≤ steps second := Nat.mul_le_mul_right _ full
  · have mantissas : mantissa first ≤ mantissa second := by
      rw [mantissa, mantissa, same]
      exact Nat.sub_le_sub_right le _
    rw [steps, steps, same]
    exact Nat.mul_le_mul_right _ mantissas

end SpatialStore.Rounding
