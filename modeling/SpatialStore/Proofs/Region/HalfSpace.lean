import Mathlib.Tactic.Linarith
import SpatialStore.Proofs.Geometry.Box
import SpatialStore.Proofs.Geometry.Point
import SpatialStore.Region.Clip

/-! Half-spaces and boxes. Over a box the product with a normal stays between its values at two corners,
which the signs of the normal pick, so that what is said of a box is so for every point in it. -/

namespace SpatialStore.HalfSpace

section

variable {S : Type} {N : Nat} [Scalar S]

/-- A box is given up if it lies outside some half-space. Else the half-spaces that it straddles are left,
in order. -/
theorem straddled?_eq (box : Box S N) (planes : List (HalfSpace S N)) :
    straddled? box planes = if planes.any fun plane => plane.classify box = .outside then none
      else some (planes.filter fun plane => plane.classify box = .straddling) := by
  induction planes with
  | nil => rfl
  | cons plane rest ih =>
    rw [List.any_cons, List.filter_cons]
    cases side : plane.classify box with
    | outside =>
      rw [straddled?, side]
      rfl
    | inside =>
      rw [straddled?, side]
      exact ih
    | straddling =>
      rw [straddled?, side]
      change (straddled? box rest).map (plane :: ·) = if (rest.any _) = true then none else _
      rw [ih, apply_ite (Option.map (plane :: ·))]
      rfl

theorem exists_outside_of_straddled? {box : Box S N} {planes : List (HalfSpace S N)}
    (given : straddled? box planes = none) : ∃ plane ∈ planes, plane.classify box = .outside := by
  rw [straddled?_eq] at given
  split at given
  next outside => simpa using outside
  next => exact nomatch given

theorem of_straddled? {box : Box S N} {planes cutting : List (HalfSpace S N)}
    (found : straddled? box planes = some cutting) :
    (∀ plane ∈ cutting, plane ∈ planes) ∧ ∀ plane ∈ planes, plane ∈ cutting ∨ plane.classify box = .inside := by
  rw [straddled?_eq] at found
  split at found
  next => exact nomatch found
  next within =>
    obtain rfl := Option.some.inj found
    refine ⟨fun plane kept => List.mem_of_mem_filter kept, ?_⟩
    intro plane member
    cases side : plane.classify box with
    | inside => exact Or.inr rfl
    | straddling => exact Or.inl (List.mem_filter.mpr ⟨member, decide_eq_true side⟩)
    | outside => exact absurd (List.any_eq_true.mpr ⟨plane, member, decide_eq_true side⟩) within

def extremes (plane : HalfSpace S N) (box : Box S N) : S × S :=
  reach plane.normal.toList box.low.toList box.high.toList (Scalar.neg plane.offset, Scalar.neg plane.offset)

theorem classify_eq (plane : HalfSpace S N) (box : Box S N) :
    plane.classify box = if Scalar.le Scalar.zero (plane.extremes box).1 then .inside
      else if Scalar.lt (plane.extremes box).2 Scalar.zero then .outside else .straddling :=
  rfl

end

variable {S : Type} {N : Nat} [CommRing S] [LinearOrder S] [Scalar S] [ExactScalar S]

theorem contains_iff (plane : HalfSpace S N) (point : Point S N) :
    plane.contains point = true ↔ 0 ≤ plane.evaluate point := by
  rw [contains, ExactScalar.le_eq, ExactScalar.zero_eq, decide_eq_true_eq]

variable [IsStrictOrderedRing S]

/-- The product of a normal with a point stays between the extremes that its box reaches. -/
theorem reach_bounds {low point high : List S} (above : List.Forall₂ (· ≤ ·) low point)
    (below : List.Forall₂ (· ≤ ·) point high) (normal : List S) (extremes : S × S) :
    (reach normal low high extremes).1 ≤ extremes.1 + (List.zipWith (· * ·) normal point).sum ∧
      extremes.2 + (List.zipWith (· * ·) normal point).sum ≤ (reach normal low high extremes).2 := by
  induction above generalizing high normal extremes with
  | nil => simp [reach]
  | @cons l x low point lower _ ih =>
    cases below with
    | @cons _ h _ high upper below =>
      cases normal with
      | nil => simp [reach]
      | cons n normal =>
        obtain ⟨least, greatest⟩ := extremes
        simp only [reach, List.zipWith_cons_cons, List.sum_cons, ExactScalar.le_eq, ExactScalar.zero_eq,
          ExactScalar.add_eq, ExactScalar.mul_eq, decide_eq_true_eq]
        split
        next positive =>
          obtain ⟨fromBelow, fromAbove⟩ := ih below normal (least + n * l, greatest + n * h)
          have low := mul_le_mul_of_nonneg_left lower positive
          have high := mul_le_mul_of_nonneg_left upper positive
          constructor <;> linarith
        next negative =>
          have negative := le_of_not_ge negative
          obtain ⟨fromBelow, fromAbove⟩ := ih below normal (least + n * h, greatest + n * l)
          have low := mul_le_mul_of_nonpos_left upper negative
          have high := mul_le_mul_of_nonpos_left lower negative
          constructor <;> linarith

theorem evaluate_bounds {box : Box S N} {point : Point S N} (holds : box.Holds point) (plane : HalfSpace S N) :
    (plane.extremes box).1 ≤ plane.evaluate point ∧ plane.evaluate point ≤ (plane.extremes box).2 := by
  have above := Box.forall₂_le fun dimension => (holds dimension).1
  have below := Box.forall₂_le fun dimension => (holds dimension).2
  have value : plane.evaluate point =
      Scalar.neg plane.offset + (List.zipWith (· * ·) plane.normal.toList point.toList).sum := by
    rw [evaluate, Point.dot_eq, ExactScalar.sub_eq, ExactScalar.neg_eq, sub_eq_neg_add]
  rw [value]
  exact reach_bounds above below _ _

/-- What lies in a box that is inside a half-space is inside. -/
theorem contains_of_inside {box : Box S N} {point : Point S N} (holds : box.Holds point)
    {plane : HalfSpace S N} (inside : plane.classify box = .inside) : plane.contains point = true := by
  rw [classify_eq] at inside
  split at inside
  next positive =>
    rw [ExactScalar.le_eq, ExactScalar.zero_eq, decide_eq_true_eq] at positive
    exact (plane.contains_iff point).mpr (le_trans positive (evaluate_bounds holds plane).1)
  next =>
    split at inside
    next => exact nomatch inside
    next => exact nomatch inside

/-- What lies in a box that is outside a half-space is outside, not even on the plane. -/
theorem not_contains_of_outside {box : Box S N} {point : Point S N} (holds : box.Holds point)
    {plane : HalfSpace S N} (outside : plane.classify box = .outside) : plane.contains point = false := by
  rw [classify_eq] at outside
  split at outside
  next => exact nomatch outside
  next =>
    split at outside
    next negative =>
      rw [ExactScalar.lt_eq, ExactScalar.zero_eq, decide_eq_true_eq] at negative
      have below := lt_of_le_of_lt (evaluate_bounds holds plane).2 negative
      rw [Bool.eq_false_iff, ne_eq, contains_iff]
      exact not_le_of_gt below
    next => exact nomatch outside

/-! ### Several half-spaces -/

theorem all_contains_of_given_up {box : Box S N} {point : Point S N} (holds : box.Holds point)
    {planes : List (HalfSpace S N)} (given : straddled? box planes = none) :
    (planes.all fun plane => plane.contains point) = false := by
  obtain ⟨plane, member, outside⟩ := exists_outside_of_straddled? given
  rw [List.all_eq_false]
  exact ⟨plane, member, Bool.eq_false_iff.mp (not_contains_of_outside holds outside)⟩

theorem all_contains_eq {box : Box S N} {point : Point S N} (holds : box.Holds point)
    {planes cutting : List (HalfSpace S N)} (found : straddled? box planes = some cutting) :
    (planes.all fun plane => plane.contains point) = cutting.all fun plane => plane.contains point := by
  obtain ⟨among, rest⟩ := of_straddled? found
  rw [Bool.eq_iff_iff, List.all_eq_true, List.all_eq_true]
  constructor
  · intro all plane member
    exact all plane (among plane member)
  · intro all plane member
    rcases rest plane member with cuts | inside
    · exact all plane cuts
    · exact contains_of_inside holds inside

end SpatialStore.HalfSpace
