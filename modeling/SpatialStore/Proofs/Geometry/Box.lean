import Mathlib.Data.List.Forall2
import SpatialStore.Proofs.Geometry.Point

/-! Boxes around points. A box that is widened still encloses what it enclosed, and cut across one dimension
it encloses what lies on that side. All that takes is that the coordinates are numbers. -/

namespace SpatialStore

namespace Box

section

variable {S : Type} {N : Nat} [Scalar S]

/-- A point lies between the corners in each dimension that it has. -/
def Encloses (box : Box S N) (point : Point S N) : Prop :=
  ∀ dimension < N, Scalar.le (box.low.coordinate dimension) (point.coordinate dimension) = true ∧
    Scalar.le (point.coordinate dimension) (box.high.coordinate dimension) = true

theorem Encloses.below {box : Box S N} {point : Point S N} (encloses : box.Encloses point) {dimension : Nat}
    {bound : S} (below : Scalar.le (point.coordinate dimension) bound = true) :
    (box.below dimension bound).Encloses point := by
  intro other inside
  refine ⟨(encloses other inside).1, ?_⟩
  rw [Box.below, Point.coordinate_setIfInBounds _ _ _ inside]
  split
  next same => exact same ▸ below
  next => exact (encloses other inside).2

theorem Encloses.above {box : Box S N} {point : Point S N} (encloses : box.Encloses point) {dimension : Nat}
    {bound : S} (above : Scalar.le bound (point.coordinate dimension) = true) :
    (box.above dimension bound).Encloses point := by
  intro other inside
  refine ⟨?_, (encloses other inside).2⟩
  rw [Box.above, Point.coordinate_setIfInBounds _ _ _ inside]
  split
  next same => exact same ▸ above
  next => exact (encloses other inside).1

variable [ComparableScalar S]

/-- The corners of a box around something are numbers, so that widening it moves them outwards. -/
theorem Encloses.widen {box : Box S N} {point : Point S N} (encloses : box.Encloses point)
    {other : Point S N} (numbers : other.AllNumbers) :
    (box.widen other).Encloses point ∧ (box.widen other).Encloses other := by
  have outwards : ∀ dimension < N,
      (Scalar.le ((box.widen other).low.coordinate dimension) (box.low.coordinate dimension) = true ∧
        Scalar.le ((box.widen other).low.coordinate dimension) (other.coordinate dimension) = true) ∧
      (Scalar.le (box.high.coordinate dimension) ((box.widen other).high.coordinate dimension) = true ∧
        Scalar.le (other.coordinate dimension) ((box.widen other).high.coordinate dimension) = true) := by
    intro dimension inside
    obtain ⟨above, below⟩ := encloses dimension inside
    rw [Box.widen, Point.coordinate_zipWith _ _ _ inside, Point.coordinate_zipWith _ _ _ inside]
    exact ⟨ComparableScalar.min_le (ComparableScalar.isNumber_left above) (numbers dimension inside),
      ComparableScalar.le_max (ComparableScalar.isNumber_right below) (numbers dimension inside)⟩
  constructor
  · intro dimension inside
    obtain ⟨⟨lower, _⟩, higher, _⟩ := outwards dimension inside
    obtain ⟨above, below⟩ := encloses dimension inside
    exact ⟨ComparableScalar.le_trans lower above, ComparableScalar.le_trans below higher⟩
  · intro dimension inside
    obtain ⟨⟨_, above⟩, _, below⟩ := outwards dimension inside
    exact ⟨above, below⟩

theorem Encloses.foldl_widen {points : List (Point S N)} (numbers : ∀ point ∈ points, point.AllNumbers)
    {box : Box S N} {start : Point S N} (encloses : box.Encloses start) {point : Point S N}
    (held : box.Encloses point ∨ point ∈ points) : (points.foldl Box.widen box).Encloses point := by
  induction points generalizing box with
  | nil => exact held.resolve_right List.not_mem_nil
  | cons first rest ih =>
    have firstNumbers := numbers first List.mem_cons_self
    apply ih (fun other member => numbers other (List.mem_cons_of_mem _ member)) (encloses.widen firstNumbers).1
    rcases held with inBox | listed
    · exact Or.inl (inBox.widen firstNumbers).1
    · rcases List.mem_cons.mp listed with rfl | later
      · exact Or.inl (encloses.widen firstNumbers).2
      · exact Or.inr later

theorem around_encloses {points : List (Point S N)} (numbers : ∀ point ∈ points, point.AllNumbers)
    {box : Box S N} (made : around points = some box) {point : Point S N} (member : point ∈ points) :
    box.Encloses point := by
  cases points with
  | nil => exact nomatch made
  | cons first rest =>
    obtain rfl := Option.some.inj made
    have start : Encloses ⟨first, first⟩ first := by
      intro dimension inside
      have number := numbers first List.mem_cons_self dimension inside
      exact ⟨number, number⟩
    exact start.foldl_widen numbers (Or.inr member)

end

/-! ### Exact coordinates -/

variable {S : Type} {N : Nat} [LinearOrder S] [Scalar S]

/-- A point lies between the corners in every dimension. -/
def Holds (box : Box S N) (point : Point S N) : Prop :=
  ∀ dimension, box.low.coordinate dimension ≤ point.coordinate dimension ∧
    point.coordinate dimension ≤ box.high.coordinate dimension

theorem forall₂_le {first second : Point S N}
    (below : ∀ dimension, first.coordinate dimension ≤ second.coordinate dimension) :
    List.Forall₂ (· ≤ ·) first.toList second.toList := by
  rw [List.forall₂_iff_get]
  refine ⟨by rw [Vector.length_toList, Vector.length_toList], ?_⟩
  intro dimension inside _
  have inside : dimension < N := by rwa [Vector.length_toList] at inside
  have here := below dimension
  rw [Point.coordinate_of_lt _ inside, Point.coordinate_of_lt _ inside] at here
  simpa using here

variable [CommRing S] [ExactScalar S]

theorem holds_iff_encloses {box : Box S N} {point : Point S N} : box.Holds point ↔ box.Encloses point := by
  simp only [Holds, Encloses, ExactScalar.le_eq, decide_eq_true_eq]
  refine ⟨fun holds dimension _ => holds dimension, fun encloses dimension => ?_⟩
  by_cases inside : dimension < N
  · exact encloses dimension inside
  · have beyond := Nat.le_of_not_lt inside
    rw [Point.coordinate_of_le _ beyond, Point.coordinate_of_le _ beyond, Point.coordinate_of_le _ beyond]
    exact ⟨le_refl _, le_refl _⟩

theorem Holds.below {box : Box S N} {point : Point S N} (holds : box.Holds point) {dimension : Nat} {bound : S}
    (below : point.coordinate dimension ≤ bound) : (box.below dimension bound).Holds point := by
  rw [holds_iff_encloses] at holds ⊢
  apply holds.below
  rw [ExactScalar.le_eq]
  exact decide_eq_true below

theorem Holds.above {box : Box S N} {point : Point S N} (holds : box.Holds point) {dimension : Nat} {bound : S}
    (above : bound ≤ point.coordinate dimension) : (box.above dimension bound).Holds point := by
  rw [holds_iff_encloses] at holds ⊢
  apply holds.above
  rw [ExactScalar.le_eq]
  exact decide_eq_true above

theorem around_holds {points : List (Point S N)} {box : Box S N} (made : around points = some box)
    {point : Point S N} (member : point ∈ points) : box.Holds point :=
  holds_iff_encloses.mpr (around_encloses (fun _ _ _ _ => Scalar.isNumber_exact _) made member)

end Box

end SpatialStore
