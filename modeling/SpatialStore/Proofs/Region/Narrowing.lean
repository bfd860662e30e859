import SpatialStore.Proofs.Geometry.Box
import SpatialStore.Proofs.Number.Double
import SpatialStore.Proofs.Tree.Descent

/-! The order around the nodes of a tree, and the boxes of its branches. On the way down a box is narrowed to
one side of each splitting plane, and what is below lies in what is left of it. -/

namespace SpatialStore

/-! ### Narrowing a box -/

namespace Branch

variable {S : Type} {N : Nat} [Scalar S]

/-- Going down from a branch with its box leads to a branch with that box narrowed at each node on the way,
as clipping narrows it. -/
inductive Narrows : Branch S N → Box S N → Branch S N → Box S N → Prop
  | here {branch : Branch S N} {box : Box S N} : Narrows branch box branch box
  | left {slot : Nat} {record : KdNode S N} {lower upper inner : Branch S N} {box within : Box S N}
      (below : Narrows lower (box.below record.dimension (record.position.coordinate record.dimension))
        inner within) : Narrows (.node slot record lower upper) box inner within
  | right {slot : Nat} {record : KdNode S N} {lower upper inner : Branch S N} {box within : Box S N}
      (below : Narrows upper (box.above record.dimension (record.position.coordinate record.dimension))
        inner within) : Narrows (.node slot record lower upper) box inner within

variable [ComparableScalar S]

def LiesIn (branch : Branch S N) (box : Box S N) : Prop :=
  ∀ record ∈ branch.records,
    record.dimension < N ∧ record.position.AllNumbers ∧ box.Encloses record.position

section

variable {slot : Nat} {record : KdNode S N} {lower upper : Branch S N} {box : Box S N}

theorem LiesIn.left (lies : (node slot record lower upper).LiesIn box)
    (sorted : (node slot record lower upper).Sorted) :
    lower.LiesIn (box.below record.dimension (record.position.coordinate record.dimension)) := by
  intro other member
  obtain ⟨splits, numbers, _⟩ := lies record (List.mem_append_right _ List.mem_cons_self)
  obtain ⟨otherSplits, otherNumbers, encloses⟩ := lies other (List.mem_append_left _ member)
  have below := ComparableScalar.le_of_rankLe (otherNumbers _ splits) (numbers _ splits) (sorted.1 other member)
  exact ⟨otherSplits, otherNumbers, encloses.below below⟩

theorem LiesIn.right (lies : (node slot record lower upper).LiesIn box)
    (sorted : (node slot record lower upper).Sorted) :
    upper.LiesIn (box.above record.dimension (record.position.coordinate record.dimension)) := by
  intro other member
  obtain ⟨splits, numbers, _⟩ := lies record (List.mem_append_right _ List.mem_cons_self)
  obtain ⟨otherSplits, otherNumbers, encloses⟩ :=
    lies other (List.mem_append_right _ (List.mem_cons_of_mem _ member))
  have above := ComparableScalar.le_of_rankLe (numbers _ splits) (otherNumbers _ splits) (sorted.2.1 other member)
  exact ⟨otherSplits, otherNumbers, encloses.above above⟩

end

/-- Narrowing a box loses no point of what is further down. -/
theorem Narrows.liesIn {branch inner : Branch S N} {box within : Box S N}
    (narrows : branch.Narrows box inner within) (sorted : branch.Sorted) (lies : branch.LiesIn box) :
    inner.LiesIn within := by
  induction narrows with
  | here => exact lies
  | left _ ih => exact ih sorted.2.2.1 (lies.left sorted)
  | right _ ih => exact ih sorted.2.2.2 (lies.right sorted)

end Branch

namespace KdTree

variable {γ S : Type} {N : Nat} [Scalar S] [Cell γ] [Stored (KdNode S N) γ]

/-! ### The order around a node -/

/-- One coordinate of the point in a slot. -/
def coordinateOf (tree : KdTree γ S N) (slot dimension : Nat) : S :=
  (tree.view slot).position.coordinate dimension

/-- In the dimension in which a node splits, nothing below its link to the left ranks above it, and nothing
below its link to the right ranks below it. -/
structure RankedAround (tree : KdTree γ S N) (slot : Nat) : Prop where
  onLeft : ∀ child ∈ (tree.view slot).leftSlot, ∀ lower ∈ (tree.branch child).slots,
    Scalar.rankLe (tree.coordinateOf lower (tree.view slot).dimension)
      (tree.coordinateOf slot (tree.view slot).dimension) = true
  onRight : ∀ child ∈ (tree.view slot).rightSlot, ∀ upper ∈ (tree.branch child).slots,
    Scalar.rankLe (tree.coordinateOf slot (tree.view slot).dimension)
      (tree.coordinateOf upper (tree.view slot).dimension) = true

theorem Carries.branch_of_top {tree : KdTree γ S N} {branch : Branch S N} (carries : tree.Carries branch)
    {slot : Nat} (top : slot ∈ branch.top) : tree.branch slot = branch := by
  cases branch with
  | nil => exact nomatch top
  | node place record left right =>
    obtain rfl := Option.some.inj top
    exact carries.branch_eq

theorem Carries.view_mem_records {tree : KdTree γ S N} {branch : Branch S N} (carries : tree.Carries branch)
    {slot : Nat} (member : slot ∈ branch.slots) : tree.view slot ∈ branch.records := by
  rw [carries.records_eq]
  exact List.mem_map_of_mem member

theorem Carries.of_narrows {tree : KdTree γ S N} {branch inner : Branch S N} {box within : Box S N}
    (carries : tree.Carries branch) (narrows : branch.Narrows box inner within) : tree.Carries inner := by
  induction narrows with
  | here => exact carries
  | left _ ih => exact ih carries.left
  | right _ ih => exact ih carries.right

theorem Carries.rankedAround {tree : KdTree γ S N} {branch : Branch S N} (carries : tree.Carries branch)
    (sorted : branch.Sorted) {slot : Nat} (member : slot ∈ branch.slots) : tree.RankedAround slot := by
  induction branch with
  | nil => exact nomatch member
  | node place record left right leftIh rightIh =>
    rcases List.mem_append.mp member with inLeft | inRest
    · exact leftIh carries.left sorted.2.2.1 inLeft
    rcases List.mem_cons.mp inRest with rfl | inRight
    · obtain ⟨leftLink, rightLink, _⟩ := carries.linked
      have here := carries.here.1
      constructor
      · intro child link lower below
        rw [here, leftLink] at link
        rw [carries.left.branch_of_top link] at below
        rw [coordinateOf, coordinateOf, here]
        exact sorted.1 _ (carries.left.view_mem_records below)
      · intro child link upper below
        rw [here, rightLink] at link
        rw [carries.right.branch_of_top link] at below
        rw [coordinateOf, coordinateOf, here]
        exact sorted.2.1 _ (carries.right.view_mem_records below)
    · exact rightIh carries.right sorted.2.2.2 inRight

/-! ### The box of a tree -/

theorem Spans.exists_bounds {tree : KdTree γ S N} {sites : List (Site S N)} (spans : tree.Spans sites)
    (some : 0 < tree.len) : ∃ box, tree.bounds = .some box := by
  have count := spans.perm.length_eq
  rw [length_sites] at count
  rw [spans.bounds]
  cases sites with
  | nil => exact absurd count (Nat.ne_of_gt some)
  | cons first rest => exact ⟨_, rfl⟩

theorem Spans.bounds_encloses [ComparableScalar S] {tree : KdTree γ S N} {sites : List (Site S N)}
    (spans : tree.Spans sites) (numbers : ∀ record ∈ tree.records, record.position.AllNumbers) {box : Box S N}
    (bounded : tree.bounds = some box) : ∀ record ∈ tree.records, box.Encloses record.position := by
  have points : (sites.map Site.point).Perm (tree.records.map KdNode.position) := by
    have perm := (spans.perm.map Site.point).symm
    rwa [KdTree.sites, List.map_map] at perm
  rw [spans.bounds] at bounded
  intro record member
  refine Box.around_encloses ?_ bounded (points.mem_iff.mpr (List.mem_map_of_mem member))
  intro point listed
  obtain ⟨other, inside, rfl⟩ := List.mem_map.mp (points.mem_iff.mp listed)
  exact numbers other inside

section

variable {γ : Type} {N : Nat} [Cell γ] [Stored (KdNode Double N) γ] [LawfulStored (KdNode Double N)]

/-- Over a tree of doubles that was built, and then rebuilt and marked in whatever way, each node splits in
one of the dimensions and is ranked around there, whatever the coordinates. If they are all numbers, the box
of the tree, narrowed down to any branch, encloses all points of that branch. -/
theorem narrows_around_ranked {tree : KdTree γ Double N} (reached : tree.Reached) (some : 1 ≤ N)
    (few : N < 2 ^ 28) :
    (∀ slot < tree.len, (tree.view slot).dimension < N ∧ tree.RankedAround slot) ∧
    ((∀ slot < tree.len, ∀ dimension < N, (tree.coordinateOf slot dimension).isNaN = false) → 0 < tree.len →
      ∃ box, tree.bounds = .some box ∧ ∀ inner within, tree.outline.Narrows box inner within →
        ∀ slot ∈ inner.slots, within.Encloses (tree.view slot).position) := by
  obtain ⟨sound, ⟨sites, spans⟩, sortedWith, splitsWith⟩ := reached.tended
  have room : N ≤ KdNode.dimensions := by
    unfold KdNode.dimensions
    omega
  have sorted := sortedWith inferInstance room
  have splits := splitsWith room
  rw [show Nat.max N 1 = N from Nat.max_eq_left some] at splits
  have listed : ∀ slot < tree.len, slot ∈ tree.outline.slots := by
    intro slot inside
    rw [sound.bears.slots]
    exact List.mem_range.mpr inside
  constructor
  · intro slot inside
    have member := listed slot inside
    exact ⟨splits _ (sound.carries.view_mem_records member), sound.carries.rankedAround sorted member⟩
  · intro numbers inhabited
    have recordNumbers : ∀ record ∈ tree.records, record.position.AllNumbers := by
      rw [sound.records_eq]
      intro record member
      obtain ⟨slot, inside, rfl⟩ := List.mem_map.mp member
      intro dimension within
      exact Double.isNumber_iff.mpr (numbers slot (List.mem_range.mp inside) dimension within)
    obtain ⟨box, bounded⟩ := spans.exists_bounds inhabited
    have lies : tree.outline.LiesIn box := by
      intro record member
      have inside := member
      rw [sound.bears.records] at inside
      exact ⟨splits record member, recordNumbers record inside,
        spans.bounds_encloses recordNumbers bounded record inside⟩
    refine ⟨box, bounded, fun inner within narrows slot member => ?_⟩
    have carried := sound.carries.of_narrows narrows
    exact (narrows.liesIn sorted lies _ (carried.view_mem_records member)).2.2

end

/-- Two zeros, of which the one with a minus sign is on the left of the other. -/
theorem narrows_between_zeros :
    ∃ (tree : KdTree UInt8 Double 1) (box : Box Double 1), tree.Reached ∧ (1 ≤ 1 ∧ 1 < 2 ^ 28) ∧
      tree.root = some 1 ∧ (tree.coordinateOf 0 0 = ⟨0x8000000000000000⟩ ∧ tree.coordinateOf 1 0 = ⟨0⟩) ∧
      ((tree.view 1).dimension < 1 ∧ tree.RankedAround 1) ∧ tree.bounds = some box ∧
      (box.below 0 ⟨0⟩).Encloses (tree.view 0).position := by
  obtain ⟨tree, reached, good⟩ := exists_overPoints UInt8 UInt8 [#v[(⟨0⟩ : Double)], #v[⟨0x8000000000000000⟩]]
    (fun tree => decide (tree.len = 2 ∧ tree.root = some 1 ∧
        tree.coordinateOf 0 0 = ⟨0x8000000000000000⟩ ∧ tree.coordinateOf 1 0 = ⟨0⟩) &&
      match tree.outline with
      | .node _ record lower .nil =>
        decide (record.dimension = 0 ∧ record.position.coordinate 0 = ⟨0⟩ ∧ lower.slots = [0])
      | _ => false)
    (by decide +kernel)
  obtain ⟨facts, shape⟩ := Bool.and_eq_true_iff.mp good
  obtain ⟨two, root, first, second⟩ := of_decide_eq_true facts
  have fits : 1 ≤ 1 ∧ 1 < 2 ^ 28 := by decide
  obtain ⟨ranked, enclosed⟩ := narrows_around_ranked reached fits.1 fits.2
  have numbers : ∀ slot < tree.len, ∀ dimension < 1, (tree.coordinateOf slot dimension).isNaN = false := by
    intro slot inside dimension within
    obtain rfl := Nat.lt_one_iff.mp within
    rcases Nat.lt_succ_iff_lt_or_eq.mp (two ▸ inside : slot < 2) with below | rfl
    · obtain rfl := Nat.lt_one_iff.mp below
      exact first ▸ rfl
    · exact second ▸ rfl
  obtain ⟨box, bounded, narrowed⟩ := enclosed numbers (two ▸ Nat.zero_lt_two)
  refine ⟨tree, box, reached, fits, root, ⟨first, second⟩, ranked 1 (two ▸ Nat.one_lt_two), bounded, ?_⟩
  split at shape
  next slot record lower outline =>
    obtain ⟨dimension, plane, slots⟩ := of_decide_eq_true shape
    have narrows : tree.outline.Narrows box lower (box.below 0 ⟨0⟩) := by
      have left : (Branch.node slot record lower .nil).Narrows box lower
          (box.below record.dimension (record.position.coordinate record.dimension)) := .left .here
      rwa [dimension, plane, ← outline] at left
    exact narrowed lower _ narrows 0 (slots ▸ List.mem_singleton_self 0)
  next => exact nomatch shape

end KdTree

end SpatialStore
