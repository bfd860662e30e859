import SpatialStore.Proofs.Region.HalfSpace
import SpatialStore.Proofs.Region.Partition
import SpatialStore.Proofs.Tree.Reached

/-! Clipping. Whatever the numbers, every node is put on one side. With exact numbers it is the right one:
the box of a branch holds its points, and the half-spaces that are not asked again hold on the whole box. -/

namespace SpatialStore

namespace Branch

section

variable {γ S : Type} {N : Nat} [Scalar S] [Cell γ] [Stored (KdNode S N) γ]

/-- Taken whole or node by node, a branch ends up on the two sides. -/
theorem clip_divides {tree : KdTree γ S N} {branch : Branch S N} (carries : tree.Carries branch)
    (box : Box S N) (planes : List (HalfSpace S N)) : (branch.clip box planes).Divides tree branch := by
  induction branch generalizing box planes with
  | nil => exact Partition.divides_nil tree
  | node slot record left right leftIh rightIh =>
    rw [clip]
    split
    next => exact Partition.divides_outsideBranch carries
    next => exact Partition.divides_insideBranch carries
    next cutting _ _ =>
      apply Partition.Divides.node
      · split
        next => exact Or.inl rfl
        next => exact Or.inr rfl
      · exact leftIh carries.left _ cutting
      · exact rightIh carries.right _ cutting

end

variable {γ S : Type} {N : Nat} [CommRing S] [LinearOrder S] [IsStrictOrderedRing S] [Scalar S] [ExactScalar S]
  [Cell γ] [Stored (KdNode S N) γ]

/-- A box holds the points of a branch. -/
def Within (branch : Branch S N) (box : Box S N) : Prop := ∀ record ∈ branch.records, box.Holds record.position

omit [IsStrictOrderedRing S] in
theorem Within.left {slot : Nat} {record : KdNode S N} {left right : Branch S N} {box : Box S N}
    (within : (node slot record left right).Within box) (sorted : (node slot record left right).Sorted) :
    left.Within (box.below record.dimension (record.position.coordinate record.dimension)) := by
  intro lower member
  have below := sorted.1 lower member
  rw [ExactScalar.rankLe_eq, decide_eq_true_eq] at below
  exact (within lower (List.mem_append_left _ member)).below below

omit [IsStrictOrderedRing S] in
theorem Within.right {slot : Nat} {record : KdNode S N} {left right : Branch S N} {box : Box S N}
    (within : (node slot record left right).Within box) (sorted : (node slot record left right).Sorted) :
    right.Within (box.above record.dimension (record.position.coordinate record.dimension)) := by
  intro upper member
  have above := sorted.2.1 upper member
  rw [ExactScalar.rankLe_eq, decide_eq_true_eq] at above
  exact (within upper (List.mem_append_right _ (List.mem_cons_of_mem _ member))).above above

theorem clip_sides {tree : KdTree γ S N} {branch : Branch S N} (carries : tree.Carries branch)
    (sorted : branch.Sorted) {box : Box S N} (within : branch.Within box) (planes : List (HalfSpace S N)) :
    (branch.clip box planes).Sides tree fun point => planes.all fun plane => plane.contains point := by
  induction branch generalizing box planes with
  | nil => exact ⟨nofun, nofun⟩
  | node slot record left right leftIh rightIh =>
    have holds : ∀ other ∈ (node slot record left right).slots, box.Holds (tree.view other).position := by
      intro other member
      apply within
      rw [carries.records_eq]
      exact List.mem_map_of_mem member
    cases found : HalfSpace.straddled? box planes with
    | none =>
      rw [clip, found]
      apply Partition.sides_outsideBranch carries
      intro other member
      exact HalfSpace.all_contains_of_given_up (holds other member) found
    | some cutting =>
      -- Only the half-spaces that the box straddles are asked from here on. For points in the box that is enough.
      have enough : ∀ other ∈ (node slot record left right).slots,
          (planes.all fun plane => plane.contains (tree.view other).position) =
            cutting.all fun plane => plane.contains (tree.view other).position :=
        fun other member => HalfSpace.all_contains_eq (holds other member) found
      suffices asked : ((node slot record left right).clip box planes).Sides tree
          fun point => cutting.all fun plane => plane.contains point from
        asked.congr (clip_divides carries box planes) enough
      cases cutting with
      | nil =>
        rw [clip, found]
        exact Partition.sides_insideBranch carries fun _ _ => rfl
      | cons first others =>
        have here := Partition.sides_single tree slot fun point =>
          (first :: others).all fun plane => plane.contains point
        rw [carries.here.1] at here
        have onLeft := leftIh carries.left sorted.2.2.1 (within.left sorted) (first :: others)
        have onRight := rightIh carries.right sorted.2.2.2 (within.right sorted) (first :: others)
        rw [clip, found]
        exact (here.append onLeft).append onRight

end Branch

namespace KdTree

section

variable {γ S : Type} {N : Nat} [Scalar S] [Cell γ] [Stored (KdNode S N) γ]

theorem Spans.outline_eq_nil {tree : KdTree γ S N} {sites : List (Site S N)} (spans : tree.Spans sites)
    (unbounded : tree.bounds = none) : tree.outline = .nil := by
  cases sites with
  | nil => exact outline_eq spans.sound.nodes spans.bears_nil
  | cons site rest => exact nomatch unbounded.symm.trans spans.bounds

theorem clip_divides {tree : KdTree γ S N} {sites : List (Site S N)} (spans : tree.Spans sites)
    (region : Polytope S N) : (tree.clip region).Divides tree tree.outline := by
  unfold clip
  split
  next unbounded =>
    rw [spans.outline_eq_nil unbounded]
    exact Partition.divides_nil tree
  next box _ => exact Branch.clip_divides spans.sound.carries box region.planes

end

variable {γ S : Type} {N : Nat} [CommRing S] [LinearOrder S] [IsStrictOrderedRing S] [Scalar S] [ExactScalar S]
  [Cell γ] [Stored (KdNode S N) γ]

omit [IsStrictOrderedRing S] in
/-- The bounds of a tree hold all of its points. -/
theorem Spans.within {tree : KdTree γ S N} {sites : List (Site S N)} (spans : tree.Spans sites) {box : Box S N}
    (bounded : tree.bounds = some box) : tree.outline.Within box := by
  intro record member
  rw [spans.sound.bears.records] at member
  have listed : record.site ∈ sites := spans.perm.mem_iff.mp (List.mem_map_of_mem member)
  exact Box.around_holds (spans.bounds.symm.trans bounded) (List.mem_map_of_mem listed)

theorem clip_sides {tree : KdTree γ S N} {sites : List (Site S N)} (spans : tree.Spans sites)
    (sorted : tree.outline.Sorted) (region : Polytope S N) : (tree.clip region).Sides tree region.contains := by
  unfold clip
  split
  next => exact ⟨nofun, nofun⟩
  next box bounded => exact Branch.clip_sides spans.sound.carries sorted (spans.within bounded) region.planes

end KdTree

namespace Clipper

variable {γ S : Type} {N : Nat} [Scalar S] [Cell γ] [Stored (KdNode S N) γ]

/-- Nothing of an earlier clipping is left. -/
theorem clip_foldl (clipper : Clipper γ S N) (earlier : List (Polytope S N)) (region : Polytope S N) :
    (earlier.foldl clip clipper).clip region = clipper.clip region := by
  induction earlier generalizing clipper with
  | nil => rfl
  | cons first rest ih => exact ih (clipper.clip first)

end Clipper

section

variable {γ S : Type} {N : Nat} [CommRing S] [LinearOrder S] [IsStrictOrderedRing S] [Scalar S] [ExactScalar S]
  [Cell γ] [Stored (KdNode S N) γ] [LawfulStored (KdNode S N)]

/-- Over a tree that was built, and then rebuilt and marked in whatever way, the values inside a polytope
are those of the valid nodes whose points it contains and the values outside those of the others, each once,
whatever was clipped before. Only the dimensions are limited, to those that a node has room for. -/
theorem Clipper.values_clip {clipper : Clipper γ S N} (reached : clipper.tree.Reached)
    (room : N ≤ KdNode.dimensions) (earlier : List (Polytope S N)) (region : Polytope S N) :
    (earlier.foldl clip clipper).clip region = clipper.clip region ∧
    ∃ inside outside, (clipper.clip region).partition.insideValues clipper.tree = .ok inside ∧
      (clipper.clip region).partition.outsideValues clipper.tree = .ok outside ∧
      inside.Perm (clipper.tree.validWhere region.contains) ∧
      outside.Perm (clipper.tree.validWhere fun point => !region.contains point) ∧
      (inside ++ outside).Nodup := by
  have tended := reached.tended
  obtain ⟨sites, spans⟩ := tended.spans
  have carries := tended.sound.carries
  have divides := KdTree.clip_divides spans region
  have sides := KdTree.clip_sides spans (tended.sorted inferInstance room) region
  have slots := tended.sound.bears.slots
  obtain ⟨inside, insideOk, insidePerm⟩ := divides.insideValues carries
  obtain ⟨outside, outsideOk, outsidePerm⟩ := divides.outsideValues carries
  refine ⟨clipper.clip_foldl earlier region, inside, outside, insideOk, outsideOk, ?_, ?_, ?_⟩
  · have belong := sides.inside_perm divides
    rw [slots] at belong
    exact insidePerm.trans (clipper.tree.validAt_perm belong)
  · have belong := sides.outside_perm divides
    rw [slots] at belong
    exact outsidePerm.trans (clipper.tree.validAt_perm belong)
  · have all := insidePerm.append outsidePerm
    rw [← KdTree.validAt_append] at all
    exact all.nodup_iff.mpr (spans.nodup_validAt (slots ▸ divides.perm))

end

/-- All points that are not above zero, also bounded by a half-space without a direction. -/
def belowZero : Polytope ℚ 1 := ⟨[⟨#v[0], 0⟩, ⟨#v[-1], 0⟩]⟩

theorem Clipper.values_on_boundary :
    ∃ tree : KdTree (KdNode ℚ 1) ℚ 1, tree.Reached ∧ 1 ≤ KdNode.dimensions ∧
      (tree.root = some 1 ∧ (tree.view 1).valid = false) ∧
      ((tree.clip belowZero).outsideNodes = [1] ∧ (tree.clip belowZero).insideNodes = [0]) ∧
      ∃ inside outside, (tree.clip belowZero).insideValues tree = .ok inside ∧
        (tree.clip belowZero).outsideValues tree = .ok outside ∧ inside.Perm [0] ∧ outside.Perm [] := by
  obtain ⟨built, reached, good⟩ := KdTree.exists_ofPoints [#v[(0 : ℚ)], #v[2]]
    (fun built =>
      let tree := (KdTree.setValid 1 false).left built
      (tree.root = some 1 ∧ (tree.view 1).valid = false) ∧
        ((tree.clip belowZero).outsideNodes = [1] ∧ (tree.clip belowZero).insideNodes = [0]) ∧
        tree.validWhere belowZero.contains = [0] ∧
        (tree.validWhere fun point => !belowZero.contains point) = [])
    (by decide +kernel)
  obtain ⟨shape, split, insideEq, outsideEq⟩ := of_decide_eq_true good
  have fits : 1 ≤ KdNode.dimensions := by decide
  have marked := reached.marked 1 false
  let clipper : Clipper (KdNode ℚ 1) ℚ 1 := { tree := (KdTree.setValid 1 false).left built }
  have reachedTree : clipper.tree.Reached := marked
  obtain ⟨_, inside, outside, insideOk, outsideOk, insidePerm, outsidePerm, _⟩ :=
    values_clip reachedTree fits [⟨[]⟩] belowZero
  rw [insideEq] at insidePerm
  rw [outsideEq] at outsidePerm
  exact ⟨_, marked, fits, shape, split, inside, outside, insideOk, outsideOk, insidePerm, outsidePerm⟩

end SpatialStore
