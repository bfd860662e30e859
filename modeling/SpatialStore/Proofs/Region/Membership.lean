import SpatialStore.Proofs.Query.Exposed
import SpatialStore.Proofs.Region.HalfSpace

/-! What a clipping makes of its half-spaces: only which ones there are. A branch is given up by any of them,
in whatever place it is listed, and those that are asked again below it are again the same ones. No arithmetic
is needed for that, so that it is so also where numbers are missing. -/

namespace SpatialStore

section

variable {S : Type} {N : Nat} [Scalar S]

namespace HalfSpace

theorem straddled?_eq_none_iff {box : Box S N} {planes : List (HalfSpace S N)} :
    straddled? box planes = none ↔ ∃ plane ∈ planes, plane.classify box = .outside := by
  constructor
  · exact exists_outside_of_straddled?
  · rintro ⟨plane, member, outside⟩
    rw [straddled?_eq, if_pos]
    exact List.any_eq_true.mpr ⟨plane, member, decide_eq_true outside⟩

/-- Those that are asked again are those that the box straddles. -/
theorem mem_straddled?_iff {box : Box S N} {planes cutting : List (HalfSpace S N)}
    (found : straddled? box planes = some cutting) (plane : HalfSpace S N) :
    plane ∈ cutting ↔ plane ∈ planes ∧ plane.classify box = .straddling := by
  rw [straddled?_eq] at found
  split at found
  next => exact nomatch found
  next =>
    obtain rfl := Option.some.inj found
    simp only [List.mem_filter, decide_eq_true_eq]

/-- A point lies in all of some half-spaces, in whatever order they are asked and however often. -/
theorem all_contains_congr {first second : List (HalfSpace S N)}
    (same : ∀ plane, plane ∈ first ↔ plane ∈ second) (point : Point S N) :
    (first.all fun plane => plane.contains point) = second.all fun plane => plane.contains point := by
  rw [Bool.eq_iff_iff]
  simp only [List.all_eq_true, same]

end HalfSpace

/-- The same half-spaces leave the same lists, whatever branch is clipped and whatever its box. -/
theorem Branch.clip_congr (branch : Branch S N) (box : Box S N) {first second : List (HalfSpace S N)}
    (same : ∀ plane, plane ∈ first ↔ plane ∈ second) : branch.clip box first = branch.clip box second := by
  induction branch generalizing box first second with
  | nil => rfl
  | node slot record left right leftIh rightIh =>
    cases one : HalfSpace.straddled? box first with
    | none =>
      have other : HalfSpace.straddled? box second = none := by
        rw [HalfSpace.straddled?_eq_none_iff] at one ⊢
        simpa only [same] using one
      rw [clip, clip, one, other]
    | some cutting =>
      obtain ⟨rest, other⟩ : ∃ rest, HalfSpace.straddled? box second = some rest := by
        apply Option.ne_none_iff_exists'.mp
        intro given
        have outside := HalfSpace.straddled?_eq_none_iff.mp given
        simp only [← same] at outside
        exact nomatch one.symm.trans (HalfSpace.straddled?_eq_none_iff.mpr outside)
      -- The lists that are handed down differ in order and length, but again not in what is on them.
      have sameCutting : ∀ plane, plane ∈ cutting ↔ plane ∈ rest := by
        intro plane
        rw [HalfSpace.mem_straddled?_iff one, HalfSpace.mem_straddled?_iff other, same]
      rw [clip, clip, one, other]
      cases cutting with
      | nil =>
        cases rest with
        | nil => rfl
        | cons plane rest => exact nomatch (sameCutting plane).mpr List.mem_cons_self
      | cons plane cutting =>
        cases rest with
        | nil => exact nomatch (sameCutting plane).mp List.mem_cons_self
        | cons _ rest =>
          simp only [HalfSpace.all_contains_congr sameCutting, leftIh _ sameCutting, rightIh _ sameCutting]

end

variable {γ S : Type} {N : Nat} [Scalar S] [Cell γ] [Stored (KdNode S N) γ]

/-- Whatever was clipped before, over any tree and whatever the numbers are, two polytopes of the same
half-spaces, in whatever order these are listed and however often each, leave the same lists, entry by entry. -/
theorem Clipper.clip_eq_of_same_planes (tree : KdTree γ S N) (last earlier : Partition)
    {first second : Polytope S N} (same : ∀ plane, plane ∈ first.planes ↔ plane ∈ second.planes) :
    let one := (Clipper.clip ⟨tree, last⟩ first).partition
    let other := (Clipper.clip ⟨tree, earlier⟩ second).partition
    one.insideNodes = other.insideNodes ∧ one.insideTops = other.insideTops ∧
      one.outsideNodes = other.outsideNodes ∧ one.outsideTops = other.outsideTops := by
  have lists : tree.clip first = tree.clip second := by
    rw [KdTree.clip, KdTree.clip]
    cases tree.bounds with
    | none => rfl
    | some box => exact tree.outline.clip_congr box same
  change (tree.clip first).insideNodes = _ ∧ (tree.clip first).insideTops = _ ∧
    (tree.clip first).outsideNodes = _ ∧ (tree.clip first).outsideTops = _
  rw [lists]
  exact ⟨rfl, rfl, rfl, rfl⟩

def upToOne : HalfSpace (Option ℚ) 2 := ⟨#v[some (-1), some 0], some (-1)⟩

def fromZero : HalfSpace (Option ℚ) 2 := ⟨#v[some 0, some 1], some 0⟩

/-- The node at the top, with a coordinate that is not a number, is outside, and the one below it inside; so
they are with the half-spaces the other way round, and both of them twice. -/
theorem Clipper.clip_eq_of_repeated :
    ∃ tree : KdTree (KdNode (Option ℚ) 2) (Option ℚ) 2, tree.Reached ∧
      (tree.root = some 1 ∧ (tree.view 1).position = #v[some 2, none]) ∧
      (∀ plane, plane ∈ [upToOne, fromZero] ↔ plane ∈ [fromZero, upToOne, upToOne, fromZero]) ∧
      let other := (Clipper.clip ⟨tree, {}⟩ ⟨[fromZero, upToOne, upToOne, fromZero]⟩).partition
      other.insideNodes = [0] ∧ other.insideTops = [] ∧ other.outsideNodes = [1] ∧ other.outsideTops = [] := by
  obtain ⟨tree, reached, good⟩ := KdTree.exists_overPoints (KdNode (Option ℚ) 2) (Point (Option ℚ) 2)
    [#v[some 0, some 0], #v[some 2, none]]
    (fun tree => (tree.root = some 1 ∧ (tree.view 1).position = #v[some 2, none]) ∧
      tree.clip ⟨[upToOne, fromZero]⟩ = ⟨[0], [], [1], []⟩)
    (by decide +kernel)
  obtain ⟨top, lists⟩ := of_decide_eq_true good
  have same : ∀ plane, plane ∈ (Polytope.mk [upToOne, fromZero]).planes ↔
      plane ∈ (Polytope.mk [fromZero, upToOne, upToOne, fromZero]).planes := by
    intro plane
    simp only [List.mem_cons, List.not_mem_nil, or_false]
    grind
  have equal := clip_eq_of_same_planes tree {} {} same
  have clipped : (Clipper.clip ⟨tree, {}⟩ ⟨[upToOne, fromZero]⟩).partition = ⟨[0], [], [1], []⟩ := lists
  simp only [clipped] at equal
  obtain ⟨insideNodes, insideTops, outsideNodes, outsideTops⟩ := equal
  exact ⟨tree, reached, top, same, insideNodes.symm, insideTops.symm, outsideNodes.symm, outsideTops.symm⟩

end SpatialStore
