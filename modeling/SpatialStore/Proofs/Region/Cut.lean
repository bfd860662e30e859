import SpatialStore.Region.Clip
import SpatialStore.Region.Cut

/-! Cutting by a plane, and clipping to its half-space alone. Both take the same branches as a whole and the
same nodes by themselves, on the same sides and in the same order, however the numbers compare. -/

namespace SpatialStore

section

variable {S : Type} {N : Nat} [Scalar S]

theorem HalfSpace.straddled?_singleton (plane : HalfSpace S N) (box : Box S N) :
    straddled? box [plane] = match plane.classify box with
      | .outside => none
      | .inside => some []
      | .straddling => some [plane] := by
  cases side : plane.classify box with
  | inside => simp only [straddled?, side]
  | outside => simp only [straddled?, side]
  | straddling => simp only [straddled?, side, Option.map_some]

theorem Branch.cut_eq_clip (plane : HalfSpace S N) (branch : Branch S N) (box : Box S N) :
    branch.cut plane box = branch.clip box [plane] := by
  induction branch generalizing box with
  | nil => rfl
  | node slot record left right leftIh rightIh =>
    rw [cut, clip, HalfSpace.straddled?_singleton]
    cases plane.classify box with
    | inside => rfl
    | outside => rfl
    | straddling =>
      -- The half-space still cuts the box, so that it is the only one to ask here and below.
      have here : ([plane].all fun plane => plane.contains record.position) = plane.contains record.position :=
        Bool.and_true _
      simp only [leftIh, rightIh, here]

end

variable {γ S : Type} {N : Nat} [Scalar S] [Cell γ] [Stored (KdNode S N) γ]

/-- Whatever was cut or clipped before, over any tree a cut by a plane leaves the lists that a clipping to
the polytope of that plane alone leaves, entry by entry. -/
theorem Cutter.cut_eq_clip_singleton (tree : KdTree γ S N) (lastCut lastClip : Partition)
    (plane : HalfSpace S N) :
    let cut := (Cutter.cut ⟨tree, lastCut⟩ plane).partition
    let clipped := (Clipper.clip ⟨tree, lastClip⟩ ⟨[plane]⟩).partition
    cut.insideNodes = clipped.insideNodes ∧ cut.insideTops = clipped.insideTops ∧
      cut.outsideNodes = clipped.outsideNodes ∧ cut.outsideTops = clipped.outsideTops := by
  have same : tree.cut plane = tree.clip ⟨[plane]⟩ := by
    rw [KdTree.cut, KdTree.clip]
    cases tree.bounds with
    | none => rfl
    | some box => exact Branch.cut_eq_clip plane tree.outline box
  change (tree.cut plane).insideNodes = _ ∧ (tree.cut plane).insideTops = _ ∧
    (tree.cut plane).outsideNodes = _ ∧ (tree.cut plane).outsideTops = _
  rw [same]
  exact ⟨rfl, rfl, rfl, rfl⟩

end SpatialStore
