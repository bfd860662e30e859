import SpatialStore.Region.Partition
import SpatialStore.Region.HalfSpace

/-! Cutting a tree by one plane. What lies above the plane, or on it, is inside. -/

namespace SpatialStore

namespace Branch

variable {S : Type} {N : Nat} [Scalar S]

def cut (plane : HalfSpace S N) : Branch S N → Box S N → Partition
  | nil, _ => {}
  | node slot record left right, box =>
    match plane.classify box with
    | .inside => .insideBranch slot
    | .outside => .outsideBranch slot
    | .straddling =>
      let here := if plane.contains record.position
        then Partition.insideNode slot else .outsideNode slot
      let bound := record.position.coordinate record.dimension
      here ++ cut plane left (box.below record.dimension bound) ++
        cut plane right (box.above record.dimension bound)

end Branch

namespace KdTree

variable {γ S : Type} {N : Nat} [Scalar S] [Cell γ] [Stored (KdNode S N) γ]

def cut (tree : KdTree γ S N) (plane : HalfSpace S N) : Partition :=
  match tree.bounds with
  | none => {}
  | some box => tree.outline.cut plane box

end KdTree

structure Cutter (γ S : Type) (N : Nat) where
  tree : KdTree γ S N
  partition : Partition := {}

namespace Cutter

variable {γ S : Type} {N : Nat} [Scalar S] [Cell γ] [Stored (KdNode S N) γ]

def cut (cutter : Cutter γ S N) (plane : HalfSpace S N) : Cutter γ S N :=
  { cutter with partition := cutter.tree.cut plane }

end Cutter

end SpatialStore
