import SpatialStore.Region.Partition
import SpatialStore.Region.HalfSpace

/-! Clipping a tree to a polytope. A branch whose box is outside one half-space, or inside all of them, is
taken as a whole; half-spaces that hold on a whole box are not asked again below it. -/

namespace SpatialStore

namespace HalfSpace

variable {S : Type} {N : Nat} [Scalar S]

/-- The half-spaces that a box straddles, or nothing if the box lies outside one. -/
def straddled? (box : Box S N) : List (HalfSpace S N) → Option (List (HalfSpace S N))
  | [] => some []
  | plane :: rest =>
    match plane.classify box with
    | .outside => none
    | .inside => straddled? box rest
    | .straddling => (straddled? box rest).map (plane :: ·)

end HalfSpace

namespace Branch

variable {S : Type} {N : Nat} [Scalar S]

def clip : Branch S N → Box S N → List (HalfSpace S N) → Partition
  | nil, _, _ => {}
  | node slot record left right, box, planes =>
    match HalfSpace.straddled? box planes with
    | none => .outsideBranch slot
    | some [] => .insideBranch slot
    | some cutting =>
      let here := if cutting.all fun plane => plane.contains record.position
        then Partition.insideNode slot else .outsideNode slot
      let bound := record.position.coordinate record.dimension
      here ++ clip left (box.below record.dimension bound) cutting ++
        clip right (box.above record.dimension bound) cutting

end Branch

namespace KdTree

variable {γ S : Type} {N : Nat} [Scalar S] [Cell γ] [Stored (KdNode S N) γ]

def clip (tree : KdTree γ S N) (region : Polytope S N) : Partition :=
  match tree.bounds with
  | none => {}
  | some box => tree.outline.clip box region.planes

end KdTree

structure Clipper (γ S : Type) (N : Nat) where
  tree : KdTree γ S N
  partition : Partition := {}

namespace Clipper

variable {γ S : Type} {N : Nat} [Scalar S] [Cell γ] [Stored (KdNode S N) γ]

def clip (clipper : Clipper γ S N) (region : Polytope S N) : Clipper γ S N :=
  { clipper with partition := clipper.tree.clip region }

end Clipper

end SpatialStore
