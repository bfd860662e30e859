import SpatialStore.Query.Neighbor

/-! The nearest node to a query. The side of a splitting plane that the query is not on is left out when
the plane is not nearer than the best node so far. -/

namespace SpatialStore

namespace Neighbor

variable {S : Type} [Scalar S]

/-- The nearer of the best node so far and another; of two equally near, the one that was first. -/
def nearer (best : Option (Neighbor S)) (other : Neighbor S) : Neighbor S :=
  match best with
  | none => other
  | some held => if Scalar.lt other.squaredDistance held.squaredDistance then other else held

def mayImprove (best : Option (Neighbor S)) (squared : S) : Bool :=
  match best with
  | none => true
  | some held => Scalar.lt squared held.squaredDistance

end Neighbor

namespace Branch

variable {S : Type} {N : Nat} [Scalar S]

def nearest (validOnly : Bool) (query : Point S N) :
    Branch S N → Option (Neighbor S) → Option (Neighbor S)
  | nil, best => best
  | node slot record left right, best =>
    let best := if record.eligible validOnly
      then some (Neighbor.nearer best (Neighbor.ofNode query slot record)) else best
    if record.leftFirst query then
      let best := nearest validOnly query left best
      if Neighbor.mayImprove best (record.squaredOffset query)
      then nearest validOnly query right best else best
    else
      let best := nearest validOnly query right best
      if Neighbor.mayImprove best (record.squaredOffset query)
      then nearest validOnly query left best else best

end Branch

namespace KdTree

variable {γ S : Type} {N : Nat} [Scalar S] [Cell γ] [Stored (KdNode S N) γ]

/-- The nearest node, or the nearest valid one. A tree without valid nodes is not searched for one. -/
def nearest (tree : KdTree γ S N) (validOnly : Bool) (query : Point S N) : Option (Neighbor S) :=
  if validOnly && tree.validLen = 0 then none
  else tree.outline.nearest validOnly query none

end KdTree

structure NearestSearch (γ S : Type) (N : Nat) where
  tree : KdTree γ S N
  validOnly : Bool := false
  best : Option (Neighbor S) := none

namespace NearestSearch

variable {γ S : Type} {N : Nat} [Scalar S] [Cell γ] [Stored (KdNode S N) γ]

def search (state : NearestSearch γ S N) (query : Point S N) : NearestSearch γ S N :=
  { state with best := state.tree.nearest state.validOnly query }

end NearestSearch

end SpatialStore
