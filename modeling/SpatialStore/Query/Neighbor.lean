import SpatialStore.Tree.Basic

/-! What searches find, and how they go down a tree: on the side of the splitting plane where the query
lies first. All distances are squared. -/

namespace SpatialStore

structure Neighbor (S : Type) where
  node : Nat
  data : Nat
  squaredDistance : S
  deriving DecidableEq

namespace Neighbor

variable {S : Type} {N : Nat} [Scalar S]

def ofNode (query : Point S N) (slot : Nat) (record : KdNode S N) : Neighbor S :=
  ⟨slot, record.dataSlot, record.position.squaredDistance query⟩

end Neighbor

namespace KdNode

variable {S : Type} {N : Nat} [Scalar S]

def eligible (validOnly : Bool) (record : KdNode S N) : Bool := !validOnly || record.valid

/-- How far a query lies from a node's splitting plane; negative on the left. -/
def offset (record : KdNode S N) (query : Point S N) : S :=
  Scalar.sub (query.coordinate record.dimension) (record.position.coordinate record.dimension)

def squaredOffset (record : KdNode S N) (query : Point S N) : S :=
  Scalar.mul (record.offset query) (record.offset query)

def leftFirst (record : KdNode S N) (query : Point S N) : Bool :=
  Scalar.lt (record.offset query) Scalar.zero

end KdNode

namespace Branch

variable {S : Type} {N : Nat} [Scalar S]

/-- All nodes that may be reported, in the order in which a search comes by when it leaves none out. -/
def visit (validOnly : Bool) (query : Point S N) : Branch S N → List (Neighbor S)
  | nil => []
  | node slot record left right =>
    let here := if record.eligible validOnly then [Neighbor.ofNode query slot record] else []
    if record.leftFirst query then
      here ++ visit validOnly query left ++ visit validOnly query right
    else here ++ visit validOnly query right ++ visit validOnly query left

end Branch

end SpatialStore
