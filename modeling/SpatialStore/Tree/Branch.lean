import SpatialStore.Tree.Node

/-! Branches: the part of a tree below a node, with the slots and the nodes in it. -/

namespace SpatialStore

inductive Branch (S : Type) (N : Nat)
  | nil
  | node (slot : Nat) (record : KdNode S N) (left right : Branch S N)

namespace Branch

variable {S : Type} {N : Nat}

def size : Branch S N → Nat
  | nil => 0
  | node _ _ left right => left.size + 1 + right.size

def height : Branch S N → Nat
  | nil => 0
  | node _ _ left right => Nat.max left.height right.height + 1

def slots : Branch S N → List Nat
  | nil => []
  | node slot _ left right => left.slots ++ slot :: right.slots

def entries : Branch S N → List (Nat × KdNode S N)
  | nil => []
  | node slot record left right => left.entries ++ (slot, record) :: right.entries

end Branch

end SpatialStore
