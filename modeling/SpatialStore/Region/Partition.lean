import SpatialStore.Tree.ValidValues

/-! Partitions of a tree in two. A side is given by single nodes and by nodes with everything below. -/

namespace SpatialStore

structure Partition where
  insideNodes : List Nat := []
  insideTops : List Nat := []
  outsideNodes : List Nat := []
  outsideTops : List Nat := []
  deriving DecidableEq

namespace Partition

def insideNode (slot : Nat) : Partition := { insideNodes := [slot] }

def insideBranch (slot : Nat) : Partition := { insideTops := [slot] }

def outsideNode (slot : Nat) : Partition := { outsideNodes := [slot] }

def outsideBranch (slot : Nat) : Partition := { outsideTops := [slot] }

/-- Both partitions, the entries of the first before those of the second. -/
def append (first second : Partition) : Partition :=
  { insideNodes := first.insideNodes ++ second.insideNodes
    insideTops := first.insideTops ++ second.insideTops
    outsideNodes := first.outsideNodes ++ second.outsideNodes
    outsideTops := first.outsideTops ++ second.outsideTops }

instance : Append Partition := ⟨append⟩

variable {γ S : Type} {N : Nat} [Scalar S] [Cell γ] [Stored (KdNode S N) γ]

def insideValues (partition : Partition) (tree : KdTree γ S N) : Except Fault (List Nat) :=
  (tree.walk partition.insideNodes partition.insideTops).map ValidWalk.toList

def outsideValues (partition : Partition) (tree : KdTree γ S N) : Except Fault (List Nat) :=
  (tree.walk partition.outsideNodes partition.outsideTops).map ValidWalk.toList

end Partition

end SpatialStore
