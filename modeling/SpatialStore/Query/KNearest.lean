import SpatialStore.Query.Neighbor

/-! The `k` nodes nearest to a query, in order of their distance. At most `k` are held at a time. -/

namespace SpatialStore

/-- Halves an interval of indices down to one, keeping the boundary before which `before` holds. -/
def bisect (before : Nat → Bool) (base size : Nat) : Nat :=
  if 1 < size then
    let half := size / 2
    bisect before (if before (base + half) then base + half else base) (size - half)
  else base
termination_by size
decreasing_by omega

def boundary (before : Nat → Bool) (size : Nat) : Nat :=
  if size = 0 then 0
  else
    let base := bisect before 0 size
    if before base then base + 1 else base

namespace Neighbor

variable {S : Type} [Scalar S]

/-- The squared distance that a node has to stay below in order to be held. -/
def worst (k : Nat) (found : List (Neighbor S)) : S :=
  if found.length < k then Scalar.top
  else match found.getLast? with
    | none => Scalar.top
    | some last => last.squaredDistance

/-- Where a node belongs among those found: after all that are not farther. -/
def place (found : List (Neighbor S)) (other : Neighbor S) : Nat :=
  boundary (fun index => match found[index]? with
    | some held => Scalar.le held.squaredDistance other.squaredDistance
    | none => false) found.length

/-- Holds another node if it is near enough, and lets the farthest go if there is no room. -/
def offer (k : Nat) (found : List (Neighbor S)) (other : Neighbor S) : List (Neighbor S) :=
  if Scalar.le (worst k found) other.squaredDistance then found
  else (if found.length = k then found.dropLast else found).insertIdx (place found other) other

end Neighbor

namespace Branch

variable {S : Type} {N : Nat} [Scalar S]

def kNearest (k : Nat) (validOnly : Bool) (query : Point S N) :
    Branch S N → List (Neighbor S) → List (Neighbor S)
  | nil, found => found
  | node slot record left right, found =>
    let found := if record.eligible validOnly
      then Neighbor.offer k found (Neighbor.ofNode query slot record) else found
    if record.leftFirst query then
      let found := kNearest k validOnly query left found
      if Scalar.lt (record.squaredOffset query) (Neighbor.worst k found)
      then kNearest k validOnly query right found else found
    else
      let found := kNearest k validOnly query right found
      if Scalar.lt (record.squaredOffset query) (Neighbor.worst k found)
      then kNearest k validOnly query left found else found

end Branch

structure KNearestSearch (γ S : Type) (N : Nat) where
  tree : KdTree γ S N
  k : Nat
  validOnly : Bool := false
  found : List (Neighbor S) := []

namespace KNearestSearch

variable {γ S : Type} {N : Nat} [Scalar S] [Cell γ] [Stored (KdNode S N) γ]

def entryWidth : Nat := 24

def make (tree : KdTree γ S N) (k : Nat) (validOnly : Bool) : Except Fault (KNearestSearch γ S N) :=
  (Size.buffer (k * entryWidth)).map fun _ => { tree, k, validOnly }

def search (state : KNearestSearch γ S N) (query : Point S N) : KNearestSearch γ S N :=
  { state with
    found := if state.k = 0 then []
      else state.tree.outline.kNearest state.k state.validOnly query [] }

end KNearestSearch

end SpatialStore
