import SpatialStore.Query.Neighbor

/-! All nodes within a radius of a query. A node on the sphere counts, and so does a splitting plane that
touches it. -/

namespace SpatialStore

namespace Branch

variable {S : Type} {N : Nat} [Scalar S]

def within (validOnly : Bool) (query : Point S N) (squaredRadius : S) :
    Branch S N → List (Neighbor S)
  | nil => []
  | node slot record left right =>
    let candidate := Neighbor.ofNode query slot record
    let here := if record.eligible validOnly && Scalar.le candidate.squaredDistance squaredRadius
      then [candidate] else []
    let reaches := Scalar.le (record.squaredOffset query) squaredRadius
    if record.leftFirst query then
      here ++ within validOnly query squaredRadius left ++
        if reaches then within validOnly query squaredRadius right else []
    else
      here ++ within validOnly query squaredRadius right ++
        if reaches then within validOnly query squaredRadius left else []

end Branch

structure WithinSearch (γ S : Type) (N : Nat) where
  tree : KdTree γ S N
  validOnly : Bool := false
  found : List (Neighbor S) := []

namespace WithinSearch

variable {γ S : Type} {N : Nat} [Scalar S] [Cell γ] [Stored (KdNode S N) γ]

/-- Nodes by their distance, and equally near ones in the order in which they were found. -/
def byDistance (found : List (Neighbor S)) : List (Neighbor S) :=
  found.mergeSort fun first second => Scalar.rankLe first.squaredDistance second.squaredDistance

def search (state : WithinSearch γ S N) (query : Point S N) (radius : S) (sorted : Bool) :
    WithinSearch γ S N :=
  let found := state.tree.outline.within state.validOnly query (Scalar.mul radius radius)
  { state with found := if sorted then byDistance found else found }

end WithinSearch

end SpatialStore
