import SpatialStore.Tree.Node

/-! Splitting points in two around one of them. The dimension is the one in which they spread widest,
and the point is the median there. -/

namespace SpatialStore

structure Site (S : Type) (N : Nat) where
  slot : Nat
  point : Point S N

namespace Site

variable {S : Type} {N : Nat} [Scalar S]

def rankLe (dimension : Nat) (first second : Site S N) : Bool :=
  Scalar.rankLe (first.point.coordinate dimension) (second.point.coordinate dimension)

def spread (sites : List (Site S N)) (dimension : Nat) : S :=
  let coordinates := sites.map fun site => site.point.coordinate dimension
  Scalar.sub (coordinates.foldl Scalar.max Scalar.bottom) (coordinates.foldl Scalar.min Scalar.top)

/-- The dimension in which points spread widest; of several, the first. -/
def widestDimension (sites : List (Site S N)) : Nat :=
  ((List.range N).foldl (fun (best : Nat × S) dimension =>
    let spread := spread sites dimension
    if Scalar.lt best.2 spread then (dimension, spread) else best) (0, Scalar.bottom)).1

/-- The order around the median. Two points with equal coordinates change places, so that the first
becomes the median; otherwise equal coordinates keep their order. What is proved of trees holds in any such order. -/
def medianOrder (dimension : Nat) (sites : List (Site S N)) : List (Site S N) :=
  match sites with
  | [first, second] => if rankLe dimension second first then [second, first] else [first, second]
  | sites => sites.mergeSort (rankLe dimension)

theorem medianOrder_perm (dimension : Nat) (sites : List (Site S N)) :
    (medianOrder dimension sites).Perm sites := by
  unfold medianOrder
  split
  · split
    · exact List.Perm.swap _ _ _
    · exact List.Perm.refl _
  · exact List.mergeSort_perm _ _

end Site

structure Split (S : Type) (N : Nat) where
  dimension : Nat
  lower : List (Site S N)
  pivot : Site S N
  upper : List (Site S N)

namespace Split

variable {S : Type} {N : Nat} [Scalar S]

def ofSites (sites : List (Site S N)) : Option (Split S N) :=
  let dimension := Site.widestDimension sites
  let ordered := Site.medianOrder dimension sites
  match ordered.drop (sites.length / 2) with
  | [] => none
  | pivot :: upper => some ⟨dimension, ordered.take (sites.length / 2), pivot, upper⟩

theorem perm_of_ofSites {sites : List (Site S N)} {split : Split S N}
    (made : ofSites sites = some split) :
    (split.lower ++ split.pivot :: split.upper).Perm sites := by
  unfold ofSites at made
  simp only at made
  split at made
  · simp at made
  · next pivot upper rest =>
    simp only [Option.some.injEq] at made
    subst made
    simp only [← rest, List.take_append_drop]
    exact Site.medianOrder_perm _ _

theorem length_of_ofSites {sites : List (Site S N)} {split : Split S N}
    (made : ofSites sites = some split) :
    split.lower.length + 1 + split.upper.length = sites.length := by
  have same := (perm_of_ofSites made).length_eq
  simp only [List.length_append, List.length_cons] at same
  omega

end Split

end SpatialStore
