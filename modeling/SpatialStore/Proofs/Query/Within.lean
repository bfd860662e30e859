import SpatialStore.Proofs.Query.Order
import SpatialStore.Proofs.Query.Visit
import SpatialStore.Proofs.Tree.Reached
import SpatialStore.Query.Within

/-! All nodes within a radius. A splitting plane that does not touch the sphere has none of them behind it,
so a search finds what it would find if it went everywhere, and in the same order. -/

namespace SpatialStore

/-! ### One search -/

namespace Neighbor

variable {S : Type} [Scalar S]

def keepWithin (squaredRadius : S) (found : List (Neighbor S)) (other : Neighbor S) : List (Neighbor S) :=
  if Scalar.le other.squaredDistance squaredRadius then found ++ [other] else found

theorem foldl_keepWithin (squaredRadius : S) (visited found : List (Neighbor S)) :
    visited.foldl (keepWithin squaredRadius) found =
      found ++ visited.filter fun other => Scalar.le other.squaredDistance squaredRadius := by
  induction visited generalizing found with
  | nil => rw [List.foldl_nil, List.filter_nil, List.append_nil]
  | cons first rest ih =>
    rw [List.foldl_cons, ih, keepWithin, List.filter_cons]
    split
    next => rw [List.append_assoc, List.singleton_append]
    next => rfl

omit [Scalar S] in
theorem append_ite (found others : List (Neighbor S)) (condition : Prop) [Decidable condition] :
    (found ++ if condition then others else []) = if condition then found ++ others else found := by
  split
  next => rfl
  next => exact List.append_nil found

end Neighbor

namespace Branch

section

variable {S : Type} {N : Nat} [Scalar S]

theorem append_within (validOnly : Bool) (query : Point S N) (squaredRadius : S) (branch : Branch S N)
    (found : List (Neighbor S)) :
    found ++ branch.within validOnly query squaredRadius =
      branch.descend (Neighbor.keepWithin squaredRadius) (fun _ squared => Scalar.le squared squaredRadius)
        validOnly query found := by
  induction branch generalizing found with
  | nil => exact List.append_nil found
  | node slot record left right leftIh rightIh =>
    have here : (found ++ if record.eligible validOnly &&
          Scalar.le (Neighbor.ofNode query slot record).squaredDistance squaredRadius
        then [Neighbor.ofNode query slot record] else []) =
        if record.eligible validOnly then
          Neighbor.keepWithin squaredRadius found (Neighbor.ofNode query slot record) else found := by
      rw [Neighbor.append_ite, Neighbor.keepWithin]
      cases record.eligible validOnly with
      | true => rfl
      | false => rfl
    simp only [within, descend]
    rw [← here]
    split
    next => rw [← List.append_assoc, ← List.append_assoc, Neighbor.append_ite, leftIh, rightIh]
    next => rw [← List.append_assoc, ← List.append_assoc, Neighbor.append_ite, rightIh, leftIh]

theorem keepWithin_spares {S : Type} [Scalar S] [ComparableScalar S] (squaredRadius : S) :
    Spares (fun _ => True) (Neighbor.keepWithin squaredRadius) fun _ squared => Scalar.le squared squaredRadius where
  sane_hold _ _ _ _ := trivial
  hold_eq held squared other _ worthless far := by
    rw [Neighbor.keepWithin, if_neg]
    intro near
    exact Bool.eq_false_iff.mp worthless (ComparableScalar.le_trans far near)

end

variable {S : Type} {N : Nat} [CommRing S] [LinearOrder S] [IsStrictOrderedRing S] [Scalar S] [ExactScalar S]

/-- The nodes within a radius, in the order in which a search that goes everywhere comes by them. -/
def visitWithin (validOnly : Bool) (query : Point S N) (radius : S) (branch : Branch S N) : List (Neighbor S) :=
  (branch.visit validOnly query).filter fun found => found.squaredDistance ≤ radius * radius

theorem within_eq_visitWithin (validOnly : Bool) (query : Point S N) (radius : S) {branch : Branch S N}
    (sorted : branch.Sorted) :
    branch.within validOnly query (Scalar.mul radius radius) = branch.visitWithin validOnly query radius := by
  have all := append_within validOnly query (Scalar.mul radius radius) branch []
  have shields := sorted.shields (fun record _ other _ => record.shields query other.position) validOnly
  rw [List.nil_append, descend_eq_foldl (keepWithin_spares _) validOnly query shields
    (fun _ _ => Scalar.isNumber_exact _) trivial, Neighbor.foldl_keepWithin, List.nil_append] at all
  rw [all, visitWithin]
  simp only [ExactScalar.le_eq, ExactScalar.mul_eq]

end Branch

/-! ### Many searches -/

namespace WithinSearch

section

variable {γ S : Type} {N : Nat} [Scalar S] [Cell γ] [Stored (KdNode S N) γ]

structure Request (S : Type) (N : Nat) where
  query : Point S N
  radius : S
  sorted : Bool

def answer (state : WithinSearch γ S N) (request : Request S N) : WithinSearch γ S N :=
  state.search request.query request.radius request.sorted

theorem answer_keeps (earlier : List (Request S N)) (state : WithinSearch γ S N) :
    ∃ found, earlier.foldl answer state = { state with found } := by
  induction earlier generalizing state with
  | nil => exact ⟨state.found, rfl⟩
  | cons first rest ih => exact ih (state.answer first)

end

variable {γ S : Type} {N : Nat} [CommRing S] [LinearOrder S] [IsStrictOrderedRing S] [Scalar S] [ExactScalar S]
  [Cell γ] [Stored (KdNode S N) γ]

omit [IsStrictOrderedRing S] [Cell γ] [Stored (KdNode S N) γ] in
theorem byDistance_eq (found : List (Neighbor S)) :
    byDistance found = found.mergeSort Neighbor.notFarther := by
  unfold byDistance Neighbor.notFarther
  simp only [ExactScalar.rankLe_eq, ExactScalar.le_eq]

variable [LawfulStored (KdNode S N)]

/-- Whatever was searched for before, a search over a tree that was built, and then rebuilt and marked in
whatever way, finds each node within the radius that may be reported once, in the order in which a search
that goes everywhere comes by them; or, if they are to be sorted, in order of their distances, those
equally far in that order. -/
theorem found_within {start : WithinSearch γ S N} (reached : start.tree.Reached) (room : N ≤ KdNode.dimensions)
    (earlier : List (Request S N)) (query : Point S N) (radius : S) :
    let inside := start.tree.outline.visitWithin start.validOnly query radius
    inside.Perm ((start.tree.eligible start.validOnly query).filter fun found =>
      found.squaredDistance ≤ radius * radius) ∧
    (inside.map Neighbor.node).Nodup ∧
    ((earlier.foldl answer start).search query radius false).found = inside ∧
    ((earlier.foldl answer start).search query radius true).found = inside.mergeSort Neighbor.notFarther ∧
    (inside.mergeSort Neighbor.notFarther).Pairwise (Neighbor.Precedes inside) := by
  intro inside
  have tended := reached.tended
  have all := KdTree.visit_outline_perm tended.sound start.validOnly query
  have perm := all.filter fun found => decide (found.squaredDistance ≤ radius * radius)
  have found := Branch.within_eq_visitWithin start.validOnly query radius (tended.sorted inferInstance room)
  obtain ⟨left, same⟩ := answer_keeps earlier start
  rw [same]
  refine ⟨perm, ?_, found, ?_, Neighbor.pairwise_mergeSort inside⟩
  · have visited := (all.map Neighbor.node).nodup_iff.mpr (KdTree.nodup_eligible _ _ query)
    exact visited.sublist (List.filter_sublist.map _)
  · rw [← byDistance_eq]
    exact congrArg byDistance found

/-- Two nodes on the sphere are found, though one lies behind a plane that only touches it, and sorting
leaves them in their order. -/
theorem found_on_sphere :
    ∃ start : WithinSearch (KdNode ℚ 1) ℚ 1, start.tree.Reached ∧ 1 ≤ KdNode.dimensions ∧
      ([⟨#v[5], 4, false⟩].foldl answer start |>.search #v[3] 1 false).found = [⟨1, 0, 1⟩, ⟨0, 1, 1⟩] ∧
      ([⟨#v[5], 4, false⟩].foldl answer start |>.search #v[3] 1 true).found = [⟨1, 0, 1⟩, ⟨0, 1, 1⟩] := by
  obtain ⟨tree, reached, good⟩ := KdTree.exists_ofPoints [#v[(2 : ℚ)], #v[2]]
    (fun tree => tree.outline.visitWithin false #v[3] 1 = [⟨1, 0, 1⟩, ⟨0, 1, 1⟩]) (by decide +kernel)
  have inside := of_decide_eq_true good
  have fits : 1 ≤ KdNode.dimensions := by decide
  let start : WithinSearch (KdNode ℚ 1) ℚ 1 := { tree }
  have reachedTree : start.tree.Reached := reached
  obtain ⟨_, _, unsorted, sorted, _⟩ := found_within reachedTree fits [⟨#v[5], 4, false⟩] #v[3] 1
  refine ⟨start, reached, fits, unsorted.trans inside, ?_⟩
  rw [sorted, inside]
  simp only [Neighbor.mergeSort_cons, List.mergeSort_nil]
  decide +kernel

end WithinSearch

end SpatialStore
