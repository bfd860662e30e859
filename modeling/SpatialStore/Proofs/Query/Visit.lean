import SpatialStore.Proofs.Geometry.Point
import SpatialStore.Proofs.Tree.Sound
import SpatialStore.Query.Neighbor

/-! What a search comes by. No node on the far side of a splitting plane is nearer than the plane, which
is why a search may leave that side out. -/

namespace SpatialStore

/-- A point that ranks on the other side of a node's splitting plane than the query is on is no nearer than
the plane. -/
structure KdNode.Shields {S : Type} {N : Nat} [Scalar S] (record : KdNode S N) (query point : Point S N) :
    Prop where
  above : record.leftFirst query = true →
    Scalar.rankLe (record.position.coordinate record.dimension) (point.coordinate record.dimension) = true →
    Scalar.le (record.squaredOffset query) (point.squaredDistance query) = true
  below : record.leftFirst query = false →
    Scalar.rankLe (point.coordinate record.dimension) (record.position.coordinate record.dimension) = true →
    Scalar.le (record.squaredOffset query) (point.squaredDistance query) = true

section

variable {S : Type} {N : Nat} [CommRing S] [LinearOrder S] [IsStrictOrderedRing S] [Scalar S] [ExactScalar S]

namespace KdNode

theorem leftFirst_iff (record : KdNode S N) (query : Point S N) :
    record.leftFirst query = true ↔
      query.coordinate record.dimension < record.position.coordinate record.dimension := by
  rw [leftFirst, offset, ExactScalar.lt_eq, ExactScalar.sub_eq, ExactScalar.zero_eq, decide_eq_true_eq,
    sub_neg]

omit [IsStrictOrderedRing S] in
theorem squaredOffset_eq (record : KdNode S N) (query : Point S N) :
    record.squaredOffset query =
      (query.coordinate record.dimension - record.position.coordinate record.dimension) *
        (query.coordinate record.dimension - record.position.coordinate record.dimension) := by
  simp only [squaredOffset, offset, ExactScalar.mul_eq, ExactScalar.sub_eq]

theorem squaredOffset_le_of_above {record : KdNode S N} {query point : Point S N}
    (left : record.leftFirst query = true)
    (above : record.position.coordinate record.dimension ≤ point.coordinate record.dimension) :
    record.squaredOffset query ≤ point.squaredDistance query := by
  have offset := sub_nonneg.mpr (le_of_lt ((leftFirst_iff record query).mp left))
  calc record.squaredOffset query
      = (record.position.coordinate record.dimension - query.coordinate record.dimension) *
          (record.position.coordinate record.dimension - query.coordinate record.dimension) := by
        rw [squaredOffset_eq, ← neg_mul_neg, neg_sub]
    _ ≤ (point.coordinate record.dimension - query.coordinate record.dimension) *
          (point.coordinate record.dimension - query.coordinate record.dimension) :=
        mul_self_le_mul_self offset (sub_le_sub_right above _)
    _ = Point.squaredDifference (point.coordinate record.dimension) (query.coordinate record.dimension) :=
        (Point.squaredDifference_eq _ _).symm
    _ ≤ point.squaredDistance query := point.squaredDifference_le query record.dimension

theorem squaredOffset_le_of_below {record : KdNode S N} {query point : Point S N}
    (right : record.leftFirst query = false)
    (below : point.coordinate record.dimension ≤ record.position.coordinate record.dimension) :
    record.squaredOffset query ≤ point.squaredDistance query := by
  have above : record.position.coordinate record.dimension ≤ query.coordinate record.dimension := by
    apply le_of_not_gt
    intro left
    rw [(leftFirst_iff record query).mpr left] at right
    exact nomatch right
  have offset := sub_nonneg.mpr above
  calc record.squaredOffset query
      = (query.coordinate record.dimension - record.position.coordinate record.dimension) *
          (query.coordinate record.dimension - record.position.coordinate record.dimension) :=
        squaredOffset_eq record query
    _ ≤ (query.coordinate record.dimension - point.coordinate record.dimension) *
          (query.coordinate record.dimension - point.coordinate record.dimension) :=
        mul_self_le_mul_self offset (sub_le_sub_left below _)
    _ = Point.squaredDifference (point.coordinate record.dimension) (query.coordinate record.dimension) := by
        rw [Point.squaredDifference_eq, ← neg_mul_neg (point.coordinate _ - _), neg_sub]
    _ ≤ point.squaredDistance query := point.squaredDifference_le query record.dimension

theorem shields (record : KdNode S N) (query point : Point S N) : record.Shields query point where
  above left ranked := by
    rw [ExactScalar.rankLe_eq, decide_eq_true_eq] at ranked
    rw [ExactScalar.le_eq, decide_eq_true_eq]
    exact squaredOffset_le_of_above left ranked
  below right ranked := by
    rw [ExactScalar.rankLe_eq, decide_eq_true_eq] at ranked
    rw [ExactScalar.le_eq, decide_eq_true_eq]
    exact squaredOffset_le_of_below right ranked

end KdNode

end

namespace Branch

variable {S : Type} {N : Nat} [Scalar S]

/-- The nodes that may be reported, from left to right. -/
def eligible (validOnly : Bool) (query : Point S N) (branch : Branch S N) : List (Neighbor S) :=
  (branch.entries.filter fun entry => entry.2.eligible validOnly).map fun entry =>
    Neighbor.ofNode query entry.1 entry.2

theorem eligible_node (validOnly : Bool) (query : Point S N) (slot : Nat) (record : KdNode S N)
    (left right : Branch S N) :
    (node slot record left right).eligible validOnly query =
      left.eligible validOnly query ++
        ((if record.eligible validOnly then [Neighbor.ofNode query slot record] else []) ++
          right.eligible validOnly query) := by
  unfold eligible
  rw [entries, List.filter_append, List.map_append, List.filter_cons]
  cases record.eligible validOnly with
  | true => rfl
  | false => rfl

/-- A search comes by every node that may be reported, and by each once. -/
theorem visit_perm (validOnly : Bool) (query : Point S N) (branch : Branch S N) :
    (branch.visit validOnly query).Perm (branch.eligible validOnly query) := by
  induction branch with
  | nil => exact List.Perm.refl _
  | node slot record left right leftIh rightIh =>
    have inOrder := leftIh.append (rightIh.append_left
      (if record.eligible validOnly then [Neighbor.ofNode query slot record] else []))
    rw [eligible_node, visit]
    apply List.Perm.trans _ inOrder
    split
    next leftFirst =>
      rw [← List.append_assoc]
      exact List.perm_append_comm.append_right _
    next rightFirst => exact List.perm_append_comm

theorem of_mem_visit {validOnly : Bool} {query : Point S N} {branch : Branch S N} {found : Neighbor S}
    (member : found ∈ branch.visit validOnly query) :
    ∃ record ∈ branch.records, found.squaredDistance = record.position.squaredDistance query := by
  rw [(visit_perm validOnly query branch).mem_iff, eligible] at member
  obtain ⟨⟨slot, record⟩, inside, rfl⟩ := List.mem_map.mp member
  rw [entries_eq_zip] at inside
  have kept := (List.mem_filter.mp inside).1
  exact ⟨record, (List.of_mem_zip kept).2, rfl⟩

/-- Nothing on the far side of a splitting plane is nearer than the plane. -/
def Shields (validOnly : Bool) (query : Point S N) : Branch S N → Prop
  | nil => True
  | node _ record left right =>
    (∀ found ∈ (if record.leftFirst query then right else left).visit validOnly query,
      Scalar.le (record.squaredOffset query) found.squaredDistance = true) ∧
    left.Shields validOnly query ∧ right.Shields validOnly query

theorem Sorted.shields {branch : Branch S N} (sorted : branch.Sorted) {query : Point S N}
    (each : ∀ record ∈ branch.records, ∀ other ∈ branch.records, record.Shields query other.position)
    (validOnly : Bool) : branch.Shields validOnly query := by
  induction branch with
  | nil => trivial
  | node slot record left right leftIh rightIh =>
    obtain ⟨below, above, leftSorted, rightSorted⟩ := sorted
    have top : record ∈ (node slot record left right).records := List.mem_append_right _ List.mem_cons_self
    have onLeft : ∀ other ∈ left.records, other ∈ (node slot record left right).records :=
      fun _ member => List.mem_append_left _ member
    have onRight : ∀ other ∈ right.records, other ∈ (node slot record left right).records :=
      fun _ member => List.mem_append_right _ (List.mem_cons_of_mem _ member)
    refine ⟨?_, leftIh leftSorted fun first member second within =>
        each first (onLeft first member) second (onLeft second within),
      rightIh rightSorted fun first member second within =>
        each first (onRight first member) second (onRight second within)⟩
    intro found member
    cases side : record.leftFirst query with
    | true =>
      rw [side, if_pos rfl] at member
      obtain ⟨upper, inside, distance⟩ := of_mem_visit member
      exact distance ▸ (each record top upper (onRight upper inside)).above side (above upper inside)
    | false =>
      rw [side, if_neg Bool.false_ne_true] at member
      obtain ⟨lower, inside, distance⟩ := of_mem_visit member
      exact distance ▸ (each record top lower (onLeft lower inside)).below side (below lower inside)

/-- A descent that holds on to nodes and leaves out the far side of a splitting plane that is not worth
going to. -/
def descend {β : Type} (hold : β → Neighbor S → β) (worth : β → S → Bool) (validOnly : Bool)
    (query : Point S N) : Branch S N → β → β
  | nil, held => held
  | node slot record left right, held =>
    let held := if record.eligible validOnly then hold held (Neighbor.ofNode query slot record) else held
    if record.leftFirst query then
      let held := descend hold worth validOnly query left held
      if worth held (record.squaredOffset query) then descend hold worth validOnly query right held else held
    else
      let held := descend hold worth validOnly query right held
      if worth held (record.squaredOffset query) then descend hold worth validOnly query left held else held

theorem descend_of_ineligible {β : Type} (hold : β → Neighbor S → β) (worth : β → S → Bool)
    {validOnly : Bool} (query : Point S N) {branch : Branch S N}
    (none : ∀ record ∈ branch.records, record.eligible validOnly = false) (held : β) :
    branch.descend hold worth validOnly query held = held := by
  induction branch generalizing held with
  | nil => rfl
  | node slot record left right leftIh rightIh =>
    simp only [records, List.forall_mem_append, List.forall_mem_cons] at none
    obtain ⟨onLeft, here, onRight⟩ := none
    simp only [descend, here, leftIh onLeft, rightIh onRight, Bool.false_eq_true, if_false, ite_self]

section

variable {β : Type} {sane : β → Prop} {hold : β → Neighbor S → β} {worth : β → S → Bool}

/-- Nothing that is as far as what is not worth going to would be held on to. That can depend on what is
held, as long as holding on to nodes whose distance is a number does not change it. -/
structure Spares (sane : β → Prop) (hold : β → Neighbor S → β) (worth : β → S → Bool) : Prop where
  sane_hold : ∀ held found, sane held → Scalar.IsNumber found.squaredDistance → sane (hold held found)
  hold_eq : ∀ held squared found, sane held → worth held squared = false →
    Scalar.le squared found.squaredDistance = true → hold held found = held

theorem Spares.sane_foldl (spares : Spares sane hold worth) {others : List (Neighbor S)}
    (numbers : ∀ found ∈ others, Scalar.IsNumber found.squaredDistance) {held : β} (good : sane held) :
    sane (others.foldl hold held) := by
  induction others generalizing held with
  | nil => exact good
  | cons first rest ih =>
    apply ih fun found member => numbers found (List.mem_cons_of_mem _ member)
    exact spares.sane_hold held first good (numbers first List.mem_cons_self)

theorem Spares.foldl_of_worthless (spares : Spares sane hold worth)
    {held : β} (good : sane held) {squared : S} (worthless : worth held squared = false)
    {others : List (Neighbor S)}
    (far : ∀ found ∈ others, Scalar.le squared found.squaredDistance = true) :
    others.foldl hold held = held := by
  induction others with
  | nil => rfl
  | cons first rest ih =>
    rw [List.foldl_cons, spares.hold_eq held squared first good worthless (far first List.mem_cons_self)]
    apply ih
    intro found member
    exact far found (List.mem_cons_of_mem _ member)

theorem Spares.ite_worth_eq_foldl (spares : Spares sane hold worth)
    {held after : β} (good : sane held) {squared : S} {others : List (Neighbor S)}
    (far : ∀ found ∈ others, Scalar.le squared found.squaredDistance = true)
    (run : after = others.foldl hold held) :
    (if worth held squared then after else held) = others.foldl hold held := by
  cases decided : worth held squared with
  | true => rw [if_pos rfl, run]
  | false => rw [if_neg Bool.false_ne_true, spares.foldl_of_worthless good decided far]

omit [Scalar S] in
theorem foldl_ite_singleton (hold : β → Neighbor S → β) (held : β) (found : Neighbor S) (condition : Prop)
    [Decidable condition] :
    (if condition then [found] else []).foldl hold held = if condition then hold held found else held := by
  split
  next => rfl
  next => rfl

/-- Leaving out what would not be held on to changes nothing. -/
theorem descend_eq_foldl (spares : Spares sane hold worth) (validOnly : Bool) (query : Point S N)
    {branch : Branch S N} (shields : branch.Shields validOnly query)
    (numbers : ∀ found ∈ branch.visit validOnly query, Scalar.IsNumber found.squaredDistance)
    {held : β} (good : sane held) :
    branch.descend hold worth validOnly query held = (branch.visit validOnly query).foldl hold held := by
  induction branch generalizing held with
  | nil => rfl
  | node slot record left right leftIh rightIh =>
    obtain ⟨far, leftShields, rightShields⟩ := shields
    simp only [descend, visit] at numbers ⊢
    -- The near side is gone down in any case. If the far side is not, the plane is too far away, and what
    -- is behind it farther still.
    cases side : record.leftFirst query with
    | true =>
      rw [side, if_pos rfl] at far numbers
      simp only [List.forall_mem_append] at numbers
      obtain ⟨⟨hereNumbers, leftNumbers⟩, rightNumbers⟩ := numbers
      have goodHere := spares.sane_foldl hereNumbers good
      rw [foldl_ite_singleton] at goodHere
      have goodNear := spares.sane_foldl leftNumbers goodHere
      rw [if_pos rfl, if_pos rfl, List.foldl_append, List.foldl_append, foldl_ite_singleton,
        leftIh leftShields leftNumbers goodHere]
      exact spares.ite_worth_eq_foldl goodNear far (rightIh rightShields rightNumbers goodNear)
    | false =>
      rw [side, if_neg Bool.false_ne_true] at far numbers
      simp only [List.forall_mem_append] at numbers
      obtain ⟨⟨hereNumbers, rightNumbers⟩, leftNumbers⟩ := numbers
      have goodHere := spares.sane_foldl hereNumbers good
      rw [foldl_ite_singleton] at goodHere
      have goodNear := spares.sane_foldl rightNumbers goodHere
      rw [if_neg Bool.false_ne_true, if_neg Bool.false_ne_true, List.foldl_append, List.foldl_append,
        foldl_ite_singleton, rightIh rightShields rightNumbers goodHere]
      exact spares.ite_worth_eq_foldl goodNear far (leftIh leftShields leftNumbers goodNear)

end

end Branch

namespace KdTree

variable {γ S : Type} {N : Nat} [Scalar S] [Cell γ] [Stored (KdNode S N) γ]

def eligible (tree : KdTree γ S N) (validOnly : Bool) (query : Point S N) : List (Neighbor S) :=
  ((List.range tree.len).filter fun slot => (tree.view slot).eligible validOnly).map fun slot =>
    Neighbor.ofNode query slot (tree.view slot)

theorem eligible_eq_nil {tree : KdTree γ S N} {validOnly : Bool} {query : Point S N} :
    tree.eligible validOnly query = [] ↔ ∀ slot < tree.len, (tree.view slot).eligible validOnly = false := by
  rw [eligible, List.map_eq_nil_iff, List.filter_eq_nil_iff]
  constructor
  · intro none slot inside
    exact Bool.eq_false_iff.mpr (none slot (List.mem_range.mpr inside))
  · intro none slot member
    exact Bool.eq_false_iff.mp (none slot (List.mem_range.mp member))

theorem nodup_eligible (tree : KdTree γ S N) (validOnly : Bool) (query : Point S N) :
    ((tree.eligible validOnly query).map Neighbor.node).Nodup := by
  rw [eligible, List.map_map]
  change (List.map id _).Nodup
  rw [List.map_id]
  exact List.nodup_range.filter _

theorem entries_outline {tree : KdTree γ S N} (sound : tree.Sound) :
    tree.outline.entries = (List.range tree.len).map fun slot => (slot, tree.view slot) := by
  have bears := sound.bears
  rw [Branch.entries_eq_zip, bears.slots, bears.records]
  apply List.ext_getElem?
  intro slot
  by_cases inside : slot < tree.len
  · rw [List.getElem?_map, List.getElem?_range inside, Option.map_some, List.getElem?_zip_eq_some]
    exact ⟨List.getElem?_range inside, getElem?_records sound.nodes inside⟩
  · rw [List.getElem?_eq_none, List.getElem?_eq_none]
    · rw [List.length_map, List.length_range]
      exact Nat.le_of_not_lt inside
    · rw [List.length_zip, List.length_range]
      exact Nat.le_trans (Nat.min_le_left _ _) (Nat.le_of_not_lt inside)

theorem eligible_outline {tree : KdTree γ S N} (sound : tree.Sound) (validOnly : Bool) (query : Point S N) :
    tree.outline.eligible validOnly query = tree.eligible validOnly query := by
  rw [Branch.eligible, entries_outline sound, List.filter_map, List.map_map]
  rfl

theorem visit_outline_perm {tree : KdTree γ S N} (sound : tree.Sound) (validOnly : Bool)
    (query : Point S N) : (tree.outline.visit validOnly query).Perm (tree.eligible validOnly query) := by
  rw [← eligible_outline sound]
  exact Branch.visit_perm validOnly query tree.outline

end KdTree

end SpatialStore
