import SpatialStore.Proofs.Geometry.Partial
import SpatialStore.Proofs.Query.Nearest
import SpatialStore.Proofs.Query.Within

/-! Searching among points of which some coordinates are not numbers. A node that splits in such a coordinate hides
what is on its left from every search, and a topmost node without a distance hides all others from a search for the
nearest. What is not hidden is found as among numbers only. -/

namespace SpatialStore

instance {S : Type} [Scalar S] (number : S) : Decidable (Scalar.IsNumber number) :=
  inferInstanceAs (Decidable (_ = true))

/-! ### What is hidden -/

namespace Branch

variable {S : Type} {N : Nat} [Scalar S]

/-- The branch without what is on the left of a node that has no plane. -/
def exposed : Branch S N → Branch S N
  | nil => nil
  | node slot record left right =>
    node slot record (if record.HasPlane then left.exposed else nil) right.exposed

theorem exposed_of_planes {branch : Branch S N} (linked : branch.Linked)
    (planes : ∀ record ∈ branch.records, record.leftSlot ≠ none → record.HasPlane) :
    branch.exposed = branch := by
  induction branch with
  | nil => rfl
  | node slot record left right leftIh rightIh =>
    obtain ⟨leftLink, _, leftLinked, rightLinked⟩ := linked
    obtain ⟨leftPlanes, here⟩ := List.forall_mem_append.mp planes
    obtain ⟨plane, rightPlanes⟩ := List.forall_mem_cons.mp here
    rw [exposed, leftIh leftLinked leftPlanes, rightIh rightLinked rightPlanes]
    cases left with
    | nil => rw [ite_self]
    | node place lower _ _ =>
      rw [if_pos]
      apply plane
      rw [leftLink]
      exact Option.some_ne_none place

theorem entries_exposed (branch : Branch S N) : branch.exposed.entries.Sublist branch.entries := by
  induction branch with
  | nil => exact List.Sublist.refl _
  | node slot record left right leftIh rightIh =>
    rw [exposed, entries, entries]
    refine List.Sublist.append ?_ (rightIh.cons_cons _)
    split
    next => exact leftIh
    next => exact List.nil_sublist _

theorem eligible_exposed (validOnly : Bool) (query : Point S N) (branch : Branch S N) :
    (branch.exposed.eligible validOnly query).Sublist (branch.eligible validOnly query) :=
  (branch.entries_exposed.filter _).map _

theorem mem_records_exposed {branch : Branch S N} {record : KdNode S N} (member : record ∈ branch.exposed.records) :
    record ∈ branch.records := by
  induction branch with
  | nil => exact member
  | node slot top left right leftIh rightIh =>
    rw [exposed, records] at member
    rw [records, List.mem_append, List.mem_cons]
    rcases List.mem_append.mp member with onLeft | onRight
    · split at onLeft
      next => exact Or.inl (leftIh onLeft)
      next => exact absurd onLeft List.not_mem_nil
    · rcases List.mem_cons.mp onRight with here | above
      · exact Or.inr (Or.inl here)
      · exact Or.inr (Or.inr (rightIh above))

end Branch

namespace Neighbor

variable {S : Type} [Scalar S]

def measured (others : List (Neighbor S)) : List (Neighbor S) :=
  others.filter fun other => Scalar.IsNumber other.squaredDistance

theorem measured_cons (first : Neighbor S) (rest : List (Neighbor S)) :
    measured (first :: rest) =
      if Scalar.IsNumber first.squaredDistance then first :: measured rest else measured rest := by
  simp only [measured, List.filter_cons, decide_eq_true_eq]

theorem mem_measured {others : List (Neighbor S)} {other : Neighbor S} :
    other ∈ measured others ↔ other ∈ others ∧ Scalar.IsNumber other.squaredDistance := by
  rw [measured, List.mem_filter, decide_eq_true_eq]

end Neighbor

namespace Branch

/-! ### Going down past nodes that have no plane -/

section

variable {β S : Type} [Scalar S] {sane : β → Prop} {hold : β → Neighbor S → β} {worth : β → S → Bool}

/-- Nor would anything without a distance be held on to, and what is at no distance is not worth going to. -/
structure Overlooks (sane : β → Prop) (hold : β → Neighbor S → β) (worth : β → S → Bool) : Prop extends
    Spares sane hold worth where
  hold_missing : ∀ held found, sane held → ¬Scalar.IsNumber found.squaredDistance → hold held found = held
  worth_missing : ∀ held squared, sane held → ¬Scalar.IsNumber squared → worth held squared = false

theorem Overlooks.sane_next (overlooks : Overlooks sane hold worth) {held : β} (good : sane held)
    (found : Neighbor S) : sane (hold held found) := by
  by_cases number : Scalar.IsNumber found.squaredDistance
  · exact overlooks.sane_hold held found good number
  · rw [overlooks.hold_missing held found good number]
    exact good

theorem Overlooks.foldl_measured (overlooks : Overlooks sane hold worth) {held : β} (good : sane held)
    (others : List (Neighbor S)) :
    others.foldl hold held = (Neighbor.measured others).foldl hold held := by
  induction others generalizing held with
  | nil => rfl
  | cons first rest ih =>
    rw [List.foldl_cons, ih (overlooks.sane_next good first), Neighbor.measured_cons]
    split
    next => rfl
    next missing => rw [overlooks.hold_missing held first good missing]

theorem Overlooks.sane_foldl (overlooks : Overlooks sane hold worth) {held : β} (good : sane held)
    (others : List (Neighbor S)) : sane (others.foldl hold held) := by
  rw [overlooks.foldl_measured good]
  exact overlooks.toSpares.sane_foldl (fun _ member => (Neighbor.mem_measured.mp member).2) good

theorem Overlooks.ite_worth_eq_foldl (overlooks : Overlooks sane hold worth) {held after : β} (good : sane held)
    {squared : S} {others : List (Neighbor S)}
    (far : ∀ found ∈ Neighbor.measured others, Scalar.le squared found.squaredDistance = true)
    (run : after = others.foldl hold held) :
    (if worth held squared then after else held) = others.foldl hold held := by
  rw [overlooks.foldl_measured good] at run ⊢
  exact overlooks.toSpares.ite_worth_eq_foldl good far run

end

section

variable {β R : Type} {N : Nat} [CommRing R] [LinearOrder R] [IsStrictOrderedRing R] [Scalar R] [ExactScalar R]
  {sane : β → Prop} {hold : β → Neighbor (Option R) → β} {worth : β → Option R → Bool}

theorem le_of_mem_measured {record : KdNode (Option R) N} (plane : record.HasPlane) {query : Point R N}
    {validOnly : Bool} {side : Branch (Option R) N}
    (shields : ∀ other ∈ side.records, record.Shields query.whole other.position →
      Scalar.le (record.squaredOffset query.whole) (other.position.squaredDistance query.whole) = true)
    {found : Neighbor (Option R)}
    (member : found ∈ Neighbor.measured (side.exposed.visit validOnly query.whole)) :
    Scalar.le (record.squaredOffset query.whole) found.squaredDistance = true := by
  obtain ⟨visited, number⟩ := Neighbor.mem_measured.mp member
  obtain ⟨other, inside, distance⟩ := of_mem_visit visited
  rw [distance] at number ⊢
  exact shields other (mem_records_exposed inside) (KdNode.shields_of_number plane number)

theorem Overlooks.descend_node (overlooks : Overlooks sane hold worth) {validOnly : Bool} {query : Point R N}
    {slot : Nat} {record : KdNode (Option R) N} {left right : Branch (Option R) N}
    (sorted : (node slot record left right).Sorted)
    (leftRun : ∀ held, sane held → left.descend hold worth validOnly query.whole held =
      (left.exposed.visit validOnly query.whole).foldl hold held)
    (rightRun : ∀ held, sane held → right.descend hold worth validOnly query.whole held =
      (right.exposed.visit validOnly query.whole).foldl hold held)
    {held : β} (good : sane (if record.eligible validOnly
      then hold held (Neighbor.ofNode query.whole slot record) else held)) :
    (node slot record left right).descend hold worth validOnly query.whole held =
      ((node slot record left right).exposed.visit validOnly query.whole).foldl hold held := by
  obtain ⟨below, above, _, _⟩ := sorted
  simp only [descend, exposed, visit]
  by_cases plane : record.HasPlane
  · rw [if_pos plane]
    cases side : record.leftFirst query.whole with
    | true =>
      rw [if_pos rfl, if_pos rfl, List.foldl_append, List.foldl_append, foldl_ite_singleton,
        leftRun _ good]
      have goodNear := overlooks.sane_foldl good (left.exposed.visit validOnly query.whole)
      refine overlooks.ite_worth_eq_foldl goodNear ?_ (rightRun _ goodNear)
      intro found
      exact le_of_mem_measured plane fun other inside shields => shields.above side (above other inside)
    | false =>
      rw [if_neg Bool.false_ne_true, if_neg Bool.false_ne_true, List.foldl_append, List.foldl_append,
        foldl_ite_singleton, rightRun _ good]
      have goodNear := overlooks.sane_foldl good (right.exposed.visit validOnly query.whole)
      refine overlooks.ite_worth_eq_foldl goodNear ?_ (leftRun _ goodNear)
      intro found
      exact le_of_mem_measured plane fun other inside shields => shields.below side (below other inside)
  · -- The left side is never gone to, whatever there is.
    obtain ⟨side, missing⟩ := KdNode.offset_of_missing plane query.whole
    have goodNear := overlooks.sane_foldl good (right.exposed.visit validOnly query.whole)
    have left := overlooks.worth_missing _ _ goodNear missing
    rw [if_neg plane, side, if_neg Bool.false_ne_true, if_neg Bool.false_ne_true, List.foldl_append,
      List.foldl_append, foldl_ite_singleton, rightRun _ good, left, if_neg Bool.false_ne_true]
    rfl

theorem Overlooks.descend_eq_foldl (overlooks : Overlooks sane hold worth) (validOnly : Bool) (query : Point R N)
    {branch : Branch (Option R) N} (sorted : branch.Sorted) {held : β} (good : sane held) :
    branch.descend hold worth validOnly query.whole held =
      (branch.exposed.visit validOnly query.whole).foldl hold held := by
  induction branch generalizing held with
  | nil => rfl
  | node slot record left right leftIh rightIh =>
    apply overlooks.descend_node sorted (fun _ => leftIh sorted.2.2.1) fun _ => rightIh sorted.2.2.2
    split
    next => exact overlooks.sane_next good _
    next => exact good

end

end Branch

/-! ### Both searches -/

section

variable {S : Type} [Scalar S] [ComparableScalar S]

theorem Branch.keepWithin_overlooks (squaredRadius : S) :
    Overlooks (fun _ => True) (Neighbor.keepWithin squaredRadius) fun _ squared => Scalar.le squared squaredRadius where
  toSpares := keepWithin_spares squaredRadius
  hold_missing held found _ missing := by
    rw [Neighbor.keepWithin, if_neg]
    exact fun near => missing (ComparableScalar.isNumber_left near)
  worth_missing held squared _ missing := by
    apply Bool.eq_false_iff.mpr
    exact fun near => missing (ComparableScalar.isNumber_left near)

namespace Neighbor

theorem nearer_of_missing {held other : Neighbor S}
    (missing : ¬(Scalar.IsNumber other.squaredDistance ∧ Scalar.IsNumber held.squaredDistance)) :
    nearer (some held) other = held := by
  rw [nearer, if_neg]
  intro less
  obtain ⟨number, heldNumber, _⟩ := ComparableScalar.lt_iff.mp less
  exact missing ⟨number, heldNumber⟩

/-- A search for the nearest overlooks what has no distance once it holds on to a node. -/
theorem keep_overlooks : Branch.Overlooks (S := S) (fun best => best.isSome = true) keep mayImprove where
  sane_hold _ _ _ _ := rfl
  hold_eq best squared other _ := keep_spares.hold_eq best squared other trivial
  hold_missing best found good missing := by
    obtain ⟨held, rfl⟩ := Option.isSome_iff_exists.mp good
    rw [keep, nearer_of_missing fun numbers => missing numbers.1]
  worth_missing best squared good missing := by
    obtain ⟨held, rfl⟩ := Option.isSome_iff_exists.mp good
    apply Bool.eq_false_iff.mpr
    intro less
    exact missing (ComparableScalar.lt_iff.mp less).1

theorem foldl_keep_of_missing {held : Neighbor S} (missing : ¬Scalar.IsNumber held.squaredDistance)
    (others : List (Neighbor S)) : others.foldl keep (some held) = some held := by
  apply List.foldl_fixed'
  intro other
  rw [keep, nearer_of_missing fun numbers => missing numbers.2]

theorem nearer_le {held : Neighbor S} (number : Scalar.IsNumber held.squaredDistance) (other : Neighbor S) :
    Scalar.le (nearer (some held) other).squaredDistance held.squaredDistance = true ∧
    (Scalar.IsNumber other.squaredDistance →
      Scalar.le (nearer (some held) other).squaredDistance other.squaredDistance = true) := by
  rw [nearer]
  split
  next less =>
    obtain ⟨otherNumber, _, notAbove⟩ := ComparableScalar.lt_iff.mp less
    exact ⟨(ComparableScalar.le_total otherNumber number).resolve_right (Bool.eq_false_iff.mp notAbove),
      fun _ => otherNumber⟩
  next notLess =>
    refine ⟨number, ?_⟩
    intro otherNumber
    apply Bool.of_not_eq_false
    intro notBelow
    exact notLess (ComparableScalar.lt_iff.mpr ⟨otherNumber, number, notBelow⟩)

/-- A node with a distance, than which no other that has one is nearer. -/
structure LeastMeasured (found : Neighbor S) (others : List (Neighbor S)) : Prop where
  member : found ∈ others
  number : Scalar.IsNumber found.squaredDistance
  least : ∀ other ∈ others, Scalar.IsNumber other.squaredDistance →
    Scalar.le found.squaredDistance other.squaredDistance = true

omit [ComparableScalar S] in
theorem LeastMeasured.perm {found : Neighbor S} {others same : List (Neighbor S)}
    (nearest : found.LeastMeasured others) (perm : others.Perm same) : found.LeastMeasured same where
  member := perm.mem_iff.mp nearest.member
  number := nearest.number
  least other member := nearest.least other (perm.mem_iff.mpr member)

theorem foldl_keep_of_number {held : Neighbor S} (number : Scalar.IsNumber held.squaredDistance)
    (others : List (Neighbor S)) :
    ∃ found, others.foldl keep (some held) = some found ∧ found.LeastMeasured (held :: others) := by
  induction others generalizing held with
  | nil =>
    refine ⟨held, rfl, List.mem_cons_self, number, ?_⟩
    intro other member _
    obtain rfl := List.mem_singleton.mp member
    exact number
  | cons next rest ih =>
    obtain ⟨below, belowNext⟩ := nearer_le number next
    have nearerNumber := ComparableScalar.isNumber_left below
    obtain ⟨found, run, nearest⟩ := ih nearerNumber
    have low := nearest.least _ List.mem_cons_self nearerNumber
    refine ⟨found, run, ?_, nearest.number, ?_⟩
    · rcases List.mem_cons.mp nearest.member with rfl | later
      · rw [nearer]
        split
        next => exact List.mem_cons_of_mem _ List.mem_cons_self
        next => exact List.mem_cons_self
      · exact List.mem_cons_of_mem _ (List.mem_cons_of_mem _ later)
    · intro other inside otherNumber
      rcases List.mem_cons.mp inside with rfl | inside
      · exact ComparableScalar.le_trans low below
      · rcases List.mem_cons.mp inside with rfl | later
        · exact ComparableScalar.le_trans low (belowNext otherNumber)
        · exact nearest.least other (List.mem_cons_of_mem _ later) otherNumber

end Neighbor

end

/-! ### Over reachable trees -/

section

variable {R : Type} {N : Nat} [CommRing R] [LinearOrder R] [IsStrictOrderedRing R] [Scalar R] [ExactScalar R]

/-- The node at the top is held on to first, so that a search for the nearest overlooks what is below it. -/
theorem Branch.nearest_exposed (query : Point R N) {branch : Branch (Option R) N} (sorted : branch.Sorted) :
    branch.nearest false query.whole none = (branch.exposed.visit false query.whole).foldl Neighbor.keep none := by
  rw [nearest_eq_descend]
  cases branch with
  | nil => rfl
  | node slot record left right =>
    have overlooks := Neighbor.keep_overlooks (S := Option R)
    apply overlooks.descend_node sorted
    · exact fun _ => overlooks.descend_eq_foldl false query sorted.2.2.1
    · exact fun _ => overlooks.descend_eq_foldl false query sorted.2.2.2
    · rfl

theorem Branch.exists_visit_node {S : Type} [Scalar S] (query : Point S N) (slot : Nat) (record : KdNode S N)
    (left right : Branch S N) :
    ∃ later, (node slot record left right).visit false query = Neighbor.ofNode query slot record :: later := by
  rw [visit]
  split
  next => exact ⟨_, rfl⟩
  next => exact ⟨_, rfl⟩

variable {γ : Type} [Cell γ] [Stored (KdNode (Option R) N) γ] [LawfulStored (KdNode (Option R) N)]

theorem WithinSearch.found_exposed {start : WithinSearch γ (Option R) N} (reached : start.tree.Reached)
    (room : N ≤ KdNode.dimensions) (earlier : List (Request (Option R) N)) (query : Point R N)
    (radius : Option R) (sorted : Bool) :
    let found := ((earlier.foldl answer start).search query.whole radius sorted).found
    found.Perm ((start.tree.outline.exposed.eligible start.validOnly query.whole).filter fun other =>
      Scalar.le other.squaredDistance (Scalar.mul radius radius)) ∧
    (found.map Neighbor.node).Nodup := by
  intro found
  have tended := reached.tended
  have exposed := Branch.visit_perm start.validOnly query.whole start.tree.outline.exposed
  have within := Branch.append_within start.validOnly query.whole (Scalar.mul radius radius) start.tree.outline []
  rw [List.nil_append, (Branch.keepWithin_overlooks _).descend_eq_foldl start.validOnly query
    (tended.sorted inferInstance room) trivial, Neighbor.foldl_keepWithin, List.nil_append] at within
  have perm : found.Perm ((start.tree.outline.exposed.eligible start.validOnly query.whole).filter fun other =>
      Scalar.le other.squaredDistance (Scalar.mul radius radius)) := by
    obtain ⟨left, same⟩ := answer_keeps earlier start
    refine List.Perm.trans ?_ (within ▸ exposed.filter _)
    simp only [found, same, search]
    split
    next => exact List.mergeSort_perm _ _
    next => exact List.Perm.refl _
  refine ⟨perm, ?_⟩
  have each := KdTree.nodup_eligible start.tree start.validOnly query.whole
  rw [← KdTree.eligible_outline tended.sound] at each
  refine (perm.map Neighbor.node).nodup_iff.mpr (each.sublist ?_)
  exact (List.filter_sublist.trans (Branch.eligible_exposed _ _ _)).map _

namespace KdTree

/-- What searches of a tree find. Within a radius it is each node once that may be reported, that no node without a
plane hides and that is near enough. The nearest is one of those than which none is nearer, or the topmost node if
that has no distance. -/
structure FindsExposed (tree : KdTree γ (Option R) N) (query : Point R N) : Prop where
  within : ∀ (start : WithinSearch γ (Option R) N) earlier radius sorted, start.tree = tree →
    let found := ((List.foldl WithinSearch.answer start earlier).search query.whole radius sorted).found
    found.Perm ((tree.outline.exposed.eligible start.validOnly query.whole).filter fun other =>
      Scalar.le other.squaredDistance (Scalar.mul radius radius)) ∧ (found.map Neighbor.node).Nodup
  empty : tree.root = none → ∀ last, (NearestSearch.search ⟨tree, false, last⟩ query.whole).best = none
  top : ∀ top, tree.root = some top → ¬(tree.view top).position.AllNumbers →
    ∀ last, (NearestSearch.search ⟨tree, false, last⟩ query.whole).best =
      some (Neighbor.ofNode query.whole top (tree.view top))
  nearest : ∀ top, tree.root = some top → (tree.view top).position.AllNumbers →
    ∀ last, ∃ found, (NearestSearch.search ⟨tree, false, last⟩ query.whole).best = some found ∧
      found.LeastMeasured (tree.outline.exposed.eligible false query.whole)

theorem nearest_exposed {tree : KdTree γ (Option R) N} (reached : tree.Reached) (room : N ≤ KdNode.dimensions)
    (query : Point R N) :
    (tree.root = none → tree.nearest false query.whole = none) ∧
    ∀ top, tree.root = some top →
      (¬(tree.view top).position.AllNumbers →
        tree.nearest false query.whole = some (Neighbor.ofNode query.whole top (tree.view top))) ∧
      ((tree.view top).position.AllNumbers → ∃ found, tree.nearest false query.whole = some found ∧
        found.LeastMeasured (tree.outline.exposed.eligible false query.whole)) := by
  have tended := reached.tended
  have sound := tended.sound
  have run : tree.nearest false query.whole =
      (tree.outline.exposed.visit false query.whole).foldl Neighbor.keep none :=
    Branch.nearest_exposed query (tended.sorted inferInstance room)
  have carries := sound.carries
  rw [sound.bears.root, run]
  have all := Branch.visit_perm false query.whole tree.outline.exposed
  cases shape : tree.outline with
  | nil => exact ⟨fun _ => rfl, nofun⟩
  | node slot record left right =>
    rw [shape] at carries all
    refine ⟨nofun, ?_⟩
    rintro _ ⟨⟩
    obtain ⟨later, visited⟩ := Branch.exists_visit_node query.whole slot record
      (if record.HasPlane then left.exposed else .nil) right.exposed
    rw [carries.here.1, ← Point.isNumber_squaredDistance_iff query, Branch.exposed, visited]
    rw [Branch.exposed, visited] at all
    constructor
    · exact fun missing => Neighbor.foldl_keep_of_missing missing later
    · intro number
      have top : Scalar.IsNumber (Neighbor.ofNode query.whole slot record).squaredDistance := number
      obtain ⟨found, kept, nearest⟩ := Neighbor.foldl_keep_of_number top later
      exact ⟨found, kept, nearest.perm all⟩

/-- Among points some of whose coordinates may not be numbers, searches of a tree that was built, and then rebuilt and
marked in whatever way, find what is exposed. That is all there is, if each node with something on its left has a
plane. -/
theorem Reached.findsExposed {tree : KdTree γ (Option R) N} (reached : tree.Reached) (room : N ≤ KdNode.dimensions)
    (query : Point R N) :
    tree.FindsExposed query ∧
    ((∀ slot < tree.len, (tree.view slot).leftSlot ≠ none → (tree.view slot).HasPlane) →
      ∀ validOnly, (tree.outline.exposed.eligible validOnly query.whole).Perm
        (tree.eligible validOnly query.whole)) := by
  have sound := reached.tended.sound
  obtain ⟨empty, below⟩ := nearest_exposed reached room query
  refine ⟨⟨?_, ?_, ?_, ?_⟩, ?_⟩
  · rintro start earlier radius sorted rfl
    exact WithinSearch.found_exposed reached room earlier query radius sorted
  · exact fun root _ => empty root
  · exact fun top root missing _ => (below top root).1 missing
  · exact fun top root numbers _ => (below top root).2 numbers
  · intro planes validOnly
    have recordPlanes : ∀ record ∈ tree.outline.records, record.leftSlot ≠ none → record.HasPlane := by
      rw [sound.bears.records, sound.records_eq]
      intro record member
      obtain ⟨slot, inside, rfl⟩ := List.mem_map.mp member
      exact planes slot (List.mem_range.mp inside)
    rw [Branch.exposed_of_planes sound.bears.linked recordPlanes, eligible_outline sound]

end KdTree

end

/-! ### Two trees -/

section

variable {N : Nat}

instance : Cell (Point (Option ℚ) N) := ⟨Vector.replicate N none⟩

instance : Stored (Point (Option ℚ) N) (Point (Option ℚ) N) where
  width := 1
  fresh := Cell.blank
  encode point := [point]
  decode cells := cells.headD Cell.blank

instance : Cell (KdNode (Option ℚ) N) := ⟨KdNode.fresh⟩

instance : Stored (KdNode (Option ℚ) N) (KdNode (Option ℚ) N) where
  width := 1
  fresh := KdNode.fresh
  encode node := [node]
  decode cells := cells.headD KdNode.fresh

instance : LawfulStored (KdNode (Option ℚ) N) where
  length_encode _ := rfl
  decode_encode _ := rfl

end

namespace KdTree

/-- A node with a coordinate that is not a number hides none if there is nothing on its left. -/
theorem finds_above_missing :
    ∃ tree : KdTree (KdNode (Option ℚ) 2) (Option ℚ) 2, tree.Reached ∧ 2 ≤ KdNode.dimensions ∧
      (tree.root = some 1 ∧ (tree.view 0).position = #v[some 0, none]) ∧
      (WithinSearch.search ⟨tree, false, []⟩ (Point.whole #v[3, 1]) (some 2) true).found.Perm [⟨1, 1, some 1⟩] ∧
      ∃ found, (NearestSearch.search ⟨tree, false, none⟩ (Point.whole #v[3, 1])).best = some found ∧
        found.LeastMeasured (tree.eligible false (Point.whole #v[3, 1])) := by
  obtain ⟨tree, reached, good⟩ := exists_overPoints (KdNode (Option ℚ) 2) (Point (Option ℚ) 2)
    [#v[some (0 : ℚ), none], #v[some 3, some 0]]
    (fun tree => tree.root = some 1 ∧ (tree.view 0).position = #v[some 0, none] ∧
      (tree.view 1).position = Point.whole #v[3, 0] ∧
      (∀ slot < tree.len, (tree.view slot).leftSlot ≠ none → (tree.view slot).HasPlane) ∧
      (tree.outline.exposed.eligible false (Point.whole #v[3, 1])).filter
        (fun other => Scalar.le other.squaredDistance (Scalar.mul (some 2) (some 2))) = [⟨1, 1, some 1⟩])
    (by decide +kernel)
  obtain ⟨root, first, top, planes, near⟩ := of_decide_eq_true good
  have fits : 2 ≤ KdNode.dimensions := by decide
  obtain ⟨finds, complete⟩ := reached.findsExposed fits #v[3, 1]
  have numbers : (tree.view 1).position.AllNumbers := by
    intro dimension _
    rw [top, Point.coordinate_whole]
    exact Scalar.isNumber_some _
  refine ⟨tree, reached, fits, ⟨root, first⟩, ?_, ?_⟩
  · exact near ▸ (finds.within ⟨tree, false, []⟩ [] (some 2) true rfl).1
  · obtain ⟨found, best, nearest⟩ := finds.nearest 1 root numbers none
    exact ⟨found, best, nearest.perm (complete planes false)⟩

/-- At the top, with another node on its left, it hides that from both searches, however near it is. -/
theorem missing_hides_left :
    ∃ tree : KdTree (KdNode (Option ℚ) 1) (Option ℚ) 1, tree.Reached ∧
      tree.eligible false (Point.whole #v[1]) = [⟨0, 0, some 0⟩, ⟨1, 1, none⟩] ∧
      (WithinSearch.search ⟨tree, false, []⟩ (Point.whole #v[1]) (some 1) false).found = [] ∧
      (NearestSearch.search ⟨tree, false, none⟩ (Point.whole #v[1])).best = some ⟨1, 1, none⟩ := by
  obtain ⟨tree, reached, good⟩ := exists_overPoints (KdNode (Option ℚ) 1) (Point (Option ℚ) 1)
    [#v[some (1 : ℚ)], #v[none]]
    (fun tree => tree.eligible false (Point.whole #v[1]) = [⟨0, 0, some 0⟩, ⟨1, 1, none⟩] ∧
      (WithinSearch.search ⟨tree, false, []⟩ (Point.whole #v[1]) (some 1) false).found = [] ∧
      (NearestSearch.search ⟨tree, false, none⟩ (Point.whole #v[1])).best = some ⟨1, 1, none⟩)
    (by decide +kernel)
  exact ⟨tree, reached, of_decide_eq_true good⟩

end KdTree

end SpatialStore
