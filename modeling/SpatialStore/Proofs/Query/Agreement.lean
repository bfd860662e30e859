import SpatialStore.Proofs.Geometry.Finite
import SpatialStore.Proofs.Query.KNearest
import SpatialStore.Proofs.Query.Nearest

/-! The nearest node and the `k` nearest, over doubles. The first of the `k` is the nearest one, unless even
that is infinitely far, since no node is held that is not below the bound for a list with room. -/

namespace SpatialStore

/-! ### Splitting planes between finite points -/

namespace KdNode

variable {N : Nat} {record : KdNode Double N} {query point : Point Double N}

theorem leftFirst_iff_value (finite : record.position.IsFinite) (queryFinite : query.IsFinite) :
    record.leftFirst query = true ↔
      (query.coordinate record.dimension).value < (record.position.coordinate record.dimension).value := by
  obtain ⟨number, place⟩ := Double.sub_spec (queryFinite.coordinate record.dimension)
    (finite.coordinate record.dimension)
  have zero : Scalar.IsNumber (Scalar.zero : Double) := Double.isNumber_iff.mpr rfl
  rw [leftFirst, offset, Double.lt_iff]
  change _ ∧ _ ∧ _ < 0 ↔ _
  rw [place, Rounding.placeOf_neg]
  exact ⟨fun less => Int.lt_of_sub_neg less.2.2, fun less => ⟨number, zero, Int.sub_neg_of_lt less⟩⟩

/-- A difference that is rounded is not larger than one that is larger before rounding, and neither are their
squares. -/
theorem shields_of_finite (finite : record.position.IsFinite) (queryFinite : query.IsFinite)
    (pointFinite : point.IsFinite) : record.Shields query point := by
  have plane := finite.coordinate record.dimension
  have here := queryFinite.coordinate record.dimension
  have there := pointFinite.coordinate record.dimension
  obtain ⟨distanceNumber, above⟩ := Point.squaredDistance_spec pointFinite queryFinite
  have offsetNumber := (Point.squaredDifference_spec here plane).1
  have farther : ((query.coordinate record.dimension).value -
        (record.position.coordinate record.dimension).value).natAbs ≤
      ((point.coordinate record.dimension).value - (query.coordinate record.dimension).value).natAbs →
      Scalar.le (record.squaredOffset query) (point.squaredDistance query) = true := by
    intro nearer
    have bound := Int.le_trans (Point.squaredDifference_mono here plane there here nearer) (above record.dimension)
    exact Double.le_iff.mpr ⟨offsetNumber, distanceNumber, bound⟩
  have ordered : ∀ {first second : Double}, first.isFinite = true → second.isFinite = true →
      Scalar.rankLe first second = true → first.value ≤ second.value := by
    intro first second firstFinite secondFinite ranked
    have le := ComparableScalar.le_of_rankLe (Double.isNumber_of_isFinite firstFinite)
      (Double.isNumber_of_isFinite secondFinite) ranked
    exact Double.value_mono (Double.le_iff.mp le).2.2
  constructor
  · intro left ranked
    have less := (leftFirst_iff_value finite queryFinite).mp left
    have behind := ordered plane there ranked
    apply farther
    omega
  · intro right ranked
    have notLess := mt (leftFirst_iff_value finite queryFinite).mpr (Bool.eq_false_iff.mp right)
    have behind := ordered there plane ranked
    apply farther
    omega

end KdNode

/-! ### Holding one node and holding several -/

namespace Neighbor

variable {S : Type} [Scalar S]

def near (found : Neighbor S) : Bool := Scalar.lt found.squaredDistance Scalar.top

/-- What is held of nodes that were offered, next to the nearest of them: in order, and with that one in
front if it is near enough. -/
structure Follows (k : Nat) (best : Option (Neighbor S)) (held : List (Neighbor S)) : Prop where
  head : held.head? = best.filter near
  bounded : ∀ found ∈ best, Scalar.le found.squaredDistance Scalar.top = true
  allNear : ∀ found ∈ held, found.near = true
  room : held.length ≤ k
  ascending : held.Pairwise fun first second => notFarther first second

variable [ComparableScalar S]

theorem le_of_near {found : Neighbor S} (isNear : found.near = true) :
    Scalar.le found.squaredDistance Scalar.top = true := by
  obtain ⟨number, top, below⟩ := ComparableScalar.lt_iff.mp isNear
  rcases ComparableScalar.le_total number top with le | ge
  · exact le
  · exact absurd ge (Bool.eq_false_iff.mp below)

theorem near_iff {found : Neighbor S} (bounded : Scalar.le found.squaredDistance Scalar.top = true) :
    found.near = true ↔ Scalar.le Scalar.top found.squaredDistance = false := by
  have number := ComparableScalar.isNumber_left bounded
  exact ComparableScalar.lt_iff.trans ⟨fun both => both.2.2, fun below =>
    ⟨number, ComparableScalar.isNumber_top, below⟩⟩

theorem offer_of_far {k : Nat} {held : List (Neighbor S)} (allNear : ∀ found ∈ held, found.near = true)
    {other : Neighbor S} (far : Scalar.le Scalar.top other.squaredDistance = true) : offer k held other = held := by
  have worstLe : Scalar.le (worst k held) Scalar.top = true := by
    unfold worst
    split
    next => exact ComparableScalar.isNumber_top
    next =>
      split
      next => exact ComparableScalar.isNumber_top
      next last isLast => exact le_of_near (allNear last (List.mem_of_getLast? isLast))
  rw [offer, if_pos (ComparableScalar.le_trans worstLe far)]

omit [ComparableScalar S] in
theorem head?_settle_cons (other first : Neighbor S) (rest : List (Neighbor S)) :
    (settle other (first :: rest)).head? = some (if notFarther first other then first else other) := by
  rw [settle]
  split
  next => rfl
  next => rfl

theorem keep_some_eq {held other : Neighbor S} (bounded : Scalar.le held.squaredDistance Scalar.top = true)
    (otherBounded : Scalar.le other.squaredDistance Scalar.top = true) :
    keep (some held) other = some (if notFarther held other then held else other) := by
  rw [keep, nearer]
  cases nearer : notFarther held other with
  | true =>
    have notLess : ¬Scalar.lt other.squaredDistance held.squaredDistance = true := fun less =>
      Bool.eq_false_iff.mp (ComparableScalar.lt_iff.mp less).2.2 nearer
    rw [if_neg notLess, if_pos rfl]
  | false =>
    have less : Scalar.lt other.squaredDistance held.squaredDistance = true := ComparableScalar.lt_iff.mpr
      ⟨ComparableScalar.isNumber_left otherBounded, ComparableScalar.isNumber_left bounded, nearer⟩
    rw [if_pos less, if_neg Bool.false_ne_true]

/-- One more node changes the first of those held in order as it changes the one that is held alone. -/
theorem head?_take_settle {k : Nat} (positive : 0 < k) {best : Option (Neighbor S)} {held : List (Neighbor S)}
    (follows : Follows k best held) {other : Neighbor S}
    (bounded : Scalar.le other.squaredDistance Scalar.top = true)
    (within : Scalar.le Scalar.top other.squaredDistance = false) :
    ((settle other held).take k).head? = (keep best other).filter near := by
  have otherNear := (near_iff bounded).mpr within
  rw [List.head?_take, if_neg (Nat.ne_of_gt positive)]
  cases held with
  | nil =>
    -- Whatever is held alone is beyond the bound, and gives way to the node.
    have taken : keep best other = some other := by
      cases best with
      | none => rfl
      | some first =>
        have firstBounded := follows.bounded first rfl
        have farther : notFarther first other = false := by
          apply Bool.eq_false_iff.mpr
          intro nearer
          have firstNear := (near_iff firstBounded).mpr (Bool.eq_false_iff.mpr fun beyond =>
            Bool.eq_false_iff.mp within (ComparableScalar.le_trans beyond nearer))
          have front := follows.head
          rw [Option.filter_some, if_pos firstNear] at front
          exact nomatch front
        rw [keep_some_eq firstBounded bounded, farther, if_neg Bool.false_ne_true]
    rw [taken, Option.filter_some, if_pos otherNear]
    rfl
  | cons first rest =>
    obtain ⟨rfl, firstNear⟩ := Option.filter_eq_some_iff.mp follows.head.symm
    have keptNear : (if notFarther first other then first else other).near = true := by
      split
      next => exact firstNear
      next => exact otherNear
    rw [head?_settle_cons, keep_some_eq (follows.bounded first rfl) bounded, Option.filter_some, if_pos keptNear]

omit [ComparableScalar S] in
theorem bounded_keep {best : Option (Neighbor S)}
    (bounded : ∀ found ∈ best, Scalar.le found.squaredDistance Scalar.top = true) {other : Neighbor S}
    (otherBounded : Scalar.le other.squaredDistance Scalar.top = true) :
    ∀ found ∈ keep best other, Scalar.le found.squaredDistance Scalar.top = true := by
  intro found member
  obtain rfl := Option.some.inj member
  unfold nearer
  split
  next => exact otherBounded
  next first =>
    split
    next => exact otherBounded
    next => exact bounded first rfl

section

variable {k : Nat} {best : Option (Neighbor S)} {held : List (Neighbor S)} {other : Neighbor S}

theorem Follows.offer_far (follows : Follows k best held)
    (bounded : Scalar.le other.squaredDistance Scalar.top = true)
    (beyond : Scalar.le Scalar.top other.squaredDistance = true) :
    Follows k (keep best other) (Neighbor.offer k held other) := by
  rw [Neighbor.offer_of_far follows.allNear beyond]
  refine ⟨?_, bounded_keep follows.bounded bounded, follows.allNear, follows.room, follows.ascending⟩
  rw [follows.head]
  cases best with
  | none =>
    have notNear : ¬other.near = true := fun isNear =>
      Bool.eq_false_iff.mp ((near_iff bounded).mp isNear) beyond
    exact (Option.filter_some.trans (if_neg notNear)).symm
  | some first =>
    have firstBounded := follows.bounded first rfl
    have nearer : notFarther first other = true := ComparableScalar.le_trans firstBounded beyond
    rw [keep_some_eq firstBounded bounded, if_pos nearer]

theorem Follows.offer_near (positive : 0 < k) (follows : Follows k best held)
    (bounded : Scalar.le other.squaredDistance Scalar.top = true)
    (within : Scalar.le Scalar.top other.squaredDistance = false) :
    Follows k (keep best other) (Neighbor.offer k held other) := by
  rw [offer_eq positive follows.room follows.ascending within]
  refine ⟨head?_take_settle positive follows bounded within, bounded_keep follows.bounded bounded, ?_,
    List.length_take_le k _, ?_⟩
  · intro found member
    rcases mem_settle.mp (List.mem_of_mem_take member) with rfl | inHeld
    · exact (near_iff bounded).mpr within
    · exact follows.allNear found inHeld
  · have number := ComparableScalar.isNumber_left bounded
    refine (pairwise_settle follows.ascending follows.ascending (fun _ _ nearer => nearer) ?_).sublist
      (List.take_sublist k _)
    intro found member farther
    have heldNumber := ComparableScalar.isNumber_left (le_of_near (follows.allNear found member))
    exact (ComparableScalar.le_total heldNumber number).resolve_left (Bool.eq_false_iff.mp farther)

/-- Whatever node is offered next, the nearest one stays in front. -/
theorem Follows.offer (positive : 0 < k) (follows : Follows k best held)
    (bounded : Scalar.le other.squaredDistance Scalar.top = true) :
    Follows k (keep best other) (Neighbor.offer k held other) := by
  cases beyond : Scalar.le Scalar.top other.squaredDistance with
  | true => exact follows.offer_far bounded beyond
  | false => exact follows.offer_near positive bounded beyond

end

theorem head?_foldl_offer {k : Nat} (positive : 0 < k) {visited : List (Neighbor S)}
    (below : ∀ found ∈ visited, Scalar.le found.squaredDistance Scalar.top = true) :
    (visited.foldl (offer k) []).head? = (visited.foldl keep none).filter near := by
  have each : ∀ (best : Option (Neighbor S)) held, Follows k best held →
      Follows k (visited.foldl keep best) (visited.foldl (offer k) held) := by
    induction visited with
    | nil => exact fun _ _ follows => follows
    | cons first rest ih =>
      intro best held follows
      apply ih fun found member => below found (List.mem_cons_of_mem _ member)
      exact follows.offer positive (below first List.mem_cons_self)
  exact (each none [] ⟨rfl, nofun, nofun, Nat.zero_le k, .nil⟩).head

end Neighbor

namespace KNearestSearch

variable {γ : Type} {N : Nat} [Cell γ] [Stored (KdNode Double N) γ] [LawfulStored (KdNode Double N)]

/-- Over a tree with finite coordinates that was built, and then rebuilt and marked in whatever way, and
whatever was searched for before: the first of the `k` nodes that are found for a finite query is the nearest
one, unless that is infinitely far, and then none is found. The nearest one is missing only if no node may be
reported. -/
theorem head?_found {tree : KdTree γ Double N} (reached : tree.Reached) (room : N ≤ KdNode.dimensions) {k : Nat}
    (positive : 0 < k) {validOnly : Bool} {start : KNearestSearch γ Double N}
    (made : make tree k validOnly = .ok start) (earlier : List (Point Double N))
    (last : Option (Neighbor Double)) {query : Point Double N}
    (finite : ∀ slot < tree.len, (tree.view slot).position.IsFinite) (queryFinite : query.IsFinite) :
    ((earlier.foldl search start).search query).found.head? =
      (NearestSearch.search ⟨tree, validOnly, last⟩ query).best.filter Neighbor.near ∧
    ((NearestSearch.search ⟨tree, validOnly, last⟩ query).best = none ↔
      ∀ slot < tree.len, (tree.view slot).eligible validOnly = false) := by
  have tended := reached.tended
  have sound := tended.sound
  have all := KdTree.visit_outline_perm sound validOnly query
  have records : ∀ record ∈ tree.outline.records, record.position.IsFinite := by
    rw [sound.bears.records, sound.records_eq]
    intro record member
    obtain ⟨slot, inside, rfl⟩ := List.mem_map.mp member
    exact finite slot (List.mem_range.mp inside)
  have shields := (tended.sorted inferInstance room).shields (fun record member other inside =>
    KdNode.shields_of_finite (records record member) queryFinite (records other inside)) validOnly
  have numbers : ∀ found ∈ tree.outline.visit validOnly query, Scalar.IsNumber found.squaredDistance := by
    intro found member
    obtain ⟨record, inside, distance⟩ := Branch.of_mem_visit member
    exact distance ▸ (Point.squaredDistance_spec (records record inside) queryFinite).1
  have below : ∀ found ∈ tree.outline.visit validOnly query,
      Scalar.le found.squaredDistance Scalar.top = true := by
    intro found member
    have number := numbers found member
    exact Double.le_iff.mpr ⟨number, ComparableScalar.isNumber_top, Double.place_le number⟩
  have best : (NearestSearch.search ⟨tree, validOnly, last⟩ query).best =
      (tree.outline.visit validOnly query).foldl Neighbor.keep none :=
    KdTree.nearest_eq_foldl_of_shields sound shields numbers
  obtain rfl := make_eq_ok made
  obtain ⟨left, same⟩ := search_keeps earlier { tree, k, validOnly }
  rw [same, found_eq_foldl positive shields numbers, best]
  refine ⟨Neighbor.head?_foldl_offer positive below, ?_⟩
  rw [Neighbor.foldl_keep_none, ← KdTree.eligible_eq_nil, ← List.length_eq_zero_iff, all.length_eq,
    List.length_eq_zero_iff]

/-- A node infinitely far away, at the top of one that is not, is neither the nearest nor held, though there
is room for it. -/
theorem head?_found_beside_far :
    ∃ (tree : KdTree UInt8 Double 1) (start : KNearestSearch UInt8 Double 1), tree.Reached ∧
      (1 ≤ KdNode.dimensions ∧ 0 < 2) ∧ make tree 2 false = .ok start ∧
      (∀ slot < tree.len, (tree.view slot).position.IsFinite) ∧ Point.IsFinite #v[(⟨0⟩ : Double)] ∧
      ([#v[⟨0⟩]].foldl search start |>.search #v[⟨0⟩]).found = [⟨0, 1, ⟨0x3ff0000000000000⟩⟩] ∧
      ([#v[⟨0⟩]].foldl search start |>.search #v[⟨0⟩]).found.head? =
        (NearestSearch.search ⟨tree, false, none⟩ #v[⟨0⟩]).best.filter Neighbor.near := by
  obtain ⟨tree, reached, good⟩ := KdTree.exists_overPoints UInt8 UInt8
    [#v[(⟨0x6974e718d7d7625a⟩ : Double)], #v[⟨0x3ff0000000000000⟩]]
    (fun tree => decide ((∀ slot ∈ List.range tree.len, ((tree.view slot).position.coordinate 0).isFinite = true) ∧
      ([#v[⟨0⟩]].foldl search { tree, k := 2 } |>.search #v[⟨0⟩]).found = [⟨0, 1, ⟨0x3ff0000000000000⟩⟩]))
    (by decide +kernel)
  obtain ⟨coordinates, first⟩ := of_decide_eq_true good
  have fits : 1 ≤ KdNode.dimensions ∧ 0 < 2 := by decide
  have made : make tree 2 false = .ok { tree, k := 2 } := rfl
  have finite : ∀ slot < tree.len, (tree.view slot).position.IsFinite := by
    intro slot inside dimension within
    obtain rfl := Nat.lt_one_iff.mp within
    exact coordinates slot (List.mem_range.mpr inside)
  have queryFinite : Point.IsFinite #v[(⟨0⟩ : Double)] := by
    intro dimension within
    obtain rfl := Nat.lt_one_iff.mp within
    decide
  exact ⟨tree, _, reached, fits, made, finite, queryFinite, first,
    (head?_found reached fits.1 fits.2 made [#v[⟨0⟩]] none finite queryFinite).1⟩

/-- The only node is infinitely far away: it is the nearest, but it is not among the nearest ones. -/
theorem nearest_but_not_found :
    ∃ (tree : KdTree UInt8 Double 1) (start : KNearestSearch UInt8 Double 1), tree.Reached ∧
      make tree 1 false = .ok start ∧ (∀ slot < tree.len, (tree.view slot).position.IsFinite) ∧
      Point.IsFinite #v[(⟨0⟩ : Double)] ∧
      (NearestSearch.search ⟨tree, false, none⟩ #v[⟨0⟩]).best = some ⟨0, 0, Scalar.top⟩ ∧
      (start.search #v[⟨0⟩]).found = [] := by
  obtain ⟨tree, reached, good⟩ := KdTree.exists_overPoints UInt8 UInt8 [#v[(⟨0x6974e718d7d7625a⟩ : Double)]]
    (fun tree => decide ((∀ slot ∈ List.range tree.len, ((tree.view slot).position.coordinate 0).isFinite = true) ∧
      (NearestSearch.search ⟨tree, false, none⟩ #v[⟨0⟩]).best = some ⟨0, 0, Scalar.top⟩ ∧
      (search { tree, k := 1 } #v[⟨0⟩]).found = []))
    (by decide +kernel)
  obtain ⟨coordinates, best, found⟩ := of_decide_eq_true good
  refine ⟨tree, { tree, k := 1 }, reached, rfl, ?_, ?_, best, found⟩
  · intro slot inside dimension within
    obtain rfl := Nat.lt_one_iff.mp within
    exact coordinates slot (List.mem_range.mpr inside)
  · intro dimension within
    obtain rfl := Nat.lt_one_iff.mp within
    decide

end KNearestSearch

end SpatialStore
