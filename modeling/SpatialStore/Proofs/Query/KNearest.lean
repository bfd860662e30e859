import SpatialStore.Proofs.Query.Order
import SpatialStore.Proofs.Query.Visit
import SpatialStore.Proofs.Tree.Reached
import SpatialStore.Query.KNearest

/-! The `k` nearest nodes. A search holds the first `k` of those that it came by, in order, and what it
leaves out would not have been among them. -/

namespace SpatialStore

/-! ### Finding a place -/

section

variable {before : Nat → Bool} {cut total : Nat}

theorem bisect_eq (splits : ∀ index < total, before index = decide (index < cut)) {base size : Nat}
    (some : 0 < size) (within : base + size ≤ total) (low : base ≤ cut - 1) (high : cut ≤ base + size) :
    bisect before base size = cut - 1 := by
  induction base, size using bisect.induct before with
  | case1 base size larger half ih =>
    have middle : before (base + half) = decide (base + half < cut) := splits _ (by omega)
    rw [bisect, if_pos larger]
    change bisect before (if before (base + half) then base + half else base) (size - half) = _
    simp only [dite_eq_ite, middle, decide_eq_true_eq] at ih ⊢
    by_cases above : base + half < cut
    · rw [if_pos above] at ih ⊢
      exact ih (by omega) (by omega) (by omega) (by omega)
    · rw [if_neg above] at ih ⊢
      exact ih (by omega) (by omega) low (by omega)
  | case2 base size single =>
    rw [bisect, if_neg single]
    omega

theorem boundary_eq (splits : ∀ index < total, before index = decide (index < cut)) (within : cut ≤ total) :
    boundary before total = cut := by
  unfold boundary
  split
  next => omega
  next some =>
    have base := bisect_eq splits (by omega) (Nat.le_of_eq (Nat.zero_add total)) (Nat.zero_le _) (by omega)
    simp only [base]
    rw [splits _ (by omega)]
    by_cases positive : 0 < cut
    · rw [if_pos (by simp only [decide_eq_true_eq]; omega)]
      omega
    · rw [if_neg (by simp only [decide_eq_true_eq]; omega)]
      omega

end

namespace Neighbor

section

variable {S : Type} [Scalar S]

theorem insertIdx_takeWhile (other : Neighbor S) (found : List (Neighbor S)) :
    found.insertIdx (found.takeWhile (notFarther · other)).length other = settle other found := by
  induction found with
  | nil => rfl
  | cons first rest ih =>
    rw [settle]
    split
    next nearer =>
      rw [List.takeWhile_cons_of_pos (p := (notFarther · other)) nearer, List.length_cons,
        List.insertIdx_succ_cons, ih]
    next farther =>
      rw [List.takeWhile_cons_of_neg (p := (notFarther · other)) farther, List.length_nil, List.insertIdx_zero]

theorem settle_eq_concat {other : Neighbor S} {found : List (Neighbor S)}
    (nearer : ∀ held ∈ found, notFarther held other = true) : settle other found = found ++ [other] := by
  induction found with
  | nil => rfl
  | cons first rest ih =>
    rw [settle, if_pos (nearer first List.mem_cons_self), ih, List.cons_append]
    intro held member
    exact nearer held (List.mem_cons_of_mem _ member)

omit [Scalar S] in
theorem take_insertIdx {place count : Nat} (within : place ≤ count) (other : Neighbor S)
    (found : List (Neighbor S)) :
    (found.insertIdx place other).take (count + 1) = (found.take count).insertIdx place other := by
  induction found generalizing place count with
  | nil =>
    cases place with
    | zero => rw [List.insertIdx_zero, List.take_nil, List.insertIdx_zero, List.take_succ_cons, List.take_nil]
    | succ place => rw [List.insertIdx_succ_nil, List.take_nil, List.take_nil, List.insertIdx_succ_nil]
  | cons first rest ih =>
    cases place with
    | zero => rw [List.insertIdx_zero, List.insertIdx_zero, List.take_succ_cons]
    | succ place =>
      obtain ⟨count, rfl⟩ : ∃ fewer, count = fewer + 1 := ⟨count - 1, by omega⟩
      rw [List.insertIdx_succ_cons, List.take_succ_cons, List.take_succ_cons, List.insertIdx_succ_cons,
        ih (Nat.le_of_succ_le_succ within)]

end

/-! ### Holding another node -/

section

variable {S : Type} [Scalar S] [ComparableScalar S] {found : List (Neighbor S)} {other : Neighbor S}

theorem notFarther_iff_lt_length_takeWhile
    (ascending : found.Pairwise fun first second => notFarther first second) {index : Nat}
    {held : Neighbor S} (here : found[index]? = some held) :
    notFarther held other = true ↔ index < (found.takeWhile (notFarther · other)).length := by
  induction found generalizing index with
  | nil => exact nomatch here
  | cons first rest ih =>
    obtain ⟨firstLe, restAscending⟩ := List.pairwise_cons.mp ascending
    by_cases nearer : notFarther first other = true
    · rw [List.takeWhile_cons_of_pos (p := (notFarther · other)) nearer, List.length_cons]
      cases index with
      | zero =>
        obtain rfl := Option.some.inj here
        exact ⟨fun _ => Nat.succ_pos _, fun _ => nearer⟩
      | succ index =>
        rw [Nat.succ_lt_succ_iff]
        exact ih restAscending here
    · rw [List.takeWhile_cons_of_neg (p := (notFarther · other)) nearer]
      refine ⟨?_, fun inside => absurd inside (Nat.not_lt_zero _)⟩
      intro heldNearer
      rcases List.mem_cons.mp (List.mem_of_getElem? here) with rfl | inRest
      · exact absurd heldNearer nearer
      · exact absurd (notFarther_trans _ _ _ (firstLe held inRest) heldNearer) nearer

theorem place_eq (ascending : found.Pairwise fun first second => notFarther first second)
    (other : Neighbor S) : place found other = (found.takeWhile (notFarther · other)).length := by
  apply boundary_eq
  · intro index inside
    have here := List.getElem?_eq_getElem inside
    simp only [here]
    exact Bool.eq_iff_iff.mpr ((notFarther_iff_lt_length_takeWhile ascending here).trans decide_eq_true_iff.symm)
  · exact (List.takeWhile_prefix _).length_le

theorem offer_of_short {k : Nat} (short : found.length < k)
    (ascending : found.Pairwise fun first second => notFarther first second)
    (below : Scalar.le Scalar.top other.squaredDistance = false) :
    offer k found other = settle other found := by
  rw [offer, worst, if_pos short, if_neg (Bool.eq_false_iff.mp below), if_neg (Nat.ne_of_lt short), place_eq ascending,
    insertIdx_takeWhile]

theorem offer_of_full {rest : List (Neighbor S)} {last : Neighbor S}
    (ascending : (rest ++ [last]).Pairwise fun first second => notFarther first second)
    (other : Neighbor S) :
    offer (rest.length + 1) (rest ++ [last]) other = (settle other (rest ++ [last])).take (rest.length + 1) := by
  have full : (rest ++ [last]).length = rest.length + 1 := by
    rw [List.length_append, List.length_singleton]
  have noRoom : ¬(rest ++ [last]).length < rest.length + 1 := Nat.not_lt.mpr (Nat.le_of_eq full.symm)
  rw [offer, worst, if_neg noRoom, List.getLast?_concat]
  change (if notFarther last other = true then _ else _) = _
  by_cases farther : notFarther last other = true
  · have nearer : ∀ held ∈ rest ++ [last], notFarther held other = true := by
      intro held member
      rcases List.mem_append.mp member with inRest | isLast
      · have near := (List.pairwise_append.mp ascending).2.2 held inRest last (List.mem_singleton_self last)
        exact notFarther_trans _ _ _ near farther
      · rw [List.mem_singleton.mp isLast]
        exact farther
    rw [if_pos farther, settle_eq_concat nearer, List.take_left' full]
  · have atEnd : (rest ++ [last])[rest.length]? = some last := List.getElem?_concat_length
    have within := mt (notFarther_iff_lt_length_takeWhile ascending atEnd).mpr farther
    rw [if_neg farther, if_pos full, List.dropLast_concat, place_eq ascending, ← insertIdx_takeWhile,
      take_insertIdx (Nat.le_of_not_lt within), List.take_left]

/-- Offering a node to an ascending list settles it there and lets go what is more than `k`. -/
theorem offer_eq {k : Nat} (positive : 0 < k) (room : found.length ≤ k)
    (ascending : found.Pairwise fun first second => notFarther first second)
    (below : Scalar.le Scalar.top other.squaredDistance = false) :
    offer k found other = (settle other found).take k := by
  rcases Nat.lt_or_eq_of_le room with short | full
  · rw [offer_of_short short ascending below, List.take_of_length_le]
    rw [length_settle]
    exact short
  · subst full
    rcases List.eq_nil_or_concat found with rfl | ⟨rest, last, split⟩
    · exact absurd rfl (Nat.ne_of_gt positive)
    · rw [List.concat_eq_append] at split
      subst split
      rw [List.length_append, List.length_singleton]
      exact offer_of_full ascending other

/-- Distances that are numbers stay numbers, and so does the one that is to stay below. -/
theorem offer_spares (k : Nat) :
    Branch.Spares (fun held : List (Neighbor S) => ∀ found ∈ held, Scalar.IsNumber found.squaredDistance)
      (offer k) fun held squared => Scalar.lt squared (worst k held) where
  sane_hold held other good number := by
    unfold offer
    split
    next => exact good
    next =>
      intro found member
      rcases List.eq_or_mem_of_mem_insertIdx member with rfl | inHeld
      · exact number
      · split at inHeld
        next => exact good found (List.dropLast_subset _ inHeld)
        next => exact good found inHeld
  hold_eq held squared other good worthless far := by
    have worstNumber : Scalar.IsNumber (worst k held) := by
      unfold worst
      split
      next => exact ComparableScalar.isNumber_top
      next =>
        split
        next => exact ComparableScalar.isNumber_top
        next last isLast => exact good last (List.mem_of_getLast? isLast)
    have below : Scalar.le (worst k held) squared = true := by
      by_contra above
      exact Bool.eq_false_iff.mp worthless (ComparableScalar.lt_iff.mpr
        ⟨ComparableScalar.isNumber_left far, worstNumber, Bool.eq_false_iff.mpr above⟩)
    rw [offer, if_pos (ComparableScalar.le_trans below far)]

end

section

variable {S : Type} [CommRing S] [LinearOrder S] [Scalar S] [ExactScalar S]

theorem foldl_offer {k : Nat} (positive : 0 < k) {visited : List (Neighbor S)}
    (below : ∀ found ∈ visited, found.squaredDistance < Scalar.top) :
    visited.foldl (offer k) [] = (visited.mergeSort notFarther).take k := by
  -- From the end, since it is the last node that is settled among those before it.
  induction visited using List.reverseRecOn with
  | nil => rw [List.foldl_nil, List.mergeSort_nil, List.take_nil]
  | append_singleton rest last ih =>
    have belowRest : ∀ found ∈ rest, found.squaredDistance < Scalar.top := by
      intro found member
      exact below found (List.mem_append_left _ member)
    have belowLast : Scalar.le Scalar.top last.squaredDistance = false := by
      rw [ExactScalar.le_eq, decide_eq_false_iff_not]
      exact not_le_of_gt (below last (List.mem_append_right _ (List.mem_singleton_self last)))
    have ascending := (List.pairwise_mergeSort notFarther_trans notFarther_total rest).sublist
      (List.take_sublist k _)
    rw [List.foldl_append, ih belowRest, List.foldl_cons, List.foldl_nil,
      offer_eq positive (List.length_take_le k _) ascending belowLast, take_settle, mergeSort_concat]

end

end Neighbor

/-! ### Searching -/

theorem Branch.kNearest_eq_descend {S : Type} {N : Nat} [Scalar S] (k : Nat) (validOnly : Bool)
    (query : Point S N) (branch : Branch S N) (found : List (Neighbor S)) :
    branch.kNearest k validOnly query found =
      branch.descend (Neighbor.offer k) (fun held squared => Scalar.lt squared (Neighbor.worst k held))
        validOnly query found := by
  induction branch generalizing found with
  | nil => rfl
  | node slot record left right leftIh rightIh => simp only [kNearest, descend, leftIh, rightIh]

namespace KNearestSearch

section

variable {γ S : Type} {N : Nat} [Scalar S] [Cell γ] [Stored (KdNode S N) γ]

theorem search_keeps (earlier : List (Point S N)) (state : KNearestSearch γ S N) :
    ∃ found, earlier.foldl search state = { state with found } := by
  induction earlier generalizing state with
  | nil => exact ⟨state.found, rfl⟩
  | cons first rest ih => exact ih (state.search first)

omit [Scalar S] [Cell γ] [Stored (KdNode S N) γ] in
theorem make_eq_ok {tree : KdTree γ S N} {k : Nat} {validOnly : Bool} {start : KNearestSearch γ S N}
    (made : make tree k validOnly = .ok start) : start = { tree, k, validOnly } := by
  unfold make at made
  cases sized : Size.buffer (k * entryWidth) with
  | error fault =>
    rw [sized] at made
    exact nomatch made
  | ok size =>
    rw [sized] at made
    exact (Except.ok.inj made).symm

end

/-- Where planes shield what is behind them, a search finds what offering all nodes in the same order finds. -/
theorem found_eq_foldl {γ S : Type} {N : Nat} [Scalar S] [ComparableScalar S] [Cell γ] [Stored (KdNode S N) γ]
    {state : KNearestSearch γ S N} (positive : 0 < state.k) {query : Point S N}
    (shields : state.tree.outline.Shields state.validOnly query)
    (numbers : ∀ found ∈ state.tree.outline.visit state.validOnly query,
      Scalar.IsNumber found.squaredDistance) :
    (state.search query).found =
      (state.tree.outline.visit state.validOnly query).foldl (Neighbor.offer state.k) [] := by
  unfold search
  simp only
  rw [if_neg (Nat.ne_of_gt positive), Branch.kNearest_eq_descend,
    Branch.descend_eq_foldl (Neighbor.offer_spares state.k) _ _ shields numbers (List.forall_mem_nil _)]

variable {γ S : Type} {N : Nat} [CommRing S] [LinearOrder S] [IsStrictOrderedRing S] [Scalar S] [ExactScalar S]
  [Cell γ] [Stored (KdNode S N) γ]

/-- A search finds the first `k` of what a search of all nodes in the same order comes by. -/
theorem found_eq_take {state : KNearestSearch γ S N} (sorted : state.tree.outline.Sorted)
    {query : Point S N}
    (below : ∀ found ∈ state.tree.outline.visit state.validOnly query, found.squaredDistance < Scalar.top) :
    (state.search query).found =
      ((state.tree.outline.visit state.validOnly query).mergeSort Neighbor.notFarther).take state.k := by
  rcases Nat.eq_zero_or_pos state.k with none | positive
  · rw [none, List.take_zero, search]
    exact if_pos none
  · have shields := sorted.shields (fun record _ other _ => record.shields query other.position) state.validOnly
    rw [found_eq_foldl positive shields fun _ _ => Scalar.isNumber_exact _, Neighbor.foldl_offer positive below]

variable [LawfulStored (KdNode S N)]

/-- Whatever was searched for before, a search over a tree that was built, and then rebuilt and marked in
whatever way, finds the first `k` nodes when all that may be reported are sorted by distance, those equally
far in the order in which a search would come by all of them. -/
theorem found_search {tree : KdTree γ S N} (reached : tree.Reached) (room : N ≤ KdNode.dimensions) {k : Nat}
    {validOnly : Bool} {start : KNearestSearch γ S N} (made : make tree k validOnly = .ok start)
    (earlier : List (Point S N)) (query : Point S N)
    (below : ∀ found ∈ tree.eligible validOnly query, found.squaredDistance < Scalar.top) :
    ((earlier.foldl search start).search query).found =
      ((tree.outline.visit validOnly query).mergeSort Neighbor.notFarther).take k ∧
    (tree.outline.visit validOnly query).Perm (tree.eligible validOnly query) ∧
    ((earlier.foldl search start).search query).found.length = min k (tree.eligible validOnly query).length ∧
    (((earlier.foldl search start).search query).found.map Neighbor.node).Nodup ∧
    ((earlier.foldl search start).search query).found.Pairwise
      (Neighbor.Precedes (tree.outline.visit validOnly query)) := by
  have tended := reached.tended
  have all := KdTree.visit_outline_perm tended.sound validOnly query
  have found : ((earlier.foldl search start).search query).found =
      ((tree.outline.visit validOnly query).mergeSort Neighbor.notFarther).take k := by
    obtain rfl := make_eq_ok made
    obtain ⟨left, same⟩ := search_keeps earlier { tree, k, validOnly }
    rw [same]
    apply found_eq_take (tended.sorted inferInstance room)
    intro other member
    exact below other (all.mem_iff.mp member)
  rw [found]
  refine ⟨rfl, all, ?_, ?_, ?_⟩
  · rw [List.length_take, List.length_mergeSort, all.length_eq]
  · have sorted := (List.mergeSort_perm (tree.outline.visit validOnly query) Neighbor.notFarther).trans all
    have distinct := (sorted.map Neighbor.node).nodup_iff.mpr (KdTree.nodup_eligible _ _ query)
    exact distinct.sublist ((List.take_sublist k _).map _)
  · exact (Neighbor.pairwise_mergeSort _).sublist (List.take_sublist k _)

theorem found_of_two :
    ∃ (tree : KdTree (KdNode ℚ 1) ℚ 1) (start : KNearestSearch (KdNode ℚ 1) ℚ 1), tree.Reached ∧
      1 ≤ KdNode.dimensions ∧ make tree 1 false = .ok start ∧
      (∀ found ∈ tree.eligible false #v[1], found.squaredDistance < Scalar.top) ∧
      ([#v[5]].foldl search start |>.search #v[1]).found = [⟨1, 1, 1⟩] ∧
      ([#v[5]].foldl search start |>.search #v[1]).found =
        ((tree.outline.visit false #v[1]).mergeSort Neighbor.notFarther).take 1 := by
  obtain ⟨tree, reached, good⟩ := KdTree.exists_ofPoints [#v[(0 : ℚ)], #v[2]]
    (fun tree =>
      (∀ found ∈ tree.eligible false #v[1], found.squaredDistance < Scalar.top) ∧
        ([#v[5]].foldl search { tree, k := 1 } |>.search #v[1]).found = [⟨1, 1, 1⟩])
    (by decide +kernel)
  obtain ⟨below, first⟩ := of_decide_eq_true good
  have fits : 1 ≤ KdNode.dimensions := by decide
  have made : make tree 1 false = .ok { tree, k := 1 } := rfl
  exact ⟨tree, _, reached, fits, made, below, first, (found_search reached fits made [#v[5]] #v[1] below).1⟩

end KNearestSearch

end SpatialStore
