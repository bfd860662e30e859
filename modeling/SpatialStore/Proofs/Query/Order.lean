import Mathlib.Data.List.Induction
import Mathlib.Data.List.Sort
import SpatialStore.Proofs.Number.Exact
import SpatialStore.Query.Neighbor

/-! Nodes in order of their distances, those equally far in the order in which a search came by them.
Sorting them all at the end gives the same as settling them one after the other. -/

namespace SpatialStore.Neighbor

section

variable {S : Type} [Scalar S]

def notFarther (first second : Neighbor S) : Bool :=
  Scalar.le first.squaredDistance second.squaredDistance

/-- Puts a node after all those that are not farther. -/
def settle (other : Neighbor S) : List (Neighbor S) → List (Neighbor S)
  | [] => [other]
  | first :: rest => if notFarther first other then first :: settle other rest else other :: first :: rest

theorem mem_settle {other found : Neighbor S} {settled : List (Neighbor S)} :
    found ∈ settle other settled ↔ found = other ∨ found ∈ settled := by
  induction settled with
  | nil => simp [settle]
  | cons first rest ih =>
    rw [settle]
    split
    next => rw [List.mem_cons, ih, List.mem_cons, or_left_comm]
    next => rw [List.mem_cons]

theorem length_settle (other : Neighbor S) (settled : List (Neighbor S)) :
    (settle other settled).length = settled.length + 1 := by
  induction settled with
  | nil => rfl
  | cons first rest ih =>
    rw [settle]
    split
    next => rw [List.length_cons, ih, List.length_cons]
    next => rfl

/-- Of several nodes to be settled among, the last ones do not matter for the first ones. -/
theorem take_settle (count : Nat) (other : Neighbor S) (settled : List (Neighbor S)) :
    (settle other (settled.take count)).take count = (settle other settled).take count := by
  induction settled generalizing count with
  | nil => rw [List.take_nil]
  | cons first rest ih =>
    cases count with
    | zero => rw [List.take_zero, List.take_zero]
    | succ count =>
      rw [List.take_succ_cons, settle, settle]
      split
      next => rw [List.take_succ_cons, List.take_succ_cons, ih]
      next =>
        rw [List.take_succ_cons, List.take_succ_cons]
        cases count with
        | zero => rw [List.take_zero, List.take_zero]
        | succ count => rw [List.take_succ_cons, List.take_succ_cons, List.take_take, Nat.min_eq_left (Nat.le_succ _)]

variable [ComparableScalar S]

theorem notFarther_trans (first second third : Neighbor S) (near : notFarther first second = true)
    (far : notFarther second third = true) : notFarther first third = true :=
  ComparableScalar.le_trans near far

theorem pairwise_settle {before : Neighbor S → Neighbor S → Prop} {other : Neighbor S}
    {settled : List (Neighbor S)} (ascending : settled.Pairwise fun first second => notFarther first second)
    (holds : settled.Pairwise before)
    (near : ∀ found ∈ settled, notFarther found other = true → before found other)
    (far : ∀ found ∈ settled, notFarther found other = false → before other found) :
    (settle other settled).Pairwise before := by
  induction settled with
  | nil => exact List.pairwise_singleton _ _
  | cons first rest ih =>
    obtain ⟨firstLe, restAscending⟩ := List.pairwise_cons.mp ascending
    obtain ⟨firstBefore, restHolds⟩ := List.pairwise_cons.mp holds
    rw [settle]
    split
    next nearer =>
      apply List.pairwise_cons.mpr
      constructor
      · intro found member
        rcases mem_settle.mp member with rfl | inRest
        · exact near first List.mem_cons_self nearer
        · exact firstBefore found inRest
      · apply ih restAscending restHolds
        · intro found member
          exact near found (List.mem_cons_of_mem _ member)
        · intro found member
          exact far found (List.mem_cons_of_mem _ member)
    next farther =>
      apply List.pairwise_cons.mpr
      refine ⟨?_, holds⟩
      intro found member
      apply far found member
      apply Bool.eq_false_iff.mpr
      intro nearer
      rcases List.mem_cons.mp member with rfl | inRest
      · exact farther nearer
      · exact farther (notFarther_trans _ _ _ (firstLe found inRest) nearer)

end

variable {S : Type} [CommRing S] [LinearOrder S] [Scalar S] [ExactScalar S]

theorem notFarther_iff {first second : Neighbor S} :
    notFarther first second = true ↔ first.squaredDistance ≤ second.squaredDistance := by
  rw [notFarther, ExactScalar.le_eq, decide_eq_true_eq]

theorem notFarther_total (first second : Neighbor S) :
    (notFarther first second || notFarther second first) = true := by
  rw [Bool.or_eq_true, notFarther_iff, notFarther_iff]
  exact le_total _ _

/-! ### Sorting -/

theorem mergeSort_cons (first : Neighbor S) (rest : List (Neighbor S)) :
    (first :: rest).mergeSort notFarther =
      (rest.mergeSort notFarther).orderedInsert (fun first second => notFarther first second = true) first := by
  obtain ⟨nearer, others, whole, without, strict⟩ :=
    List.mergeSort_cons notFarther_trans notFarther_total first rest
  have ascending := List.pairwise_mergeSort notFarther_trans notFarther_total (first :: rest)
  rw [whole] at ascending
  rw [whole, without]
  clear whole without
  induction nearer with
  | nil =>
    have farther := (List.pairwise_cons.mp ascending).1
    cases others with
    | nil => rfl
    | cons second others =>
      rw [List.nil_append, List.nil_append, List.orderedInsert_cons,
        if_pos (farther second List.mem_cons_self)]
  | cons head nearer ih =>
    have skipped := Bool.not_eq_true' _ ▸ strict head List.mem_cons_self
    rw [List.cons_append, List.cons_append, List.orderedInsert_cons, if_neg (Bool.eq_false_iff.mp skipped)]
    congr 1
    apply ih
    · intro other member
      exact strict other (List.mem_cons_of_mem _ member)
    · exact (List.pairwise_cons.mp ascending).2

theorem orderedInsert_settle (first last : Neighbor S) (settled : List (Neighbor S)) :
    (settle last settled).orderedInsert (fun first second => notFarther first second = true) first =
      settle last (settled.orderedInsert (fun first second => notFarther first second = true) first) := by
  induction settled with
  | nil =>
    rw [settle, List.orderedInsert_cons, List.orderedInsert_nil, settle, settle]
  | cons head rest ih =>
    by_cases headFirst : notFarther head last = true
    · rw [settle, if_pos headFirst, List.orderedInsert_cons, List.orderedInsert_cons]
      by_cases early : notFarther first head = true
      · have earlier := notFarther_trans _ _ _ early headFirst
        rw [if_pos early, if_pos early, settle, if_pos earlier, settle, if_pos headFirst]
      · rw [if_neg early, if_neg early, ih, settle, if_pos headFirst]
    · rw [settle, if_neg headFirst, List.orderedInsert_cons, List.orderedInsert_cons]
      by_cases early : notFarther first last = true
      · have lastFirst := (Bool.or_eq_true_iff.mp (notFarther_total head last)).resolve_left headFirst
        have earlier := notFarther_trans _ _ _ early lastFirst
        rw [if_pos early, if_pos earlier, settle, if_pos early, settle, if_neg headFirst]
      · rw [if_neg early]
        by_cases earlier : notFarther first head = true
        · rw [if_pos earlier, settle, if_neg early]
        · rw [if_neg earlier, settle, if_neg headFirst]

/-- The last node comes after all that are not farther. -/
theorem mergeSort_concat (visited : List (Neighbor S)) (last : Neighbor S) :
    (visited ++ [last]).mergeSort notFarther = settle last (visited.mergeSort notFarther) := by
  induction visited with
  | nil => rw [List.nil_append, List.mergeSort_singleton, List.mergeSort_nil, settle]
  | cons first rest ih => rw [List.cons_append, mergeSort_cons, ih, orderedInsert_settle, ← mergeSort_cons]

/-- Not farther, and, if as far, come by before. -/
def Precedes (visited : List (Neighbor S)) (first second : Neighbor S) : Prop :=
  first.squaredDistance ≤ second.squaredDistance ∧
    (first.squaredDistance = second.squaredDistance → [first, second].Sublist visited)

theorem pairwise_mergeSort (visited : List (Neighbor S)) :
    (visited.mergeSort notFarther).Pairwise (Precedes visited) := by
  induction visited using List.reverseRecOn with
  | nil =>
    rw [List.mergeSort_nil]
    exact .nil
  | append_singleton rest last ih =>
    rw [mergeSort_concat]
    apply pairwise_settle (List.pairwise_mergeSort notFarther_trans notFarther_total rest)
    · apply ih.imp
      intro first second precedes
      refine ⟨precedes.1, ?_⟩
      intro same
      exact (precedes.2 same).trans (List.sublist_append_left rest [last])
    · intro found member nearer
      refine ⟨notFarther_iff.mp nearer, ?_⟩
      intro _
      have inRest := List.singleton_sublist.mpr (List.mem_mergeSort.mp member)
      exact inRest.append (List.Sublist.refl [last])
    · intro found _ farther
      have strictly := lt_of_not_ge (mt notFarther_iff.mpr (Bool.eq_false_iff.mp farther))
      exact ⟨le_of_lt strictly, fun same => absurd same (ne_of_lt strictly)⟩

end SpatialStore.Neighbor
