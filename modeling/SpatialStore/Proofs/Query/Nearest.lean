import SpatialStore.Proofs.Query.Visit
import SpatialStore.Proofs.Tree.Reached
import SpatialStore.Query.Nearest

/-! The nearest node. Leaving sides of splitting planes out does not change which node is found: it is the
first one, in the order of the search, than which none is nearer. -/

namespace SpatialStore

namespace Neighbor

variable {S : Type} [LinearOrder S]

/-- The first of several nodes than which none is nearer. -/
def FirstNearest (found : Neighbor S) (visited : List (Neighbor S)) : Prop :=
  ∃ before after, visited = before ++ found :: after ∧
    (∀ earlier ∈ before, found.squaredDistance < earlier.squaredDistance) ∧
    ∀ later ∈ after, found.squaredDistance ≤ later.squaredDistance

theorem FirstNearest.mem {found : Neighbor S} {visited : List (Neighbor S)}
    (first : FirstNearest found visited) : found ∈ visited := by
  obtain ⟨before, after, rfl, _⟩ := first
  exact List.mem_append_right _ List.mem_cons_self

theorem FirstNearest.le {found : Neighbor S} {visited : List (Neighbor S)}
    (first : FirstNearest found visited) {other : Neighbor S} (member : other ∈ visited) :
    found.squaredDistance ≤ other.squaredDistance := by
  obtain ⟨before, after, rfl, earlier, later⟩ := first
  rcases List.mem_append.mp member with inBefore | inRest
  · exact le_of_lt (earlier other inBefore)
  · rcases List.mem_cons.mp inRest with rfl | inAfter
    · exact le_refl _
    · exact later other inAfter

theorem FirstNearest.cons {held found : Neighbor S} {rest : List (Neighbor S)}
    (first : FirstNearest found rest) (below : found.squaredDistance < held.squaredDistance) :
    FirstNearest found (held :: rest) := by
  obtain ⟨before, after, rfl, earlier, later⟩ := first
  refine ⟨held :: before, after, rfl, ?_, later⟩
  intro other member
  rcases List.mem_cons.mp member with rfl | inBefore
  · exact below
  · exact earlier other inBefore

theorem FirstNearest.insert {held next found : Neighbor S} {rest : List (Neighbor S)}
    (first : FirstNearest found (held :: rest)) (farther : held.squaredDistance ≤ next.squaredDistance) :
    FirstNearest found (held :: next :: rest) := by
  obtain ⟨before, after, split, earlier, later⟩ := first
  cases before with
  | nil =>
    obtain ⟨rfl, rfl⟩ := List.cons.inj split
    refine ⟨[], next :: rest, rfl, nofun, ?_⟩
    intro other member
    rcases List.mem_cons.mp member with rfl | inRest
    · exact farther
    · exact later other inRest
  | cons head before =>
    obtain ⟨rfl, rfl⟩ := List.cons.inj split
    have below := lt_of_lt_of_le (earlier held List.mem_cons_self) farther
    have rest : FirstNearest found (before ++ found :: after) := by
      refine ⟨before, after, rfl, ?_, later⟩
      intro other member
      exact earlier other (List.mem_cons_of_mem _ member)
    exact (rest.cons below).cons (earlier held List.mem_cons_self)

section

variable [Scalar S]

def keep (best : Option (Neighbor S)) (other : Neighbor S) : Option (Neighbor S) := some (nearer best other)

omit [LinearOrder S] in
theorem foldl_keep_some (held : Neighbor S) (others : List (Neighbor S)) :
    ∃ found, others.foldl keep (some held) = some found := by
  induction others generalizing held with
  | nil => exact ⟨held, rfl⟩
  | cons next rest ih => exact ih (nearer (some held) next)

omit [LinearOrder S] in
theorem foldl_keep_none {visited : List (Neighbor S)} :
    visited.foldl keep none = none ↔ visited = [] := by
  cases visited with
  | nil => exact ⟨fun _ => rfl, fun _ => rfl⟩
  | cons first rest =>
    obtain ⟨found, run⟩ := foldl_keep_some first rest
    constructor
    · intro nothing
      exact nomatch run.symm.trans nothing
    · exact nofun

omit [LinearOrder S] in
theorem keep_spares [ComparableScalar S] : Branch.Spares (S := S) (fun _ => True) keep mayImprove where
  sane_hold _ _ _ _ := trivial
  hold_eq best squared other _ worthless far := by
    cases best with
    | none => exact nomatch worthless
    | some held =>
      have nearer : Scalar.lt other.squaredDistance held.squaredDistance = false := by
        apply Bool.eq_false_iff.mpr
        intro less
        obtain ⟨number, heldNumber, notBelow⟩ := ComparableScalar.lt_iff.mp less
        have above : Scalar.le held.squaredDistance squared = false := by
          apply Bool.eq_false_iff.mpr
          intro le
          exact Bool.eq_false_iff.mp notBelow (ComparableScalar.le_trans le far)
        exact Bool.eq_false_iff.mp worthless
          (ComparableScalar.lt_iff.mpr ⟨ComparableScalar.isNumber_left far, heldNumber, above⟩)
      rw [keep, Neighbor.nearer, nearer, if_neg Bool.false_ne_true]

variable [CommRing S] [ExactScalar S]

theorem keep_some (held other : Neighbor S) :
    keep (some held) other =
      some (if other.squaredDistance < held.squaredDistance then other else held) := by
  simp only [keep, nearer, ExactScalar.lt_eq, decide_eq_true_eq]

theorem firstNearest_of_foldl {held found : Neighbor S} {others : List (Neighbor S)}
    (run : others.foldl keep (some held) = some found) : FirstNearest found (held :: others) := by
  induction others generalizing held with
  | nil =>
    obtain rfl := Option.some.inj run
    exact ⟨[], [], rfl, nofun, nofun⟩
  | cons next rest ih =>
    rw [List.foldl_cons, keep_some] at run
    by_cases nearer : next.squaredDistance < held.squaredDistance
    · rw [if_pos nearer] at run
      have first := ih run
      exact first.cons (lt_of_le_of_lt (first.le List.mem_cons_self) nearer)
    · rw [if_neg nearer] at run
      exact (ih run).insert (le_of_not_gt nearer)

theorem foldl_keep_of_le {held : Neighbor S} {others : List (Neighbor S)}
    (farther : ∀ other ∈ others, held.squaredDistance ≤ other.squaredDistance) :
    others.foldl keep (some held) = some held := by
  induction others with
  | nil => rfl
  | cons next rest ih =>
    rw [List.foldl_cons, keep_some, if_neg (not_lt_of_ge (farther next List.mem_cons_self))]
    apply ih
    intro other member
    exact farther other (List.mem_cons_of_mem _ member)

/-- Holding on to the nearer node each time leaves the first one than which none is nearer. -/
theorem foldl_keep_iff {visited : List (Neighbor S)} {found : Neighbor S} :
    visited.foldl keep none = some found ↔ FirstNearest found visited := by
  constructor
  · intro run
    cases visited with
    | nil => exact nomatch run
    | cons first rest => exact firstNearest_of_foldl run
  · intro first
    obtain ⟨before, after, rfl, earlier, later⟩ := first
    -- Whatever was held on to before is farther, so that the node is taken, and it is not given up again.
    have taken : keep (before.foldl keep none) found = some found := by
      cases run : before.foldl keep none with
      | none => rfl
      | some held =>
        have member : held ∈ before := by
          cases before with
          | nil => exact nomatch run
          | cons next rest => exact (firstNearest_of_foldl run).mem
        rw [keep_some, if_pos (earlier held member)]
    rw [List.foldl_append, List.foldl_cons, taken, foldl_keep_of_le later]

end

end Neighbor

namespace Branch

variable {S : Type} {N : Nat} [Scalar S]

theorem nearest_eq_descend (validOnly : Bool) (query : Point S N) (branch : Branch S N)
    (best : Option (Neighbor S)) :
    branch.nearest validOnly query best =
      branch.descend Neighbor.keep Neighbor.mayImprove validOnly query best := by
  induction branch generalizing best with
  | nil => rfl
  | node slot record left right leftIh rightIh =>
    simp only [nearest, descend, leftIh, rightIh]
    rfl

end Branch

section

variable {γ S : Type} {N : Nat} [Scalar S] [Cell γ] [Stored (KdNode S N) γ]

/-- Not searching a tree without valid nodes for one loses nothing. -/
theorem KdTree.nearest_eq_outline {tree : KdTree γ S N} (sound : tree.Sound) (validOnly : Bool) (query : Point S N) :
    tree.nearest validOnly query = tree.outline.nearest validOnly query none := by
  unfold KdTree.nearest
  split
  next shortcut =>
    simp only [Bool.and_eq_true, decide_eq_true_eq] at shortcut
    obtain ⟨rfl, noValid⟩ := shortcut
    rw [sound.validLen, List.countP_eq_zero, ← sound.bears.records] at noValid
    have ineligible : ∀ record ∈ tree.outline.records, record.eligible true = false :=
      fun record member => Bool.eq_false_iff.mpr (noValid record member)
    rw [Branch.nearest_eq_descend, Branch.descend_of_ineligible _ _ query ineligible]
  next => rfl

/-- Where planes shield what is behind them, a search finds what a search of all nodes in the same order
finds. -/
theorem KdTree.nearest_eq_foldl_of_shields [ComparableScalar S] {tree : KdTree γ S N} (sound : tree.Sound)
    {validOnly : Bool} {query : Point S N} (shields : tree.outline.Shields validOnly query)
    (numbers : ∀ found ∈ tree.outline.visit validOnly query, Scalar.IsNumber found.squaredDistance) :
    tree.nearest validOnly query = (tree.outline.visit validOnly query).foldl Neighbor.keep none := by
  rw [nearest_eq_outline sound, Branch.nearest_eq_descend]
  exact Branch.descend_eq_foldl Neighbor.keep_spares validOnly query shields numbers trivial

end

section

variable {γ S : Type} {N : Nat} [CommRing S] [LinearOrder S] [IsStrictOrderedRing S] [Scalar S] [ExactScalar S]
  [Cell γ] [Stored (KdNode S N) γ]

theorem KdTree.nearest_eq_foldl {tree : KdTree γ S N} (sound : tree.Sound) (sorted : tree.outline.Sorted)
    (validOnly : Bool) (query : Point S N) :
    tree.nearest validOnly query = (tree.outline.visit validOnly query).foldl Neighbor.keep none :=
  nearest_eq_foldl_of_shields sound (sorted.shields (fun record _ other _ => record.shields query other.position)
    validOnly) fun _ _ => Scalar.isNumber_exact _

variable [LawfulStored (KdNode S N)]

/-- Over a tree that was built, and then rebuilt and marked in whatever way, a search finds no node only
if none may be reported, and else the first one than which none is nearer, in the order in which it would
come by all of them. Only the dimensions are limited, to those that a node has room for. -/
theorem NearestSearch.best_search {state : NearestSearch γ S N} (reached : state.tree.Reached)
    (room : N ≤ KdNode.dimensions) (query : Point S N) :
    (state.tree.outline.visit state.validOnly query).Perm (state.tree.eligible state.validOnly query) ∧
    ((state.search query).best = none ↔
      ∀ slot < state.tree.len, (state.tree.view slot).eligible state.validOnly = false) ∧
    ∀ found, (state.search query).best = some found ↔
      Neighbor.FirstNearest found (state.tree.outline.visit state.validOnly query) := by
  have tended := reached.tended
  have all := KdTree.visit_outline_perm tended.sound state.validOnly query
  have best : (state.search query).best =
      (state.tree.outline.visit state.validOnly query).foldl Neighbor.keep none :=
    KdTree.nearest_eq_foldl tended.sound (tended.sorted inferInstance room) state.validOnly query
  refine ⟨all, ?_, ?_⟩
  · rw [best, Neighbor.foldl_keep_none, ← KdTree.eligible_eq_nil, ← List.length_eq_zero_iff, all.length_eq,
      List.length_eq_zero_iff]
  · intro found
    rw [best]
    exact Neighbor.foldl_keep_iff

end

theorem NearestSearch.best_below_invalid :
    ∃ tree : KdTree (KdNode ℚ 1) ℚ 1, tree.Reached ∧ 1 ≤ KdNode.dimensions ∧
      (tree.root = some 1 ∧ (tree.view 1).valid = false) ∧
      (search ⟨tree, true, none⟩ #v[3]).best = some ⟨0, 0, 9⟩ ∧
      Neighbor.FirstNearest ⟨0, 0, 9⟩ (tree.outline.visit true #v[3]) := by
  obtain ⟨built, reached, good⟩ := KdTree.exists_ofPoints [#v[(0 : ℚ)], #v[2]]
    (fun built =>
      let tree := (KdTree.setValid 1 false).left built
      tree.root = some 1 ∧ (tree.view 1).valid = false ∧
        (search ⟨tree, true, none⟩ #v[3]).best = some ⟨0, 0, 9⟩)
    (by decide +kernel)
  obtain ⟨root, invalid, best⟩ := of_decide_eq_true good
  have fits : 1 ≤ KdNode.dimensions := by decide
  have marked := reached.marked 1 false
  exact ⟨_, marked, fits, ⟨root, invalid⟩, best, ((best_search marked fits #v[3]).2.2 _).mp best⟩

end SpatialStore
