import Mathlib.Data.List.Perm.Basic
import SpatialStore.Proofs.Tree.Rebuild
import SpatialStore.Tree.ValidValues

/-! What a walk over valid nodes comes by: each branch from the top down, on the right before on the left,
and then the single nodes. An invalid node is left out, and nothing else. -/

namespace SpatialStore

/-- The nodes of a branch from the top down, those on the right before those on the left. -/
def Branch.descent {S : Type} {N : Nat} : Branch S N → List (KdNode S N)
  | nil => []
  | node _ record left right => record :: (right.descent ++ left.descent)

theorem Branch.descent_perm {S : Type} {N : Nat} (branch : Branch S N) :
    branch.descent.Perm branch.records := by
  induction branch with
  | nil => exact List.Perm.refl _
  | node slot record left right leftIh rightIh =>
    rw [descent, records]
    have sides := List.perm_append_comm.trans (leftIh.append rightIh)
    exact (sides.cons record).trans List.perm_middle.symm

namespace ValidWalk

variable {S : Type} {N : Nat}

/-- The nodes that a walk still comes by, valid or not. -/
def ahead (walk : ValidWalk S N) : List (KdNode S N) :=
  walk.pending.flatMap Branch.descent ++ walk.branches.flatMap Branch.descent ++ walk.nodes

theorem descent_of_top?_none {branches : List (Branch S N)} (none : top? branches = .none) :
    branches.flatMap Branch.descent = [] := by
  induction branches with
  | nil => rfl
  | cons branch rest ih =>
    cases branch with
    | nil => exact ih none
    | node slot record left right => exact nomatch none

theorem descent_of_top?_some {branches below rest : List (Branch S N)} {record : KdNode S N}
    (found : top? branches = some (record, below, rest)) :
    branches.flatMap Branch.descent =
      record :: (below.flatMap Branch.descent ++ rest.flatMap Branch.descent) := by
  induction branches with
  | nil => exact nomatch found
  | cons branch others ih =>
    cases branch with
    | nil => exact ih found
    | node slot held left right =>
      rw [top?] at found
      obtain ⟨rfl, rfl, rfl⟩ : held = record ∧ [right, left] = below ∧ others = rest := by
        simpa using found
      simp [Branch.descent]

theorem ahead_of_step?_none {walk : ValidWalk S N} (done : walk.step? = none) : walk.ahead = [] := by
  unfold step? at done
  split at done
  next => exact nomatch done
  next noPending =>
    split at done
    next => exact nomatch done
    next noBranch =>
      split at done
      next noNode => rw [ahead, descent_of_top?_none noPending, descent_of_top?_none noBranch, noNode]; rfl
      next => exact nomatch done

theorem ahead_of_step?_some {walk next : ValidWalk S N} {record : KdNode S N}
    (visited : walk.step? = some (record, next)) : walk.ahead = record :: next.ahead := by
  unfold step? at visited
  split at visited
  next found =>
    obtain ⟨rfl, rfl⟩ := Prod.mk.inj (Option.some.inj visited)
    rw [ahead, descent_of_top?_some found]
    simp [ahead]
  next noPending =>
    split at visited
    next found =>
      obtain ⟨rfl, rfl⟩ := Prod.mk.inj (Option.some.inj visited)
      rw [ahead, descent_of_top?_none noPending, descent_of_top?_some found]
      simp [ahead]
    next noBranch =>
      split at visited
      next => exact nomatch visited
      next rest nodes =>
        obtain ⟨rfl, rfl⟩ := Prod.mk.inj (Option.some.inj visited)
        rw [ahead, descent_of_top?_none noPending, descent_of_top?_none noBranch, nodes]
        rfl

def validData (nodes : List (KdNode S N)) : List Nat := (nodes.filter KdNode.valid).map KdNode.dataSlot

theorem validData_of_next?_none {walk : ValidWalk S N} (done : walk.next? = none) :
    validData walk.ahead = [] := by
  fun_induction next? walk with
  | case1 walk stopped =>
    rw [ahead_of_step?_none stopped]
    rfl
  | case2 => cases done
  | case3 walk record after visited invalid ih =>
    rw [ahead_of_step?_some visited, validData, List.filter_cons_of_neg invalid]
    exact ih done

theorem validData_of_next?_some {walk rest : ValidWalk S N} {data : Nat}
    (found : walk.next? = some (data, rest)) :
    validData walk.ahead = data :: validData rest.ahead := by
  fun_induction next? walk with
  | case1 => cases found
  | case2 walk record after visited valid =>
    obtain ⟨rfl, rfl⟩ := Prod.mk.inj (Option.some.inj found)
    rw [ahead_of_step?_some visited, validData, List.filter_cons_of_pos valid]
    rfl
  | case3 walk record after visited invalid ih =>
    rw [ahead_of_step?_some visited, validData, List.filter_cons_of_neg invalid]
    exact ih found

/-- A walk gives the records of all valid nodes that it comes by, in that order. -/
theorem toList_eq (walk : ValidWalk S N) : walk.toList = validData walk.ahead := by
  fun_induction toList walk with
  | case1 walk done => exact (validData_of_next?_none done).symm
  | case2 walk data rest found ih => rw [ih, validData_of_next?_some found]

end ValidWalk

namespace KdTree

variable {γ S : Type} {N : Nat} [Scalar S] [Cell γ] [Stored (KdNode S N) γ]

def reach (tree : KdTree γ S N) (nodes tops : List Nat) : List (KdNode S N) :=
  (tops.map tree.branch).flatMap Branch.descent ++ nodes.map tree.view

theorem walk_ok {tree : KdTree γ S N} {nodes tops : List Nat} (nodesInside : ∀ slot ∈ nodes, slot < tree.len)
    (topsInside : ∀ slot ∈ tops, slot < tree.len) :
    (tree.walk nodes tops).map ValidWalk.toList = .ok (ValidWalk.validData (tree.reach nodes tops)) := by
  have none : ((nodes ++ tops).find? fun slot => tree.len ≤ slot) = none := by
    rw [List.find?_eq_none]
    intro slot member
    have inside : slot < tree.len := (List.mem_append.mp member).elim (nodesInside slot) (topsInside slot)
    simpa using inside
  rw [walk, none]
  change Except.ok (ValidWalk.toList _) = _
  rw [ValidWalk.toList_eq]
  rfl

/-! ### What is covered -/

def covered (tree : KdTree γ S N) (nodes tops : List Nat) : List Nat :=
  nodes ++ tops.flatMap fun top => (tree.branch top).slots

/-- A walk over slots of a branch comes by the nodes in all slots that are covered. -/
theorem reach_perm {tree : KdTree γ S N} {branch : Branch S N} (carries : tree.Carries branch)
    (nodes : List Nat) {tops : List Nat} (within : ∀ top ∈ tops, top ∈ branch.slots) :
    (tree.reach nodes tops).Perm ((tree.covered nodes tops).map tree.view) := by
  have below : ((tops.map tree.branch).flatMap Branch.descent).Perm
      ((tops.flatMap fun top => (tree.branch top).slots).map tree.view) := by
    rw [List.flatMap_map, List.map_flatMap]
    apply List.Perm.flatMap_left
    intro top member
    rw [← (carries.branch_below (within top member)).records_eq]
    exact Branch.descent_perm _
  rw [reach, covered, List.map_append]
  exact List.perm_append_comm.trans (below.append_left _)

theorem Carries.covered_top {tree : KdTree γ S N} {slot : Nat} {record : KdNode S N} {lower upper : Branch S N}
    (carries : tree.Carries (.node slot record lower upper)) :
    tree.covered [] [slot] = (Branch.node slot record lower upper).slots := by
  rw [covered, List.nil_append, List.flatMap_singleton, carries.branch_eq]

def validAt (tree : KdTree γ S N) (slots : List Nat) : List Nat := ValidWalk.validData (slots.map tree.view)

theorem validAt_perm (tree : KdTree γ S N) {first second : List Nat} (same : first.Perm second) :
    (tree.validAt first).Perm (tree.validAt second) :=
  ((same.map tree.view).filter KdNode.valid).map KdNode.dataSlot

theorem validAt_append (tree : KdTree γ S N) (first second : List Nat) :
    tree.validAt (first ++ second) = tree.validAt first ++ tree.validAt second := by
  rw [validAt, ValidWalk.validData, List.map_append, List.filter_append, List.map_append]
  rfl

theorem Spans.nodup_validAt {tree : KdTree γ S N} {sites : List (Site S N)} (spans : tree.Spans sites)
    {slots : List Nat} (once : slots.Perm (List.range tree.len)) : (tree.validAt slots).Nodup := by
  have all : (tree.records.map KdNode.dataSlot).Nodup := by
    have same : tree.sites.map Site.slot = tree.records.map KdNode.dataSlot := by
      rw [KdTree.sites, List.map_map]
      rfl
    rw [← same]
    exact (spans.perm.map Site.slot).nodup_iff.mpr spans.gathered.distinct
  have perm : (slots.map tree.view).Perm tree.records := spans.sound.records_eq ▸ once.map tree.view
  have valid := (perm.filter KdNode.valid).map KdNode.dataSlot
  exact valid.nodup_iff.mpr (all.sublist ((List.filter_sublist).map _))

def validWhere (tree : KdTree γ S N) (good : Point S N → Bool) : List Nat :=
  tree.validAt ((List.range tree.len).filter fun slot => good (tree.view slot).position)

theorem walk_perm {tree : KdTree γ S N} {branch : Branch S N} (carries : tree.Carries branch)
    {nodes tops : List Nat} (nodesWithin : ∀ slot ∈ nodes, slot ∈ branch.slots)
    (topsWithin : ∀ top ∈ tops, top ∈ branch.slots) :
    ∃ values, (tree.walk nodes tops).map ValidWalk.toList = .ok values ∧
      values.Perm (tree.validAt (tree.covered nodes tops)) := by
  refine ⟨_, walk_ok (fun slot member => carries.inside slot (nodesWithin slot member))
    (fun top member => carries.inside top (topsWithin top member)), ?_⟩
  exact ((reach_perm carries nodes topsWithin).filter _).map _

end KdTree

end SpatialStore
