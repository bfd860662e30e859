import SpatialStore.Proofs.Tree.Reached
import SpatialStore.Proofs.Tree.ValidValues

/-! Walks over valid nodes, one record at a time. The branch below a slot is what its links lead to, whether
the nodes on the way are valid or not, and a walk that is asked again and again comes to an end. -/

namespace SpatialStore

namespace ValidWalk

variable {S : Type} {N : Nat}

/-- Asked again and again, a walk gives these records, one each time, and then none. -/
inductive Gives : ValidWalk S N → List Nat → Prop
  | done {walk : ValidWalk S N} (stopped : walk.next? = none) : Gives walk []
  | more {walk rest : ValidWalk S N} {data : Nat} {others : List Nat} (found : walk.next? = some (data, rest))
      (after : Gives rest others) : Gives walk (data :: others)

theorem gives_toList (walk : ValidWalk S N) : walk.Gives walk.toList := by
  fun_induction toList walk with
  | case1 walk stopped => exact .done stopped
  | case2 walk data rest found ih => exact .more found ih

end ValidWalk

namespace KdTree

variable {γ S : Type} {N : Nat} [Scalar S] [Cell γ] [Stored (KdNode S N) γ]

/-- Following the links, each node before what is on its right and that before what is on its left, leads
through these slots. -/
inductive Descends (tree : KdTree γ S N) : Option Nat → List Nat → Prop
  | stop : Descends tree none []
  | node {slot : Nat} {onRight onLeft : List Nat} (right : Descends tree (tree.view slot).rightSlot onRight)
      (left : Descends tree (tree.view slot).leftSlot onLeft) :
      Descends tree (some slot) (slot :: (onRight ++ onLeft))

theorem Carries.descends {tree : KdTree γ S N} {branch : Branch S N} (carries : tree.Carries branch) :
    ∃ slots, tree.Descends branch.top slots ∧ branch.descent = slots.map tree.view := by
  induction branch with
  | nil => exact ⟨[], .stop, rfl⟩
  | node slot record left right leftIh rightIh =>
    obtain ⟨onLeft, leftDescends, leftEq⟩ := leftIh carries.left
    obtain ⟨onRight, rightDescends, rightEq⟩ := rightIh carries.right
    have here := carries.here.1
    obtain ⟨leftLink, rightLink, _⟩ := carries.linked
    rw [← leftLink, ← here] at leftDescends
    rw [← rightLink, ← here] at rightDescends
    refine ⟨slot :: (onRight ++ onLeft), .node rightDescends leftDescends, ?_⟩
    rw [Branch.descent, List.map_cons, List.map_append, here, leftEq, rightEq]

theorem top_branch {tree : KdTree γ S N} {slot : Nat} (inside : slot < tree.len) :
    (tree.branch slot).top = some slot := by
  obtain ⟨fewer, depth⟩ := Nat.exists_eq_add_one_of_ne_zero (Nat.ne_of_gt (Nat.zero_lt_of_lt inside))
  rw [branch, depth]
  rfl

theorem Sound.descends {tree : KdTree γ S N} (sound : tree.Sound) {tops : List Nat}
    (inside : ∀ top ∈ tops, top < tree.len) :
    ∃ descents, List.Forall₂ (fun top slots => tree.Descends (some top) slots) tops descents ∧
      (tops.map tree.branch).flatMap Branch.descent = descents.flatten.map tree.view := by
  induction tops with
  | nil => exact ⟨[], .nil, rfl⟩
  | cons top rest ih =>
    have here := inside top List.mem_cons_self
    have member : top ∈ tree.outline.slots := by
      rw [sound.bears.slots]
      exact List.mem_range.mpr here
    obtain ⟨slots, descends, below⟩ := (sound.carries.branch_below member).descends
    rw [top_branch here] at descends
    obtain ⟨descents, each, others⟩ := ih fun other member => inside other (List.mem_cons_of_mem _ member)
    refine ⟨slots :: descents, .cons descends each, ?_⟩
    rw [List.map_cons, List.flatMap_cons, List.flatten_cons, List.map_append, below, others]

theorem Spans.validValues {tree : KdTree γ S N} {sites : List (Site S N)} (spans : tree.Spans sites) :
    ∃ values, tree.validValues = .ok values ∧ values.Perm (tree.validAt (List.range tree.len)) ∧
      values.Nodup := by
  have sound := spans.sound
  have covered : tree.covered [] tree.root.toList = List.range tree.len := by
    rw [← sound.bears.slots, sound.bears.root]
    cases outline : tree.outline with
    | nil => rfl
    | node slot record left right => exact (outline ▸ sound.carries).covered_top
  have within : ∀ top ∈ tree.root.toList, top ∈ tree.outline.slots := by
    intro top member
    rw [sound.bears.root, Option.mem_toList] at member
    exact Branch.mem_slots_of_top member
  obtain ⟨values, given, perm⟩ := walk_perm sound.carries (List.forall_mem_nil _) within
  rw [covered] at perm
  exact ⟨values, given, perm, perm.nodup_iff.mpr (spans.nodup_validAt (List.Perm.refl _))⟩

end KdTree

variable {γ S : Type} {N : Nat} [Scalar S] [Cell γ] [Stored (KdNode S N) γ] [LawfulStored (KdNode S N)]

/-- Over a tree that was built, and then rebuilt and marked in whatever way, a walk over any slots, listed
in any order and as often as one likes, ends after it has given the records of the valid nodes: first those
that the links from each of the topmost slots lead to, and then those in the single slots. Over the root
alone these are the records of all valid nodes, each once. -/
theorem ValidWalk.gives_validAt {tree : KdTree γ S N} (reached : tree.Reached) {nodes tops : List Nat}
    (nodesInside : ∀ slot ∈ nodes, slot < tree.len) (topsInside : ∀ top ∈ tops, top < tree.len) :
    (∃ walk descents, tree.walk nodes tops = .ok walk ∧
      List.Forall₂ (fun top slots => tree.Descends (some top) slots) tops descents ∧
      walk.Gives (tree.validAt (descents.flatten ++ nodes)) ∧
      walk.toList = tree.validAt (descents.flatten ++ nodes)) ∧
    ∃ values, tree.validValues = .ok values ∧ values.Perm (tree.validAt (List.range tree.len)) ∧
      values.Nodup := by
  obtain ⟨sites, spans⟩ := reached.tended.spans
  obtain ⟨descents, each, below⟩ := spans.sound.descends topsInside
  have listed := KdTree.walk_ok nodesInside topsInside
  have all : validData (tree.reach nodes tops) = tree.validAt (descents.flatten ++ nodes) := by
    rw [KdTree.reach, below, KdTree.validAt, List.map_append]
  rw [all] at listed
  cases made : tree.walk nodes tops with
  | error fault =>
    rw [made] at listed
    cases listed
  | ok walk =>
    rw [made] at listed
    have given : walk.toList = tree.validAt (descents.flatten ++ nodes) := Except.ok.inj listed
    exact ⟨⟨walk, descents, rfl, each, given ▸ walk.gives_toList, given⟩, spans.validValues⟩

/-- Two nodes, of which the one at the top is invalid and does not hide the one below it. -/
theorem ValidWalk.gives_past_invalid :
    ∃ (tree : KdTree (KdNode ℚ 1) ℚ 1) (walk : ValidWalk ℚ 1), tree.Reached ∧
      ((∀ slot ∈ [0, 1, 0], slot < tree.len) ∧ ∀ top ∈ [1, 0], top < tree.len) ∧
      (tree.root = some 1 ∧ (tree.view 1).valid = false) ∧
      tree.walk [0, 1, 0] [1, 0] = .ok walk ∧ walk.Gives [1, 1, 1, 1] := by
  obtain ⟨built, reached, good⟩ := KdTree.exists_ofPoints [#v[(2 : ℚ)], #v[0]]
    (fun built =>
      let tree := (KdTree.setValid 1 false).left built
      tree.len = 2 ∧ (tree.root = some 1 ∧ (tree.view 1).valid = false) ∧
        ((tree.walk [0, 1, 0] [1, 0]).map toList).toOption = some [1, 1, 1, 1])
    (by decide +kernel)
  obtain ⟨two, top, values⟩ := of_decide_eq_true good
  have marked := reached.marked 1 false
  have nodesInside : ∀ slot ∈ [0, 1, 0], slot < ((KdTree.setValid 1 false).left built).len := by
    rw [two]
    decide
  have topsInside : ∀ top ∈ [1, 0], top < ((KdTree.setValid 1 false).left built).len := by
    rw [two]
    decide
  obtain ⟨⟨walk, descents, made, _, gives, given⟩, _⟩ := gives_validAt marked nodesInside topsInside
  rw [made] at values
  rw [← given, Option.some.inj values] at gives
  exact ⟨_, walk, marked, ⟨nodesInside, topsInside⟩, top, made, gives⟩

end SpatialStore
