import SpatialStore.Proofs.Tree.ValidValues
import SpatialStore.Region.Partition

/-! Partitions that account for a branch: each of its slots is on one side, once. If moreover each side has
only what belongs there, its values are those of the valid nodes that belong there. -/

namespace SpatialStore

namespace KdTree

variable {γ S : Type} {N : Nat} [Scalar S] [Cell γ] [Stored (KdNode S N) γ]

theorem count_covered_append (tree : KdTree γ S N) (firstNodes secondNodes firstTops secondTops : List Nat)
    (slot : Nat) : (tree.covered (firstNodes ++ secondNodes) (firstTops ++ secondTops)).count slot =
      (tree.covered firstNodes firstTops).count slot + (tree.covered secondNodes secondTops).count slot := by
  simp only [covered, List.flatMap_append, List.count_append]
  omega

end KdTree

namespace Partition

variable {γ S : Type} {N : Nat} [Scalar S] [Cell γ] [Stored (KdNode S N) γ]

def inside (partition : Partition) (tree : KdTree γ S N) : List Nat :=
  tree.covered partition.insideNodes partition.insideTops

def outside (partition : Partition) (tree : KdTree γ S N) : List Nat :=
  tree.covered partition.outsideNodes partition.outsideTops

theorem count_inside_append (first second : Partition) (tree : KdTree γ S N) (slot : Nat) :
    ((first ++ second).inside tree).count slot =
      (first.inside tree).count slot + (second.inside tree).count slot :=
  tree.count_covered_append _ _ _ _ slot

theorem count_outside_append (first second : Partition) (tree : KdTree γ S N) (slot : Nat) :
    ((first ++ second).outside tree).count slot =
      (first.outside tree).count slot + (second.outside tree).count slot :=
  tree.count_covered_append _ _ _ _ slot

def tops (partition : Partition) : List Nat := partition.insideTops ++ partition.outsideTops

theorem mem_tops_append {first second : Partition} {top : Nat} (member : top ∈ (first ++ second).tops) :
    top ∈ first.tops ∨ top ∈ second.tops := by
  rcases List.mem_append.mp member with inside | outside
  · exact (List.mem_append.mp inside).imp (List.mem_append_left _) (List.mem_append_left _)
  · exact (List.mem_append.mp outside).imp (List.mem_append_right _) (List.mem_append_right _)

/-- Both sides together have each slot of a branch once. -/
structure Divides (partition : Partition) (tree : KdTree γ S N) (branch : Branch S N) : Prop where
  perm : (partition.inside tree ++ partition.outside tree).Perm branch.slots
  tops : ∀ top ∈ partition.tops, top ∈ branch.slots

def swap (partition : Partition) : Partition :=
  ⟨partition.outsideNodes, partition.outsideTops, partition.insideNodes, partition.insideTops⟩

theorem Divides.swap {partition : Partition} {tree : KdTree γ S N} {branch : Branch S N}
    (divides : partition.Divides tree branch) : partition.swap.Divides tree branch where
  perm := List.perm_append_comm.trans divides.perm
  tops top member := divides.tops top (List.perm_append_comm.mem_iff.mp member)

theorem divides_nil (tree : KdTree γ S N) : ({} : Partition).Divides tree .nil :=
  ⟨List.Perm.refl _, nofun⟩

section

variable {tree : KdTree γ S N} {slot : Nat} {record : KdNode S N} {lower upper : Branch S N}

theorem divides_insideBranch (carries : tree.Carries (.node slot record lower upper)) :
    (insideBranch slot).Divides tree (.node slot record lower upper) where
  perm := by
    change (tree.covered [] [slot] ++ []).Perm _
    rw [List.append_nil, carries.covered_top]
  tops top member := Branch.mem_slots_of_top (congrArg some (List.mem_singleton.mp member).symm)

theorem divides_outsideBranch (carries : tree.Carries (.node slot record lower upper)) :
    (outsideBranch slot).Divides tree (.node slot record lower upper) :=
  (divides_insideBranch carries).swap

/-- A branch whose topmost node is taken by itself. -/
theorem Divides.node {here first second : Partition}
    (single : here = insideNode slot ∨ here = outsideNode slot)
    (onLower : first.Divides tree lower) (onUpper : second.Divides tree upper) :
    (here ++ first ++ second).Divides tree (.node slot record lower upper) where
  perm := by
    rw [List.perm_iff_count]
    intro other
    have top : (here.inside tree).count other + (here.outside tree).count other = [slot].count other := by
      rcases single with rfl | rfl
      · rfl
      · exact Nat.zero_add _
    have inLower := onLower.perm.count_eq other
    have inUpper := onUpper.perm.count_eq other
    rw [List.count_append] at inLower inUpper
    rw [Branch.slots, List.count_append, List.count_append, ← List.singleton_append, List.count_append,
      count_inside_append, count_inside_append, count_outside_append, count_outside_append]
    omega
  tops top member := by
    have none : here.tops = [] := by
      rcases single with rfl | rfl
      · rfl
      · rfl
    rcases mem_tops_append member with early | inUpper
    · rcases mem_tops_append early with alone | inLower
      · rw [none] at alone
        exact absurd alone List.not_mem_nil
      · exact List.mem_append_left _ (onLower.tops top inLower)
    · exact List.mem_append_right _ (List.mem_cons_of_mem _ (onUpper.tops top inUpper))

end

/-! ### What belongs where -/

/-- No side has what belongs on the other. -/
structure Sides (partition : Partition) (tree : KdTree γ S N) (good : Point S N → Bool) : Prop where
  inside : ∀ slot ∈ partition.inside tree, good (tree.view slot).position = true
  outside : ∀ slot ∈ partition.outside tree, good (tree.view slot).position = false

theorem Sides.append {first second : Partition} {tree : KdTree γ S N} {good : Point S N → Bool}
    (ofFirst : first.Sides tree good) (ofSecond : second.Sides tree good) :
    (first ++ second).Sides tree good where
  inside slot member := by
    have positive := List.count_pos_iff.mpr member
    rw [count_inside_append] at positive
    rcases Nat.add_pos_iff_pos_or_pos.mp positive with inFirst | inSecond
    · exact ofFirst.inside slot (List.count_pos_iff.mp inFirst)
    · exact ofSecond.inside slot (List.count_pos_iff.mp inSecond)
  outside slot member := by
    have positive := List.count_pos_iff.mpr member
    rw [count_outside_append] at positive
    rcases Nat.add_pos_iff_pos_or_pos.mp positive with inFirst | inSecond
    · exact ofFirst.outside slot (List.count_pos_iff.mp inFirst)
    · exact ofSecond.outside slot (List.count_pos_iff.mp inSecond)

theorem sides_insideBranch {tree : KdTree γ S N} {slot : Nat} {record : KdNode S N} {lower upper : Branch S N}
    {good : Point S N → Bool} (carries : tree.Carries (.node slot record lower upper))
    (all : ∀ other ∈ (Branch.node slot record lower upper).slots, good (tree.view other).position = true) :
    (insideBranch slot).Sides tree good where
  inside := by
    change ∀ other ∈ tree.covered [] [slot], _
    rw [carries.covered_top]
    exact all
  outside := nofun

theorem sides_outsideBranch {tree : KdTree γ S N} {slot : Nat} {record : KdNode S N} {lower upper : Branch S N}
    {good : Point S N → Bool} (carries : tree.Carries (.node slot record lower upper))
    (none : ∀ other ∈ (Branch.node slot record lower upper).slots, good (tree.view other).position = false) :
    (outsideBranch slot).Sides tree good where
  inside := nofun
  outside := by
    change ∀ other ∈ tree.covered [] [slot], _
    rw [carries.covered_top]
    exact none

theorem sides_single (tree : KdTree γ S N) (slot : Nat) (good : Point S N → Bool) :
    (if good (tree.view slot).position then insideNode slot else outsideNode slot).Sides tree good := by
  split
  next belongs => exact ⟨fun other member => List.mem_singleton.mp member ▸ belongs, nofun⟩
  next not => exact ⟨nofun, fun other member => List.mem_singleton.mp member ▸ Bool.eq_false_iff.mpr not⟩

section

variable {partition : Partition} {tree : KdTree γ S N} {branch : Branch S N} {good : Point S N → Bool}

theorem Sides.congr (sides : partition.Sides tree good) (divides : partition.Divides tree branch)
    {other : Point S N → Bool}
    (same : ∀ slot ∈ branch.slots, other (tree.view slot).position = good (tree.view slot).position) :
    partition.Sides tree other where
  inside slot member := by
    rw [same slot (divides.perm.mem_iff.mp (List.mem_append_left _ member))]
    exact sides.inside slot member
  outside slot member := by
    rw [same slot (divides.perm.mem_iff.mp (List.mem_append_right _ member))]
    exact sides.outside slot member

theorem Sides.inside_perm (sides : partition.Sides tree good) (divides : partition.Divides tree branch) :
    (partition.inside tree).Perm (branch.slots.filter fun slot => good (tree.view slot).position) := by
  have all := divides.perm.filter fun slot => good (tree.view slot).position
  have none : (partition.outside tree).filter (fun slot => good (tree.view slot).position) = [] :=
    List.filter_eq_nil_iff.mpr fun slot member => Bool.eq_false_iff.mp (sides.outside slot member)
  rwa [List.filter_append, List.filter_eq_self.mpr sides.inside, none, List.append_nil] at all

theorem Sides.swap (sides : partition.Sides tree good) : partition.swap.Sides tree fun point => !good point where
  inside slot member := by rw [sides.outside slot member, Bool.not_false]
  outside slot member := by rw [sides.inside slot member, Bool.not_true]

theorem Sides.outside_perm (sides : partition.Sides tree good) (divides : partition.Divides tree branch) :
    (partition.outside tree).Perm (branch.slots.filter fun slot => !good (tree.view slot).position) :=
  sides.swap.inside_perm divides.swap

/-! ### Values -/

theorem Divides.insideValues (divides : partition.Divides tree branch) (carries : tree.Carries branch) :
    ∃ values, partition.insideValues tree = .ok values ∧
      values.Perm (tree.validAt (partition.inside tree)) := by
  apply KdTree.walk_perm carries
  · intro slot member
    exact divides.perm.mem_iff.mp (List.mem_append_left _ (List.mem_append_left _ member))
  · intro top member
    exact divides.tops top (List.mem_append_left _ member)

theorem Divides.outsideValues (divides : partition.Divides tree branch) (carries : tree.Carries branch) :
    ∃ values, partition.outsideValues tree = .ok values ∧
      values.Perm (tree.validAt (partition.outside tree)) :=
  divides.swap.insideValues carries

end

end Partition

end SpatialStore
