import SpatialStore.Proofs.Region.Clip

/-! What a clipping hands over. Whatever comparing numbers gives, also where some are not numbers, each node
is handed over by one entry: by itself, or with everything below a node. -/

namespace SpatialStore

namespace KdTree

variable {γ S : Type} {N : Nat} [Scalar S] [Cell γ] [Stored (KdNode S N) γ]

def countAbove (tree : KdTree γ S N) (tops : List Nat) (slot : Nat) : Nat :=
  tops.countP fun top => slot ∈ (tree.branch top).slots

theorem count_covered {tree : KdTree γ S N} {nodes tops : List Nat} (once : (tree.covered nodes tops).Nodup)
    (slot : Nat) : (tree.covered nodes tops).count slot = nodes.count slot + tree.countAbove tops slot := by
  have distinct := (List.nodup_flatMap.mp (List.nodup_append.mp once).2.1).1
  rw [covered, List.count_append, countAbove]
  congr 1
  clear once
  induction tops with
  | nil => rfl
  | cons top rest ih =>
    have here := (distinct top List.mem_cons_self).count (a := slot)
    rw [List.flatMap_cons, List.count_append, List.countP_cons, here,
      ih fun other member => distinct other (List.mem_cons_of_mem _ member), Nat.add_comm]
    simp only [decide_eq_true_eq]

end KdTree

namespace Partition

variable {γ S : Type} {N : Nat} [Scalar S] [Cell γ] [Stored (KdNode S N) γ] {partition : Partition}
  {tree : KdTree γ S N} {branch : Branch S N}

/-- How many entries hand over a slot. -/
def countFor (partition : Partition) (tree : KdTree γ S N) (slot : Nat) : Nat :=
  partition.insideNodes.count slot + partition.outsideNodes.count slot +
    tree.countAbove partition.insideTops slot + tree.countAbove partition.outsideTops slot

theorem Divides.countFor_eq (divides : partition.Divides tree branch) (distinct : branch.slots.Nodup)
    (slot : Nat) : partition.countFor tree slot = branch.slots.count slot := by
  obtain ⟨onceInside, onceOutside, _⟩ := List.nodup_append.mp (divides.perm.nodup_iff.mpr distinct)
  have all := divides.perm.count_eq slot
  rw [List.count_append, inside, outside, KdTree.count_covered onceInside,
    KdTree.count_covered onceOutside] at all
  unfold countFor
  omega

/-- No entry is anything but a node. -/
theorem Divides.mem_slots (divides : partition.Divides tree branch) {entry : Nat}
    (member : entry ∈ partition.insideNodes ++ partition.outsideNodes ++ partition.tops) :
    entry ∈ branch.slots := by
  rcases List.mem_append.mp member with single | top
  · apply divides.perm.mem_iff.mp
    rcases List.mem_append.mp single with inside | outside
    · exact List.mem_append_left _ (List.mem_append_left _ inside)
    · exact List.mem_append_right _ (List.mem_append_left _ outside)
  · exact divides.tops entry top

end Partition

namespace Clipper

variable {γ S : Type} {N : Nat} [Scalar S] [Cell γ] [Stored (KdNode S N) γ] [LawfulStored (KdNode S N)]

/-- Over a tree that was built, and then rebuilt and marked in whatever way, a clipping hands over each node
by one entry and nothing else, whatever the numbers are and however they compare. So the values of both
sides can be given, and together they are those of all valid nodes, each once. -/
theorem countFor_clip {clipper : Clipper γ S N} (reached : clipper.tree.Reached) (region : Polytope S N) :
    let tree := clipper.tree
    let partition := (clipper.clip region).partition
    (∀ slot < tree.len, partition.countFor tree slot = 1) ∧
    (∀ entry ∈ partition.insideNodes ++ partition.outsideNodes ++ partition.tops, entry < tree.len) ∧
    ∃ inside outside, partition.insideValues tree = .ok inside ∧ partition.outsideValues tree = .ok outside ∧
      (inside ++ outside).Perm (tree.validAt (List.range tree.len)) ∧ (inside ++ outside).Nodup := by
  intro tree partition
  obtain ⟨sites, spans⟩ := reached.tended.spans
  have carries := spans.sound.carries
  have divides : partition.Divides tree tree.outline := KdTree.clip_divides spans region
  have slots := spans.sound.bears.slots
  have all := divides.perm
  rw [slots] at all
  obtain ⟨inside, insideOk, insidePerm⟩ := divides.insideValues carries
  obtain ⟨outside, outsideOk, outsidePerm⟩ := divides.outsideValues carries
  have values := insidePerm.append outsidePerm
  rw [← KdTree.validAt_append] at values
  refine ⟨?_, ?_, inside, outside, insideOk, outsideOk, ?_, ?_⟩
  · intro slot within
    rw [divides.countFor_eq (slots ▸ List.nodup_range), slots, List.count_eq_one_of_mem List.nodup_range]
    exact List.mem_range.mpr within
  · intro entry member
    exact List.mem_range.mp (slots ▸ divides.mem_slots member)
  · exact values.trans (tree.validAt_perm all)
  · exact values.nodup_iff.mpr (spans.nodup_validAt all)

/-- Neither node is lost or given twice when neither the points nor the half-space can be compared. -/
theorem countFor_not_number :
    ∃ clipper : Clipper UInt8 Double 1, clipper.tree.Reached ∧
      (clipper.tree.sites.map Site.point).Perm [#v[KdTree.notNumber], #v[⟨0⟩]] ∧
      let partition := (clipper.clip ⟨[⟨#v[KdTree.notNumber], KdTree.notNumber⟩]⟩).partition
      partition.countFor clipper.tree 0 = 1 ∧ partition.countFor clipper.tree 1 = 1 ∧
      ∃ inside outside, partition.insideValues clipper.tree = .ok inside ∧
        partition.outsideValues clipper.tree = .ok outside ∧
        (inside ++ outside).Perm (clipper.tree.validAt [0, 1]) ∧ (inside ++ outside).Nodup := by
  obtain ⟨tree, built, perm⟩ := KdTree.exists_over_pointPool
  let clipper : Clipper UInt8 Double 1 := { tree }
  have reached : clipper.tree.Reached := built
  have two : clipper.tree.len = 2 := by
    have length := perm.length_eq
    rwa [List.length_map, KdTree.length_sites] at length
  obtain ⟨each, _, values⟩ := countFor_clip reached ⟨[⟨#v[KdTree.notNumber], KdTree.notNumber⟩]⟩
  rw [two] at each values
  exact ⟨clipper, reached, perm, each 0 (by decide), each 1 (by decide), values⟩

end Clipper

end SpatialStore
