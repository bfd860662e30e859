import SpatialStore.Proofs.Query.KNearest
import SpatialStore.Proofs.Query.Nearest
import SpatialStore.Proofs.Query.Within
import SpatialStore.Proofs.Region.Clip
import SpatialStore.Proofs.Region.Cut
import SpatialStore.Proofs.Tree.Marking

/-! Plain queries, which take invalid nodes as well. Of a node they see the point, the dimension and the record,
which share a word with the validity but do not change with it, so that they give the same over trees that
differ in validity alone. Where all nodes are valid, so do the searches for valid nodes. -/

namespace SpatialStore

/-! ### Nodes and branches that look the same -/

section

variable {S : Type} {N : Nat}

/-- Two nodes that look the same in two kinds of search: both may be reported, or neither. -/
structure KdNode.Alike (firstOnly secondOnly : Bool) (first second : KdNode S N) : Prop where
  position : first.position = second.position
  dimension : first.dimension = second.dimension
  dataSlot : first.dataSlot = second.dataSlot
  eligible : first.eligible firstOnly = second.eligible secondOnly

theorem KdNode.eligible_plain (record : KdNode S N) : record.eligible false = true := rfl

theorem KdNode.Alike.withValid {firstOnly : Bool} {first second : KdNode S N}
    (alike : first.Alike firstOnly false second) (valid : Bool) :
    first.Alike firstOnly false (second.withValid valid) where
  position := alike.position
  dimension := alike.dimension.trans (second.dimension_withValid valid).symm
  dataSlot := alike.dataSlot
  eligible := by rw [alike.eligible, KdNode.eligible_plain, KdNode.eligible_plain]

/-- Two branches of one shape over the same slots, with nodes that look the same. -/
inductive Branch.Alike (firstOnly secondOnly : Bool) : Branch S N → Branch S N → Prop
  | nil : Alike firstOnly secondOnly .nil .nil
  | node {slot : Nat} {first second : KdNode S N} {left right otherLeft otherRight : Branch S N}
      (here : first.Alike firstOnly secondOnly second) (onLeft : Alike firstOnly secondOnly left otherLeft)
      (onRight : Alike firstOnly secondOnly right otherRight) :
      Alike firstOnly secondOnly (.node slot first left right) (.node slot second otherLeft otherRight)

namespace Branch

theorem alike_self {firstOnly secondOnly : Bool} {branch : Branch S N}
    (same : ∀ record ∈ branch.records, record.eligible firstOnly = record.eligible secondOnly) :
    branch.Alike firstOnly secondOnly branch := by
  induction branch with
  | nil => exact .nil
  | node slot record left right leftIh rightIh =>
    simp only [records, List.forall_mem_append, List.forall_mem_cons] at same
    obtain ⟨onLeft, here, onRight⟩ := same
    exact .node ⟨rfl, rfl, rfl, here⟩ (leftIh onLeft) (rightIh onRight)

namespace Alike

variable {firstOnly secondOnly : Bool} {first second : Branch S N}

/-- A plain search does not see that a node is marked. -/
theorem mark (alike : first.Alike firstOnly false second) (slot : Nat) (valid : Bool) :
    first.Alike firstOnly false (second.mark slot valid) := by
  induction alike with
  | nil => exact .nil
  | node here _ _ leftIh rightIh =>
    refine .node ?_ leftIh rightIh
    simp only
    split
    next => exact here.withValid valid
    next => exact here

variable [Scalar S]

/-- Whatever a descent holds on to, and whatever it thinks worth going to. -/
theorem descend_eq (alike : first.Alike firstOnly secondOnly second) {β : Type} (hold : β → Neighbor S → β)
    (worth : β → S → Bool) (query : Point S N) (held : β) :
    first.descend hold worth firstOnly query held = second.descend hold worth secondOnly query held := by
  induction alike generalizing held with
  | nil => rfl
  | @node slot record other _ _ _ _ here _ _ leftIh rightIh =>
    have found : Neighbor.ofNode query slot record = Neighbor.ofNode query slot other := by
      simp only [Neighbor.ofNode, here.dataSlot, here.position]
    have side : record.leftFirst query = other.leftFirst query := by
      simp only [KdNode.leftFirst, KdNode.offset, here.position, here.dimension]
    have plane : record.squaredOffset query = other.squaredOffset query := by
      simp only [KdNode.squaredOffset, KdNode.offset, here.position, here.dimension]
    simp only [descend, here.eligible, found, side, plane, leftIh, rightIh]

theorem clip_eq (alike : first.Alike firstOnly secondOnly second) (box : Box S N)
    (planes : List (HalfSpace S N)) : first.clip box planes = second.clip box planes := by
  induction alike generalizing box planes with
  | nil => rfl
  | node here _ _ leftIh rightIh =>
    rw [clip, clip]
    simp only [here.position, here.dimension, leftIh, rightIh]

end Alike

end Branch

end

namespace KdTree

variable {γ S : Type} {N : Nat} [Scalar S] [Cell γ] [Stored (KdNode S N) γ]

/-! ### Trees that look the same -/

structure Alike (firstOnly secondOnly : Bool) (first second : KdTree γ S N) : Prop where
  outline : first.outline.Alike firstOnly secondOnly second.outline
  bounds : first.bounds = second.bounds

/-- Searches of two kinds over two trees give the same, whatever either was asked before. -/
structure FindAlike (firstOnly secondOnly : Bool) (first second : KdTree γ S N) : Prop where
  nearest : ∀ (last earlier : Option (Neighbor S)) (query : Point S N),
    (NearestSearch.search ⟨first, firstOnly, last⟩ query).best =
      (NearestSearch.search ⟨second, secondOnly, earlier⟩ query).best
  /-- Also in that there may be no room for so many nodes. -/
  kNearest : ∀ (k : Nat) (before others : List (Point S N)) (query : Point S N),
    (KNearestSearch.make first k firstOnly).map (fun start =>
        ((before.foldl KNearestSearch.search start).search query).found) =
      (KNearestSearch.make second k secondOnly).map fun start =>
        ((others.foldl KNearestSearch.search start).search query).found
  within : ∀ (last earlier : List (Neighbor S)) (query : Point S N) (radius : S) (sorted : Bool),
    (WithinSearch.search ⟨first, firstOnly, last⟩ query radius sorted).found =
      (WithinSearch.search ⟨second, secondOnly, earlier⟩ query radius sorted).found

/-- Two trees fall into the same parts, all four lists of them, whatever was clipped or cut before. -/
structure PartAlike (first second : KdTree γ S N) : Prop where
  clip : ∀ (last earlier : Partition) (region : Polytope S N),
    (Clipper.clip ⟨first, last⟩ region).partition = (Clipper.clip ⟨second, earlier⟩ region).partition
  cut : ∀ (last earlier : Partition) (plane : HalfSpace S N),
    (Cutter.cut ⟨first, last⟩ plane).partition = (Cutter.cut ⟨second, earlier⟩ plane).partition

theorem Alike.findAlike {firstOnly secondOnly : Bool} {first second : KdTree γ S N}
    (alike : first.Alike firstOnly secondOnly second) (sound : first.Sound) (otherSound : second.Sound) :
    first.FindAlike firstOnly secondOnly second where
  nearest _ _ query := by
    change first.nearest firstOnly query = second.nearest secondOnly query
    rw [nearest_eq_outline sound, nearest_eq_outline otherSound, Branch.nearest_eq_descend,
      Branch.nearest_eq_descend, alike.outline.descend_eq]
  kNearest k before others query := by
    have found : ∀ last earlier : List (Neighbor S),
        (KNearestSearch.search ⟨first, k, firstOnly, last⟩ query).found =
          (KNearestSearch.search ⟨second, k, secondOnly, earlier⟩ query).found := by
      intro last earlier
      simp only [KNearestSearch.search, Branch.kNearest_eq_descend, alike.outline.descend_eq]
    unfold KNearestSearch.make
    cases Size.buffer (k * KNearestSearch.entryWidth) with
    | error fault => rfl
    | ok size =>
      obtain ⟨last, one⟩ := KNearestSearch.search_keeps before ⟨first, k, firstOnly, []⟩
      obtain ⟨earlier, other⟩ := KNearestSearch.search_keeps others ⟨second, k, secondOnly, []⟩
      simp only [Except.map, one, other, found last earlier]
  within _ _ query radius sorted := by
    have inside : ∀ squared, first.outline.within firstOnly query squared =
        second.outline.within secondOnly query squared := by
      intro squared
      have one := Branch.append_within firstOnly query squared first.outline []
      have other := Branch.append_within secondOnly query squared second.outline []
      rw [alike.outline.descend_eq, ← other] at one
      exact one
    simp only [WithinSearch.search, inside]

theorem Alike.partAlike {first second : KdTree γ S N} (alike : first.Alike false false second) :
    first.PartAlike second := by
  have clips : ∀ region, first.clip region = second.clip region := by
    intro region
    simp only [KdTree.clip, alike.bounds, alike.outline.clip_eq]
  have cuts : ∀ plane, first.cut plane = second.cut plane := by
    intro plane
    simp only [KdTree.cut, alike.bounds, Branch.cut_eq_clip, alike.outline.clip_eq]
  exact ⟨fun _ _ region => clips region, fun _ _ plane => cuts plane⟩

/-! ### Marking nodes -/

section

variable {motive : KdTree γ S N → Prop}
  (each : ∀ tree slot valid, motive tree → motive ((setValid slot valid).left tree))

include each

theorem Mark.left_perform (mark : Mark) {tree : KdTree γ S N} (holds : motive tree) :
    motive (mark.perform.left tree) := by
  cases mark with
  | node slot valid => exact each tree slot valid holds
  | ofData data valid => exact left_setValidData holds (fun slot valid => each tree slot valid holds) data valid
  | all => exact left_validateSlots (fun tree slot => each tree slot true) holds (List.range tree.len)

theorem Mark.leftAfter_perform (marks : List Mark) {tree : KdTree γ S N} (holds : motive tree) :
    motive (Step.leftAfter Mark.perform marks tree) := by
  induction marks generalizing tree with
  | nil => exact holds
  | cons mark rest ih => exact ih (mark.left_perform each holds)

end

variable [LawfulStored (KdNode S N)]

theorem Alike.setValid {tree next : KdTree γ S N} (alike : tree.Alike false false next) (sound : next.Sound)
    (slot : Nat) (valid : Bool) : tree.Alike false false ((KdTree.setValid slot valid).left next) := by
  rcases setValid_cases sound slot valid with
    ⟨failure, refused⟩ | same | ⟨nodes, validLen, last, rfl, marked, soundLast, bears, _⟩
  · rw [Step.left_of_error refused]
    exact alike
  · rw [Step.left_of_ok same]
    exact alike
  · rw [Step.left_of_ok marked]
    refine ⟨?_, alike.bounds⟩
    rw [outline_eq soundLast.nodes bears]
    exact alike.outline.mark slot valid

/-- Whatever nodes of a tree are marked, in whatever order, also where that is turned down: plain searches find
the same before and after, and clipping and cutting leave the same lists. Over a tree all of whose nodes are
valid, searches for valid nodes find what plain ones find. -/
theorem Reached.plain_alike {tree : KdTree γ S N} (reached : tree.Reached) (marks : List Mark) :
    let last := Step.leftAfter Mark.perform marks tree
    tree.FindAlike false false last ∧ tree.PartAlike last ∧
      ((∀ slot < tree.len, (tree.view slot).valid = true) → tree.FindAlike true false tree) := by
  intro last
  have sound := reached.tended.sound
  have start : tree.Alike false false tree := ⟨Branch.alike_self fun _ _ => rfl, rfl⟩
  have keeps : ∀ (next : KdTree γ S N) slot valid, next.Sound ∧ tree.Alike false false next →
      ((setValid slot valid).left next).Sound ∧ tree.Alike false false ((setValid slot valid).left next) :=
    fun _ slot valid both => ⟨sound_setValid both.1 slot valid, both.2.setValid both.1 slot valid⟩
  obtain ⟨soundLast, alike⟩ := Mark.leftAfter_perform keeps marks ⟨sound, start⟩
  refine ⟨alike.findAlike sound soundLast, alike.partAlike, ?_⟩
  intro valid
  have allValid : ∀ record ∈ tree.outline.records, record.eligible true = record.eligible false := by
    rw [sound.bears.records, sound.records_eq]
    intro record member
    obtain ⟨slot, inside, rfl⟩ := List.mem_map.mp member
    exact valid slot (List.mem_range.mp inside)
  have self : tree.Alike true false tree := ⟨Branch.alike_self allValid, rfl⟩
  exact self.findAlike sound sound

theorem plain_alike_beside_invalid :
    ∃ tree : KdTree (KdNode ℚ 1) ℚ 1, tree.Reached ∧ (∀ slot < tree.len, (tree.view slot).valid = true) ∧
      let last := Step.leftAfter Mark.perform [.node 1 false, .ofData 5 false] tree
      ((last.view 1).valid = false ∧ last.nearest true #v[3] = some ⟨0, 0, 9⟩) ∧
      (NearestSearch.search ⟨last, false, none⟩ #v[3]).best = some ⟨1, 1, 1⟩ ∧
      (Clipper.clip ⟨last, {}⟩ belowZero).partition = ⟨[0], [], [1], []⟩ ∧
      (NearestSearch.search ⟨tree, true, none⟩ #v[3]).best = some ⟨1, 1, 1⟩ := by
  obtain ⟨tree, reached, good⟩ := exists_ofPoints [#v[(0 : ℚ)], #v[2]]
    (fun tree =>
      let last := Step.leftAfter Mark.perform [.node 1 false, .ofData 5 false] tree
      (∀ slot < tree.len, (tree.view slot).valid = true) ∧
        ((last.view 1).valid = false ∧ last.nearest true #v[3] = some ⟨0, 0, 9⟩) ∧
        tree.nearest false #v[3] = some ⟨1, 1, 1⟩ ∧ tree.clip belowZero = ⟨[0], [], [1], []⟩)
    (by decide +kernel)
  obtain ⟨valid, invalid, nearest, parts⟩ := of_decide_eq_true good
  obtain ⟨plain, alike, whole⟩ := reached.plain_alike [.node 1 false, .ofData 5 false]
  refine ⟨tree, reached, valid, invalid, ?_, ?_, ?_⟩
  · exact (plain.nearest none none #v[3]).symm.trans nearest
  · exact (alike.clip {} {} belowZero).symm.trans parts
  · exact ((whole valid).nearest none none #v[3]).trans nearest

end KdTree

end SpatialStore
