import SpatialStore.Proofs.Tree.Plant

/-! Sound trees: the nodes in their pool are those of one branch over all slots in order, and as many of
them are valid as is said. Reading a sound tree along its links gives that branch. -/

namespace SpatialStore.KdTree

variable {γ S : Type} {N : Nat} [Cell γ] [Stored (KdNode S N) γ]

def records (tree : KdTree γ S N) : List (KdNode S N) := tree.nodes.items (KdNode S N)

theorem length_records (tree : KdTree γ S N) : tree.records.length = tree.len :=
  RecordPool.length_items tree.nodes

/-- The branch that a tree consists of. -/
structure Bears (tree : KdTree γ S N) (branch : Branch S N) : Prop where
  root : tree.root = branch.top
  linked : branch.Linked
  slots : branch.slots = List.range tree.len
  records : branch.records = tree.records

theorem Bears.size_eq {tree : KdTree γ S N} {branch : Branch S N} (bears : tree.Bears branch) :
    branch.size = tree.len := by
  rw [← Branch.length_slots, bears.slots, List.length_range]

theorem Bears.consecutive {tree : KdTree γ S N} {branch : Branch S N} (bears : tree.Bears branch) :
    branch.slots = List.range' 0 branch.size := by
  rw [bears.size_eq, bears.slots, List.range_eq_range']

structure Sound (tree : KdTree γ S N) : Prop where
  nodes : tree.nodes.Sound
  form : tree.nodes.form = Stored.form (KdNode S N)
  unlimited : tree.nodes.slots.maximum = none
  borne : ∃ branch, tree.Bears branch
  validLen : tree.validLen = tree.records.countP KdNode.valid

variable [Scalar S]

theorem getElem?_records {tree : KdTree γ S N} (sound : tree.nodes.Sound) {slot : Nat}
    (inside : slot < tree.len) : tree.records[slot]? = some (tree.view slot) := by
  have stored : slot < tree.nodes.slots.capacity := Nat.lt_of_lt_of_le inside sound.slots.room
  have row : tree.nodes.records[slot]? = some (SlotStore.row tree.nodes.slots.store slot) := by
    rw [RecordPool.records, SlotPool.getElem?_records]
    exact if_pos inside
  rw [records, RecordPool.items, List.getElem?_map, row, view,
    SlotStore.read_eq_row sound.slots.store stored]
  rfl

theorem branchTo_eq {tree : KdTree γ S N} {branch : Branch S N} (linked : branch.Linked)
    (reads : ∀ slot record, (slot, record) ∈ branch.entries → tree.view slot = record) {depth : Nat}
    (enough : branch.height ≤ depth) : tree.branchTo depth branch.top = branch := by
  induction branch generalizing depth with
  | nil =>
    cases depth with
    | zero => rfl
    | succ depth => rfl
  | node slot record left right leftIh rightIh =>
    obtain ⟨leftLink, rightLink, leftLinked, rightLinked⟩ := linked
    cases depth with
    | zero => exact absurd enough (Nat.not_succ_le_zero _)
    | succ depth =>
      have below := Nat.max_le.mp (Nat.le_of_succ_le_succ enough)
      have here : tree.view slot = record := by
        apply reads
        rw [Branch.entries]
        exact List.mem_append_right _ List.mem_cons_self
      have onLeft := leftIh leftLinked (by
        intro other node member
        apply reads
        exact List.mem_append_left _ member) below.1
      have onRight := rightIh rightLinked (by
        intro other node member
        apply reads
        exact List.mem_append_right _ (List.mem_cons_of_mem _ member)) below.2
      change Branch.node slot (tree.view slot) (tree.branchTo depth (tree.view slot).leftSlot)
        (tree.branchTo depth (tree.view slot).rightSlot) = _
      rw [here, leftLink, rightLink, onLeft, onRight]

theorem Bears.view_eq {tree : KdTree γ S N} {branch : Branch S N} (sound : tree.nodes.Sound)
    (bears : tree.Bears branch) {slot : Nat} {record : KdNode S N}
    (member : (slot, record) ∈ branch.entries) : tree.view slot = record := by
  obtain ⟨_, found⟩ := Branch.getElem?_records_of_entry bears.consecutive member
  rw [Nat.sub_zero, bears.records] at found
  have inside : slot < tree.len := by
    rw [← length_records]
    exact (List.getElem?_eq_some_iff.mp found).1
  exact Option.some.inj ((getElem?_records sound inside).symm.trans found)

/-- Reading a tree along its links gives the branch that it consists of. -/
theorem outline_eq {tree : KdTree γ S N} {branch : Branch S N} (sound : tree.nodes.Sound)
    (bears : tree.Bears branch) : tree.outline = branch := by
  rw [outline, bears.root]
  apply branchTo_eq bears.linked
  · intro slot record member
    exact bears.view_eq sound member
  · rw [← bears.size_eq]
    exact branch.height_le_size

theorem Sound.bears {tree : KdTree γ S N} (sound : tree.Sound) : tree.Bears tree.outline := by
  obtain ⟨branch, bears⟩ := sound.borne
  rw [outline_eq sound.nodes bears]
  exact bears

/-! ### Branches of a tree -/

/-- What the tree holds in the slots of a branch are its nodes. -/
structure Carries (tree : KdTree γ S N) (branch : Branch S N) : Prop where
  linked : branch.Linked
  reads : ∀ slot record, (slot, record) ∈ branch.entries → tree.view slot = record
  shallow : branch.height ≤ tree.len
  inside : ∀ slot ∈ branch.slots, slot < tree.len

theorem Sound.carries {tree : KdTree γ S N} (sound : tree.Sound) : tree.Carries tree.outline where
  linked := sound.bears.linked
  reads _ _ member := sound.bears.view_eq sound.nodes member
  shallow := by
    rw [← sound.bears.size_eq]
    exact tree.outline.height_le_size
  inside slot member := by
    rw [sound.bears.slots] at member
    exact List.mem_range.mp member

namespace Carries

variable {tree : KdTree γ S N} {slot : Nat} {record : KdNode S N} {lower upper : Branch S N}

theorem here (carries : tree.Carries (.node slot record lower upper)) :
    tree.view slot = record ∧ slot < tree.len := by
  constructor
  · exact carries.reads slot record (List.mem_append_right _ List.mem_cons_self)
  · exact carries.inside slot (List.mem_append_right _ List.mem_cons_self)

theorem left (carries : tree.Carries (.node slot record lower upper)) : tree.Carries lower where
  linked := carries.linked.2.2.1
  reads other node member := carries.reads other node (List.mem_append_left _ member)
  shallow := by
    have shallow := carries.shallow
    rw [Branch.height] at shallow
    exact Nat.le_trans (Nat.le_max_left _ _) (Nat.le_of_succ_le shallow)
  inside other member := carries.inside other (List.mem_append_left _ member)

theorem right (carries : tree.Carries (.node slot record lower upper)) : tree.Carries upper where
  linked := carries.linked.2.2.2
  reads other node member := carries.reads other node (List.mem_append_right _ (List.mem_cons_of_mem _ member))
  shallow := by
    have shallow := carries.shallow
    rw [Branch.height] at shallow
    exact Nat.le_trans (Nat.le_max_right _ _) (Nat.le_of_succ_le shallow)
  inside other member := carries.inside other (List.mem_append_right _ (List.mem_cons_of_mem _ member))

/-- Following the links from its topmost slot gives a branch. -/
theorem branch_eq (carries : tree.Carries (.node slot record lower upper)) :
    tree.branch slot = .node slot record lower upper :=
  branchTo_eq carries.linked carries.reads carries.shallow

theorem records_eq {branch : Branch S N} (carries : tree.Carries branch) :
    branch.records = branch.slots.map tree.view := by
  induction branch with
  | nil => rfl
  | node slot record lower upper lowerIh upperIh =>
    rw [Branch.records, Branch.slots, List.map_append, List.map_cons, carries.here.1, lowerIh carries.left,
      upperIh carries.right]

/-- The branch below any slot of a branch is carried as well. -/
theorem branch_below {branch : Branch S N} (carries : tree.Carries branch) {slot : Nat}
    (member : slot ∈ branch.slots) : tree.Carries (tree.branch slot) := by
  induction branch with
  | nil => exact nomatch member
  | node place record lower upper lowerIh upperIh =>
    rcases List.mem_append.mp member with inLower | inRest
    · exact lowerIh carries.left inLower
    · rcases List.mem_cons.mp inRest with rfl | inUpper
      · rw [carries.branch_eq]
        exact carries
      · exact upperIh carries.right inUpper

end Carries

theorem Sound.records_eq {tree : KdTree γ S N} (sound : tree.Sound) :
    tree.records = (List.range tree.len).map tree.view := by
  rw [← sound.bears.slots, ← sound.carries.records_eq, sound.bears.records]

end SpatialStore.KdTree
