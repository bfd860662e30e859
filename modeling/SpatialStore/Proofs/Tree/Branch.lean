import SpatialStore.Tree.Branch
import SpatialStore.Proofs.Tree.Node

/-! Branches whose links are those of their nodes and whose nodes are in order along the splitting
dimensions. Changing nodes without touching their links, points and dimensions keeps both. -/

namespace SpatialStore.Branch

variable {S : Type} {N : Nat}

/-- The slot of the topmost node. -/
def top : Branch S N → Option Nat
  | nil => none
  | node slot _ _ _ => some slot

def records : Branch S N → List (KdNode S N)
  | nil => []
  | node _ record left right => left.records ++ record :: right.records

def Linked : Branch S N → Prop
  | nil => True
  | node _ record left right =>
    record.leftSlot = left.top ∧ record.rightSlot = right.top ∧ left.Linked ∧ right.Linked

/-- No node on the left ranks above the one at the top, and none on the right below it. -/
def Sorted [Scalar S] : Branch S N → Prop
  | nil => True
  | node _ record left right =>
    (∀ lower ∈ left.records, Scalar.rankLe (lower.position.coordinate record.dimension)
      (record.position.coordinate record.dimension) = true) ∧
    (∀ upper ∈ right.records, Scalar.rankLe (record.position.coordinate record.dimension)
      (upper.position.coordinate record.dimension) = true) ∧
    left.Sorted ∧ right.Sorted

def SplitsBelow (count : Nat) (branch : Branch S N) : Prop := ∀ record ∈ branch.records, record.dimension < count

theorem mem_slots_of_top {branch : Branch S N} {slot : Nat} (top : branch.top = some slot) :
    slot ∈ branch.slots := by
  cases branch with
  | nil => exact nomatch top
  | node place record left right =>
    obtain rfl := Option.some.inj top
    exact List.mem_append_right _ List.mem_cons_self

theorem length_slots (branch : Branch S N) : branch.slots.length = branch.size := by
  induction branch with
  | nil => rfl
  | node slot record left right leftIh rightIh =>
    rw [slots, List.length_append, List.length_cons, leftIh, rightIh, size]
    omega

theorem length_records (branch : Branch S N) : branch.records.length = branch.size := by
  induction branch with
  | nil => rfl
  | node slot record left right leftIh rightIh =>
    rw [records, List.length_append, List.length_cons, leftIh, rightIh, size]
    omega

theorem getElem?_records_node (slot : Nat) (record : KdNode S N) (left right : Branch S N) (index : Nat) :
    (node slot record left right).records[index]? =
      if index < left.size then left.records[index]?
      else if index = left.size then some record else right.records[index - (left.size + 1)]? := by
  rw [records]
  by_cases before : index < left.size
  · rw [if_pos before, List.getElem?_append_left (by rw [length_records]; exact before)]
  · rw [if_neg before, List.getElem?_append_right (by rw [length_records]; omega), length_records]
    by_cases here : index = left.size
    · rw [if_pos here, here, Nat.sub_self, List.getElem?_cons_zero]
    · rw [if_neg here]
      obtain ⟨rest, later⟩ : ∃ rest, index - left.size = rest + 1 := ⟨index - left.size - 1, by omega⟩
      have same : index - (left.size + 1) = rest := by omega
      rw [later, List.getElem?_cons_succ, same]

theorem height_le_size (branch : Branch S N) : branch.height ≤ branch.size := by
  induction branch with
  | nil => exact Nat.le_refl _
  | node slot record left right leftIh rightIh =>
    rw [height, size]
    have larger : Nat.max left.height right.height ≤ left.size + right.size := by
      apply Nat.max_le.mpr
      constructor <;> omega
    omega

theorem entries_eq_zip (branch : Branch S N) : branch.entries = branch.slots.zip branch.records := by
  induction branch with
  | nil => rfl
  | node slot record left right leftIh rightIh =>
    have step : left.slots.length = left.records.length := by
      rw [length_slots, length_records]
    rw [slots, records, entries, leftIh, rightIh, List.zip_append step, List.zip_cons_cons]

theorem getElem?_records_of_entry {branch : Branch S N} {first : Nat}
    (consecutive : branch.slots = List.range' first branch.size) {slot : Nat} {record : KdNode S N}
    (member : (slot, record) ∈ branch.entries) :
    first ≤ slot ∧ branch.records[slot - first]? = some record := by
  obtain ⟨index, found⟩ := List.mem_iff_getElem?.mp member
  rw [entries_eq_zip, List.getElem?_zip_eq_some, consecutive] at found
  obtain ⟨atSlot, atRecord⟩ := found
  obtain ⟨_, place⟩ := List.getElem?_eq_some_iff.mp atSlot
  rw [List.getElem_range'] at place
  have index : index = slot - first := by omega
  subst index
  exact ⟨by omega, atRecord⟩

/-! ### Changing nodes -/

/-- The branch with each node changed, depending on its slot. -/
def revise (change : Nat → KdNode S N → KdNode S N) : Branch S N → Branch S N
  | nil => nil
  | node slot record left right => node slot (change slot record) (left.revise change) (right.revise change)

theorem top_revise (change : Nat → KdNode S N → KdNode S N) (branch : Branch S N) :
    (branch.revise change).top = branch.top := by
  cases branch <;> rfl

theorem slots_revise (change : Nat → KdNode S N → KdNode S N) (branch : Branch S N) :
    (branch.revise change).slots = branch.slots := by
  induction branch with
  | nil => rfl
  | node slot record left right leftIh rightIh => rw [revise, slots, leftIh, rightIh, slots]

theorem records_revise (change : Nat → KdNode S N → KdNode S N) (branch : Branch S N) :
    (branch.revise change).records = branch.entries.map fun entry => change entry.1 entry.2 := by
  induction branch with
  | nil => rfl
  | node slot record left right leftIh rightIh =>
    rw [revise, records, leftIh, rightIh, entries, List.map_append, List.map_cons]

theorem getElem?_records_revise (change : Nat → KdNode S N → KdNode S N) {branch : Branch S N} {first : Nat}
    (consecutive : branch.slots = List.range' first branch.size) (index : Nat) :
    (branch.revise change).records[index]? = branch.records[index]?.map (change (first + index)) := by
  rw [records_revise, entries_eq_zip, consecutive, List.getElem?_map]
  cases found : branch.records[index]? with
  | none =>
    have short : (List.zip (List.range' first branch.size) branch.records)[index]? = none := by
      rw [List.getElem?_eq_none_iff, List.length_zip]
      exact Nat.le_trans (Nat.min_le_right _ _) (List.getElem?_eq_none_iff.mp found)
    rw [short]
    rfl
  | some record =>
    have inside := (List.getElem?_eq_some_iff.mp found).1
    rw [length_records] at inside
    have here : (List.zip (List.range' first branch.size) branch.records)[index]? =
        some (first + index, record) := by
      rw [List.getElem?_zip_eq_some, List.getElem?_range' inside, Nat.one_mul]
      exact ⟨rfl, found⟩
    rw [here]
    rfl

theorem mem_records_revise {change : Nat → KdNode S N → KdNode S N} {branch : Branch S N}
    {record : KdNode S N} (member : record ∈ (branch.revise change).records) :
    ∃ slot old, old ∈ branch.records ∧ record = change slot old := by
  rw [records_revise, entries_eq_zip] at member
  obtain ⟨entry, inside, rfl⟩ := List.mem_map.mp member
  exact ⟨entry.1, entry.2, (List.of_mem_zip inside).2, rfl⟩

theorem linked_revise {change : Nat → KdNode S N → KdNode S N}
    (keeps : ∀ slot record, (change slot record).leftSlot = record.leftSlot ∧
      (change slot record).rightSlot = record.rightSlot)
    {branch : Branch S N} (linked : branch.Linked) : (branch.revise change).Linked := by
  induction branch with
  | nil => trivial
  | node slot record left right leftIh rightIh =>
    obtain ⟨leftLink, rightLink, leftLinked, rightLinked⟩ := linked
    refine ⟨?_, ?_, leftIh leftLinked, rightIh rightLinked⟩
    · rw [(keeps slot record).1, leftLink, top_revise]
    · rw [(keeps slot record).2, rightLink, top_revise]

theorem sorted_revise [Scalar S] {change : Nat → KdNode S N → KdNode S N}
    (keeps : ∀ slot record, (change slot record).position = record.position ∧
      (change slot record).dimension = record.dimension)
    {branch : Branch S N} (sorted : branch.Sorted) : (branch.revise change).Sorted := by
  induction branch with
  | nil => trivial
  | node slot record left right leftIh rightIh =>
    obtain ⟨lower, upper, leftSorted, rightSorted⟩ := sorted
    obtain ⟨position, dimension⟩ := keeps slot record
    refine ⟨?_, ?_, leftIh leftSorted, rightIh rightSorted⟩
    · intro below member
      obtain ⟨slot, old, inside, rfl⟩ := mem_records_revise member
      rw [position, dimension, (keeps slot old).1]
      exact lower old inside
    · intro above member
      obtain ⟨slot, old, inside, rfl⟩ := mem_records_revise member
      rw [position, dimension, (keeps slot old).1]
      exact upper old inside

def mark (slot : Nat) (valid : Bool) (branch : Branch S N) : Branch S N :=
  branch.revise fun other record => if other = slot then record.withValid valid else record

theorem Linked.mark {branch : Branch S N} (linked : branch.Linked) (slot : Nat) (valid : Bool) :
    (branch.mark slot valid).Linked := by
  apply linked_revise _ linked
  intro other record
  split
  next => exact ⟨rfl, rfl⟩
  next => exact ⟨rfl, rfl⟩

theorem Sorted.mark [Scalar S] {branch : Branch S N} (sorted : branch.Sorted) (slot : Nat) (valid : Bool) :
    (branch.mark slot valid).Sorted := by
  apply sorted_revise _ sorted
  intro other record
  split
  next => exact ⟨rfl, record.dimension_withValid valid⟩
  next => exact ⟨rfl, rfl⟩

theorem SplitsBelow.mark {count : Nat} {branch : Branch S N} (below : branch.SplitsBelow count) (slot : Nat)
    (valid : Bool) : (branch.mark slot valid).SplitsBelow count := by
  intro record member
  obtain ⟨other, old, inside, rfl⟩ := mem_records_revise member
  split
  next => exact (old.dimension_withValid valid).symm ▸ below old inside
  next => exact below old inside

theorem records_mark {branch : Branch S N} {first : Nat}
    (consecutive : branch.slots = List.range' first branch.size) {index : Nat} {record : KdNode S N}
    (found : branch.records[index]? = some record) (valid : Bool) :
    (branch.mark (first + index) valid).records = branch.records.set index (record.withValid valid) := by
  apply List.ext_getElem?
  intro other
  rw [mark, getElem?_records_revise _ consecutive]
  by_cases here : index = other
  · subst other
    have inside := (List.getElem?_eq_some_iff.mp found).1
    rw [found, Option.map_some, if_pos rfl, List.getElem?_set_self inside]
  · rw [List.getElem?_set_ne here]
    cases branch.records[other]? with
    | none => rfl
    | some kept => rw [Option.map_some, if_neg (by omega)]

end SpatialStore.Branch
