import SpatialStore.Proofs.Slots.Flat
import SpatialStore.Proofs.Records.Writes
import SpatialStore.Proofs.Tree.Branch
import SpatialStore.Proofs.Tree.Node
import SpatialStore.Proofs.Tree.Split
import SpatialStore.Tree.Basic

/-! Planting: what is built over a list of points, and where its nodes are. The slots of a branch are
consecutive, in order from left to right, and no other slot is touched. -/

namespace SpatialStore

def KdNode.site {S : Type} {N : Nat} (record : KdNode S N) : Site S N := ⟨record.dataSlot, record.position⟩

/-- What is built over points in the slots from `first` on, however points with equal coordinates are split. -/
inductive Planted {S : Type} {N : Nat} [Scalar S] : Nat → List (Site S N) → Branch S N → Prop
  | nil {first : Nat} : Planted first [] .nil
  | node {first : Nat} {sites : List (Site S N)} {split : Split S N} {left right : Branch S N}
      {record : KdNode S N} (halves : split.Halves sites)
      (leftPlanted : Planted first split.lower left)
      (rightPlanted : Planted (first + split.lower.length + 1) split.upper right)
      (recorded : KdNode.make split.pivot.point left.top right.top split.pivot.slot split.dimension =
        .ok record) :
      Planted first sites (.node (first + split.lower.length) record left right)

namespace Planted

variable {S : Type} {N : Nat} [Scalar S]

theorem size_eq {first : Nat} {sites : List (Site S N)} {branch : Branch S N}
    (planted : Planted first sites branch) : branch.size = sites.length := by
  induction planted with
  | nil => rfl
  | node halves _ _ _ leftIh rightIh =>
    have lengths := halves.length_eq
    rw [Branch.size, leftIh, rightIh]
    omega

theorem slots_eq {first : Nat} {sites : List (Site S N)} {branch : Branch S N}
    (planted : Planted first sites branch) : branch.slots = List.range' first branch.size := by
  induction planted with
  | nil => rfl
  | @node first sites split left right record _ leftPlanted _ _ leftIh rightIh =>
    rw [Branch.slots, leftIh, rightIh, Branch.size, leftPlanted.size_eq,
      Nat.add_assoc split.lower.length 1, ← List.range'_append_1, Nat.add_comm 1, List.range'_succ]

theorem linked {first : Nat} {sites : List (Site S N)} {branch : Branch S N}
    (planted : Planted first sites branch) : branch.Linked := by
  induction planted with
  | nil => trivial
  | node _ _ _ recorded leftIh rightIh =>
    obtain ⟨_, leftLink, rightLink, _⟩ := KdNode.of_make recorded
    exact ⟨leftLink, rightLink, leftIh, rightIh⟩

theorem top_lt {first : Nat} {sites : List (Site S N)} {branch : Branch S N}
    (planted : Planted first sites branch) {slot : Nat} (top : slot ∈ branch.top) :
    slot < first + sites.length := by
  have member := Branch.mem_slots_of_top top
  rw [planted.slots_eq, planted.size_eq] at member
  exact (List.mem_range'_1.mp member).2

/-- The nodes hold the points and the slots of their records, each once. -/
theorem records_perm {first : Nat} {sites : List (Site S N)} {branch : Branch S N}
    (planted : Planted first sites branch) :
    (branch.records.map KdNode.site).Perm sites := by
  induction planted with
  | nil => exact List.Perm.refl _
  | node halves _ _ recorded leftIh rightIh =>
    obtain ⟨position, _, _, data, _⟩ := KdNode.of_make recorded
    rw [Branch.records, List.map_append, List.map_cons, KdNode.site, position, data]
    exact (leftIh.append (rightIh.cons _)).trans halves.perm

theorem mem_records {first : Nat} {sites : List (Site S N)} {branch : Branch S N}
    (planted : Planted first sites branch) {record : KdNode S N} (member : record ∈ branch.records) :
    record.site ∈ sites :=
  planted.records_perm.mem_iff.mp (List.mem_map.mpr ⟨record, member, rfl⟩)

theorem valid {first : Nat} {sites : List (Site S N)} {branch : Branch S N}
    (planted : Planted first sites branch) : ∀ record ∈ branch.records, record.valid = true := by
  induction planted with
  | nil => exact nofun
  | node _ _ _ recorded leftIh rightIh =>
    obtain ⟨_, _, _, _, valid, _⟩ := KdNode.of_make recorded
    intro record member
    rcases List.mem_append.mp member with inLeft | inRest
    · exact leftIh record inLeft
    · rcases List.mem_cons.mp inRest with rfl | inRight
      · exact valid
      · exact rightIh record inRight

theorem dimension_fits (room : N ≤ KdNode.dimensions) {sites : List (Site S N)} {split : Split S N}
    (halves : split.Halves sites) : split.dimension < KdNode.dimensions :=
  Nat.lt_of_lt_of_le halves.dimension_lt (Nat.max_le.mpr ⟨room, by decide⟩)

theorem splitsBelow {first : Nat} {sites : List (Site S N)} {branch : Branch S N}
    (room : N ≤ KdNode.dimensions) (planted : Planted first sites branch) :
    branch.SplitsBelow (Nat.max N 1) := by
  induction planted with
  | nil => exact nofun
  | node halves _ _ recorded leftIh rightIh =>
    obtain ⟨_, _, _, _, _, kept⟩ := KdNode.of_make recorded
    intro record member
    rcases List.mem_append.mp member with inLeft | inRest
    · exact leftIh record inLeft
    · rcases List.mem_cons.mp inRest with rfl | inRight
      · rw [kept (dimension_fits room halves)]
        exact halves.dimension_lt
      · exact rightIh record inRight

theorem sorted [RankedScalar S] {first : Nat} {sites : List (Site S N)} {branch : Branch S N}
    (room : N ≤ KdNode.dimensions) (planted : Planted first sites branch) : branch.Sorted := by
  induction planted with
  | nil => trivial
  | node halves leftPlanted rightPlanted recorded leftIh rightIh =>
    have fits := dimension_fits room halves
    obtain ⟨position, _, _, _, _, kept⟩ := KdNode.of_make recorded
    obtain ⟨lower, upper⟩ := halves.separates
    refine ⟨?_, ?_, leftIh, rightIh⟩
    · intro below member
      rw [kept fits, position]
      exact lower _ (leftPlanted.mem_records member)
    · intro above member
      rw [kept fits, position]
      exact upper _ (rightPlanted.mem_records member)

end Planted

namespace KdTree

variable {γ S : Type} {N : Nat} [Scalar S] [Cell γ] [Stored (KdNode S N) γ]

theorem plant_none {sites : List (Site S N)} (none : Split.ofSites sites = none) (first : Nat) :
    (plant sites first : Step PoolFailure (RecordPool (FlatSlots γ) γ) _) = pure .none := by
  rw [plant]
  split
  next => rfl
  next split made =>
    exact absurd (made.symm.trans none) (Option.some_ne_none _)

theorem plant_some {sites : List (Site S N)} {split : Split S N} (made : Split.ofSites sites = some split)
    (first : Nat) :
    (plant sites first : Step PoolFailure (RecordPool (FlatSlots γ) γ) _) = (do
      let left ← plant split.lower first
      let right ← plant split.upper (first + split.lower.length + 1)
      let record ← Step.ofExcept
        ((KdNode.make split.pivot.point left right split.pivot.slot split.dimension).mapError .refused)
      RecordPool.update (first + split.lower.length) fun _ : KdNode S N => record
      return some (first + split.lower.length)) := by
  rw [plant]
  split
  next none =>
    exact absurd (made.symm.trans none) (Option.some_ne_none _)
  next other known =>
    obtain rfl := Option.some.inj (known.symm.trans made)
    rfl

structure Keeps (pool next : RecordPool (FlatSlots γ) γ) : Prop where
  sound : next.Sound
  form : next.form = pool.form
  maximum : next.slots.maximum = pool.slots.maximum
  len : next.len = pool.len

theorem Keeps.trans {first second third : RecordPool (FlatSlots γ) γ} (before : Keeps first second)
    (after : Keeps second third) : Keeps first third :=
  ⟨after.sound, after.form.trans before.form, after.maximum.trans before.maximum,
    after.len.trans before.len⟩

variable [LawfulStored (KdNode S N)]

/-- Planting fills the slots from `first` on with a branch, if links can name these and the records. -/
theorem plant_ok {sites : List (Site S N)} {first : Nat} {pool : RecordPool (FlatSlots γ) γ}
    (sound : pool.Sound) (formed : pool.form = Stored.form (KdNode S N))
    (room : first + sites.length ≤ pool.len) (linkable : ∀ site ∈ sites, site.slot ≤ Link.largest)
    (few : first + sites.length ≤ Link.largest + 1) :
    ∃ branch next, plant sites first pool = .ok branch.top next ∧ Keeps pool next ∧
      Planted first sites branch ∧
      ∀ slot, (next.items (KdNode S N))[slot]? =
        if first ≤ slot ∧ slot < first + sites.length then branch.records[slot - first]?
        else (pool.items (KdNode S N))[slot]? := by
  induction sites, first using plant.induct generalizing pool with
  | case1 sites first none =>
    obtain rfl := Split.ofSites_eq_none none
    refine ⟨.nil, pool, ?_, ⟨sound, rfl, rfl, rfl⟩, .nil, ?_⟩
    · rw [plant_none none]
      rfl
    · intro slot
      rw [if_neg]
      change ¬(first ≤ slot ∧ slot < first + 0)
      omega
  | case2 sites first split made slot leftIh =>
    rename_i rightIh
    have lengths := Split.length_of_ofSites made
    have listed : ∀ site ∈ split.lower ++ split.pivot :: split.upper, site.slot ≤ Link.largest :=
      fun site member => linkable site ((Split.perm_of_ofSites made).mem_iff.mp member)
    rw [plant_some made]
    obtain ⟨left, middle, leftPlanted, leftKept, leftShape, leftItems⟩ := leftIh sound formed (by omega)
      (fun site member => listed site (List.mem_append_left _ member)) (by omega)
    rw [Step.bind_of_ok leftPlanted]
    obtain ⟨right, last, rightPlanted, rightKept, rightShape, rightItems⟩ :=
      rightIh leftKept.sound (leftKept.form.trans formed) (by rw [leftKept.len]; omega)
        (fun site member => listed site (List.mem_append_right _ (List.mem_cons_of_mem _ member))) (by omega)
    have bothKept := leftKept.trans rightKept
    rw [Step.bind_of_ok rightPlanted]
    have leftFits : ∀ top ∈ left.top, top ≤ Link.largest := by
      intro top member
      have below := leftShape.top_lt member
      omega
    have rightFits : ∀ top ∈ right.top, top ≤ Link.largest := by
      intro top member
      have below := rightShape.top_lt member
      omega
    obtain ⟨record, recorded⟩ := KdNode.make_ok leftFits rightFits
      (listed split.pivot (List.mem_append_right _ List.mem_cons_self)) split.pivot.point split.dimension
    rw [recorded]
    have inside : slot < (last.items (KdNode S N)).length := by
      rw [RecordPool.length_items, bothKept.len]
      change first + split.lower.length < pool.len
      omega
    obtain ⟨updated, _, soundPut, items⟩ := RecordPool.update_ok bothKept.sound
      (bothKept.form.trans formed) (List.getElem?_eq_getElem inside) (fun _ => record)
    have placed : Planted first sites (.node slot record left right) :=
      .node (Split.halves_ofSites made) leftShape rightShape recorded
    refine ⟨.node slot record left right, last.put slot (Stored.encode record), ?_,
      bothKept.trans ⟨soundPut, rfl, rfl, rfl⟩, placed, ?_⟩
    · exact Step.bind_of_ok updated
    · intro index
      rw [items, List.getElem?_set, rightItems, leftItems, Branch.getElem?_records_node,
        leftShape.size_eq, if_pos inside]
      by_cases here : slot = index
      · rw [if_pos here, if_pos (by omega), if_neg (by omega), if_pos (by omega)]
      · rw [if_neg here]
        by_cases above : slot + 1 ≤ index ∧ index < slot + 1 + split.upper.length
        · have same : index - (slot + 1) = index - first - (split.lower.length + 1) := by omega
          rw [if_pos above, if_pos (by omega), if_neg (by omega), if_neg (by omega), same]
        · rw [if_neg above]
          by_cases below : first ≤ index ∧ index < first + split.lower.length
          · rw [if_pos below, if_pos (by omega), if_pos (by omega)]
          · rw [if_neg below, if_neg (by omega)]

end KdTree

end SpatialStore
