import SpatialStore.Proofs.Number.Exact
import SpatialStore.Proofs.Tree.Rebuild

/-! Reachable trees: those that come from building, rebuilding and marking nodes, also where any of that
was turned down. They are sound, and, with room for the dimensions in the nodes, sorted. -/

namespace SpatialStore.KdTree

variable {γ S : Type} {N : Nat} [Scalar S] [Cell γ] [Stored (KdNode S N) γ]

/-- The trees that there can be. -/
inductive Reached : KdTree γ S N → Prop
  | built {α σ τ : Type} [SlotStore α σ] [Stored τ σ] [Located τ S N] {source : RecordPool α σ}
      {slots : List Nat} {tree : KdTree γ S N} (made : build τ source slots = .ok tree) : Reached tree
  | rebuilt {α σ τ : Type} [SlotStore α σ] [Stored τ σ] [Located τ S N] (source : RecordPool α σ)
      (slots : List Nat) {tree : KdTree γ S N} (reached : Reached tree) :
      Reached ((rebuild τ source slots).left tree)
  | marked (slot : Nat) (valid : Bool) {tree : KdTree γ S N} (reached : Reached tree) :
      Reached ((setValid slot valid).left tree)
  | markedData (data : Nat) (valid : Bool) {tree : KdTree γ S N} (reached : Reached tree) :
      Reached ((setValidData data valid).left tree)
  | validated {tree : KdTree γ S N} (reached : Reached tree) : Reached (validateAll.left tree)

variable [LawfulStored (KdNode S N)]

/-! ### Validity -/

/-- The tree with another validity in one node. -/
def withMark (tree : KdTree γ S N) (slot : Nat) (valid : Bool) : KdTree γ S N :=
  { tree with
    nodes := tree.nodes.put slot (Stored.encode ((tree.view slot).withValid valid))
    validLen := if valid then tree.validLen + 1 else tree.validLen - 1 }

theorem setValid_ok {tree : KdTree γ S N} (sound : tree.Sound) {slot : Nat} (inside : slot < tree.len)
    {valid : Bool} (other : (tree.view slot).valid ≠ valid) :
    setValid slot valid tree = .ok () (tree.withMark slot valid) ∧ (tree.withMark slot valid).nodes.Sound ∧
      (tree.withMark slot valid).records = tree.records.set slot ((tree.view slot).withValid valid) := by
  obtain ⟨updated, _, soundPut, items⟩ := RecordPool.update_ok sound.nodes sound.form
    (getElem?_records sound.nodes inside) (fun record : KdNode S N => record.withValid valid)
  refine ⟨?_, soundPut, items⟩
  unfold setValid
  simp only [if_pos inside, if_neg other, updated]
  rfl

/-- Marking a node is refused, or changes nothing, or changes the validity of that node. -/
theorem setValid_cases {tree : KdTree γ S N} (sound : tree.Sound) (slot : Nat) (valid : Bool) :
    (∃ failure, setValid slot valid tree = .error failure tree) ∨
    setValid slot valid tree = .ok () tree ∨
    (∃ nodes validLen next, next = { tree with nodes, validLen } ∧ setValid slot valid tree = .ok () next ∧
      next.Sound ∧ next.Bears (tree.outline.mark slot valid) ∧ next.sites = tree.sites) := by
  by_cases inside : slot < tree.len
  · by_cases same : (tree.view slot).valid = valid
    · exact Or.inr (Or.inl (by simp only [setValid, if_pos inside, if_pos same]))
    · obtain ⟨marked, soundNext, records⟩ := setValid_ok sound inside same
      have found := getElem?_records sound.nodes inside
      have length : slot < tree.records.length := (List.getElem?_eq_some_iff.mp found).1
      have old : tree.records[slot] = tree.view slot := (List.getElem?_eq_some_iff.mp found).2
      have before := sound.bears
      have bears : (tree.withMark slot valid).Bears (tree.outline.mark slot valid) := by
        refine ⟨?_, before.linked.mark slot valid, ?_, ?_⟩
        · rw [Branch.mark, Branch.top_revise]
          exact before.root
        · rw [Branch.mark, Branch.slots_revise]
          exact before.slots
        · have marked := Branch.records_mark before.consecutive (before.records ▸ found) valid
          rw [Nat.zero_add, before.records] at marked
          rw [records, marked]
      refine Or.inr (Or.inr ⟨_, _, tree.withMark slot valid, rfl, marked,
        ⟨soundNext, sound.form, sound.unlimited, ⟨_, bears⟩, ?_⟩, bears, ?_⟩)
      · rw [records, List.countP_set length, old, KdNode.valid_withValid]
        change (if valid = true then tree.validLen + 1 else tree.validLen - 1) = _
        rw [sound.validLen, Bool.eq_not.mpr same]
        cases valid with
        | true => simp
        | false => simp
      · have here : tree.sites[slot]? = some ((tree.view slot).withValid valid).site := by
          rw [sites, List.getElem?_map, found]
          rfl
        obtain ⟨_, same⟩ := List.getElem?_eq_some_iff.mp here
        rw [sites, records, List.map_set, ← same, ← sites, List.set_getElem_self]
  · exact Or.inl ⟨_, if_neg inside⟩

omit [LawfulStored (KdNode S N)] in
theorem left_setValidData {motive : KdTree γ S N → Prop} {tree : KdTree γ S N} (holds : motive tree)
    (kept : ∀ slot valid, motive ((setValid slot valid).left tree)) (data : Nat) (valid : Bool) :
    motive ((setValidData data valid).left tree) := by
  cases found : tree.nodeOf data with
  | none =>
    have refused : setValidData data valid tree = .error (.refused (.notInTree data)) tree := by
      simp only [setValidData, found]
    rw [Step.left_of_error refused]
    exact holds
  | some slot =>
    have same : setValidData data valid tree = setValid slot valid tree := by
      simp only [setValidData, found]
    rw [Step.left, same]
    exact kept slot valid

omit [LawfulStored (KdNode S N)] in
theorem left_validateSlots {motive : KdTree γ S N → Prop}
    (kept : ∀ tree slot, motive tree → motive ((setValid slot true).left tree)) {tree : KdTree γ S N}
    (holds : motive tree) (slots : List Nat) : motive ((validateSlots slots).left tree) := by
  induction slots generalizing tree with
  | nil => exact holds
  | cons slot rest ih =>
    have marked := kept tree slot holds
    cases run : setValid slot true tree with
    | error failure next =>
      rw [Step.left_of_error run] at marked
      rw [validateSlots, Step.left_of_error (Step.bind_of_error run)]
      exact marked
    | ok answer next =>
      rw [Step.left_of_ok run] at marked
      rw [validateSlots, Step.left, Step.bind_of_ok run]
      exact ih marked

theorem spans_setValid {tree : KdTree γ S N} {sites : List (Site S N)} (spans : tree.Spans sites) (slot : Nat)
    (valid : Bool) : ((setValid slot valid).left tree).Spans sites := by
  rcases setValid_cases spans.sound slot valid with
    ⟨failure, refused⟩ | same | ⟨nodes, validLen, next, rfl, marked, soundNext, _, sameSites⟩
  · rw [Step.left_of_error refused]
    exact spans
  · rw [Step.left_of_ok same]
    exact spans
  · rw [Step.left_of_ok marked]
    refine ⟨soundNext, spans.gathered, ?_, spans.bounds, ?_⟩
    · rw [sameSites]
      exact spans.perm
    · intro data node
      rw [sameSites]
      exact spans.nodeOf_eq data node

/-! ### All of that -/

/-- A tree as it comes out of building and marking. -/
structure Tended (tree : KdTree γ S N) : Prop where
  sound : tree.Sound
  spans : ∃ sites, tree.Spans sites
  sorted : RankedScalar S → N ≤ KdNode.dimensions → tree.outline.Sorted
  splitsBelow : N ≤ KdNode.dimensions → tree.outline.SplitsBelow (Nat.max N 1)

omit [LawfulStored (KdNode S N)] in
theorem tended_planted {tree : KdTree γ S N} {sites : List (Site S N)} {branch : Branch S N}
    (spans : tree.Spans sites) (bears : tree.Bears branch) (planted : Planted 0 sites branch) : tree.Tended := by
  have outline := outline_eq spans.sound.nodes bears
  refine ⟨spans.sound, ⟨sites, spans⟩, ?_, ?_⟩
  · intro ranked room
    exact outline ▸ planted.sorted room
  · intro room
    exact outline ▸ planted.splitsBelow room

theorem tended_rebuild {α σ : Type} (τ : Type) [SlotStore α σ] [Stored τ σ] [Located τ S N]
    {tree : KdTree γ S N} (tended : tree.Tended) (source : RecordPool α σ) (slots : List Nat) :
    ((rebuild τ source slots).left tree).Tended := by
  have sound := tended.sound
  rcases rebuild_cases τ sound.nodes sound.form sound.unlimited source slots with
    ⟨_, _, refused⟩ | ⟨_, _, _, next, _, refused, spans⟩ | ⟨_, _, next, _, rebuilt, spans, bears, planted⟩
  · rw [Step.left_of_error refused]
    exact tended
  · rw [Step.left_of_error refused]
    exact tended_planted spans spans.bears_nil .nil
  · rw [Step.left_of_ok rebuilt]
    exact tended_planted spans bears planted

theorem tended_setValid {tree : KdTree γ S N} (tended : tree.Tended) (slot : Nat) (valid : Bool) :
    ((setValid slot valid).left tree).Tended := by
  obtain ⟨sites, spans⟩ := tended.spans
  have spansNext := spans_setValid spans slot valid
  rcases setValid_cases tended.sound slot valid with
    ⟨failure, refused⟩ | same | ⟨_, _, next, _, marked, soundNext, bears, _⟩
  · rw [Step.left_of_error refused]
    exact tended
  · rw [Step.left_of_ok same]
    exact tended
  · have outline := outline_eq soundNext.nodes bears
    rw [Step.left_of_ok marked] at spansNext ⊢
    refine ⟨soundNext, ⟨sites, spansNext⟩, ?_, ?_⟩
    · intro ranked room
      exact outline ▸ (tended.sorted ranked room).mark slot valid
    · intro room
      exact outline ▸ (tended.splitsBelow room).mark slot valid

theorem Reached.tended {tree : KdTree γ S N} (reached : Reached tree) : tree.Tended := by
  induction reached with
  | built made =>
    obtain ⟨sites, branch, _, spans, bears, planted⟩ := build_cases made
    exact tended_planted spans bears planted
  | @rebuilt α σ τ _ _ _ source slots tree _ ih => exact tended_rebuild τ ih source slots
  | marked slot valid _ ih => exact tended_setValid ih slot valid
  | markedData data valid _ ih => exact left_setValidData (motive := Tended) ih (tended_setValid ih) data valid
  | @validated tree _ ih =>
    have kept : ∀ (tree : KdTree γ S N) slot, tree.Tended → ((setValid slot true).left tree).Tended :=
      fun _ slot tended => tended_setValid tended slot true
    exact left_validateSlots kept ih (List.range tree.len)

end SpatialStore.KdTree

namespace SpatialStore

/-! ### Trees over given points -/

namespace KdTree

section

variable {S : Type} {N : Nat}

def scatter {σ : Type} [Cell σ] [Stored (Point S N) σ] :
    List (Point S N) → Step PoolFailure (RecordPool (FlatSlots σ) σ) Unit
  | [] => pure ()
  | point :: rest => do
    let slot ← RecordPool.allocate
    RecordPool.update slot fun _ => point
    scatter rest

variable [Scalar S] (γ σ : Type) [Cell γ] [Stored (KdNode S N) γ] [Cell σ] [Stored (Point S N) σ]

def overPoints (points : List (Point S N)) : Except TreeFailure (KdTree γ S N) :=
  match RecordPool.ofStored (Point S N) 0 {} with
  | .error failure => .error failure.inTree
  | .ok pool => build (σ := σ) (Point S N) ((scatter points).left pool) (List.range points.length)

theorem exists_overPoints (points : List (Point S N)) (good : KdTree γ S N → Bool)
    (passes : (overPoints γ σ points).toOption.any good = true) :
    ∃ tree : KdTree γ S N, tree.Reached ∧ good tree = true := by
  unfold overPoints at passes
  split at passes
  next => exact nomatch passes
  next pool _ =>
    cases made : build (γ := γ) (Point S N) ((scatter points).left pool) (List.range points.length) with
    | error failure =>
      rw [made] at passes
      exact nomatch passes
    | ok tree =>
      rw [made] at passes
      exact ⟨tree, .built made, passes⟩

end

/-! Nodes and points of rational numbers take one cell each, whole. -/

section

variable {N : Nat}

instance : Cell (Point ℚ N) := ⟨Vector.replicate N 0⟩

instance : Stored (Point ℚ N) (Point ℚ N) where
  width := 1
  fresh := Cell.blank
  encode point := [point]
  decode cells := cells.headD Cell.blank

instance : Cell (KdNode ℚ N) := ⟨KdNode.fresh⟩

instance : Stored (KdNode ℚ N) (KdNode ℚ N) where
  width := 1
  fresh := KdNode.fresh
  encode node := [node]
  decode cells := cells.headD KdNode.fresh

instance : LawfulStored (KdNode ℚ N) where
  length_encode _ := rfl
  decode_encode _ := rfl

def ofPoints (points : List (Point ℚ N)) : Except TreeFailure (KdTree (KdNode ℚ N) ℚ N) :=
  overPoints (KdNode ℚ N) (Point ℚ N) points

theorem exists_ofPoints (points : List (Point ℚ N)) (good : KdTree (KdNode ℚ N) ℚ N → Bool)
    (passes : (ofPoints points).toOption.any good = true) :
    ∃ tree : KdTree (KdNode ℚ N) ℚ N, tree.Reached ∧ good tree = true :=
  exists_overPoints _ _ points good passes

end

end KdTree

/-! ### A tree over doubles -/

namespace KdTree

def notNumber : Double := ⟨0x7ff8000000000000⟩

def pointPool : Step PoolFailure (RecordPool (FlatSlots UInt8) UInt8) Unit := do
  let first ← RecordPool.allocate
  let _ ← RecordPool.allocate
  RecordPool.update first fun _ : Point Double 1 => #v[notNumber]

theorem exists_over_pointPool :
    ∃ tree : KdTree UInt8 Double 1, tree.Reached ∧ (tree.sites.map Site.point).Perm [#v[notNumber], #v[⟨0⟩]] := by
  obtain ⟨start, _, points, planted⟩ : ∃ start : RecordPool (FlatSlots UInt8) UInt8,
      RecordPool.ofStored (Point Double 1) 0 {} = .ok start ∧
      (gather (Point Double 1) (pointPool.left start) {} [0, 1]).toOption.map
        (List.map (Site.point (S := Double) (N := 1))) = some [#v[notNumber], #v[⟨0⟩]] ∧
      (build (Point Double 1) start [] : Except _ (KdTree UInt8 Double 1)).toOption.isSome = true := by
    refine ⟨_, rfl, ?_, ?_⟩
    · decide +kernel
    · decide +kernel
  cases built : (build (Point Double 1) start [] : Except _ (KdTree UInt8 Double 1)) with
  | error failure =>
    rw [built] at planted
    cases planted
  | ok empty =>
    have sound := (Reached.built built).tended.sound
    rcases rebuild_cases (Point Double 1) sound.nodes sound.form sound.unlimited
        (pointPool.left start) [0, 1] with
      ⟨failure, failed, _⟩ | ⟨beyond, _⟩ | ⟨sites, _, tree, gathered, rebuilt, spans, _⟩
    · rw [failed] at points
      cases points
    · exact absurd beyond (by decide)
    · rw [gathered] at points
      have perm := spans.perm.map Site.point
      rw [Option.some.inj points] at perm
      have reached := (Reached.built built).rebuilt (τ := Point Double 1) (pointPool.left start) [0, 1]
      rw [Step.left_of_ok rebuilt] at reached
      exact ⟨tree, reached, perm⟩

end KdTree

end SpatialStore
