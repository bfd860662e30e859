import SpatialStore.Proofs.Tree.Gather
import SpatialStore.Proofs.Tree.Sound

/-! Building and rebuilding. Unless there is no memory for so many nodes, points that were gathered are
planted, each in one node, and the tree knows the node of each record. -/

namespace SpatialStore.KdTree

variable {γ S : Type} {N : Nat} [Scalar S] [Cell γ] [Stored (KdNode S N) γ]

def sites (tree : KdTree γ S N) : List (Site S N) := tree.records.map KdNode.site

omit [Scalar S] in
theorem length_sites (tree : KdTree γ S N) : tree.sites.length = tree.len := by
  rw [sites, List.length_map, length_records]

/-- The tree is one over these points. -/
structure Spans (tree : KdTree γ S N) (sites : List (Site S N)) : Prop where
  sound : tree.Sound
  gathered : Gathered sites
  perm : tree.sites.Perm sites
  bounds : tree.bounds = Box.around (sites.map Site.point)
  nodeOf_eq : ∀ data node, tree.nodeOf data = some node ↔ (tree.sites.map Site.slot)[node]? = some data

/-- A tree over no points. -/
theorem spans_reset {tree : KdTree γ S N} (sound : tree.nodes.Sound)
    (formed : tree.nodes.form = Stored.form (KdNode S N)) (unlimited : tree.nodes.slots.maximum = none) :
    tree.reset.Spans [] := by
  have empty := RecordPool.clear_spec sound
  have none : tree.reset.records = [] := by
    rw [records, RecordPool.items]
    exact congrArg _ empty.2
  have bears : tree.reset.Bears .nil := ⟨rfl, trivial, rfl, none.symm⟩
  have noSites : tree.reset.sites = [] := by
    rw [sites, none]
    rfl
  refine ⟨⟨empty.1, formed, unlimited, ⟨.nil, bears⟩, by rw [none]; rfl⟩, gathered_nil, ?_, rfl, ?_⟩
  · rw [noSites]
  · intro data node
    rw [noSites]
    constructor
    · intro found
      cases found
    · intro found
      cases found

theorem Spans.bears_nil {tree : KdTree γ S N} (spans : tree.Spans []) : tree.Bears .nil := by
  obtain ⟨branch, bears⟩ := spans.sound.borne
  have none : branch.size = 0 := by
    rw [bears.size_eq, ← length_sites, spans.perm.length_eq, List.length_nil]
  cases branch with
  | nil => exact bears
  | node slot record left right =>
    rw [Branch.size] at none
    omega

/-! ### The node of each record -/

theorem getElem?_foldl_insert {keys : Nat → Nat} {count : Nat}
    (distinct : ∀ first < count, ∀ second < count, keys first = keys second → first = second) (key place : Nat) :
    ((List.range count).foldl (fun (map : Std.TreeMap Nat Nat) slot => map.insert (keys slot) slot) {})[key]? =
      some place ↔ place < count ∧ keys place = key := by
  induction count with
  | zero => simp
  | succ count ih =>
    have before := ih fun first inside second within =>
      distinct first (Nat.lt_succ_of_lt inside) second (Nat.lt_succ_of_lt within)
    rw [List.range_succ, List.foldl_append, List.foldl_cons, List.foldl_nil, Std.TreeMap.getElem?_insert]
    by_cases last : keys count = key
    · rw [if_pos (Nat.compare_eq_eq.mpr last)]
      constructor
      · intro same
        obtain rfl := Option.some.inj same
        exact ⟨Nat.lt_succ_self _, last⟩
      · intro found
        exact congrArg some (distinct count (Nat.lt_succ_self _) place found.1 (last.trans found.2.symm))
    · rw [if_neg (fun same => last (Nat.compare_eq_eq.mp same)), before]
      constructor
      · intro found
        exact ⟨Nat.lt_succ_of_lt found.1, found.2⟩
      · intro found
        refine ⟨?_, found.2⟩
        rcases Nat.lt_succ_iff_lt_or_eq.mp found.1 with inside | rfl
        · exact inside
        · exact absurd found.2 last

theorem getElem?_dataSlots {tree : KdTree γ S N} (sound : tree.nodes.Sound) {node : Nat} (inside : node < tree.len) :
    (tree.sites.map Site.slot)[node]? = some (tree.view node).dataSlot := by
  rw [sites, List.map_map, List.getElem?_map, getElem?_records sound inside]
  rfl

theorem nodeOf_indexed {tree : KdTree γ S N} (sound : tree.nodes.Sound)
    (distinct : (tree.sites.map Site.slot).Nodup) (data node : Nat) :
    tree.indexNodes[data]? = some node ↔ (tree.sites.map Site.slot)[node]? = some data := by
  have listed : ∀ node < tree.len, (tree.sites.map Site.slot)[node]? = some (tree.view node).dataSlot :=
    fun _ inside => getElem?_dataSlots sound inside
  have once : ∀ first < tree.len, ∀ second < tree.len,
      (tree.view first).dataSlot = (tree.view second).dataSlot → first = second := by
    intro first inside second within same
    have atSecond := listed second within
    rw [← same] at atSecond
    exact place_unique distinct (listed first inside) atSecond
  rw [indexNodes, getElem?_foldl_insert once]
  constructor
  · intro found
    rw [listed node found.1, found.2]
  · intro found
    have inside := (List.getElem?_eq_some_iff.mp found).1
    rw [List.length_map, length_sites] at inside
    exact ⟨inside, Option.some.inj ((listed node inside).symm.trans found)⟩

/-! ### Nodes -/

/-- A pool of nodes with nothing in it. -/
structure Fallow (nodes : RecordPool (FlatSlots γ) γ) : Prop where
  sound : nodes.Sound
  form : nodes.form = Stored.form (KdNode S N)
  unlimited : nodes.slots.maximum = none
  len : nodes.len = 0

omit [Scalar S] [Stored (KdNode S N) γ] in
/-- A pool without a limit of its own has a slot left, as long as there can be a buffer for it. -/
theorem allocate_unlimited {pool : RecordPool (FlatSlots γ) γ} (sound : pool.Sound)
    (unlimited : pool.slots.maximum = none) :
    (Size.largestBuffer < (pool.len + 1) * pool.form.width ∧
      ∃ failure, RecordPool.allocate pool = .error failure pool) ∨
    (∃ next, RecordPool.allocate pool = .ok pool.len next ∧ next.Sound ∧ next.form = pool.form ∧
      next.slots.maximum = none ∧ next.len = pool.len + 1) := by
  rcases RecordPool.allocate_cases sound with
    ⟨failure, stopped, refused⟩ | ⟨store, next, rfl, taken, soundNext, _⟩
  · refine Or.inl ⟨?_, failure, refused⟩
    rcases SlotPool.allocate_spec sound.slots with
      ⟨atLimit, _, _⟩ | ⟨_, _, fault, stuck, _⟩ | ⟨store, _, taken, _⟩
    · have wide : 0 < pool.slots.width := pool.slots.store.width_pos
      have limit : pool.slots.limit = Size.largestBuffer / pool.slots.width := by
        rw [SlotPool.limit, unlimited]
        rfl
      rw [limit] at atLimit
      rw [sound.width]
      exact (Nat.div_lt_iff_lt_mul wide).mp (Nat.lt_succ_of_le atLimit)
    · have resized := FlatSlots.resize_ok pool.slots.enlarged_fits
      cases resized.symm.trans stuck
    · cases taken.symm.trans stopped
  · exact Or.inr ⟨_, taken, soundNext, rfl, unlimited, rfl⟩

omit [Scalar S] [Stored (KdNode S N) γ] in
theorem takeSlots_cases (count : Nat) {pool : RecordPool (FlatSlots γ) γ} (sound : pool.Sound)
    (unlimited : pool.slots.maximum = none) :
    (Size.largestBuffer < (pool.len + count) * pool.form.width ∧ ∃ failure next,
      takeSlots count pool = .error failure next ∧ next.Sound ∧ next.form = pool.form ∧
      next.slots.maximum = none) ∨
    (∃ next, takeSlots count pool = .ok () next ∧ next.Sound ∧ next.form = pool.form ∧
      next.slots.maximum = none ∧ next.len = pool.len + count) := by
  induction count generalizing pool with
  | zero => exact Or.inr ⟨pool, rfl, sound, rfl, unlimited, rfl⟩
  | succ count ih =>
    rcases allocate_unlimited sound unlimited with
      ⟨beyond, failure, refused⟩ | ⟨middle, taken, soundMiddle, formed, unlimitedMiddle, longer⟩
    · have more := Nat.mul_le_mul_right pool.form.width (show pool.len + 1 ≤ pool.len + (count + 1) by omega)
      exact Or.inl ⟨Nat.lt_of_lt_of_le beyond more, failure, pool, Step.bind_of_error refused, sound, rfl,
        unlimited⟩
    · rw [takeSlots, Step.bind_of_ok taken]
      have total : middle.len + count = pool.len + (count + 1) := by omega
      rcases ih soundMiddle unlimitedMiddle with
        ⟨beyond, failure, next, refused, soundNext, same, rest⟩ | ⟨next, run, soundNext, same, rest, len⟩
      · rw [total, formed] at beyond
        exact Or.inl ⟨beyond, failure, next, refused, soundNext, same.trans formed, rest⟩
      · exact Or.inr ⟨next, run, soundNext, same.trans formed, rest, len.trans total⟩

variable [LawfulStored (KdNode S N)]

/-- Nodes for points are taken and planted, or there is no room for them. -/
theorem sow_cases {nodes : RecordPool (FlatSlots γ) γ} (fallow : Fallow (S := S) (N := N) nodes)
    {sites : List (Site S N)} (gathered : Gathered sites) :
    (Size.largestBuffer < sites.length * Stored.width (KdNode S N) ∧ ∃ failure next,
      (takeSlots sites.length >>= fun _ => plant sites 0 : Step _ _ _) nodes = .error failure next ∧
      next.Sound ∧ next.form = Stored.form (KdNode S N) ∧ next.slots.maximum = none) ∨
    (∃ branch next, (takeSlots sites.length >>= fun _ => plant sites 0 : Step _ _ _) nodes =
        .ok branch.top next ∧ next.Sound ∧ next.form = Stored.form (KdNode S N) ∧
      next.slots.maximum = none ∧ Planted 0 sites branch ∧ branch.records = next.items (KdNode S N)) := by
  rcases takeSlots_cases sites.length fallow.sound fallow.unlimited with
    ⟨beyond, failure, next, refused, sound, formed, unlimited⟩ |
    ⟨middle, taken, sound, formed, unlimited, len⟩
  · rw [fallow.len, Nat.zero_add, fallow.form] at beyond
    exact Or.inl ⟨beyond, failure, next, Step.bind_of_error refused, sound, formed.trans fallow.form, unlimited⟩
  · rw [fallow.len, Nat.zero_add] at len
    rw [Step.bind_of_ok taken]
    have room : 0 + sites.length ≤ middle.len := by omega
    have few : 0 + sites.length ≤ Link.largest + 1 := by
      have short := gathered.length_le
      omega
    obtain ⟨branch, next, planted, kept, shape, items⟩ :=
      plant_ok sound (formed.trans fallow.form) room gathered.linkable few
    refine Or.inr ⟨branch, next, planted, kept.sound, kept.form.trans (formed.trans fallow.form),
      kept.maximum.trans unlimited, shape, ?_⟩
    apply List.ext_getElem?
    intro slot
    rw [items, Nat.zero_add, Nat.sub_zero]
    by_cases inside : slot < sites.length
    · rw [if_pos ⟨Nat.zero_le _, inside⟩]
    · have short : branch.records.length ≤ slot := by
        rw [Branch.length_records, shape.size_eq]
        omega
      have beyond : (middle.items (KdNode S N)).length ≤ slot := by
        rw [RecordPool.length_items]
        omega
      rw [if_neg (fun both => inside both.2), List.getElem?_eq_none short, List.getElem?_eq_none beyond]

/-! ### Building -/

/-- What is filled is a tree over the points, or there is no room for so many. -/
theorem fill_cases {tree : KdTree γ S N} (fallow : Fallow (S := S) (N := N) tree.nodes)
    {sites : List (Site S N)} (gathered : Gathered sites) :
    (Size.largestBuffer < sites.length * Stored.width (KdNode S N) ∧ ∃ failure next,
      fill sites tree = .error failure next ∧ next.nodes.Sound ∧
      next.nodes.form = Stored.form (KdNode S N) ∧ next.nodes.slots.maximum = none) ∨
    (∃ branch next, fill sites tree = .ok () next ∧ next.Spans sites ∧ next.Bears branch ∧
      Planted 0 sites branch) := by
  let sow : Step PoolFailure (KdTree γ S N) (Option Nat) :=
    Step.within KdTree.nodes (fun nodes tree => { tree with nodes }) id
      (takeSlots sites.length >>= fun _ => plant sites 0)
  rcases sow_cases fallow gathered with
    ⟨beyond, failure, nodes, refused, good⟩ |
    ⟨branch, nodes, sown, sound, formed, unlimited, shape, records⟩
  · have run : sow tree = .error failure { tree with nodes } := Step.within_error refused
    exact Or.inl ⟨beyond, failure, _, Step.bind_of_error run, good⟩
  · have run : sow tree = .ok branch.top { tree with nodes } := Step.within_ok sown
    let next : KdTree γ S N := { tree with
      nodes, root := branch.top, bounds := Box.around (sites.map Site.point), validLen := sites.length
      nodeOfData := ({ tree with nodes } : KdTree γ S N).indexNodes }
    have recorded : next.records = branch.records := records.symm
    have count : branch.size = next.len := by
      rw [← Branch.length_records, ← recorded, length_records]
    have bears : next.Bears branch := by
      refine ⟨rfl, shape.linked, ?_, records⟩
      rw [shape.slots_eq, count, List.range_eq_range']
    have valid : next.validLen = next.records.countP KdNode.valid := by
      rw [recorded, List.countP_eq_length.mpr shape.valid, Branch.length_records, shape.size_eq]
    have perm : next.sites.Perm sites := by
      rw [KdTree.sites, recorded]
      exact shape.records_perm
    have distinct : (next.sites.map Site.slot).Nodup :=
      (perm.map Site.slot).nodup_iff.mpr gathered.distinct
    have soundNext : next.Sound := ⟨sound, formed, unlimited, ⟨branch, bears⟩, valid⟩
    refine Or.inr ⟨branch, next, Step.bind_of_ok run, ⟨soundNext, gathered, perm, rfl, ?_⟩, bears, shape⟩
    exact nodeOf_indexed sound distinct

/-- What rebuilding leaves: the tree as it was, if records are turned down; a tree over their points; or a
tree over none, if there is no room for so many nodes. -/
theorem rebuild_cases {α σ : Type} (τ : Type) [SlotStore α σ] [Stored τ σ] [Located τ S N]
    {tree : KdTree γ S N} (sound : tree.nodes.Sound) (formed : tree.nodes.form = Stored.form (KdNode S N))
    (unlimited : tree.nodes.slots.maximum = none) (source : RecordPool α σ) (slots : List Nat) :
    (∃ failure, gather τ source {} slots = .error failure ∧
      rebuild τ source slots tree = .error failure tree) ∨
    (Size.largestBuffer < slots.length * Stored.width (KdNode S N) ∧ ∃ sites failure next,
      gather τ source {} slots = .ok sites ∧ rebuild τ source slots tree = .error failure next ∧
      next.Spans []) ∨
    (∃ sites branch next, gather τ source {} slots = .ok sites ∧
      rebuild τ source slots tree = .ok () next ∧ next.Spans sites ∧ next.Bears branch ∧
      Planted 0 sites branch) := by
  unfold rebuild
  cases gathering : gather τ source {} slots with
  | error failure => exact Or.inl ⟨failure, rfl, rfl⟩
  | ok sites =>
    have gathered := Gathered.of_gather gathering
    have listed : sites.length = slots.length := by
      rw [← (gather_ok gathering).1, List.length_map]
    have cleared := RecordPool.clear_spec sound
    have fallow : Fallow (S := S) (N := N) tree.reset.nodes := ⟨cleared.1, formed, unlimited, rfl⟩
    rcases fill_cases fallow gathered with
      ⟨beyond, failure, next, refused, soundNext, formedNext, unlimitedNext⟩ |
      ⟨branch, next, filled, spans, bears, shape⟩
    · refine Or.inr (Or.inl ⟨listed ▸ beyond, sites, failure.inTree, next.reset, rfl, ?_,
        spans_reset soundNext formedNext unlimitedNext⟩)
      simp only [refused]
    · refine Or.inr (Or.inr ⟨sites, branch, { next with builtAt := source.modifications }, rfl, ?_, ?_, ?_, shape⟩)
      · simp only [filled]
      · obtain ⟨soundNext, _, perm, bounds, nodeOf⟩ := spans
        obtain ⟨nodes, form, maximum, ⟨borne, bears⟩, valid⟩ := soundNext
        exact ⟨⟨nodes, form, maximum, ⟨borne, bears.root, bears.linked, bears.slots, bears.records⟩, valid⟩,
          gathered, perm, bounds, nodeOf⟩
      · exact ⟨bears.root, bears.linked, bears.slots, bears.records⟩

/-- What a list that was accepted leaves. -/
theorem rebuild_ok {α σ τ : Type} [SlotStore α σ] [Stored τ σ] [Located τ S N] {source : RecordPool α σ}
    {slots : List Nat} {tree next : KdTree γ S N} (sound : tree.Sound)
    (rebuilt : rebuild τ source slots tree = .ok () next) :
    ∃ sites branch, gather τ source {} slots = .ok sites ∧ next.Spans sites ∧ next.Bears branch ∧
      Planted 0 sites branch := by
  rcases rebuild_cases τ sound.nodes sound.form sound.unlimited source slots with
    ⟨_, _, run⟩ | ⟨_, _, _, _, _, run, _⟩ | ⟨sites, branch, _, gathering, run, result⟩
  · exact nomatch run.symm.trans rebuilt
  · exact nomatch run.symm.trans rebuilt
  · obtain ⟨_, rfl⟩ := EStateM.Result.ok.inj (run.symm.trans rebuilt)
    exact ⟨sites, branch, gathering, result⟩

theorem rebuild_error {α σ τ : Type} [SlotStore α σ] [Stored τ σ] [Located τ S N] {source : RecordPool α σ}
    {slots : List Nat} {tree next : KdTree γ S N} {failure : TreeFailure} (sound : tree.Sound)
    (refused : rebuild τ source slots tree = .error failure next) :
    ((gather τ source {} slots : Except TreeFailure (List (Site S N))) = .error failure ∧ next = tree) ∨
    (∃ sites : List (Site S N), gather τ source {} slots = .ok sites ∧ next.Spans []) := by
  rcases rebuild_cases τ sound.nodes sound.form sound.unlimited source slots with
    ⟨_, missed, run⟩ | ⟨_, sites, _, _, gathering, run, spans⟩ | ⟨_, _, _, _, run, _⟩
  · obtain ⟨rfl, rfl⟩ := EStateM.Result.error.inj (run.symm.trans refused)
    exact Or.inl ⟨missed, rfl⟩
  · obtain ⟨_, rfl⟩ := EStateM.Result.error.inj (run.symm.trans refused)
    exact Or.inr ⟨sites, gathering, spans⟩
  · exact nomatch run.symm.trans refused

theorem build_cases {α σ τ : Type} [SlotStore α σ] [Stored τ σ] [Located τ S N] {source : RecordPool α σ}
    {slots : List Nat} {tree : KdTree γ S N} (made : build τ source slots = .ok tree) :
    ∃ sites branch, gather τ source {} slots = .ok sites ∧ tree.Spans sites ∧ tree.Bears branch ∧
      Planted 0 sites branch := by
  unfold build at made
  cases taken : (RecordPool.ofStored (KdNode S N) 0 (Sizing.ofCapacity (Nat.max slots.length 1)) :
      Except PoolFailure (RecordPool (FlatSlots γ) γ)) with
  | error failure =>
    rw [taken] at made
    exact nomatch made
  | ok nodes =>
    have fits : (Stored.form (KdNode S N)).fresh.length = (Stored.form (KdNode S N)).width :=
      LawfulStored.length_encode _
    obtain ⟨sound, formed, _⟩ := RecordPool.sound_make fits taken
    have unlimited : nodes.slots.maximum = none := RecordPool.maximum_make taken
    let start : KdTree γ S N := { nodes, builtAt := source.modifications }
    have begun : start.nodes.Sound := sound
    simp only [taken] at made
    rcases rebuild_cases τ begun formed unlimited source slots with
      ⟨failure, _, refused⟩ | ⟨_, _, failure, next, _, refused, _⟩ |
      ⟨sites, branch, next, gathering, rebuilt, result⟩
    · simp only [start] at refused
      rw [refused] at made
      exact nomatch made
    · simp only [start] at refused
      rw [refused] at made
      exact nomatch made
    · simp only [start] at rebuilt
      rw [rebuilt] at made
      obtain rfl := Except.ok.inj made
      exact ⟨sites, branch, gathering, result⟩

end SpatialStore.KdTree
