import Mathlib.Logic.Function.Basic
import SpatialStore.Proofs.Tree.Listing

/-! Marking nodes, in any order and however often. The tree that comes of it depends only on which nodes are
valid in the end, down to the cells that the nodes are kept in. -/

namespace SpatialStore

/-! ### Nodes that can be marked back -/

namespace KdNode

variable {S : Type} {N : Nat}

theorem withValid_withValid (node : KdNode S N) (first second : Bool) :
    (node.withValid first).withValid second = node.withValid second := by
  rw [withValid, dimension_withValid]
  rfl

theorem withValid_of_make {position : Point S N} {left right : Option Nat} {data dimension : Nat}
    {node : KdNode S N} (made : make position left right data dimension = .ok node)
    (fits : dimension < dimensions) : node.withValid node.valid = node := by
  obtain ⟨_, _, _, _, valid, kept⟩ := of_make made
  rw [withValid, valid, kept fits]
  unfold make at made
  obtain ⟨_, _, rest⟩ := bind_eq_ok.mp made
  obtain ⟨_, _, rest⟩ := bind_eq_ok.mp rest
  obtain ⟨_, _, rest⟩ := bind_eq_ok.mp rest
  obtain rfl := Except.ok.inj rest
  rfl

end KdNode

theorem Planted.withValid {S : Type} {N : Nat} [Scalar S] {first : Nat} {sites : List (Site S N)}
    {branch : Branch S N} (room : N ≤ KdNode.dimensions) (planted : Planted first sites branch) :
    ∀ record ∈ branch.records, record.withValid record.valid = record := by
  induction planted with
  | nil => simp [Branch.records]
  | node halves _ _ recorded leftIh rightIh =>
    have fits := dimension_fits room halves
    intro record member
    rcases List.mem_append.mp member with inLeft | inRest
    · exact leftIh record inLeft
    · rcases List.mem_cons.mp inRest with rfl | inRight
      · exact KdNode.withValid_of_make recorded fits
      · exact rightIh record inRight

namespace KdTree

variable {γ S : Type} {N : Nat} [Scalar S] [Cell γ] [Stored (KdNode S N) γ]

/-! ### Trees that differ in validity alone -/

/-- Marking a node as what it is would leave each node as it is. -/
def Tidy (tree : KdTree γ S N) : Prop := ∀ record ∈ tree.records, record.withValid record.valid = record

def cells (tree : KdTree γ S N) : Array γ := tree.nodes.slots.store.cells

def withCells (tree : KdTree γ S N) (cells : Array γ) (validLen : Nat) : KdTree γ S N :=
  let store := { tree.nodes.slots.store with cells }
  { tree with nodes := { tree.nodes with slots := { tree.nodes.slots with store } }, validLen }

/-- A tree that was marked until its nodes were valid as is said. -/
structure Marked (tree : KdTree γ S N) (valid : Nat → Bool) (next : KdTree γ S N) : Prop where
  sound : next.Sound
  shape : ∃ cells validLen, next = tree.withCells cells validLen
  beyond : ∀ index, tree.len * Stored.width (KdNode S N) ≤ index → next.cells[index]? = tree.cells[index]?
  view : ∀ slot < tree.len, next.view slot = (tree.view slot).withValid (valid slot)

theorem marked_self {tree : KdTree γ S N} (sound : tree.Sound) (tidy : tree.Tidy) :
    tree.Marked (fun slot => (tree.view slot).valid) tree where
  sound := sound
  shape := ⟨tree.cells, tree.validLen, rfl⟩
  beyond _ _ := rfl
  view _ inside := (tidy _ (List.mem_of_getElem? (getElem?_records sound.nodes inside))).symm

omit [Scalar S] in
theorem width_eq {tree : KdTree γ S N} (sound : tree.Sound) :
    tree.nodes.slots.store.width = Stored.width (KdNode S N) :=
  sound.nodes.width.symm.trans (congrArg Form.width sound.form)

theorem validLen_eq {tree : KdTree γ S N} (sound : tree.Sound) :
    tree.validLen = (List.range tree.len).countP fun slot => (tree.view slot).valid := by
  rw [sound.validLen, sound.records_eq, List.countP_map]
  rfl

/-- With rows that are nothing but their node, the cells of a row are those of the node in it. -/
theorem read_cells [PackedStored (KdNode S N)] {tree : KdTree γ S N} (sound : tree.Sound) {slot : Nat}
    (inside : slot < tree.len) :
    Cells.read tree.cells (slot * Stored.width (KdNode S N)) (Stored.width (KdNode S N)) =
      Stored.encode (tree.view slot) := by
  have stored : slot < tree.nodes.slots.store.size := Nat.lt_of_lt_of_le inside sound.nodes.slots.room
  have read : SlotStore.read tree.nodes.slots.store slot = .ok _ :=
    FlatSlots.read_eq sound.nodes.slots.store stored
  have fits := FlatSlots.slot_fits stored
  have seen : tree.view slot = Stored.decode (Cells.read tree.cells (slot * tree.nodes.slots.store.width)
      tree.nodes.slots.store.width) := by
    rw [view, read]
    rfl
  rw [width_eq sound] at fits seen
  rw [seen, PackedStored.encode_decode]
  exact Cells.length_read fits

namespace Marked

variable {tree next last : KdTree γ S N} {valid other : Nat → Bool}

theorem len (marked : tree.Marked valid next) : next.len = tree.len := by
  obtain ⟨cells, validLen, rfl⟩ := marked.shape
  rfl

theorem congr (marked : tree.Marked valid next) (same : ∀ slot < tree.len, other slot = valid slot) :
    tree.Marked other next where
  sound := marked.sound
  shape := marked.shape
  beyond := marked.beyond
  view slot inside := by rw [same slot inside, marked.view slot inside]

theorem valid_view (marked : tree.Marked valid next) {slot : Nat} (inside : slot < tree.len) :
    (next.view slot).valid = valid slot := by
  rw [marked.view slot inside, KdNode.valid_withValid]

/-- There is one tree for each way in which nodes can be valid. -/
theorem unique [PackedStored (KdNode S N)] (first : tree.Marked valid next) (second : tree.Marked other last)
    (same : ∀ slot < tree.len, valid slot = other slot) : next = last := by
  have views : ∀ slot < tree.len, next.view slot = last.view slot := by
    intro slot inside
    rw [first.view slot inside, second.view slot inside, same slot inside]
  have cells : next.cells = last.cells := by
    apply Array.ext_getElem?
    intro index
    by_cases beyond : tree.len * Stored.width (KdNode S N) ≤ index
    · rw [first.beyond index beyond, second.beyond index beyond]
    · have before := Nat.lt_of_not_le beyond
      have inside := Nat.div_lt_of_lt_mul (Nat.mul_comm _ _ ▸ before)
      have place := Nat.mod_lt index (Nat.pos_of_lt_mul_left before)
      have row : Cells.read next.cells _ _ = Cells.read last.cells _ _ :=
        (read_cells first.sound (Nat.lt_of_lt_of_eq inside first.len.symm)).trans
          ((congrArg Stored.encode (views _ inside)).trans
            (read_cells second.sound (Nat.lt_of_lt_of_eq inside second.len.symm)).symm)
      have cell := congrArg (fun row => row[index % Stored.width (KdNode S N)]?) row
      simp only [Cells.getElem?_read, if_pos place, Nat.div_add_mod'] at cell
      exact cell
  have validLen : next.validLen = last.validLen := by
    rw [validLen_eq first.sound, validLen_eq second.sound, first.len, second.len]
    apply List.countP_congr
    intro slot member
    rw [views slot (List.mem_range.mp member)]
  obtain ⟨firstCells, firstLen, rfl⟩ := first.shape
  obtain ⟨secondCells, secondLen, rfl⟩ := second.shape
  change firstCells = secondCells at cells
  change firstLen = secondLen at validLen
  rw [cells, validLen]

end Marked

theorem tidy_planted {tree : KdTree γ S N} {branch : Branch S N} {sites : List (Site S N)}
    (room : N ≤ KdNode.dimensions) (bears : tree.Bears branch) (planted : Planted 0 sites branch) : tree.Tidy :=
  fun record member => planted.withValid room record (bears.records ▸ member)

variable [LawfulStored (KdNode S N)]

/-! ### Marking one node -/

theorem sound_setValid {tree : KdTree γ S N} (sound : tree.Sound) (slot : Nat) (valid : Bool) :
    ((setValid slot valid).left tree).Sound := by
  rcases setValid_cases sound slot valid with
    ⟨failure, refused⟩ | same | ⟨_, _, next, _, marked, soundNext, _⟩
  · rw [Step.left_of_error refused]
    exact sound
  · rw [Step.left_of_ok same]
    exact sound
  · rw [Step.left_of_ok marked]
    exact soundNext

theorem tidy_setValid {tree : KdTree γ S N} (sound : tree.Sound) (tidy : tree.Tidy) (slot : Nat)
    (valid : Bool) : ((setValid slot valid).left tree).Tidy := by
  by_cases inside : slot < tree.len
  · by_cases same : (tree.view slot).valid = valid
    · have run : setValid slot valid tree = .ok () tree := by
        simp only [setValid, if_pos inside, if_pos same]
      rw [Step.left_of_ok run]
      exact tidy
    · obtain ⟨marked, _, records⟩ := setValid_ok sound inside same
      rw [Step.left_of_ok marked]
      intro record member
      rw [records] at member
      rcases List.mem_or_eq_of_mem_set member with old | rfl
      · exact tidy record old
      · rw [KdNode.valid_withValid, KdNode.withValid_withValid]
  · have refused : setValid slot valid tree = .error (.refused (.nodeOutOfRange slot tree.len)) tree :=
      if_neg inside
    rw [Step.left_of_error refused]
    exact tidy

theorem Reached.tidy {tree : KdTree γ S N} (reached : Reached tree) (room : N ≤ KdNode.dimensions) :
    tree.Tended ∧ tree.Tidy := by
  have marks : ∀ (tree : KdTree γ S N) slot valid, tree.Tended ∧ tree.Tidy →
      ((setValid slot valid).left tree).Tended ∧ ((setValid slot valid).left tree).Tidy :=
    fun _ slot valid both => ⟨tended_setValid both.1 slot valid, tidy_setValid both.1.sound both.2 slot valid⟩
  induction reached with
  | built made =>
    obtain ⟨_, _, _, spans, bears, planted⟩ := build_cases made
    exact ⟨tended_planted spans bears planted, tidy_planted room bears planted⟩
  | @rebuilt α σ τ _ _ _ source slots tree _ ih =>
    refine ⟨tended_rebuild τ ih.1 source slots, ?_⟩
    have sound := ih.1.sound
    rcases rebuild_cases τ sound.nodes sound.form sound.unlimited source slots with
      ⟨_, _, refused⟩ | ⟨_, _, _, next, _, refused, spans⟩ | ⟨_, _, next, _, rebuilt, _, bears, planted⟩
    · rw [Step.left_of_error refused]
      exact ih.2
    · rw [Step.left_of_error refused]
      exact tidy_planted room spans.bears_nil .nil
    · rw [Step.left_of_ok rebuilt]
      exact tidy_planted room bears planted
  | marked slot valid _ ih => exact marks _ slot valid ih
  | @markedData data valid tree _ ih =>
    have each := fun slot valid => marks tree slot valid ih
    exact left_setValidData (motive := fun tree => tree.Tended ∧ tree.Tidy) ih each data valid
  | @validated tree _ ih =>
    have each := fun tree slot => marks tree slot true
    exact left_validateSlots (motive := fun tree => tree.Tended ∧ tree.Tidy) each ih (List.range tree.len)

theorem Marked.setValid {tree next : KdTree γ S N} {valid : Nat → Bool} (marked : tree.Marked valid next)
    {slot : Nat} (inside : slot < tree.len) (mark : Bool) :
    ∃ last, KdTree.setValid slot mark next = .ok () last ∧
      tree.Marked (Function.update valid slot mark) last := by
  have insideNext : slot < next.len := marked.len ▸ inside
  by_cases same : (next.view slot).valid = mark
  · refine ⟨next, by simp only [KdTree.setValid, if_pos insideNext, if_pos same], marked.congr ?_⟩
    intro other _
    rw [Function.update_apply]
    split
    next here => rw [here, ← same, marked.valid_view inside]
    next => rfl
  · obtain ⟨run, soundLast, records⟩ := setValid_ok marked.sound insideNext same
    have sound := sound_setValid marked.sound slot mark
    rw [Step.left_of_ok run] at sound
    refine ⟨_, run, sound, ?_, ?_, ?_⟩
    · obtain ⟨cells, validLen, rfl⟩ := marked.shape
      exact ⟨_, _, rfl⟩
    · intro index beyond
      rw [← marked.beyond index beyond]
      change (Cells.write next.cells (slot * next.nodes.slots.store.width) _)[index]? = _
      have row := Nat.mul_le_mul_right (Stored.width (KdNode S N)) (Nat.succ_le_of_lt inside)
      rw [Nat.succ_mul] at row
      rw [Cells.getElem?_write, if_neg]
      rw [LawfulStored.length_encode, width_eq marked.sound]
      omega
    · intro other otherInside
      have found := getElem?_records soundLast (Nat.lt_of_lt_of_eq otherInside marked.len.symm)
      rw [records, List.getElem?_set] at found
      rw [Function.update_apply]
      split at found
      next here =>
        subst here
        rw [length_records, if_pos insideNext] at found
        rw [if_pos rfl, ← Option.some.inj found, marked.view slot inside, KdNode.withValid_withValid]
      next apart =>
        rw [getElem?_records marked.sound.nodes (Nat.lt_of_lt_of_eq otherInside marked.len.symm)] at found
        rw [if_neg (Ne.symm apart), ← Option.some.inj found, marked.view other otherInside]

/-! ### Marking many -/

theorem Marked.validateSlots {tree next : KdTree γ S N} {valid : Nat → Bool} (marked : tree.Marked valid next)
    {slots : List Nat} (inside : ∀ slot ∈ slots, slot < tree.len) :
    ∃ last, KdTree.validateSlots slots next = .ok () last ∧
      tree.Marked (fun slot => decide (slot ∈ slots) || valid slot) last := by
  induction slots generalizing next valid with
  | nil =>
    refine ⟨next, rfl, marked.congr ?_⟩
    intro slot _
    simp
  | cons first rest ih =>
    obtain ⟨middle, run, markedFirst⟩ := marked.setValid (inside first List.mem_cons_self) true
    obtain ⟨last, runRest, markedRest⟩ :=
      ih markedFirst fun slot member => inside slot (List.mem_cons_of_mem _ member)
    refine ⟨last, (Step.bind_of_ok run).trans runRest, markedRest.congr ?_⟩
    intro slot _
    rw [Function.update_apply]
    by_cases here : slot = first
    · simp [here]
    · simp [here]

inductive Mark
  | node (slot : Nat) (valid : Bool)
  | ofData (data : Nat) (valid : Bool)
  | all

namespace Mark

def perform : Mark → Step TreeFailure (KdTree γ S N) Unit
  | node slot valid => setValid slot valid
  | ofData data valid => setValidData data valid
  | all => validateAll

def answer (tree : KdTree γ S N) : Mark → Except TreeFailure Unit
  | node slot _ => if slot < tree.len then .ok () else .error (.refused (.nodeOutOfRange slot tree.len))
  | ofData data _ => if (tree.nodeOf data).isSome then .ok () else .error (.refused (.notInTree data))
  | all => .ok ()

/-- Which nodes are valid afterwards. -/
def after (tree : KdTree γ S N) (valid : Nat → Bool) : Mark → Nat → Bool
  | node slot mark => Function.update valid slot mark
  | ofData data mark =>
    match tree.nodeOf data with
    | some slot => Function.update valid slot mark
    | none => valid
  | all => fun _ => true

end Mark

/-- A call is answered, or turned down without changing anything. -/
theorem Marked.perform_cases {tree next : KdTree γ S N} {valid : Nat → Bool} {sites : List (Site S N)}
    (spans : tree.Spans sites) (marked : tree.Marked valid next) (mark : Mark) :
    (∃ last, mark.perform next = .ok () last ∧ mark.answer tree = .ok () ∧
      tree.Marked (mark.after tree valid) last) ∨
    (∃ failure, mark.perform next = .error failure next ∧ mark.answer tree = .error failure ∧
      tree.Marked (mark.after tree valid) next) := by
  have len := marked.len
  cases mark with
  | node slot mark =>
    by_cases inside : slot < tree.len
    · obtain ⟨last, run, markedLast⟩ := marked.setValid inside mark
      exact Or.inl ⟨last, run, if_pos inside, markedLast⟩
    · refine Or.inr ⟨_, if_neg (len.symm ▸ inside), ?_, marked.congr ?_⟩
      · rw [len]
        exact if_neg inside
      · intro other otherInside
        apply Function.update_of_ne
        rintro rfl
        exact inside otherInside
  | ofData data mark =>
    have known : next.nodeOf data = tree.nodeOf data := by
      obtain ⟨cells, validLen, rfl⟩ := marked.shape
      rfl
    cases found : tree.nodeOf data with
    | none =>
      rw [found] at known
      refine Or.inr ⟨.refused (.notInTree data), ?_, ?_, ?_⟩
      · simp only [Mark.perform, setValidData, known]
      · simp only [Mark.answer, found]
        rfl
      · simp only [Mark.after, found]
        exact marked
    | some slot =>
      rw [found] at known
      obtain ⟨last, run, markedLast⟩ := marked.setValid ((spans.nodeOf_iff data slot).mp found).1 mark
      refine Or.inl ⟨last, ?_, ?_, ?_⟩
      · simp only [Mark.perform, setValidData, known, run]
      · simp only [Mark.answer, found]
        rfl
      · simp only [Mark.after, found]
        exact markedLast
  | all =>
    obtain ⟨last, run, markedLast⟩ := marked.validateSlots fun slot member => List.mem_range.mp member
    refine Or.inl ⟨last, ?_, rfl, markedLast.congr ?_⟩
    · rw [← len] at run
      exact run
    · intro slot inside
      rw [decide_eq_true (List.mem_range.mpr inside), Bool.true_or]
      rfl

theorem Marked.run {tree next : KdTree γ S N} {valid : Nat → Bool} {sites : List (Site S N)}
    (spans : tree.Spans sites) (marked : tree.Marked valid next) (marks : List Mark) :
    tree.Marked (marks.foldl (Mark.after tree) valid) (Step.leftAfter Mark.perform marks next) := by
  induction marks generalizing next valid with
  | nil => exact marked
  | cons mark rest ih =>
    rw [List.foldl_cons, Step.leftAfter]
    rcases marked.perform_cases spans mark with ⟨last, run, _, markedLast⟩ | ⟨failure, refused, _, markedLast⟩
    · rw [Step.left_of_ok run]
      exact ih markedLast
    · rw [Step.left_of_error refused]
      exact ih markedLast

def markAll (tree : KdTree γ S N) (mark : Bool) (slots : List Nat) : KdTree γ S N :=
  Step.leftAfter Mark.perform (slots.map fun slot => Mark.node slot mark) tree

omit [Scalar S] [Cell γ] [Stored (KdNode S N) γ] [LawfulStored (KdNode S N)] in
theorem foldl_after_nodes (tree : KdTree γ S N) (slots : List Nat) (mark : Bool) (valid : Nat → Bool) :
    (slots.map fun slot => Mark.node slot mark).foldl (Mark.after tree) valid =
      fun slot => if slot ∈ slots then mark else valid slot := by
  induction slots generalizing valid with
  | nil => simp
  | cons first rest ih =>
    rw [List.map_cons, List.foldl_cons, ih, Mark.after]
    funext slot
    by_cases later : slot ∈ rest
    · rw [if_pos later, if_pos (List.mem_cons_of_mem _ later)]
    · by_cases here : slot = first
      · subst here
        rw [if_neg later, Function.update_self, if_pos List.mem_cons_self]
      · rw [if_neg later, Function.update_of_ne here, if_neg (List.not_mem_cons_of_ne_of_not_mem here later)]

theorem Marked.markAll {tree next : KdTree γ S N} {valid : Nat → Bool} {sites : List (Site S N)}
    (spans : tree.Spans sites) (marked : tree.Marked valid next) (mark : Bool) (slots : List Nat) :
    tree.Marked (fun slot => if slot ∈ slots then mark else valid slot) (next.markAll mark slots) := by
  rw [← foldl_after_nodes tree]
  exact marked.run spans _

/-- Having marked nodes invalid before leaves no trace on nodes that are marked valid. -/
theorem Marked.markAll_back [PackedStored (KdNode S N)] {tree next : KdTree γ S N} {valid : Nat → Bool}
    {sites : List (Site S N)} (spans : tree.Spans sites) (marked : tree.Marked valid next) (slots : List Nat) :
    (next.markAll false slots).markAll true slots = next.markAll true slots := by
  apply ((marked.markAll spans false slots).markAll spans true slots).unique (marked.markAll spans true slots)
  intro slot _
  by_cases member : slot ∈ slots
  · simp [member]
  · simp [member]

theorem Marked.markAll_true [PackedStored (KdNode S N)] {tree next : KdTree γ S N} {valid : Nat → Bool}
    {sites : List (Site S N)} (spans : tree.Spans sites) (marked : tree.Marked valid next) {slots : List Nat}
    (each : ∀ slot ∈ slots, slot < tree.len → (next.view slot).valid = true) :
    next.markAll true slots = next := by
  apply (marked.markAll spans true slots).unique marked
  intro slot inside
  split
  next member => rw [← marked.valid_view inside, each slot member inside]
  next => rfl

/-- Whatever nodes of a tree are marked, in whatever order, also where that is turned down: as many nodes
are valid as is said, what is turned down changes nothing, and of the tree nothing else changes. If the
same nodes are valid in the end, it is the same tree, with the same cells. So nodes that are marked invalid and
then valid again are as if only the latter had been done; if they were valid, nothing has been. -/
theorem determined_by_validity [PackedStored (KdNode S N)] {tree : KdTree γ S N} (reached : tree.Reached)
    (room : N ≤ KdNode.dimensions) (marks : List Mark) :
    let last := Step.leftAfter Mark.perform marks tree
    let valid := marks.foldl (Mark.after tree) fun slot => (tree.view slot).valid
    last.validLen = (List.range last.len).countP (fun slot => (last.view slot).valid) ∧
    (∀ mark : Mark, mark.perform.outcome last = mark.answer tree ∧
      ∀ failure next, mark.perform last = .error failure next → next = last) ∧
    (last.len = tree.len ∧ last.root = tree.root ∧ last.bounds = tree.bounds ∧
      last.nodeOfData = tree.nodeOfData ∧ last.builtAt = tree.builtAt) ∧
    (∀ slot < tree.len, (last.view slot).valid = valid slot ∧
      (last.view slot).position = (tree.view slot).position ∧
      (last.view slot).leftSlot = (tree.view slot).leftSlot ∧
      (last.view slot).rightSlot = (tree.view slot).rightSlot ∧
      (last.view slot).dataSlot = (tree.view slot).dataSlot ∧
      (last.view slot).dimension = (tree.view slot).dimension) ∧
    (∀ others, (∀ slot < tree.len, ((Step.leftAfter Mark.perform others tree).view slot).valid =
      (last.view slot).valid) → Step.leftAfter Mark.perform others tree = last) ∧
    (∀ slots, (last.markAll false slots).markAll true slots = last.markAll true slots ∧
      ((∀ slot ∈ slots, slot < tree.len → (last.view slot).valid = true) →
        (last.markAll false slots).markAll true slots = last)) := by
  intro last valid
  obtain ⟨tended, tidy⟩ := reached.tidy room
  obtain ⟨sites, spans⟩ := tended.spans
  have start := marked_self tended.sound tidy
  have marked : tree.Marked valid last := start.run spans marks
  refine ⟨validLen_eq marked.sound, ?_, ?_, ?_, ?_, ?_⟩
  · intro mark
    rcases marked.perform_cases spans mark with ⟨next, run, answered, _⟩ | ⟨failure, refused, answered, _⟩
    · rw [Step.outcome_of_ok run, answered]
      refine ⟨rfl, ?_⟩
      intro failure other failed
      cases run.symm.trans failed
    · rw [Step.outcome_of_error refused, answered]
      refine ⟨rfl, ?_⟩
      intro other next failed
      exact (EStateM.Result.error.inj (refused.symm.trans failed)).2.symm
  · obtain ⟨cells, validLen, shape⟩ := marked.shape
    rw [shape]
    exact ⟨rfl, rfl, rfl, rfl, rfl⟩
  · intro slot inside
    rw [marked.view slot inside]
    exact ⟨KdNode.valid_withValid _ _, rfl, rfl, rfl, rfl, KdNode.dimension_withValid _ _⟩
  · intro others same
    have other := start.run spans others
    apply other.unique marked
    intro slot inside
    rw [← other.valid_view inside, ← marked.valid_view inside]
    exact same slot inside
  · intro slots
    have back := marked.markAll_back spans slots
    exact ⟨back, fun each => back.trans (marked.markAll_true spans each)⟩

/-- In what order two nodes were marked, how often, and what was turned down in between cannot be seen. -/
theorem pair_determined_by_validity :
    ∃ tree : KdTree UInt8 Double 1, tree.Reached ∧ 1 ≤ KdNode.dimensions ∧ tree.len = 2 ∧
      (Step.leftAfter Mark.perform [.node 0 false, .all, .node 1 false] tree).validLen = 1 ∧
      Step.leftAfter Mark.perform [.node 1 false, .node 2 true, .node 0 true, .node 1 false] tree =
        Step.leftAfter Mark.perform [.node 0 false, .all, .node 1 false] tree := by
  obtain ⟨tree, reached, perm⟩ := exists_over_pointPool
  have fits : 1 ≤ KdNode.dimensions := by decide
  have two : tree.len = 2 := by
    have length := perm.length_eq
    rwa [List.length_map, length_sites] at length
  obtain ⟨count, _, ⟨len, _⟩, nodes, same, _⟩ :=
    determined_by_validity reached fits [.node 0 false, .all, .node 1 false]
  obtain ⟨_, _, _, others, _⟩ :=
    determined_by_validity reached fits [.node 1 false, .node 2 true, .node 0 true, .node 1 false]
  rw [two] at len nodes same others
  have first := (nodes 0 (by decide)).1
  have second := (nodes 1 (by decide)).1
  refine ⟨tree, reached, fits, two, ?_, ?_⟩
  · rw [count, len]
    change List.countP _ [0, 1] = 1
    rw [List.countP_cons, List.countP_singleton, first, second]
    rfl
  · apply same
    intro slot inside
    rw [(nodes slot inside).1, (others slot inside).1]
    cases slot with
    | zero => rfl
    | succ slot =>
      obtain rfl : slot = 0 := by omega
      rfl

end KdTree

end SpatialStore
