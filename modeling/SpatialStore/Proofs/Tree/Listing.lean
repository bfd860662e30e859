import Mathlib.Data.Set.Function
import SpatialStore.Proofs.Tree.Reached

/-! What a tree lists. Along its links each node comes once, in order of the slots, and the nodes stand one
for one for the records that were listed when the tree was built last, at the points that these had. -/

namespace SpatialStore.KdTree

variable {γ S : Type} {N : Nat} [Scalar S] [Cell γ] [Stored (KdNode S N) γ]

/-- The slots that were listed when the tree was built last, and the points that records had then. -/
inductive BuiltOver : KdTree γ S N → List Nat → (Nat → Except PoolFailure (Point S N)) → Prop
  | built {α σ τ : Type} [SlotStore α σ] [Stored τ σ] [Located τ S N] {source : RecordPool α σ}
      {slots : List Nat} {tree : KdTree γ S N} (made : build τ source slots = .ok tree) :
      BuiltOver tree slots (pointAt τ source)
  | accepted {α σ τ : Type} [SlotStore α σ] [Stored τ σ] [Located τ S N] {source : RecordPool α σ}
      {slots old : List Nat} {points : Nat → Except PoolFailure (Point S N)} {tree next : KdTree γ S N}
      (before : BuiltOver tree old points) (rebuilt : rebuild τ source slots tree = .ok () next) :
      BuiltOver next slots (pointAt τ source)
  /-- Some record that is listed is turned down. -/
  | rejected {α σ τ : Type} [SlotStore α σ] [Stored τ σ] [Located τ S N] {source : RecordPool α σ}
      {slots old : List Nat} {points : Nat → Except PoolFailure (Point S N)} {tree next : KdTree γ S N}
      {reason failure : TreeFailure} (before : BuiltOver tree old points)
      (missed : (gather τ source {} slots : Except TreeFailure (List (Site S N))) = .error reason)
      (refused : rebuild τ source slots tree = .error failure next) : BuiltOver next old points
  /-- No record is turned down, but there is no room for the nodes. As links can name no more than `2 ^ 31`
  records, that takes nodes of `2 ^ 32` cells. -/
  | outgrown {α σ τ : Type} [SlotStore α σ] [Stored τ σ] [Located τ S N] {source : RecordPool α σ}
      {slots old : List Nat} {points : Nat → Except PoolFailure (Point S N)} {tree next : KdTree γ S N}
      {sites : List (Site S N)} {failure : TreeFailure} (before : BuiltOver tree old points)
      (gathering : gather τ source {} slots = .ok sites)
      (refused : rebuild τ source slots tree = .error failure next) : BuiltOver next [] points
  | marked (slot : Nat) (valid : Bool) {slots : List Nat} {points : Nat → Except PoolFailure (Point S N)}
      {tree : KdTree γ S N} (before : BuiltOver tree slots points) :
      BuiltOver ((setValid slot valid).left tree) slots points

/-- Following the links, left before the node and right after it, leads through these slots. -/
inductive Walks (tree : KdTree γ S N) : Option Nat → List Nat → Prop
  | stop : Walks tree none []
  | node {slot : Nat} {before after : List Nat} (left : Walks tree (tree.view slot).leftSlot before)
      (right : Walks tree (tree.view slot).rightSlot after) :
      Walks tree (some slot) (before ++ slot :: after)

/-- The nodes of a tree are the records in these slots, at these points. -/
structure Lists (tree : KdTree γ S N) (slots : List Nat) (points : Nat → Except PoolFailure (Point S N)) :
    Prop where
  len_eq : tree.len = slots.length
  root_eq_none : tree.root = none ↔ tree.len = 0
  walks : tree.Walks tree.root (List.range tree.len)
  links_lt : ∀ node < tree.len, ∀ child,
    (tree.view node).leftSlot = some child ∨ (tree.view node).rightSlot = some child → child < tree.len
  bijective : Set.BijOn (fun node => (tree.view node).dataSlot) {node | node < tree.len} {slot | slot ∈ slots}
  nodeOf_eq : ∀ data node, tree.nodeOf data = some node ↔ node < tree.len ∧ (tree.view node).dataSlot = data
  node_eq : ∀ node < tree.len, tree.node node = .ok (tree.view node)
  points_eq : ∀ node < tree.len, points (tree.view node).dataSlot = .ok (tree.view node).position
  /-- Only records that are turned down and a lack of room keep it from being built anew. -/
  rebuilds : ∀ {α σ τ : Type} [SlotStore α σ] [Stored τ σ] [Located τ S N] (source : RecordPool α σ)
    (others : List Nat) (sites : List (Site S N)), gather τ source {} others = .ok sites →
    others.length * Stored.width (KdNode S N) ≤ Size.largestBuffer →
    ∃ next, rebuild τ source others tree = .ok () next

/-! ### Walking -/

/-- The slots that a walk leads through are those that its links lead to. -/
theorem Walks.closed {tree : KdTree γ S N} {link : Option Nat} {slots : List Nat}
    (walks : tree.Walks link slots) : (∀ slot ∈ link, slot ∈ slots) ∧ ∀ slot ∈ slots, ∀ child,
      (tree.view slot).leftSlot = some child ∨ (tree.view slot).rightSlot = some child → child ∈ slots := by
  induction walks with
  | stop => exact ⟨nofun, nofun⟩
  | @node slot before after left right leftIh rightIh =>
    constructor
    · intro top same
      obtain rfl := Option.some.inj same
      exact List.mem_append_right _ List.mem_cons_self
    · intro other member child linked
      rcases List.mem_append.mp member with inLeft | inRest
      · exact List.mem_append_left _ (leftIh.2 other inLeft child linked)
      · rcases List.mem_cons.mp inRest with rfl | inRight
        · rcases linked with onLeft | onRight
          · exact List.mem_append_left _ (leftIh.1 child onLeft)
          · exact List.mem_append_right _ (List.mem_cons_of_mem _ (rightIh.1 child onRight))
        · exact List.mem_append_right _ (List.mem_cons_of_mem _ (rightIh.2 other inRight child linked))

theorem walks_of_linked {tree : KdTree γ S N} {branch : Branch S N} (linked : branch.Linked)
    (reads : ∀ slot record, (slot, record) ∈ branch.entries → tree.view slot = record) :
    tree.Walks branch.top branch.slots := by
  induction branch with
  | nil => exact .stop
  | node slot record left right leftIh rightIh =>
    obtain ⟨leftLink, rightLink, leftLinked, rightLinked⟩ := linked
    have here : tree.view slot = record := reads slot record (List.mem_append_right _ List.mem_cons_self)
    have onLeft := leftIh leftLinked fun other node member => reads other node (List.mem_append_left _ member)
    have onRight := rightIh rightLinked fun other node member =>
      reads other node (List.mem_append_right _ (List.mem_cons_of_mem _ member))
    rw [← leftLink, ← here] at onLeft
    rw [← rightLink, ← here] at onRight
    exact .node onLeft onRight

theorem walks_range {tree : KdTree γ S N} (sound : tree.Sound) : tree.Walks tree.root (List.range tree.len) := by
  obtain ⟨branch, bears⟩ := sound.borne
  rw [bears.root, ← bears.slots]
  exact walks_of_linked bears.linked fun slot record member => bears.view_eq sound.nodes member

omit [Scalar S] in
theorem root_eq_none_iff {tree : KdTree γ S N} (sound : tree.Sound) : tree.root = none ↔ tree.len = 0 := by
  obtain ⟨branch, bears⟩ := sound.borne
  rw [bears.root, ← bears.size_eq]
  cases branch with
  | nil => exact ⟨fun _ => rfl, fun _ => rfl⟩
  | node slot record left right =>
    constructor
    · intro none
      exact nomatch none
    · intro none
      rw [Branch.size] at none
      omega

/-! ### Records -/

theorem getElem?_sites {tree : KdTree γ S N} (sound : tree.Sound) {node : Nat} (inside : node < tree.len) :
    tree.sites[node]? = some (tree.view node).site := by
  rw [sites, List.getElem?_map, getElem?_records sound.nodes inside]
  rfl

theorem mem_sites {tree : KdTree γ S N} (sound : tree.Sound) {node : Nat} (inside : node < tree.len) :
    (tree.view node).site ∈ tree.sites :=
  List.mem_of_getElem? (getElem?_sites sound inside)

variable [LawfulStored (KdNode S N)]

theorem BuiltOver.spans {tree : KdTree γ S N} {slots : List Nat}
    {points : Nat → Except PoolFailure (Point S N)} (built : BuiltOver tree slots points) :
    ∃ sites, tree.Spans sites ∧ sites.map Site.slot = slots ∧
      ∀ site ∈ sites, points site.slot = .ok site.point := by
  induction built with
  | built made =>
    obtain ⟨sites, _, gathering, spans, _⟩ := build_cases made
    obtain ⟨listed, _, _, points⟩ := gather_ok gathering
    exact ⟨sites, spans, listed, points⟩
  | accepted _ rebuilt ih =>
    obtain ⟨_, ⟨sound, _⟩, _⟩ := ih
    obtain ⟨sites, _, gathering, spans, _⟩ := rebuild_ok sound rebuilt
    obtain ⟨listed, _, _, points⟩ := gather_ok gathering
    exact ⟨sites, spans, listed, points⟩
  | rejected _ missed refused ih =>
    obtain ⟨sites, spans, listed⟩ := ih
    rcases rebuild_error spans.sound refused with ⟨_, rfl⟩ | ⟨_, gathering, _⟩
    · exact ⟨sites, spans, listed⟩
    · exact nomatch gathering.symm.trans missed
  | outgrown _ gathering refused ih =>
    obtain ⟨_, ⟨sound, _⟩, _⟩ := ih
    rcases rebuild_error sound refused with ⟨missed, _⟩ | ⟨_, _, spans⟩
    · exact nomatch missed.symm.trans gathering
    · exact ⟨[], spans, rfl, nofun⟩
  | marked slot valid _ ih =>
    obtain ⟨sites, spans, listed⟩ := ih
    exact ⟨sites, spans_setValid spans slot valid, listed⟩

omit [LawfulStored (KdNode S N)] in
theorem Spans.bijOn_dataSlot {tree : KdTree γ S N} {sites : List (Site S N)} (spans : tree.Spans sites) :
    Set.BijOn (fun node => (tree.view node).dataSlot) {node | node < tree.len}
      {slot | slot ∈ sites.map Site.slot} := by
  have sound := spans.sound.nodes
  have slotsPerm := spans.perm.map Site.slot
  refine ⟨?_, ?_, ?_⟩
  · intro node inside
    exact slotsPerm.mem_iff.mp (List.mem_of_getElem? (getElem?_dataSlots sound inside))
  · intro first inside second within same
    have distinct := slotsPerm.nodup_iff.mpr spans.gathered.distinct
    have atSecond := getElem?_dataSlots sound within
    change (tree.view first).dataSlot = (tree.view second).dataSlot at same
    rw [← same] at atSecond
    exact place_unique distinct (getElem?_dataSlots sound inside) atSecond
  · intro slot member
    obtain ⟨node, found⟩ := List.mem_iff_getElem?.mp (slotsPerm.mem_iff.mpr member)
    have inside := (List.getElem?_eq_some_iff.mp found).1
    rw [List.length_map, length_sites] at inside
    exact ⟨node, inside, Option.some.inj ((getElem?_dataSlots sound inside).symm.trans found)⟩

omit [LawfulStored (KdNode S N)] in
theorem Spans.nodeOf_iff {tree : KdTree γ S N} {sites : List (Site S N)} (spans : tree.Spans sites)
    (data node : Nat) : tree.nodeOf data = some node ↔ node < tree.len ∧ (tree.view node).dataSlot = data := by
  rw [spans.nodeOf_eq]
  constructor
  · intro found
    have inside := (List.getElem?_eq_some_iff.mp found).1
    rw [List.length_map, length_sites] at inside
    exact ⟨inside, Option.some.inj ((getElem?_dataSlots spans.sound.nodes inside).symm.trans found)⟩
  · intro found
    rw [getElem?_dataSlots spans.sound.nodes found.1, found.2]

/-- However often a tree was built anew, over more records or fewer, accepted or not, it lists the records
of the last call that was accepted. -/
theorem BuiltOver.lists {tree : KdTree γ S N} {slots : List Nat}
    {points : Nat → Except PoolFailure (Point S N)} (built : BuiltOver tree slots points) :
    tree.Lists slots points := by
  obtain ⟨sites, spans, rfl, kept⟩ := built.spans
  have sound := spans.sound
  have walks := walks_range sound
  constructor
  · rw [← length_sites, List.length_map, spans.perm.length_eq]
  · exact root_eq_none_iff sound
  · exact walks
  · intro node inside child linked
    exact List.mem_range.mp (walks.closed.2 node (List.mem_range.mpr inside) child linked)
  · exact spans.bijOn_dataSlot
  · exact spans.nodeOf_iff
  · intro node inside
    rw [KdTree.node, check, if_pos inside]
    rfl
  · intro node inside
    exact kept _ (spans.perm.mem_iff.mp (mem_sites sound inside))
  · intro α σ τ _ _ _ source others gathered gathering fits
    rcases rebuild_cases τ sound.nodes sound.form sound.unlimited source others with
      ⟨_, missed, _⟩ | ⟨beyond, _⟩ | ⟨_, _, next, _, run, _⟩
    · exact nomatch missed.symm.trans gathering
    · omega
    · exact ⟨next, run⟩

omit [LawfulStored (KdNode S N)] in
/-- Every tree that there can be was built over something. -/
theorem Reached.builtOver {tree : KdTree γ S N} (reached : Reached tree) :
    ∃ slots points, BuiltOver tree slots points := by
  induction reached with
  | built made => exact ⟨_, _, .built made⟩
  | @rebuilt α σ τ _ _ _ source slots tree _ ih =>
    obtain ⟨old, points, before⟩ := ih
    cases run : rebuild τ source slots tree with
    | ok answer next =>
      rw [Step.left_of_ok run]
      exact ⟨slots, _, .accepted before run⟩
    | error failure next =>
      rw [Step.left_of_error run]
      cases gathering : (gather τ source {} slots : Except TreeFailure (List (Site S N))) with
      | error reason => exact ⟨old, points, .rejected before gathering run⟩
      | ok sites => exact ⟨[], points, .outgrown before gathering run⟩
  | marked slot valid _ ih =>
    obtain ⟨slots, points, before⟩ := ih
    exact ⟨slots, points, .marked slot valid before⟩
  | @markedData data valid tree _ ih =>
    obtain ⟨slots, points, before⟩ := ih
    refine ⟨slots, points, ?_⟩
    exact left_setValidData (motive := (BuiltOver · slots points)) before (.marked · · before) data valid
  | @validated tree _ ih =>
    obtain ⟨slots, points, before⟩ := ih
    refine ⟨slots, points, ?_⟩
    exact left_validateSlots (motive := (BuiltOver · slots points)) (fun _ slot spans => .marked slot true spans)
      before (List.range tree.len)

def rebuiltTwice (source : RecordPool (FlatSlots (Point ℚ 1)) (Point ℚ 1)) (slots first second : List Nat) :
    Option (KdTree (KdNode ℚ 1) ℚ 1) :=
  match build (Point ℚ 1) source slots with
  | .error _ => none
  | .ok tree =>
    match rebuild (Point ℚ 1) source first tree with
    | .error _ _ => none
    | .ok _ next =>
      match rebuild (Point ℚ 1) source second next with
      | .error _ last => some last
      | .ok _ _ => none

theorem shrunk_lists :
    ∃ (tree : KdTree (KdNode ℚ 1) ℚ 1) (points : Nat → Except PoolFailure (Point ℚ 1)),
      BuiltOver tree [2] points ∧ tree.nodeOf 2 = some 0 ∧ tree.nodeOf 1 = none ∧ tree.Lists [2] points := by
  obtain ⟨pool, made⟩ : ∃ pool : RecordPool (FlatSlots (Point ℚ 1)) (Point ℚ 1),
      RecordPool.ofStored (Point ℚ 1) 0 {} = .ok pool := ⟨_, rfl⟩
  let source := (scatter [#v[(3 : ℚ)], #v[2], #v[1]]).left pool
  have passes : (rebuiltTwice source [0, 1] [2] [1, 1]).any (fun tree =>
      tree.nodeOf 2 = some 0 ∧ tree.nodeOf 1 = none) = true := by
    obtain rfl := Except.ok.inj made
    decide +kernel
  unfold rebuiltTwice at passes
  split at passes
  next => exact nomatch passes
  next tree built =>
    split at passes
    next => exact nomatch passes
    next next accepted =>
      split at passes
      next failure last refused =>
        have spans : BuiltOver last [2] (pointAt (Point ℚ 1) source) := by
          cases gathering : (gather (Point ℚ 1) source {} [1, 1] : Except TreeFailure (List (Site ℚ 1))) with
          | error reason => exact .rejected (.accepted (.built built) accepted) gathering refused
          | ok sites =>
            have distinct := (gather_ok gathering).2.1
            exact absurd distinct (by decide)
        obtain ⟨found, gone⟩ := of_decide_eq_true passes
        exact ⟨last, _, spans, found, gone, spans.lists⟩
      next => exact nomatch passes

end SpatialStore.KdTree
