import Mathlib.Data.Nat.Log
import SpatialStore.Proofs.Query.Exposed
import SpatialStore.Proofs.Tree.Listing

/-! The shape of a tree. Points are halved around the one in the middle, whatever their coordinates, so that the
shape depends on how many there are and on nothing else. It takes no more levels than that number has bits. -/

namespace SpatialStore

/-! ### Halving a number of slots -/

namespace Halving

def top (first : Nat) : (count : Nat) → Option Nat
  | 0 => none
  | count + 1 => some (first + (count + 1) / 2)

/-- Where the slots on the left and on the right of each of these slots have their middle, in order. -/
def links (first : Nat) : (count : Nat) → List (Option Nat × Option Nat)
  | 0 => []
  | count + 1 =>
    let slot := first + (count + 1) / 2
    links first ((count + 1) / 2) ++
      (top first ((count + 1) / 2), top (slot + 1) (count / 2)) :: links (slot + 1) (count / 2)

end Halving

def KdNode.links {S : Type} {N : Nat} (record : KdNode S N) : Option Nat × Option Nat :=
  (record.leftSlot, record.rightSlot)

/-- A branch over so many slots from `first` on, with the one in the middle at the top, here and everywhere below. -/
inductive Branch.Halved {S : Type} {N : Nat} : Nat → Nat → Branch S N → Prop
  | nil {first : Nat} : Halved first 0 .nil
  | node {first count : Nat} {record : KdNode S N} {left right : Branch S N}
      (onLeft : Halved first ((count + 1) / 2) left)
      (onRight : Halved (first + (count + 1) / 2 + 1) (count / 2) right) :
      Halved first (count + 1) (.node (first + (count + 1) / 2) record left right)

namespace Branch.Halved

variable {S : Type} {N first count : Nat} {branch : Branch S N}

theorem size_eq (halved : branch.Halved first count) : branch.size = count := by
  induction halved with
  | nil => rfl
  | node _ _ leftIh rightIh =>
    rw [size, leftIh, rightIh]
    omega

theorem top_eq (halved : branch.Halved first count) : branch.top = Halving.top first count := by
  cases halved with
  | nil => rfl
  | node _ _ => rfl

theorem links_eq (halved : branch.Halved first count) (linked : branch.Linked) :
    branch.records.map KdNode.links = Halving.links first count := by
  induction halved with
  | nil => rw [Halving.links]; rfl
  | node onLeft onRight leftIh rightIh =>
    obtain ⟨leftLink, rightLink, leftLinked, rightLinked⟩ := linked
    rw [records, List.map_append, List.map_cons, leftIh leftLinked, rightIh rightLinked, KdNode.links, leftLink,
      rightLink, onLeft.top_eq, onRight.top_eq, Halving.links]

/-- As many levels are enough as the number of slots has bits, and no fewer. -/
theorem height_le_iff (halved : branch.Halved first count) {depth : Nat} :
    branch.height ≤ depth ↔ count < 2 ^ depth := by
  induction halved generalizing depth with
  | nil => simp only [height, Nat.zero_le, Nat.two_pow_pos]
  | node _ _ leftIh rightIh =>
    cases depth with
    | zero =>
      rw [height, Nat.pow_zero]
      omega
    | succ depth =>
      -- The larger half is the one on the left, and less than `2 ^ depth` just where all are less than twice that.
      rw [height, Nat.succ_le_succ_iff, Nat.max_le, leftIh, rightIh, Nat.pow_succ]
      omega

theorem height_le (halved : branch.Halved first count) : branch.height ≤ Nat.log 2 count + 1 :=
  halved.height_le_iff.mpr (Nat.lt_pow_succ_log_self (by decide) count)

theorem height_eq (halved : branch.Halved first count) (some : 0 < count) :
    branch.height = Nat.log 2 count + 1 := by
  apply Nat.le_antisymm halved.height_le
  apply Nat.succ_le_of_lt
  apply Nat.lt_of_not_le
  intro fewer
  have short := halved.height_le_iff.mp fewer
  have long := Nat.pow_log_le_self 2 (Nat.ne_of_gt some)
  omega

theorem revise (halved : branch.Halved first count) (change : Nat → KdNode S N → KdNode S N) :
    (branch.revise change).Halved first count := by
  induction halved with
  | nil => exact .nil
  | node _ _ leftIh rightIh => exact .node leftIh rightIh

end Branch.Halved

theorem Planted.halved {S : Type} {N : Nat} [Scalar S] {first : Nat} {sites : List (Site S N)}
    {branch : Branch S N} (planted : Planted first sites branch) : branch.Halved first sites.length := by
  induction planted with
  | nil => exact .nil
  | @node first sites split left right record halves _ _ _ leftIh rightIh =>
    -- The place of the pivot is half the length, whichever point that puts there.
    have lengths := halves.length_eq
    obtain ⟨count, more⟩ : ∃ count, sites.length = count + 1 := ⟨split.lower.length + split.upper.length, by omega⟩
    have below : split.lower.length = (count + 1) / 2 := by rw [halves.middle, more]
    have above : split.upper.length = count / 2 := by omega
    rw [below] at leftIh rightIh ⊢
    rw [above] at rightIh
    rw [more]
    exact .node leftIh rightIh

namespace KdTree

variable {γ S : Type} {N : Nat} [Scalar S] [Cell γ] [Stored (KdNode S N) γ]

/-! ### Ways down -/

inductive Path (tree : KdTree γ S N) : Option Nat → List Nat → Prop
  | stop (link : Option Nat) : Path tree link []
  | left {slot : Nat} {rest : List Nat} (below : Path tree (tree.view slot).leftSlot rest) :
      Path tree (some slot) (slot :: rest)
  | right {slot : Nat} {rest : List Nat} (below : Path tree (tree.view slot).rightSlot rest) :
      Path tree (some slot) (slot :: rest)

namespace Carries

variable {tree : KdTree γ S N} {branch : Branch S N}

theorem path_length (carries : tree.Carries branch) {path : List Nat} (leads : tree.Path branch.top path) :
    path.length ≤ branch.height := by
  induction branch generalizing path with
  | nil =>
    cases leads with
    | stop => exact Nat.le_refl _
  | node slot record lower upper lowerIh upperIh =>
    obtain ⟨view, _⟩ := carries.here
    obtain ⟨leftLink, rightLink, _, _⟩ := carries.linked
    cases leads with
    | stop => exact Nat.zero_le _
    | @left _ rest below =>
      rw [view, leftLink] at below
      calc
        rest.length + 1 ≤ lower.height + 1 := Nat.succ_le_succ (lowerIh carries.left below)
        _ ≤ Nat.max lower.height upper.height + 1 := Nat.succ_le_succ (Nat.le_max_left _ _)
    | @right _ rest below =>
      rw [view, rightLink] at below
      calc
        rest.length + 1 ≤ upper.height + 1 := Nat.succ_le_succ (upperIh carries.right below)
        _ ≤ Nat.max lower.height upper.height + 1 := Nat.succ_le_succ (Nat.le_max_right _ _)

theorem exists_path (carries : tree.Carries branch) :
    ∃ path, tree.Path branch.top path ∧ path.length = branch.height := by
  induction branch with
  | nil => exact ⟨[], .stop none, rfl⟩
  | node slot record lower upper lowerIh upperIh =>
    obtain ⟨view, _⟩ := carries.here
    obtain ⟨leftLink, rightLink, _, _⟩ := carries.linked
    rcases Nat.le_total upper.height lower.height with onLeft | onRight
    · obtain ⟨path, leads, length⟩ := lowerIh carries.left
      rw [← leftLink, ← view] at leads
      refine ⟨slot :: path, .left leads, ?_⟩
      rw [List.length_cons, length, Branch.height]
      exact congrArg (· + 1) (Nat.max_eq_left onLeft).symm
    · obtain ⟨path, leads, length⟩ := upperIh carries.right
      rw [← rightLink, ← view] at leads
      refine ⟨slot :: path, .right leads, ?_⟩
      rw [List.length_cons, length, Branch.height]
      exact congrArg (· + 1) (Nat.max_eq_right onRight).symm

end Carries

/-! ### Building to a depth -/

/-- Builds as `plant` does, but goes down no more than so many levels. -/
def plantTo : (depth : Nat) → List (Site S N) → Nat →
    Step PoolFailure (RecordPool (FlatSlots γ) γ) (Option Nat)
  | 0, _, _ => pure none
  | depth + 1, sites, first =>
    match Split.ofSites sites with
    | none => pure none
    | some split => do
      let slot := first + split.lower.length
      let left ← plantTo depth split.lower first
      let right ← plantTo depth split.upper (slot + 1)
      let record ← Step.ofExcept
        ((KdNode.make split.pivot.point left right split.pivot.slot split.dimension).mapError .refused)
      RecordPool.update slot fun _ : KdNode S N => record
      return some slot

theorem plantTo_eq {depth : Nat} {sites : List (Site S N)} (enough : sites.length < 2 ^ depth) (first : Nat) :
    plantTo depth sites first = (plant sites first : Step PoolFailure (RecordPool (FlatSlots γ) γ) _) := by
  induction depth generalizing sites first with
  | zero =>
    cases made : Split.ofSites sites with
    | none => exact (plant_none made first).symm
    | some split =>
      have lengths := Split.length_of_ofSites made
      rw [Nat.pow_zero] at enough
      omega
  | succ depth ih =>
    cases made : Split.ofSites sites with
    | none =>
      rw [plant_none made, plantTo, made]
    | some split =>
      have lengths := Split.length_of_ofSites made
      have half := (Split.ofSites_cases made).2.1
      rw [Nat.pow_succ] at enough
      rw [plant_some made, plantTo, made]
      simp only [ih (show split.lower.length < 2 ^ depth by omega),
        ih (show split.upper.length < 2 ^ depth by omega)]

/-! ### Trees -/

theorem Bears.halved {tree : KdTree γ S N} {branch : Branch S N} {sites : List (Site S N)}
    (bears : tree.Bears branch) (sound : tree.Sound) (planted : Planted 0 sites branch) :
    tree.outline.Halved 0 tree.len := by
  rw [outline_eq sound.nodes bears, ← bears.size_eq, planted.size_eq]
  exact planted.halved

theorem halved_setValid [LawfulStored (KdNode S N)] {tree : KdTree γ S N} (sound : tree.Sound)
    (halved : tree.outline.Halved 0 tree.len) (slot : Nat) (valid : Bool) :
    ((setValid slot valid).left tree).outline.Halved 0 ((setValid slot valid).left tree).len := by
  rcases setValid_cases sound slot valid with
    ⟨failure, refused⟩ | same | ⟨_, _, next, _, marked, soundNext, bears, _⟩
  · rw [Step.left_of_error refused]
    exact halved
  · rw [Step.left_of_ok same]
    exact halved
  · have shape : (tree.outline.mark slot valid).Halved 0 tree.len := halved.revise _
    rw [Step.left_of_ok marked, outline_eq soundNext.nodes bears, ← bears.size_eq, shape.size_eq]
    exact shape

/-- Where a list is turned down the tree stays, unless it is emptied. -/
theorem halved_refused {α σ τ : Type} [LawfulStored (KdNode S N)] [SlotStore α σ] [Stored τ σ] [Located τ S N]
    {source : RecordPool α σ} {slots : List Nat} {tree next : KdTree γ S N} {failure : TreeFailure}
    (sound : tree.Sound) (halved : tree.outline.Halved 0 tree.len)
    (refused : rebuild τ source slots tree = .error failure next) : next.outline.Halved 0 next.len := by
  rcases rebuild_error sound refused with ⟨_, rfl⟩ | ⟨_, _, spans⟩
  · exact halved
  · exact spans.bears_nil.halved spans.sound .nil

namespace BuiltOver

variable [LawfulStored (KdNode S N)] {tree : KdTree γ S N} {slots : List Nat}
  {points : Nat → Except PoolFailure (Point S N)}

theorem sound (built : BuiltOver tree slots points) : tree.Sound := by
  obtain ⟨_, spans, _⟩ := built.spans
  exact spans.sound

theorem len_eq_length (built : BuiltOver tree slots points) : tree.len = slots.length := by
  obtain ⟨sites, spans, rfl, _⟩ := built.spans
  rw [← length_sites, List.length_map, spans.perm.length_eq]

theorem halved (built : BuiltOver tree slots points) : tree.outline.Halved 0 slots.length := by
  rw [← built.len_eq_length]
  induction built with
  | built made =>
    obtain ⟨_, _, _, spans, bears, planted⟩ := build_cases made
    exact bears.halved spans.sound planted
  | accepted before rebuilt _ =>
    obtain ⟨_, _, _, spans, bears, planted⟩ := rebuild_ok before.sound rebuilt
    exact bears.halved spans.sound planted
  | rejected before _ refused ih => exact halved_refused before.sound ih refused
  | outgrown before _ refused ih => exact halved_refused before.sound ih refused
  | marked slot valid before ih => exact halved_setValid before.sound ih slot valid

end BuiltOver

/-- A tree whose shape is that of its size. -/
structure Balanced (tree : KdTree γ S N) (count : Nat) : Prop where
  len_eq : tree.len = count
  path_length : ∀ path, tree.Path tree.root path → path.length ≤ Nat.log 2 count + 1
  longest : 0 < count → ∃ path, tree.Path tree.root path ∧ path.length = Nat.log 2 count + 1
  root_eq : tree.root = Halving.top 0 count
  links_eq : ∀ slot < count, (Halving.links 0 count)[slot]? = some (tree.view slot).links
  /-- Searches and clippings go down the outline of a tree. -/
  height_le : tree.outline.height ≤ Nat.log 2 count + 1
  /-- All of it is within so many links from the root. -/
  outline_eq : ∀ depth, Nat.log 2 count < depth → tree.branchTo depth tree.root = tree.outline

theorem Sound.balanced {tree : KdTree γ S N} {count : Nat} (sound : tree.Sound) (len : tree.len = count)
    (halved : tree.outline.Halved 0 count) : tree.Balanced count where
  len_eq := len
  path_length path leads := by
    rw [sound.bears.root] at leads
    exact Nat.le_trans (sound.carries.path_length leads) halved.height_le
  longest some := by
    rw [sound.bears.root, ← halved.height_eq some]
    exact sound.carries.exists_path
  root_eq := sound.bears.root.trans halved.top_eq
  links_eq slot inside := by
    rw [← halved.links_eq sound.bears.linked, sound.bears.records, List.getElem?_map,
      getElem?_records sound.nodes (len ▸ inside)]
    rfl
  height_le := halved.height_le
  outline_eq depth enough := by
    rw [sound.bears.root]
    exact branchTo_eq sound.bears.linked sound.carries.reads (Nat.le_trans halved.height_le enough)

/-- Every tree, built over points wherever they lie, is balanced, and trees over equally many have the same links.
Building goes down no more levels than a tree has. -/
theorem BuiltOver.shape_of_length [LawfulStored (KdNode S N)] {tree : KdTree γ S N} {slots : List Nat}
    {points : Nat → Except PoolFailure (Point S N)} (built : BuiltOver tree slots points) :
    tree.Balanced slots.length ∧
    (∀ (other : KdTree γ S N) others otherPoints, BuiltOver other others otherPoints →
      others.length = slots.length → other.root = tree.root ∧
        ∀ slot < slots.length, (other.view slot).links = (tree.view slot).links) ∧
    ∀ (sites : List (Site S N)) (first depth : Nat), Nat.log 2 sites.length < depth →
      plantTo depth sites first = (plant sites first : Step PoolFailure (RecordPool (FlatSlots γ) γ) _) := by
  have balanced := built.sound.balanced built.len_eq_length built.halved
  refine ⟨balanced, ?_, ?_⟩
  · intro other others otherPoints otherBuilt length
    have alike := otherBuilt.sound.balanced otherBuilt.len_eq_length otherBuilt.halved
    rw [length] at alike
    refine ⟨alike.root_eq.trans balanced.root_eq.symm, ?_⟩
    intro slot inside
    have links := alike.links_eq slot inside
    rw [balanced.links_eq slot inside] at links
    exact (Option.some.inj links).symm
  · intro sites first depth enough
    exact plantTo_eq (Nat.lt_pow_of_log_lt (by decide) enough) first

/-! ### Trees over points in a pool of their own -/

/-- A tree is built anew over all records that can be gathered, if there is room. -/
theorem BuiltOver.exists_anew {α σ τ : Type} [LawfulStored (KdNode S N)] [SlotStore α σ] [Stored τ σ]
    [Located τ S N] {tree : KdTree γ S N} {old : List Nat} {points : Nat → Except PoolFailure (Point S N)}
    (before : BuiltOver tree old points) {source : RecordPool α σ} {slots : List Nat} {sites : List (Site S N)}
    (gathering : gather τ source {} slots = .ok sites)
    (fits : slots.length * Stored.width (KdNode S N) ≤ Size.largestBuffer) :
    ∃ next : KdTree γ S N, BuiltOver next slots (pointAt τ source) := by
  have sound := before.sound
  rcases rebuild_cases τ sound.nodes sound.form sound.unlimited source slots with
    ⟨_, missed, _⟩ | ⟨beyond, _⟩ | ⟨_, _, next, _, run, _⟩
  · exact nomatch missed.symm.trans gathering
  · omega
  · exact ⟨next, .accepted before run⟩

def scattered (σ : Type) [Cell σ] [Stored (Point S N) σ] (points : List (Point S N)) :
    Except PoolFailure (RecordPool (FlatSlots σ) σ) :=
  (RecordPool.ofStored (Point S N) 0 {}).map (scatter points).left

/-- What can be evaluated of building a tree over them: there is a tree to start from, and the points are read
from the pool. -/
def gathers [DecidableEq S] (γ σ : Type) [Cell γ] [Stored (KdNode S N) γ] [Cell σ] [Stored (Point S N) σ]
    (points : List (Point S N)) : Bool :=
  match scattered σ points with
  | .error _ => false
  | .ok source =>
    match (build (Point S N) source [] : Except _ (KdTree γ S N)),
      (gather (Point S N) source {} (List.range points.length) : Except TreeFailure _) with
    | .ok _, .ok sites => decide (sites.map Site.point = points)
    | _, _ => false

theorem exists_builtOver [DecidableEq S] (γ σ : Type) [Cell γ] [Stored (KdNode S N) γ] [LawfulStored (KdNode S N)]
    [Cell σ] [Stored (Point S N) σ] (points : List (Point S N)) (passes : gathers γ σ points = true)
    (fits : points.length * Stored.width (KdNode S N) ≤ Size.largestBuffer) :
    ∃ (tree : KdTree γ S N) (positions : Nat → Except PoolFailure (Point S N)),
      BuiltOver tree (List.range points.length) positions ∧
      ∀ slot (inside : slot < points.length), positions slot = .ok points[slot] := by
  unfold gathers at passes
  split at passes
  next => exact nomatch passes
  next source _ =>
    split at passes
    next empty sites built gathering =>
      have room : (List.range points.length).length * Stored.width (KdNode S N) ≤ Size.largestBuffer := by
        rwa [List.length_range]
      obtain ⟨tree, builtOver⟩ := (BuiltOver.built built).exists_anew gathering room
      obtain ⟨listed, _, _, positions⟩ := gather_ok gathering
      obtain rfl := of_decide_eq_true passes
      refine ⟨tree, _, builtOver, ?_⟩
      intro slot inside
      rw [List.length_map] at listed inside
      have atSlot : sites[slot].slot = slot := by
        have found := congrArg (·[slot]?) listed
        rw [List.getElem?_map, List.getElem?_eq_getElem inside, List.getElem?_range inside] at found
        exact Option.some.inj found
      rw [List.getElem_map, ← positions _ (List.getElem_mem inside), atSlot]
    next => exact nomatch passes

def sixPoints : List (Point (Option ℚ) 2) :=
  [#v[none, some 1], #v[some 2, some 2], #v[some 2, some 2], #v[some 2, some 2], #v[some 0, none],
    #v[some (-1), some 3]]

theorem shape_of_six :
    ∃ (tree other : KdTree (KdNode (Option ℚ) 2) (Option ℚ) 2)
      (positions others : Nat → Except PoolFailure (Point (Option ℚ) 2)),
      (BuiltOver tree (List.range 6) positions ∧
        ∀ slot (inside : slot < sixPoints.length), positions slot = .ok sixPoints[slot]) ∧
      (BuiltOver other (List.range 6) others ∧ ∀ slot < 6, others slot = .ok #v[some 1, some 1]) ∧
      (tree.root = some 3 ∧ other.root = some 3) ∧
      (∀ slot < 6, (other.view slot).links = (tree.view slot).links ∧
        [(none, none), (some 0, some 2), (none, none), (some 1, some 5), (none, none), (some 4, none)][slot]? =
          some (tree.view slot).links) ∧
      (∀ path, tree.Path tree.root path → path.length ≤ 3) ∧
      plantTo 3 (sixPoints.mapIdx Site.mk) 0 =
        (plant (sixPoints.mapIdx Site.mk) 0 : Step PoolFailure
          (RecordPool (FlatSlots (KdNode (Option ℚ) 2)) (KdNode (Option ℚ) 2)) _) := by
  obtain ⟨tree, positions, built, placed⟩ := exists_builtOver (KdNode (Option ℚ) 2) (Point (Option ℚ) 2)
    sixPoints (by decide +kernel) (by decide)
  obtain ⟨other, others, otherBuilt, together⟩ := exists_builtOver (KdNode (Option ℚ) 2) (Point (Option ℚ) 2)
    (List.replicate 6 #v[some (1 : ℚ), some 1]) (by decide +kernel) (by decide)
  obtain ⟨balanced, alike, builds⟩ := built.shape_of_length
  obtain ⟨top, same⟩ := alike other _ others otherBuilt rfl
  have halving : Halving.top 0 6 = some 3 ∧ Halving.links 0 6 =
      [(none, none), (some 0, some 2), (none, none), (some 1, some 5), (none, none), (some 4, none)] := by
    decide +kernel
  have levels : Nat.log 2 6 = 2 := by decide +kernel
  have root : tree.root = some 3 := balanced.root_eq.trans halving.1
  refine ⟨tree, other, positions, others, ⟨built, placed⟩, ⟨otherBuilt, ?_⟩, ⟨root, top.trans root⟩, ?_, ?_, ?_⟩
  · intro slot inside
    rw [together slot inside, List.getElem_replicate]
  · intro slot inside
    refine ⟨same slot inside, ?_⟩
    rw [← halving.2]
    exact balanced.links_eq slot inside
  · intro path leads
    have length := balanced.path_length path leads
    change path.length ≤ Nat.log 2 6 + 1 at length
    rwa [levels] at length
  · apply builds
    change Nat.log 2 6 < 3
    rw [levels]
    decide

end KdTree

end SpatialStore
