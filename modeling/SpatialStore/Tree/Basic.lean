import Std.Data.TreeMap
import Std.Data.TreeSet
import SpatialStore.Tree.Split
import SpatialStore.Tree.Branch
import SpatialStore.Records.Pool
import SpatialStore.Slots.Flat

/-! Trees over points. A tree is built from records of a pool and keeps its nodes in a pool of its own, in
order: the slots of a node's left branch come right before its own and those of its right branch right
after. What is built does not change afterwards, but nodes can be marked invalid and valid again. -/

namespace SpatialStore

structure KdTree (γ S : Type) (N : Nat) where
  nodes : RecordPool (FlatSlots γ) γ
  root : Option Nat := none
  bounds : Option (Box S N) := none
  /-- The node of each record that the tree was built from. -/
  nodeOfData : Std.TreeMap Nat Nat := {}
  validLen : Nat := 0
  /-- The modification count of the records when the tree was built. -/
  builtAt : Nat

namespace KdTree

variable {α γ σ S : Type} {N : Nat} [Scalar S] [Cell γ] [Stored (KdNode S N) γ]

def len (tree : KdTree γ S N) : Nat := tree.nodes.len

/-! ### Reading -/

/-- The node in a slot, for slots that links lead to. -/
def view (tree : KdTree γ S N) (slot : Nat) : KdNode S N :=
  match SlotStore.read tree.nodes.slots.store slot with
  | .ok cells => Stored.decode cells
  | .error _ => KdNode.fresh

def check (tree : KdTree γ S N) (slot : Nat) : Except TreeFailure Unit :=
  if slot < tree.len then .ok () else .error (.refused (.nodeOutOfRange slot tree.len))

def node (tree : KdTree γ S N) (slot : Nat) : Except TreeFailure (KdNode S N) := do
  tree.check slot
  return tree.view slot

def nodeOf (tree : KdTree γ S N) (data : Nat) : Option Nat := tree.nodeOfData[data]?

/-- The branch that a link leads to, cut off below `depth` levels. -/
def branchTo (tree : KdTree γ S N) : (depth : Nat) → Option Nat → Branch S N
  | 0, _ => .nil
  | _, none => .nil
  | depth + 1, some slot =>
    let record := tree.view slot
    .node slot record (tree.branchTo depth record.leftSlot) (tree.branchTo depth record.rightSlot)

/-- The branch below a slot. No way down is longer than the number of nodes. -/
def branch (tree : KdTree γ S N) (slot : Nat) : Branch S N := tree.branchTo tree.len (some slot)

def outline (tree : KdTree γ S N) : Branch S N := tree.branchTo tree.len tree.root

/-- Whether records have been freed since the tree was built, so that its slots may hold others. -/
def isStale (tree : KdTree γ S N) (source : RecordPool α σ) : Bool :=
  source.modifications ≠ tree.builtAt

/-! ### Building -/

/-- Reads the points of the listed records. The first slot that is listed twice, that no link can name
or that holds no record is turned down. -/
def gather (τ : Type) [SlotStore α σ] [Stored τ σ] [Located τ S N] (source : RecordPool α σ)
    (seen : Std.TreeSet Nat) : List Nat → Except TreeFailure (List (Site S N))
  | [] => .ok []
  | slot :: rest =>
    if seen.contains slot then .error (.refused (.duplicateSlot slot))
    else if Link.largest < slot then .error (.refused (.pool (.indexOverflow slot)))
    else match source.get τ slot with
      | .error failure => .error failure.inTree
      | .ok record => do
        let sites ← gather τ source (seen.insert slot) rest
        return ⟨slot, Located.position record⟩ :: sites

def takeSlots : (count : Nat) → Step PoolFailure (RecordPool (FlatSlots γ) γ) Unit
  | 0 => pure ()
  | count + 1 => do
    let _ ← RecordPool.allocate
    takeSlots count

/-- Builds the branch over points in the slots from `first` on, and answers the slot of its top. -/
def plant (sites : List (Site S N)) (first : Nat) :
    Step PoolFailure (RecordPool (FlatSlots γ) γ) (Option Nat) :=
  match made : Split.ofSites sites with
  | none => pure none
  | some split => do
    let slot := first + split.lower.length
    let left ← plant split.lower first
    let right ← plant split.upper (slot + 1)
    let record ← Step.ofExcept
      ((KdNode.make split.pivot.point left right split.pivot.slot split.dimension).mapError .refused)
    RecordPool.update slot fun _ : KdNode S N => record
    return some slot
termination_by sites.length
decreasing_by
  all_goals
    have := Split.length_of_ofSites made
    omega

def reset (tree : KdTree γ S N) : KdTree γ S N :=
  { tree with
    nodes := tree.nodes.clear, root := none, bounds := none, nodeOfData := {}, validLen := 0 }

def indexNodes (tree : KdTree γ S N) : Std.TreeMap Nat Nat :=
  (List.range tree.len).foldl (fun map slot => map.insert (tree.view slot).dataSlot slot) {}

def fill (sites : List (Site S N)) : Step PoolFailure (KdTree γ S N) Unit := do
  let root ← Step.within KdTree.nodes (fun nodes tree => { tree with nodes }) id do
    takeSlots sites.length
    plant sites 0
  modify fun tree =>
    { tree with
      root, bounds := Box.around (sites.map Site.point), validLen := sites.length
      nodeOfData := tree.indexNodes }

/-- Builds the tree anew over records of a pool, all of them valid. If the records are turned down the
tree stays what it was. -/
def rebuild (τ : Type) [SlotStore α σ] [Stored τ σ] [Located τ S N] (source : RecordPool α σ)
    (slots : List Nat) : Step TreeFailure (KdTree γ S N) Unit := fun tree =>
  match gather τ source {} slots with
  | .error failure => .error failure tree
  | .ok sites =>
    match fill sites tree.reset with
    | .error failure partly => .error failure.inTree partly.reset
    | .ok () built => .ok () { built with builtAt := source.modifications }

def build (τ : Type) [SlotStore α σ] [Stored τ σ] [Located τ S N] (source : RecordPool α σ)
    (slots : List Nat) : Except TreeFailure (KdTree γ S N) :=
  match RecordPool.ofStored (KdNode S N) 0 (Sizing.ofCapacity (Nat.max slots.length 1)) with
  | .error failure => .error failure.inTree
  | .ok nodes =>
    match rebuild τ source slots { nodes, builtAt := source.modifications } with
    | .error failure _ => .error failure
    | .ok () tree => .ok tree

/-! ### Validity -/

def setValid (slot : Nat) (valid : Bool) : Step TreeFailure (KdTree γ S N) Unit := fun tree =>
  if slot < tree.len then
    if (tree.view slot).valid = valid then .ok () tree
    else
      match RecordPool.update slot (fun record : KdNode S N => record.withValid valid) tree.nodes with
      | .error failure nodes => .error failure.inTree { tree with nodes }
      | .ok () nodes =>
        .ok () { tree with
          nodes, validLen := if valid then tree.validLen + 1 else tree.validLen - 1 }
  else .error (.refused (.nodeOutOfRange slot tree.len)) tree

def setValidData (data : Nat) (valid : Bool) : Step TreeFailure (KdTree γ S N) Unit := fun tree =>
  match tree.nodeOf data with
  | some slot => setValid slot valid tree
  | none => .error (.refused (.notInTree data)) tree

def validateSlots : List Nat → Step TreeFailure (KdTree γ S N) Unit
  | [] => pure ()
  | slot :: rest => do
    setValid slot true
    validateSlots rest

def validateAll : Step TreeFailure (KdTree γ S N) Unit := do
  validateSlots (List.range (← get).len)

end KdTree

end SpatialStore
