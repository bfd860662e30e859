import SpatialStore.Geometry.Point
import SpatialStore.Bytes.Field
import SpatialStore.Records.Form
import SpatialStore.Number.Shortest
import SpatialStore.Size

/-! Nodes of a tree: a point, links to the two children and to the record that the point was read from,
and one number that holds the splitting dimension and, in its lowest bit, whether the node is invalid. -/

namespace SpatialStore

structure KdNode (S : Type) (N : Nat) where
  position : Point S N
  left : Int32
  right : Int32
  data : Int32
  flags : Int32

class Located (τ : Type) (S : outParam Type) (N : outParam Nat) where
  position : τ → Point S N

instance {S : Type} {N : Nat} : Located (Point S N) S N := ⟨id⟩

namespace KdNode

variable {S : Type} {N : Nat}

def flagsOf (dimension : Nat) (valid : Bool) : Int32 :=
  Int32.ofNat (2 * dimension + if valid then 0 else 1)

def fresh [Scalar S] : KdNode S N :=
  { position := Vector.replicate N Scalar.zero
    left := Link.none, right := Link.none, data := Link.none, flags := 0 }

def make (position : Point S N) (left right : Option Nat) (data dimension : Nat) :
    Except Refusal (KdNode S N) := do
  let left ← Link.ofSlot left
  let right ← Link.ofSlot right
  let data ← Link.ofSlot (some data)
  return { position, left, right, data, flags := flagsOf dimension true }

def leftSlot (node : KdNode S N) : Option Nat := Link.slot? node.left

def rightSlot (node : KdNode S N) : Option Nat := Link.slot? node.right

/-- The slot of the record that the point was read from; the largest size if there is none. -/
def dataSlot (node : KdNode S N) : Nat := (Link.slot? node.data).getD (Size.bound - 1)

def dimension (node : KdNode S N) : Nat := (node.flags.toInt / 2).toNat

def valid (node : KdNode S N) : Bool := node.flags.toInt % 2 = 0

def withValid (node : KdNode S N) (valid : Bool) : KdNode S N :=
  { node with flags := flagsOf node.dimension valid }

def coordinate (node : KdNode S N) (dimension : Nat) : Except Fault S :=
  if h : dimension < N then .ok node.position[dimension] else .error (.elementOutOfRange dimension N)

def describe (node : KdNode Double N) : String :=
  let position := ", ".intercalate (node.position.toList.map Shortest.text)
  s!"NodeView \x7b position: [{position}], left: {slotText node.leftSlot}, " ++
    s!"right: {slotText node.rightSlot}, data_index: {node.dataSlot}, " ++
    s!"split_dimension: {node.dimension}, valid: {node.valid} \x7d"

/-! ### Nodes and points as bytes -/

def encode (node : KdNode Double N) : Bytes :=
  Doubles.encode node.position.toList ++ Kind.index.encode node.left ++
    Kind.index.encode node.right ++ Kind.index.encode node.data ++ Kind.int.encode node.flags

def decode (bytes : Bytes) : KdNode Double N :=
  let (position, bytes) := Doubles.read N bytes
  let (left, bytes) := Kind.index.read bytes
  let (right, bytes) := Kind.index.read bytes
  let (data, bytes) := Kind.index.read bytes
  { position, left, right, data, flags := Kind.int.decode bytes }

instance : Stored (KdNode Double N) UInt8 where
  width := N * Kind.double.width + 16
  fresh := fresh
  encode := encode
  decode := decode

instance : LawfulStored (KdNode Double N) where
  length_encode node := by
    simp [Stored.encode, Stored.width, encode, Doubles.length_encode, Kind.width]
  decode_encode node := by
    simp [Stored.encode, Stored.decode, encode, decode, Kind.decode_encode]

end KdNode

namespace Point

variable {N : Nat}

instance : Stored (Point Double N) UInt8 where
  width := N * Kind.double.width
  fresh := Vector.replicate N Scalar.zero
  encode point := Doubles.encode point.toList
  decode := Doubles.decode N

instance : LawfulStored (Point Double N) where
  length_encode point := by
    simp [Stored.encode, Stored.width, Doubles.length_encode]
  decode_encode point := by
    simpa [Stored.encode, Stored.decode] using Doubles.decode_encode point []

end Point

end SpatialStore
