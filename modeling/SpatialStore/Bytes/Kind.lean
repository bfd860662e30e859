import SpatialStore.Step
import SpatialStore.Size
import SpatialStore.Number.Bits
import SpatialStore.Bytes.LittleEndian

/-! The kinds of value that a slot holds, each of a fixed width, at any offset and least significant
byte first. A value that would reach beyond its slot is a fault and is not written. -/

namespace SpatialStore

namespace Bytes

def slice (bytes : Bytes) (offset width : Nat) : Bytes := (bytes.drop offset).take width

def blank (size : Nat) : Except Fault Bytes :=
  (Size.buffer size).map fun size => List.replicate size 0

def zeroed (bytes : Bytes) : Bytes := List.replicate bytes.length 0

def splice (bytes : Bytes) (offset : Nat) (content : Bytes) : Bytes :=
  bytes.take offset ++ content ++ bytes.drop (offset + content.length)

theorem length_splice {bytes content : Bytes} {offset : Nat}
    (fits : offset + content.length ≤ bytes.length) :
    (bytes.splice offset content).length = bytes.length := by
  simp [splice]
  omega

theorem slice_append (before piece after : Bytes) :
    (before ++ (piece ++ after)).slice before.length piece.length = piece := by
  simp [slice]

end Bytes

inductive Kind
  | byte
  | bool
  | int
  | long
  | float
  | double
  | index
  deriving DecidableEq

namespace Kind

abbrev Value : Kind → Type
  | .byte => UInt8
  | .bool => Bool
  | .int => Int32
  | .long => Int64
  | .float => Single
  | .double => Double
  | .index => Int32

def width : Kind → Nat
  | .byte => 1
  | .bool => 1
  | .int => 4
  | .long => 8
  | .float => 4
  | .double => 8
  | .index => 4

def encode : (kind : Kind) → kind.Value → Bytes
  | .byte, value => [value]
  | .bool, value => [if value then 1 else 0]
  | .int, value => LittleEndian.encode 4 value.toUInt32.toNat
  | .long, value => LittleEndian.encode 8 value.toUInt64.toNat
  | .float, value => LittleEndian.encode 4 value.bits.toNat
  | .double, value => LittleEndian.encode 8 value.bits.toNat
  | .index, value => LittleEndian.encode 4 value.toUInt32.toNat

/-- Any byte but zero is `true`. -/
def decode : (kind : Kind) → Bytes → kind.Value
  | .byte, bytes => UInt8.ofNat (LittleEndian.decode bytes)
  | .bool, bytes => LittleEndian.decode bytes ≠ 0
  | .int, bytes => (UInt32.ofNat (LittleEndian.decode bytes)).toInt32
  | .long, bytes => (UInt64.ofNat (LittleEndian.decode bytes)).toInt64
  | .float, bytes => ⟨UInt32.ofNat (LittleEndian.decode bytes)⟩
  | .double, bytes => ⟨UInt64.ofNat (LittleEndian.decode bytes)⟩
  | .index, bytes => (UInt32.ofNat (LittleEndian.decode bytes)).toInt32

@[simp] theorem length_encode (kind : Kind) (value : kind.Value) :
    (kind.encode value).length = kind.width := by
  cases kind <;> simp [encode, width]

theorem decode_encode (kind : Kind) (value : kind.Value) :
    kind.decode (kind.encode value) = value := by
  cases kind with
  | byte => simp [encode, decode, LittleEndian.decode]
  | bool => cases value <;> simp [encode, decode, LittleEndian.decode]
  | int | index =>
    have small := UInt32.toNat_lt (Int32.toUInt32 value)
    simp [encode, decode, LittleEndian.decode_encode_of_lt 4 small]
  | long =>
    have small := UInt64.toNat_lt (Int64.toUInt64 value)
    simp [encode, decode, LittleEndian.decode_encode_of_lt 8 small]
  | float =>
    obtain ⟨bits⟩ := value
    simp [encode, decode, LittleEndian.decode_encode_of_lt 4 bits.toNat_lt]
  | double =>
    obtain ⟨bits⟩ := value
    simp [encode, decode, LittleEndian.decode_encode_of_lt 8 bits.toNat_lt]

def read (kind : Kind) (bytes : Bytes) : kind.Value × Bytes :=
  (kind.decode (bytes.take kind.width), bytes.drop kind.width)

@[simp] theorem read_encode (kind : Kind) (value : kind.Value) (after : Bytes) :
    kind.read (kind.encode value ++ after) = (value, after) := by
  rw [read, List.take_left' (kind.length_encode value), List.drop_left' (kind.length_encode value),
    decode_encode]

def get (kind : Kind) (offset : Nat) (bytes : Bytes) : Except Fault kind.Value :=
  if offset + kind.width ≤ bytes.length then .ok (kind.decode (bytes.slice offset kind.width))
  else .error .outOfRange

def put (kind : Kind) (offset : Nat) (value : kind.Value) : Step Fault Bytes Unit := fun bytes =>
  if offset + kind.width ≤ bytes.length then .ok () (bytes.splice offset (kind.encode value))
  else .error .outOfRange bytes

end Kind

end SpatialStore
