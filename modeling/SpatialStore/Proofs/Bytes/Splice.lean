import SpatialStore.Bytes.Link
import SpatialStore.Proofs.Bytes.Packed

/-! What is read from a slot after some of its bytes were replaced. A field that is set reads as what it was set
to, a field apart from it reads as before, and in a slot of zeros all fields are blank. -/

namespace SpatialStore

/-! ### Bytes that are replaced -/

namespace Bytes

variable {bytes content : Bytes} {offset : Nat}

theorem getElem?_slice (bytes : Bytes) (offset width place : Nat) :
    (bytes.slice offset width)[place]? = if place < width then bytes[offset + place]? else none := by
  rw [slice, List.getElem?_take, List.getElem?_drop]

theorem slice_slice (bytes : Bytes) (offset : Nat) {width start inner : Nat} (inside : start + inner ≤ width) :
    (bytes.slice offset width).slice start inner = bytes.slice (offset + start) inner := by
  apply List.ext_getElem?
  intro place
  rw [getElem?_slice, getElem?_slice, getElem?_slice]
  split
  next near => rw [if_pos (by omega), Nat.add_assoc]
  next => rfl

theorem length_slice {width : Nat} (fits : offset + width ≤ bytes.length) :
    (bytes.slice offset width).length = width := by
  rw [slice, List.length_take, List.length_drop]
  omega

theorem slice_zeros {offset width size : Nat} (fits : offset + width ≤ size) :
    slice (List.replicate size 0) offset width = List.replicate width 0 := by
  rw [slice, List.drop_replicate, List.take_replicate, Nat.min_eq_left (by omega)]

theorem slice_splice (fits : offset + content.length ≤ bytes.length) :
    (bytes.splice offset content).slice offset content.length = content := by
  have start : (bytes.take offset).length = offset := List.length_take_of_le (by omega)
  have piece := slice_append (bytes.take offset) content (bytes.drop (offset + content.length))
  rw [start, ← List.append_assoc] at piece
  exact piece

theorem getElem?_splice_of_outside (fits : offset + content.length ≤ bytes.length) {place : Nat}
    (outside : place < offset ∨ offset + content.length ≤ place) :
    (bytes.splice offset content)[place]? = bytes[place]? := by
  have start : (bytes.take offset).length = offset := List.length_take_of_le (by omega)
  rw [splice, List.append_assoc]
  rcases outside with before | after
  · rw [List.getElem?_append_left (by omega), List.getElem?_take, if_pos before]
  · rw [List.getElem?_append_right (by omega), List.getElem?_append_right (by omega), List.getElem?_drop, start]
    congr 1
    omega

theorem slice_splice_of_apart (fits : offset + content.length ≤ bytes.length) {start width : Nat}
    (apart : start + width ≤ offset ∨ offset + content.length ≤ start) :
    (bytes.splice offset content).slice start width = bytes.slice start width := by
  apply List.ext_getElem?
  intro place
  rw [getElem?_slice, getElem?_slice]
  split
  next near => exact getElem?_splice_of_outside fits (by omega)
  next => rfl

end Bytes

/-! ### Fields as pieces of a slot -/

def Kind.blank : (kind : Kind) → kind.Value
  | .byte => 0
  | .bool => false
  | .int => 0
  | .long => 0
  | .float => ⟨0⟩
  | .double => ⟨0⟩
  | .index => 0

theorem Kind.decode_zeros (kind : Kind) : kind.decode (List.replicate kind.width 0) = kind.blank := by
  cases kind <;> rfl

namespace Doubles

theorem inside_width {count element : Nat} (inside : element < count) :
    element * Kind.double.width + Kind.double.width ≤ count * Kind.double.width := by
  rw [← Nat.succ_mul]
  exact Nat.mul_le_mul_right _ inside

theorem getElem_decode_slice {count element : Nat} (inside : element < count) (offset : Nat) (bytes : Bytes) :
    (decode count (bytes.slice offset (count * Kind.double.width)))[element] =
      Kind.double.decode (bytes.slice (place offset element) Kind.double.width) := by
  rw [decode, Vector.getElem_ofFn, Bytes.slice_slice _ _ (inside_width inside), place]

theorem decode_drop (count offset : Nat) (bytes : Bytes) :
    decode count (bytes.drop offset) = decode count (bytes.slice offset (count * Kind.double.width)) := by
  apply Vector.ext
  intro element inside
  rw [getElem_decode_slice inside, decode, Vector.getElem_ofFn, Bytes.slice, List.drop_drop, place, Bytes.slice]

theorem decode_splice {count : Nat} (element : Fin count) {offset : Nat} {bytes : Bytes}
    (fits : place offset element + Kind.double.width ≤ bytes.length) (value : Double) :
    decode count ((bytes.splice (place offset element) (Kind.double.encode value)).slice offset
        (count * Kind.double.width)) =
      Vector.set (decode count (bytes.slice offset (count * Kind.double.width))) element value := by
  have long : (Kind.double.encode value).length = Kind.double.width := Kind.length_encode _ _
  have whole : place offset element + (Kind.double.encode value).length ≤ bytes.length := long ▸ fits
  apply Vector.ext
  intro other inside
  rw [getElem_decode_slice inside, Vector.getElem_set, getElem_decode_slice inside]
  split
  next same =>
    have piece := Bytes.slice_splice whole
    rw [long] at piece
    rw [← same, piece, Kind.decode_encode]
  next different =>
    have apart : place offset other + Kind.double.width ≤ place offset element ∨
        place offset element + (Kind.double.encode value).length ≤ place offset other := by
      rw [long, place, place, Kind.width]
      omega
    rw [Bytes.slice_splice_of_apart whole apart]

theorem decode_zeros (count : Nat) :
    decode count (List.replicate (count * Kind.double.width) 0) = Vector.replicate count Kind.double.blank := by
  apply Vector.ext
  intro element inside
  rw [decode, Vector.getElem_ofFn, Vector.getElem_replicate, Bytes.slice_zeros (inside_width inside),
    Kind.decode_zeros]

theorem put_eq_ok {offset : Nat} {values : List Double} {bytes : Bytes}
    (fits : offset + values.length * Kind.double.width ≤ bytes.length) :
    put offset values bytes = .ok () (bytes.splice offset (encode values)) := by
  let old := decode values.length (bytes.slice offset (values.length * Kind.double.width))
  have stored : encode old.toList = bytes.slice offset (values.length * Kind.double.width) := by
    rw [encode_decode (Nat.le_of_eq (Bytes.length_slice fits).symm), List.take_of_length_le]
    exact Nat.le_of_eq (Bytes.length_slice fits)
  have start : (bytes.take offset).length = offset := List.length_take_of_le (by omega)
  have whole : bytes.take offset ++ (encode old.toList ++ bytes.drop (offset + values.length * Kind.double.width)) =
      bytes := by
    rw [stored, Bytes.slice, ← List.drop_drop, List.take_append_drop, List.take_append_drop]
  have done := put_between (by rw [Vector.length_toList] : values.length = old.toList.length)
    (bytes.take offset) (bytes.drop (offset + values.length * Kind.double.width))
  rw [whole, start] at done
  rw [done, Bytes.splice, length_encode, List.append_assoc]

end Doubles

namespace Shape

def decode : (shape : Shape) → Bytes → shape.Value
  | .one kind, bytes => kind.decode bytes
  | .doubles count, bytes => Doubles.decode count bytes

def blank : (shape : Shape) → shape.Value
  | .one kind => kind.blank
  | .doubles count => Vector.replicate count Kind.double.blank

theorem length_encode (shape : Shape) (value : shape.Value) : (shape.encode value).length = shape.width := by
  cases shape with
  | one kind => exact kind.length_encode value
  | doubles count => rw [encode, Doubles.length_encode, Vector.length_toList, width]

theorem decode_encode (shape : Shape) (value : shape.Value) : shape.decode (shape.encode value) = value := by
  cases shape with
  | one kind => exact kind.decode_encode value
  | doubles count =>
    have done := Doubles.decode_encode value []
    rw [List.append_nil] at done
    exact done

theorem decode_zeros (shape : Shape) : shape.decode (List.replicate shape.width 0) = shape.blank := by
  cases shape with
  | one kind => exact kind.decode_zeros
  | doubles count => exact Doubles.decode_zeros count

end Shape

namespace Field

variable {field : Field} {slot : Bytes}

theorem get_eq_ok (fits : field.stop ≤ slot.length) :
    field.get slot = .ok (field.shape.decode (slot.slice field.offset field.shape.width)) := by
  obtain ⟨shape, offset⟩ := field
  cases shape with
  | one kind => exact if_pos fits
  | doubles count =>
    change Doubles.get count offset slot = _
    have fits : Doubles.place offset count ≤ slot.length := fits
    rw [Doubles.get, if_pos (Or.inr fits), Doubles.decode_drop]
    rfl

theorem put_eq_ok (fits : field.stop ≤ slot.length) (value : field.Value) :
    field.put value slot = .ok () (slot.splice field.offset (field.shape.encode value)) := by
  obtain ⟨shape, offset⟩ := field
  cases shape with
  | one kind => exact if_pos fits
  | doubles count =>
    have long : value.toList.length = count := Vector.length_toList
    have fits : offset + value.toList.length * Kind.double.width ≤ slot.length := by
      rw [long]
      exact fits
    exact Doubles.put_eq_ok fits

theorem get_splice (fits : field.stop ≤ slot.length) (value : field.Value) :
    field.get (slot.splice field.offset (field.shape.encode value)) = .ok value := by
  have long := field.shape.length_encode value
  have whole : field.offset + (field.shape.encode value).length ≤ slot.length := long ▸ fits
  have piece := Bytes.slice_splice whole
  rw [long] at piece
  rw [get_eq_ok (by rwa [Bytes.length_splice whole]), piece, Shape.decode_encode]

theorem get_splice_of_apart (fits : field.stop ≤ slot.length) {offset : Nat} {content : Bytes}
    (whole : offset + content.length ≤ slot.length)
    (apart : field.stop ≤ offset ∨ offset + content.length ≤ field.offset) :
    field.get (slot.splice offset content) = field.get slot := by
  rw [get_eq_ok fits, get_eq_ok (by rwa [Bytes.length_splice whole]), Bytes.slice_splice_of_apart whole apart]

end Field

namespace Link

theorem ofSlot_some {target : Nat} (small : target ≤ 0x7fffffff) : ofSlot (some target) = .ok (Int32.ofNat target) :=
  if_pos small

theorem put_refused {target : Nat} (large : 0x7fffffff < target) (offset : Nat) (slot : Bytes) :
    put offset (some target) slot = .error (.refused (.indexOverflow target)) slot := by
  have refused : ofSlot (some target) = .error (.indexOverflow target) := if_neg (Nat.not_le_of_lt large)
  rw [put, refused]
  rfl

end Link

end SpatialStore
