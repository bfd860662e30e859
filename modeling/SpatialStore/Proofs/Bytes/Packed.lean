import SpatialStore.Proofs.Steps
import SpatialStore.Bytes.Field
import SpatialStore.Records.Form

/-! Bytes that lie side by side without gaps. What they are read as is all that there is in them, so that two
rows that read the same are the same, and each field keeps to its own bytes when it is set. -/

namespace SpatialStore

/-- Writing back what was read leaves a row as it was. -/
class PackedStored (τ : Type) {γ : outParam Type} [Stored τ γ] : Prop where
  encode_decode (row : List γ) : row.length = Stored.width τ → Stored.encode (Stored.decode row : τ) = row

theorem LittleEndian.encode_decode_mod {width : Nat} {bytes : Bytes} (long : bytes.length = width) :
    encode width (decode bytes % numbers width) = bytes := by
  subst long
  rw [Nat.mod_eq_of_lt (decode_lt bytes), encode_decode]

namespace Kind

/-- All kinds but one use all their bytes; of what is not zero only that is kept. -/
theorem encode_decode {kind : Kind} (exact : kind ≠ .bool) {bytes : Bytes} (long : bytes.length = kind.width) :
    kind.encode (kind.decode bytes) = bytes := by
  cases kind with
  | byte =>
    obtain ⟨byte, rfl⟩ := List.length_eq_one_iff.mp long
    simp [encode, decode, LittleEndian.decode]
  | bool => exact absurd rfl exact
  | int | index =>
    simp only [encode, decode]
    rw [UInt32.toUInt32_toInt32, UInt32.toNat_ofNat']
    exact LittleEndian.encode_decode_mod long
  | long =>
    simp only [encode, decode]
    rw [UInt64.toUInt64_toInt64, UInt64.toNat_ofNat']
    exact LittleEndian.encode_decode_mod long
  | float =>
    simp only [encode, decode]
    rw [UInt32.toNat_ofNat']
    exact LittleEndian.encode_decode_mod long
  | double =>
    simp only [encode, decode]
    rw [UInt64.toNat_ofNat']
    exact LittleEndian.encode_decode_mod long

theorem encode_read {kind : Kind} (exact : kind ≠ .bool) {bytes : Bytes} (enough : kind.width ≤ bytes.length) :
    kind.encode (kind.read bytes).1 ++ (kind.read bytes).2 = bytes := by
  have long : (bytes.take kind.width).length = kind.width := List.length_take_of_le enough
  rw [read, encode_decode exact long, List.take_append_drop]

theorem length_read (kind : Kind) (bytes : Bytes) : (kind.read bytes).2.length = bytes.length - kind.width :=
  List.length_drop

end Kind

namespace Doubles

theorem encode_decode {count : Nat} {bytes : Bytes} (enough : count * Kind.double.width ≤ bytes.length) :
    encode (decode count bytes).toList = bytes.take (count * Kind.double.width) := by
  rw [decode, Vector.toList_ofFn]
  induction count with
  | zero => rw [List.ofFn_zero, Nat.zero_mul, List.take_zero, encode, List.flatMap_nil]
  | succ count ih =>
    rw [Nat.add_mul, Nat.one_mul] at enough
    have long : (bytes.slice (count * Kind.double.width) Kind.double.width).length = Kind.double.width := by
      rw [Bytes.slice, List.length_take, List.length_drop]
      omega
    have before := ih (Nat.le_of_add_right_le enough)
    have last := Kind.encode_decode (by decide : Kind.double ≠ .bool) long
    rw [encode] at before
    rw [List.ofFn_succ_last, encode, List.flatMap_append, List.flatMap_singleton, Nat.add_mul, Nat.one_mul,
      List.take_add]
    exact congr (congrArg _ before) last

theorem encode_read {count : Nat} {bytes : Bytes} (enough : count * Kind.double.width ≤ bytes.length) :
    encode (read count bytes).1.toList ++ (read count bytes).2 = bytes := by
  rw [read, encode_decode enough, List.take_append_drop]

end Doubles

/-! ### Setting a field between others -/

theorem Bytes.splice_between {old content : Bytes} (same : content.length = old.length)
    (before after : Bytes) :
    (before ++ (old ++ after)).splice before.length content = before ++ (content ++ after) := by
  rw [splice, List.take_left, same, ← List.drop_drop, List.drop_left, List.drop_left, List.append_assoc]

def Shape.encode : (shape : Shape) → shape.Value → Bytes
  | .one kind, value => kind.encode value
  | .doubles _, values => Doubles.encode values.toList

theorem Kind.put_between (kind : Kind) (old value : kind.Value) (before after : Bytes) :
    kind.put before.length value (before ++ (kind.encode old ++ after)) =
      .ok () (before ++ (kind.encode value ++ after)) := by
  have same : (kind.encode value).length = (kind.encode old).length := by
    rw [length_encode, length_encode]
  rw [put, if_pos, Bytes.splice_between same]
  rw [List.length_append, List.length_append, length_encode]
  omega

theorem Doubles.put_between {old values : List Double} (same : values.length = old.length)
    (before after : Bytes) :
    put before.length values (before ++ (encode old ++ after)) =
      .ok () (before ++ (encode values ++ after)) := by
  induction values generalizing old before with
  | nil =>
    obtain rfl := List.length_eq_zero_iff.mp same.symm
    rfl
  | cons value rest ih =>
    obtain ⟨first, others, rfl⟩ := List.exists_cons_of_length_eq_add_one same.symm
    have one := Kind.double.put_between first value before (encode others ++ after)
    have more := ih (Nat.succ.inj same) (before ++ Kind.double.encode value)
    rw [List.length_append, Kind.length_encode, List.append_assoc, List.append_assoc] at more
    rw [put, encode, List.flatMap_cons, ← encode, List.append_assoc, Step.bind_of_ok one, more, encode, encode,
      List.flatMap_cons, List.append_assoc]

namespace Field

theorem put_between (field : Field) {before : Bytes} (start : before.length = field.offset)
    (old value : field.Value) (after : Bytes) :
    field.put value (before ++ (field.shape.encode old ++ after)) =
      .ok () (before ++ (field.shape.encode value ++ after)) := by
  obtain ⟨shape, offset⟩ := field
  obtain rfl : before.length = offset := start
  cases shape with
  | one kind => exact kind.put_between old value before after
  | doubles count =>
    have same : value.toList.length = old.toList.length := by
      rw [Vector.length_toList, Vector.length_toList]
    exact Doubles.put_between same before after

theorem get_between (field : Field) {before : Bytes} (start : before.length = field.offset)
    (value : field.Value) (after : Bytes) :
    field.get (before ++ (field.shape.encode value ++ after)) = .ok value := by
  obtain ⟨shape, offset⟩ := field
  obtain rfl : before.length = offset := start
  cases shape with
  | one kind =>
    have fits : before.length + kind.width ≤ (before ++ (kind.encode value ++ after)).length := by
      rw [List.length_append, List.length_append, Kind.length_encode]
      omega
    have piece := Bytes.slice_append before (kind.encode value) after
    rw [Kind.length_encode] at piece
    change kind.get before.length (before ++ (kind.encode value ++ after)) = _
    rw [Kind.get, if_pos fits, piece, Kind.decode_encode]
  | doubles count =>
    have fits : Doubles.place before.length count ≤
        (before ++ (Doubles.encode value.toList ++ after)).length := by
      rw [List.length_append, List.length_append, Doubles.length_encode, Vector.length_toList, Doubles.place]
      omega
    change Doubles.get count before.length (before ++ (Doubles.encode value.toList ++ after)) = _
    rw [Doubles.get, if_pos (Or.inr fits), List.drop_left, Doubles.decode_encode]

end Field

end SpatialStore
