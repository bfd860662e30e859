import SpatialStore.Bytes.Link

/-! Fields: a value, or several doubles in a row, at a fixed offset of a slot. -/

namespace SpatialStore

inductive Shape
  | one (kind : Kind)
  | doubles (count : Nat)
  deriving DecidableEq

namespace Shape

abbrev Value : Shape → Type
  | .one kind => kind.Value
  | .doubles count => Vector Double count

def width : Shape → Nat
  | .one kind => kind.width
  | .doubles count => count * Kind.double.width

end Shape

structure Field where
  shape : Shape
  offset : Nat
  deriving DecidableEq

namespace Doubles

def encode (values : List Double) : Bytes := values.flatMap Kind.double.encode

def decode (count : Nat) (bytes : Bytes) : Vector Double count :=
  Vector.ofFn fun element =>
    Kind.double.decode (bytes.slice (element * Kind.double.width) Kind.double.width)

def read (count : Nat) (bytes : Bytes) : Vector Double count × Bytes :=
  (decode count bytes, bytes.drop (count * Kind.double.width))

def place (offset element : Nat) : Nat := offset + element * Kind.double.width

def get (count offset : Nat) (bytes : Bytes) : Except Fault (Vector Double count) :=
  if count = 0 ∨ place offset count ≤ bytes.length then
    .ok (decode count (bytes.drop offset))
  else .error .outOfRange

/-- Sets doubles in a row, the first at an offset. Where they run over the end of the slot, those
before that are set. -/
def put (offset : Nat) : List Double → Step Fault Bytes Unit
  | [] => pure ()
  | value :: rest => do
    Kind.double.put offset value
    put (offset + Kind.double.width) rest

def getOne (count offset element : Nat) (bytes : Bytes) : Except Fault Double :=
  if element < count then Kind.double.get (place offset element) bytes
  else .error (.elementOutOfRange element count)

def putOne (count offset element : Nat) (value : Double) : Step Fault Bytes Unit :=
  if element < count then Kind.double.put (place offset element) value
  else throw (.elementOutOfRange element count)

theorem length_encode (values : List Double) :
    (encode values).length = values.length * Kind.double.width := by
  induction values with
  | nil => rfl
  | cons value rest ih =>
    rw [encode, List.flatMap_cons, List.length_append, Kind.length_encode, ← encode, ih,
      List.length_cons, Nat.add_mul, Nat.one_mul, Nat.add_comm]

theorem slice_encode (values : List Double) (after : Bytes) (element : Nat)
    (inside : element < values.length) :
    (encode values ++ after).slice (element * Kind.double.width) Kind.double.width =
      Kind.double.encode values[element] := by
  induction values generalizing element with
  | nil => simp at inside
  | cons value rest ih =>
    rw [encode, List.flatMap_cons, ← encode, List.append_assoc]
    have width : (Kind.double.encode value).length = Kind.double.width := Kind.length_encode _ _
    cases element with
    | zero =>
      have first := Bytes.slice_append [] (Kind.double.encode value) (encode rest ++ after)
      rw [width] at first
      simpa using first
    | succ element =>
      have inside : element < rest.length := by simpa using inside
      rw [List.getElem_cons_succ, ← ih element inside, Bytes.slice, Bytes.slice, Nat.add_mul,
        Nat.one_mul, Nat.add_comm (element * _), ← List.drop_drop, List.drop_left' width]

theorem decode_encode {count : Nat} (values : Vector Double count) (after : Bytes) :
    decode count (encode values.toList ++ after) = values := by
  apply Vector.ext
  intro element inside
  have inside' : element < values.toList.length := by simpa using inside
  simp only [decode, Vector.getElem_ofFn]
  rw [slice_encode _ _ _ inside', Kind.decode_encode]
  simp

@[simp] theorem read_encode {count : Nat} (values : Vector Double count) (after : Bytes) :
    read count (encode values.toList ++ after) = (values, after) := by
  have long : (encode values.toList).length = count * Kind.double.width := by
    rw [length_encode, Vector.length_toList]
  rw [read, decode_encode, List.drop_left' long]

end Doubles

namespace Field

abbrev Value (field : Field) : Type := field.shape.Value

def stop (field : Field) : Nat := field.offset + field.shape.width

def get : (field : Field) → Bytes → Except Fault field.Value
  | ⟨.one kind, offset⟩, bytes => kind.get offset bytes
  | ⟨.doubles count, offset⟩, bytes => Doubles.get count offset bytes

def put : (field : Field) → field.Value → Step Fault Bytes Unit
  | ⟨.one kind, offset⟩, value => kind.put offset value
  | ⟨.doubles _, offset⟩, values => Doubles.put offset values.toList

end Field

end SpatialStore
