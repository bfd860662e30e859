import SpatialStore.Proofs.Records.Pool

/-! Setting a field and changing a value are overwrites: also a row of doubles that runs over the end of
its record, and is therefore set only in part, leaves the record as long as it was. -/

namespace SpatialStore

namespace Kind

theorem length_left_put (kind : Kind) (offset : Nat) (value : kind.Value) (bytes : Bytes) :
    ((kind.put offset value).left bytes).length = bytes.length := by
  by_cases fits : offset + kind.width ≤ bytes.length
  · have run : kind.put offset value bytes = .ok () (bytes.splice offset (kind.encode value)) := if_pos fits
    rw [Step.left_of_ok run, Bytes.length_splice]
    rw [length_encode]
    exact fits
  · have run : kind.put offset value bytes = .error .outOfRange bytes := if_neg fits
    rw [Step.left_of_error run]

end Kind

namespace Doubles

theorem length_left_put (values : List Double) (offset : Nat) (bytes : Bytes) :
    ((put offset values).left bytes).length = bytes.length := by
  induction values generalizing offset bytes with
  | nil => rfl
  | cons value rest ih =>
    have first := Kind.double.length_left_put offset value bytes
    cases run : Kind.double.put offset value bytes with
    | ok answer next =>
      rw [Step.left_of_ok run] at first
      rw [put, Step.left, Step.bind_of_ok run]
      exact (ih (offset + Kind.double.width) next).trans first
    | error fault next =>
      rw [Step.left_of_error run] at first
      rw [put, Step.left, Step.bind_of_error run]
      exact first

end Doubles

theorem Field.length_left_put (field : Field) (value : field.Value) (bytes : Bytes) :
    ((field.put value).left bytes).length = bytes.length := by
  obtain ⟨shape, offset⟩ := field
  cases shape with
  | one kind => exact kind.length_left_put offset value bytes
  | doubles count => exact Doubles.length_left_put value.toList offset bytes

namespace Overwrite

def field (width : Nat) (field : Field) (value : field.Value) : Overwrite UInt8 width where
  step := field.put value
  keeps_length bytes long := (field.length_left_put value bytes).trans long

def change {τ γ : Type} [Stored τ γ] [LawfulStored τ] (change : τ → τ) :
    Overwrite γ (Stored.width τ) where
  step := modify fun cells => Stored.encode (change (Stored.decode cells))
  keeps_length _ _ := LawfulStored.length_encode _

end Overwrite

namespace RecordPool

variable {α γ τ : Type} [SlotStore α γ] [Stored τ γ]

def items (τ : Type) [Stored τ γ] (pool : RecordPool α γ) : List τ := pool.records.map Stored.decode

theorem length_items (pool : RecordPool α γ) : (pool.items τ).length = pool.len := by
  rw [items, List.length_map, length_records]

variable [LawfulSlotStore α] [LawfulStored τ]

omit [LawfulStored τ] in
theorem values_eq {pool : RecordPool α γ} (sound : pool.Sound) : pool.values τ = .ok (pool.items τ) := by
  rw [values, SlotPool.contents_eq sound.slots]
  rfl

theorem update_ok {pool : RecordPool α γ} (sound : pool.Sound) (formed : pool.form = Stored.form τ)
    {slot : Nat} {item : τ} (kept : (pool.items τ)[slot]? = some item) (change : τ → τ) :
    let row := Stored.encode (change item)
    update slot change pool = .ok () (pool.put slot row) ∧ row.length = pool.form.width ∧
      (pool.put slot row).Sound ∧ (pool.put slot row).items τ = (pool.items τ).set slot (change item) := by
  intro row
  rw [items, List.getElem?_map, Option.map_eq_some_iff] at kept
  obtain ⟨cells, found, rfl⟩ := kept
  have inside : slot < pool.len := by
    rw [← length_records]
    exact (List.getElem?_eq_some_iff.mp found).1
  have long : row.length = pool.form.width := by
    rw [formed, LawfulStored.length_encode]
    rfl
  obtain ⟨soundPut, rows⟩ := put_spec sound inside long
  refine ⟨?_, long, soundPut, ?_⟩
  · exact edit_eq sound found (modify fun cells => Stored.encode (change (Stored.decode cells)))
  · rw [items, rows, List.map_set, LawfulStored.decode_encode, items]

end RecordPool

end SpatialStore
