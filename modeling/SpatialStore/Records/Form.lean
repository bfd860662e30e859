import SpatialStore.Slots.Cells

/-! Record forms: how wide a kind of record is, what a new one holds, and, for records that are used as
values, how a value is laid out in cells. -/

namespace SpatialStore

structure Form (γ : Type) where
  width : Nat
  /-- The cells of a new record. -/
  fresh : List γ

class Stored (τ : Type) (γ : outParam Type) where
  width : Nat
  fresh : τ
  encode : τ → List γ
  decode : List γ → τ

/-- Every value fills its slot, and reading it gives it back. -/
class LawfulStored (τ : Type) {γ : outParam Type} [Stored τ γ] : Prop where
  length_encode (value : τ) : (Stored.encode value).length = Stored.width τ
  decode_encode (value : τ) : Stored.decode (Stored.encode value) = value

def Stored.form (τ : Type) {γ : Type} [Stored τ γ] : Form γ :=
  ⟨Stored.width τ, Stored.encode (Stored.fresh : τ)⟩

end SpatialStore
