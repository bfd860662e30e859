import Mathlib.Logic.Function.Basic
import SpatialStore.Proofs.Entities.Ledger

/-! Entity stores whose records are values. Changing the value of an entity changes that of no other, and
every value goes with its entity when a removal moves its record. -/

namespace SpatialStore.EntityStore

variable {α γ τ : Type} [SlotStore α γ] [Stored τ γ]

def values (τ : Type) [Stored τ γ] (store : EntityStore α γ) : EntityId → Option τ := fun id =>
  (store.ledger id).map Stored.decode

theorem values_enter [LawfulStored τ] {store next : EntityStore α γ} {id : EntityId} {value : τ}
    (entered : next.ledger = store.ledger.enter id (Stored.encode value)) :
    next.values τ = Function.update (store.values τ) id (some value) := by
  funext other
  rw [values, entered, Ledger.enter, Function.update_apply]
  split
  · exact congrArg some (LawfulStored.decode_encode value)
  · rfl

theorem values_erase {store next : EntityStore α γ} {id : EntityId}
    (erased : next.ledger = store.ledger.erase id) :
    next.values τ = Function.update (store.values τ) id none := by
  funext other
  rw [values, erased, Ledger.erase, Function.update_apply]
  split
  · rfl
  · rfl

variable [LawfulSlotStore α]

theorem values_cases {store : EntityStore α γ} (sound : store.Sound) (id : EntityId) :
    (store.slotOf id = none ∧ store.values τ id = none) ∨
    (∃ slot row, store.slotOf id = some slot ∧ store.idAt slot = some id ∧
      store.records.records[slot]? = some row ∧ store.values τ id = some (Stored.decode row)) := by
  rcases live_cases sound id with ⟨missing, vacant⟩ | ⟨slot, row, found, here, _, kept, entry⟩
  · exact Or.inl ⟨missing, by rw [values, vacant, Option.map_none]⟩
  · exact Or.inr ⟨slot, row, found, here, kept, by rw [values, entry, Option.map_some]⟩

theorem get_eq {store : EntityStore α γ} (sound : store.Sound) (id : EntityId) :
    store.get τ id = (store.values τ id).elim (.error (.refused (.unknownId id.raw))) .ok := by
  rcases values_cases (τ := τ) sound id with ⟨missing, vacant⟩ | ⟨slot, row, found, _, kept, entry⟩
  · rw [vacant, get, require, missing]
    rfl
  · rw [entry, get, require, found]
    change (store.records.read slot).map Stored.decode = _
    rw [RecordPool.read_eq sound.records, kept]
    rfl

theorem getElem?_items {store : EntityStore α γ} (sound : store.Sound) (slot : Nat) :
    (store.records.items τ)[slot]? = (store.idAt slot).bind (store.values τ) := by
  cases here : store.idAt slot with
  | none =>
    rw [Option.bind_none, List.getElem?_eq_none_iff, RecordPool.length_items, ← sound.len_eq]
    exact Array.getElem?_eq_none_iff.mp here
  | some id =>
    have found : store.slotOf id = some slot := (sound.paired _ _).mpr here
    rw [Option.bind_some, values, ledger, found, Option.bind_some, RecordPool.items, List.getElem?_map]

theorem update_cases [LawfulStored τ] {store : EntityStore α γ} (sound : store.Sound)
    (formed : store.records.form = Stored.form τ) (id : EntityId) (change : τ → τ) :
    (store.values τ id = none ∧ update id change store = .error (.refused (.unknownId id.raw)) store) ∨
    (∃ value records, store.values τ id = some value ∧
      update id change store = .ok () { store with records } ∧
      ({ store with records } : EntityStore α γ).Sound ∧ records.form = store.records.form ∧
      records.len = store.records.len ∧ records.slots.maximum = store.records.slots.maximum ∧
      ({ store with records } : EntityStore α γ).values τ =
        Function.update (store.values τ) id (some (change value))) := by
  rcases values_cases (τ := τ) sound id with ⟨missing, vacant⟩ | ⟨slot, row, found, _, kept, entry⟩
  · exact Or.inl ⟨vacant, edit_unknown missing _⟩
  · let overwrite : Overwrite γ store.records.form.width :=
      { step := modify fun cells => Stored.encode (change (Stored.decode cells))
        keeps_length _ _ := by rw [formed]; exact LawfulStored.length_encode _ }
    obtain ⟨next, rfl, edited, soundNext, entered⟩ := edit_found sound found kept overwrite
    exact Or.inr ⟨_, _, entry, edited, soundNext, rfl, rfl, rfl, values_enter entered⟩

theorem Entered.values_eq [LawfulStored τ] {store next : EntityStore α γ} {id : EntityId}
    (entered : store.Entered id next) (sound : store.Sound) (vacant : store.directory.contains id = false)
    (formed : store.records.form = Stored.form τ) :
    next.values τ = Function.update (store.values τ) id (some Stored.fresh) := by
  apply values_enter
  rw [entered.ledger sound vacant, formed]
  rfl

end SpatialStore.EntityStore
