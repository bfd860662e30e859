import SpatialStore.Slots.Cells
import SpatialStore.Step
import SpatialStore.Size

/-! Slot stores: arrays of slots that all have the same width, addressed by number. How the cells are
kept is up to the store. -/

namespace SpatialStore

class SlotStore (α : Type) (γ : outParam Type) where
  /-- A store of blank slots; `chunkSlots` is for stores that keep their slots in chunks. -/
  make : (count width chunkSlots : Nat) → Except Fault α
  size : α → Nat
  width : α → Nat
  /-- Drops the slots beyond `count`, or adds blank ones. -/
  resize : α → (count : Nat) → Except Fault α
  read : α → (slot : Nat) → Except Fault (List γ)
  /-- Replaces the content of a slot that can be read. -/
  write : α → (slot : Nat) → List γ → α
  swap : α → (first second : Nat) → Except Fault α
  copy : α → (source target : Nat) → Except Fault α

namespace SlotStore

variable {α γ β : Type} [SlotStore α γ]

def maxSize (store : α) : Nat := Size.largestBuffer / width store

@[inline] def edit (slot : Nat) (step : Step Fault (List γ) β) : Step Fault α β := fun store =>
  match read store slot with
  | .error fault => .error fault store
  | .ok content =>
    match step content with
    | .ok answer content => .ok answer (write store slot content)
    | .error fault content => .error fault (write store slot content)

def contents (store : α) (count : Nat) : Except Fault (List (List γ)) :=
  (List.range count).mapM (read store)

end SlotStore

end SpatialStore
