import SpatialStore.Proofs.Slots.Lawful

/-! Stores that cannot be told from a list of rows. Beyond being lawful, such a store says when each of its
operations answers, and has nothing but blank cells in a slot that is new or has come back. -/

namespace SpatialStore

namespace Cells

variable {γ : Type} [Cell γ]

theorem read_eq_replicate {cells : Array γ} {start width : Nat}
    (blank : ∀ index < width, cells[start + index]? = some Cell.blank) :
    read cells start width = List.replicate width Cell.blank := by
  apply List.ext_getElem?
  intro index
  rw [getElem?_read, List.getElem?_replicate]
  by_cases inside : index < width
  · rw [if_pos inside, if_pos inside, blank index inside]
  · rw [if_neg inside, if_neg inside]

theorem read_blank {size start width : Nat} (fits : start + width ≤ size) :
    read (blank size : Array γ) start width = List.replicate width Cell.blank := by
  apply read_eq_replicate
  intro index inside
  rw [blank, Array.getElem?_replicate, if_pos (by omega)]

end Cells

namespace Size

theorem of_checked {size result : Nat} (done : checked size = .ok result) :
    result = size ∧ size < bound := by
  unfold checked at done
  split at done
  next inside => exact ⟨(Except.ok.inj done).symm, inside⟩
  next => exact nomatch done

theorem checked_bind_error {β : Type} {size : Nat} {rest : Nat → Except Fault β}
    (stops : ∃ fault, rest size = .error fault) : ∃ fault, (checked size >>= rest) = .error fault := by
  by_cases range : size < bound
  · rw [checked_eq_ok range]
    exact stops
  · rw [checked, if_neg range]
    exact ⟨.overflow, rfl⟩

theorem of_buffer {size result : Nat} (done : buffer size = .ok result) :
    result = size ∧ size ≤ largestBuffer := by
  unfold buffer at done
  split at done
  next fits => exact ⟨(Except.ok.inj done).symm, fits⟩
  next => exact nomatch done

theorem largestBuffer_lt : largestBuffer < bound := by decide

end Size

class PlainSlotStore (α : Type) {γ : outParam Type} [Cell γ] [SlotStore α γ] [LawfulSlotStore α] where
  /-- What holds, besides, of a store that takes its memory in pieces of a size that can be had. -/
  Regular : α → Prop
  make_ok (count : Nat) {width chunkSlots : Nat} : 0 < width → 0 < chunkSlots →
    chunkSlots * width ≤ Size.largestBuffer → count * width ≤ Size.largestBuffer →
    ∃ store : α, SlotStore.make count width chunkSlots = .ok store
  regular_make {count width chunkSlots : Nat} {store : α} : chunkSlots * width ≤ Size.largestBuffer →
    SlotStore.make count width chunkSlots = .ok store → Regular store
  read_make {count width chunkSlots slot : Nat} {store : α} :
    SlotStore.make count width chunkSlots = .ok store → slot < count →
    SlotStore.read store slot = .ok (List.replicate width Cell.blank)
  read_outside {store : α} {slot : Nat} : LawfulSlotStore.Sound store → SlotStore.size store ≤ slot →
    ∃ fault, SlotStore.read store slot = .error fault
  regular_write {store : α} (slot : Nat) (row : List γ) :
    Regular store → Regular (SlotStore.write store slot row)
  resize_ok {store : α} {count : Nat} : LawfulSlotStore.Sound store → Regular store →
    count * SlotStore.width store ≤ Size.largestBuffer → ∃ next, SlotStore.resize store count = .ok next
  regular_resize {store next : α} {count : Nat} : Regular store →
    SlotStore.resize store count = .ok next → Regular next
  read_grown {store next : α} {count slot : Nat} : LawfulSlotStore.Sound store → Regular store →
    SlotStore.resize store count = .ok next → SlotStore.size store ≤ slot → slot < count →
    SlotStore.read next slot = .ok (List.replicate (SlotStore.width store) Cell.blank)
  swap_same (store : α) (slot : Nat) : SlotStore.swap store slot slot = .ok store
  swap_outside {store : α} {first second : Nat} : LawfulSlotStore.Sound store → first ≠ second →
    SlotStore.size store ≤ first ∨ SlotStore.size store ≤ second →
    ∃ fault, SlotStore.swap store first second = .error fault
  copy_same (store : α) (slot : Nat) : SlotStore.copy store slot slot = .ok store
  /-- A copy is one write. -/
  copy_eq {store : α} {source target : Nat} {row : List γ} : LawfulSlotStore.Sound store →
    SlotStore.read store source = .ok row → target < SlotStore.size store → source ≠ target →
    SlotStore.copy store source target = .ok (SlotStore.write store target row)
  copy_outside {store : α} {source target : Nat} : LawfulSlotStore.Sound store → source ≠ target →
    SlotStore.size store ≤ source ∨ SlotStore.size store ≤ target →
    ∃ fault, SlotStore.copy store source target = .error fault

theorem SlotStore.regular_swap {α γ : Type} [Cell γ] [SlotStore α γ] [LawfulSlotStore α] [PlainSlotStore α]
    {store next : α} (sound : LawfulSlotStore.Sound store) (regular : PlainSlotStore.Regular store)
    {first second : Nat} (firstInside : first < size store) (secondInside : second < size store)
    (swapped : swap store first second = .ok next) : PlainSlotStore.Regular next := by
  by_cases same : first = second
  · subst second
    rw [PlainSlotStore.swap_same] at swapped
    exact Except.ok.inj swapped ▸ regular
  · rw [LawfulSlotStore.swap_eq sound (read_eq_row sound firstInside) (read_eq_row sound secondInside) same]
      at swapped
    obtain rfl := Except.ok.inj swapped
    exact PlainSlotStore.regular_write _ _ (PlainSlotStore.regular_write _ _ regular)

end SpatialStore
