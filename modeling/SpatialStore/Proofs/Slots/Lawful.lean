import SpatialStore.Slots.Store

/-! Stores that keep what they are given. A sound store reads a full row from each of its slots, and
writing a row changes that slot and no other. Whoever keeps records in slots relies on these laws alone,
so that it does not matter how a store arranges its cells. -/

namespace SpatialStore

namespace Cells

variable {γ : Type}

theorem getElem?_read (cells : Array γ) (start width index : Nat) :
    (read cells start width)[index]? = if index < width then cells[start + index]? else none := by
  rw [read, Array.getElem?_toList, Array.getElem?_extract]
  by_cases inside : index < width
  · rw [if_pos inside]
    split
    next => rfl
    next outside => rw [Array.getElem?_eq_none (by omega)]
  · rw [if_neg inside, if_neg (by omega)]

theorem length_read {cells : Array γ} {start width : Nat} (fits : start + width ≤ cells.size) :
    (read cells start width).length = width := by
  simp only [read, Array.length_toList, Array.size_extract]
  omega

theorem read_write_same {cells : Array γ} {start : Nat} {content : List γ}
    (fits : start + content.length ≤ cells.size) :
    read (write cells start content) start content.length = content := by
  apply List.ext_getElem?
  intro index
  rw [getElem?_read, getElem?_write]
  by_cases inside : index < content.length
  · rw [if_pos inside, if_pos (by omega), Nat.add_sub_cancel_left]
  · rw [if_neg inside, List.getElem?_eq_none (by omega)]

theorem read_write_apart {cells : Array γ} {start other width : Nat} {content : List γ}
    (apart : other + width ≤ start ∨ start + content.length ≤ other) :
    read (write cells start content) other width = read cells other width := by
  apply List.ext_getElem?
  intro index
  rw [getElem?_read, getElem?_read, getElem?_write]
  by_cases inside : index < width
  · rw [if_pos inside, if_pos inside, if_neg (by omega)]
  · rw [if_neg inside, if_neg inside]

theorem write_comm {cells : Array γ} {first second : Nat} {firstContent secondContent : List γ}
    (apart : first + firstContent.length ≤ second ∨ second + secondContent.length ≤ first) :
    write (write cells first firstContent) second secondContent =
      write (write cells second secondContent) first firstContent := by
  apply Array.ext_getElem?
  intro index
  rw [getElem?_write, getElem?_write, getElem?_write, getElem?_write, size_write, size_write]
  by_cases inFirst : first ≤ index ∧ index < first + firstContent.length ∧ index < cells.size
  · rw [if_pos inFirst, if_pos inFirst, if_neg (by omega)]
  · rw [if_neg inFirst, if_neg inFirst]

theorem exchange_eq {cells : Array γ} {first second width : Nat}
    (apart : first + width ≤ second ∨ second + width ≤ first)
    (firstFits : first + width ≤ cells.size) (secondFits : second + width ≤ cells.size) :
    exchange cells first second width =
      .ok (write (write cells first (read cells second width)) second (read cells first width)) := by
  unfold exchange
  by_cases order : first < second
  · rw [if_pos order]
    exact if_pos ⟨secondFits, by omega⟩
  · rw [if_neg order]
    refine (if_pos ⟨firstFits, by omega⟩).trans (congrArg Except.ok (write_comm ?_))
    rw [length_read firstFits, length_read secondFits]
    exact apart.symm

theorem exchange_beyond {cells : Array γ} {first second width : Nat}
    (beyond : cells.size < first + width ∨ cells.size < second + width) :
    exchange cells first second width = .error .outOfRange := by
  unfold exchange
  by_cases order : first < second
  · rw [if_pos order]
    exact if_neg (by omega)
  · rw [if_neg order]
    exact if_neg (by omega)

theorem rows_apart {first second width : Nat} (different : first ≠ second) :
    first * width + width ≤ second * width ∨ second * width + width ≤ first * width := by
  rcases Nat.lt_or_gt_of_ne different with before | after
  · have whole := Nat.mul_le_mul_right width (Nat.succ_le_of_lt before)
    rw [Nat.succ_mul] at whole
    exact Or.inl whole
  · have whole := Nat.mul_le_mul_right width (Nat.succ_le_of_lt after)
    rw [Nat.succ_mul] at whole
    exact Or.inr whole

end Cells

class LawfulSlotStore (α : Type) {γ : outParam Type} [SlotStore α γ] where
  /-- What holds of every store that was made and changed by the operations alone. -/
  Sound : α → Prop
  sound_make {count width chunkSlots : Nat} {store : α} :
    SlotStore.make count width chunkSlots = .ok store →
      Sound store ∧ SlotStore.size store = count ∧ SlotStore.width store = width
  read_ok {store : α} {slot : Nat} : Sound store → slot < SlotStore.size store →
    ∃ row, SlotStore.read store slot = .ok row ∧ row.length = SlotStore.width store
  size_write (store : α) (slot : Nat) (row : List γ) :
    SlotStore.size (SlotStore.write store slot row) = SlotStore.size store
  width_write (store : α) (slot : Nat) (row : List γ) :
    SlotStore.width (SlotStore.write store slot row) = SlotStore.width store
  sound_write {store : α} {slot : Nat} {row : List γ} : Sound store →
    slot < SlotStore.size store → row.length = SlotStore.width store →
    Sound (SlotStore.write store slot row)
  read_write {store : α} {slot other : Nat} {row : List γ} : Sound store →
    slot < SlotStore.size store → row.length = SlotStore.width store → other < SlotStore.size store →
    SlotStore.read (SlotStore.write store slot row) other =
      if other = slot then .ok row else SlotStore.read store other
  /-- An exchange is two writes. -/
  swap_eq {store : α} {first second : Nat} {firstRow secondRow : List γ} : Sound store →
    SlotStore.read store first = .ok firstRow → SlotStore.read store second = .ok secondRow →
    first ≠ second → SlotStore.swap store first second =
      .ok (SlotStore.write (SlotStore.write store first secondRow) second firstRow)
  sound_resize {store next : α} {count : Nat} : Sound store →
    SlotStore.resize store count = .ok next →
      Sound next ∧ SlotStore.size next = count ∧ SlotStore.width next = SlotStore.width store
  read_resize {store next : α} {count slot : Nat} : Sound store →
    SlotStore.resize store count = .ok next → slot < SlotStore.size store → slot < count →
    SlotStore.read next slot = SlotStore.read store slot

namespace SlotStore

variable {α γ : Type} [SlotStore α γ]

def row (store : α) (slot : Nat) : List γ :=
  match read store slot with
  | .ok row => row
  | .error _ => []

theorem row_of_read {store : α} {slot : Nat} {content : List γ}
    (found : read store slot = .ok content) : row store slot = content := by
  rw [row, found]

variable [LawfulSlotStore α]

theorem read_eq_row {store : α} (sound : LawfulSlotStore.Sound store) {slot : Nat}
    (inside : slot < size store) : read store slot = .ok (row store slot) := by
  obtain ⟨content, found, _⟩ := LawfulSlotStore.read_ok sound inside
  rw [row_of_read found, found]

theorem length_row {store : α} (sound : LawfulSlotStore.Sound store) {slot : Nat}
    (inside : slot < size store) : (row store slot).length = width store := by
  obtain ⟨content, found, long⟩ := LawfulSlotStore.read_ok sound inside
  rw [row_of_read found, long]

theorem row_write {store : α} (sound : LawfulSlotStore.Sound store) {slot other : Nat}
    {content : List γ} (inside : slot < size store) (long : content.length = width store)
    (otherInside : other < size store) :
    row (write store slot content) other = if other = slot then content else row store other := by
  rw [row, LawfulSlotStore.read_write sound inside long otherInside]
  by_cases same : other = slot
  · rw [if_pos same, if_pos same]
  · rw [if_neg same, if_neg same, row]

theorem row_resize {store next : α} (sound : LawfulSlotStore.Sound store) {count slot : Nat}
    (grown : resize store count = .ok next) (inside : slot < size store) (kept : slot < count) :
    row next slot = row store slot := by
  rw [row, LawfulSlotStore.read_resize sound grown inside kept, row]

theorem swap_ok {store : α} (sound : LawfulSlotStore.Sound store) {first second : Nat}
    (firstInside : first < size store) (secondInside : second < size store)
    (different : first ≠ second) :
    ∃ next, swap store first second = .ok next ∧ LawfulSlotStore.Sound next ∧
      size next = size store ∧ width next = width store ∧
      ∀ slot < size store, row next slot =
        if slot = second then row store first
        else if slot = first then row store second else row store slot := by
  have firstLong := length_row sound firstInside
  have secondLong := length_row sound secondInside
  have halfway := LawfulSlotStore.sound_write sound firstInside secondLong
  have halfSize := LawfulSlotStore.size_write store first (row store second)
  have halfWidth := LawfulSlotStore.width_write store first (row store second)
  refine ⟨_, LawfulSlotStore.swap_eq sound (read_eq_row sound firstInside)
    (read_eq_row sound secondInside) different, ?_, ?_, ?_, ?_⟩
  · exact LawfulSlotStore.sound_write halfway (by omega) (by omega)
  · rw [LawfulSlotStore.size_write, halfSize]
  · rw [LawfulSlotStore.width_write, halfWidth]
  · intro slot inside
    rw [row_write halfway (by omega) (by omega) (by omega), row_write sound firstInside secondLong inside]

end SlotStore

end SpatialStore
