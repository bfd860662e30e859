import SpatialStore.Slots.Flat
import SpatialStore.Proofs.Steps
import SpatialStore.Proofs.Slots.Plain

/-! Flat stores are lawful, and plain. Slots do not overlap, no index calculation on a slot of a buffer
leaves the range of sizes, and what the buffer grows by is blank. -/

namespace SpatialStore.FlatSlots

variable {γ : Type}

def Sound (store : FlatSlots γ) : Prop := store.cells.size ≤ Size.largestBuffer

theorem slot_fits {store : FlatSlots γ} {slot : Nat} (inside : slot < store.size) :
    slot * store.width + store.width ≤ store.cells.size := by
  have whole : (slot + 1) * store.width ≤ store.cells.size :=
    (Nat.le_div_iff_mul_le store.width_pos).mp inside
  rwa [Nat.add_mul, Nat.one_mul] at whole

theorem start_eq {store : FlatSlots γ} (sound : store.Sound) {slot : Nat} (inside : slot < store.size) :
    store.start slot = .ok (slot * store.width) := by
  have fits := slot_fits inside
  have small : store.cells.size < Size.bound := Nat.lt_of_le_of_lt sound Size.largestBuffer_lt
  rw [start, Size.checked_eq_ok (by omega)]
  change (Size.checked (slot * store.width + store.width) >>= _) = _
  rw [Size.checked_eq_ok (by omega)]
  exact if_pos fits

theorem read_eq {store : FlatSlots γ} (sound : store.Sound) {slot : Nat} (inside : slot < store.size) :
    store.read slot = .ok (Cells.read store.cells (slot * store.width) store.width) := by
  rw [read, start_eq sound inside]
  rfl

theorem eq_of_read {store : FlatSlots γ} {slot : Nat} {row : List γ} (found : store.read slot = .ok row) :
    slot < store.size ∧ row = Cells.read store.cells (slot * store.width) store.width := by
  obtain ⟨start, started, read⟩ := bind_eq_ok.mp found
  obtain ⟨place, placed, started⟩ := bind_eq_ok.mp started
  obtain ⟨rfl, _⟩ := Size.of_checked placed
  obtain ⟨stop, stopped, started⟩ := bind_eq_ok.mp started
  obtain ⟨rfl, _⟩ := Size.of_checked stopped
  split at started
  next fits =>
    obtain rfl := Except.ok.inj started
    refine ⟨?_, (Except.ok.inj read).symm⟩
    apply (Nat.le_div_iff_mul_le store.width_pos).mpr
    rwa [Nat.succ_mul]
  next => exact nomatch started

theorem read_write {store : FlatSlots γ} (sound : store.Sound) {slot other : Nat} {row : List γ}
    (inside : slot < store.size) (long : row.length = store.width) (otherInside : other < store.size) :
    (store.write slot row).read other = if other = slot then .ok row else store.read other := by
  have soundWritten : (store.write slot row).Sound := by
    simpa [Sound, write] using sound
  have sizeWritten : (store.write slot row).size = store.size := by
    simp [size, write]
  rw [read_eq soundWritten (by omega), read_eq sound otherInside]
  change Except.ok (Cells.read (Cells.write store.cells (slot * store.width) row)
    (other * store.width) store.width) = _
  by_cases same : other = slot
  · subst other
    have fits := slot_fits inside
    rw [if_pos rfl]
    rw [← long] at fits ⊢
    rw [Cells.read_write_same fits]
  · rw [if_neg same, Cells.read_write_apart]
    rw [long]
    exact Cells.rows_apart same

theorem swap_eq_write {store : FlatSlots γ} (sound : store.Sound) {first second : Nat}
    (firstInside : first < store.size) (secondInside : second < store.size) (different : first ≠ second) :
    store.swap first second =
      .ok ((store.write first (Cells.read store.cells (second * store.width) store.width)).write second
        (Cells.read store.cells (first * store.width) store.width)) := by
  have firstFits := slot_fits firstInside
  have secondFits := slot_fits secondInside
  have small : store.cells.size < Size.bound := Nat.lt_of_le_of_lt sound Size.largestBuffer_lt
  rw [swap, if_neg different, Size.checked_eq_ok (by omega), Size.checked_eq_ok (by omega)]
  change (Cells.exchange _ _ _ _ >>= _) = _
  rw [Cells.exchange_eq (Cells.rows_apart different) firstFits secondFits]
  rfl

theorem make_cases [Cell γ] {count width : Nat} {store : FlatSlots γ} (made : make count width = .ok store) :
    count * width ≤ Size.largestBuffer ∧ store.cells = Cells.blank (count * width) ∧
      store.width = width := by
  unfold make at made
  split at made
  next wide =>
    obtain ⟨size, range, made⟩ := bind_eq_ok.mp made
    obtain ⟨rfl, _⟩ := Size.of_checked range
    obtain ⟨size, sized, made⟩ := bind_eq_ok.mp made
    obtain ⟨rfl, fits⟩ := Size.of_buffer sized
    obtain rfl := Except.ok.inj made
    exact ⟨fits, rfl, rfl⟩
  next => exact nomatch made

theorem resize_eq [Cell γ] {store next : FlatSlots γ} {count : Nat}
    (resized : store.resize count = .ok next) :
    count * store.width ≤ Size.largestBuffer ∧
      next = { store with cells := Cells.resize store.cells (count * store.width) } := by
  obtain ⟨size, range, resized⟩ := bind_eq_ok.mp resized
  obtain ⟨rfl, _⟩ := Size.of_checked range
  obtain ⟨size, sized, resized⟩ := bind_eq_ok.mp resized
  obtain ⟨rfl, fits⟩ := Size.of_buffer sized
  exact ⟨fits, (Except.ok.inj resized).symm⟩

theorem read_resize [Cell γ] {store next : FlatSlots γ} (sound : store.Sound) {count slot : Nat}
    (resized : store.resize count = .ok next) (inside : slot < store.size) (kept : slot < count) :
    next.read slot = store.read slot := by
  obtain ⟨fits, rfl⟩ := resize_eq resized
  have whole : (slot + 1) * store.width ≤ count * store.width := Nat.mul_le_mul_right _ kept
  rw [Nat.add_mul, Nat.one_mul] at whole
  have oldFits := slot_fits inside
  rw [read_eq sound inside, read_eq]
  · apply congrArg Except.ok
    apply List.ext_getElem?
    intro index
    rw [Cells.getElem?_read, Cells.getElem?_read]
    by_cases cell : index < store.width
    · rw [if_pos cell, if_pos cell]
      change (Cells.resize store.cells (count * store.width))[slot * store.width + index]? = _
      unfold Cells.resize
      split
      next =>
        rw [Array.getElem?_extract, if_pos (by omega), Nat.zero_add]
      next => rw [Array.getElem?_append_left (by omega)]
    · rw [if_neg cell, if_neg cell]
  · simpa [Sound] using fits
  · rw [size]
    simpa [Nat.mul_div_cancel _ store.width_pos] using kept

instance [Cell γ] : LawfulSlotStore (FlatSlots γ) where
  Sound := Sound
  sound_make {count width chunkSlots store} made := by
    obtain ⟨fits, cells, rfl⟩ := make_cases made
    refine ⟨by simpa [Sound, cells, Cells.blank] using fits, ?_, rfl⟩
    change store.size = count
    rw [size, cells, Cells.blank, Array.size_replicate, Nat.mul_div_cancel _ store.width_pos]
  read_ok {store slot} sound inside := by
    refine ⟨_, read_eq sound inside, ?_⟩
    exact Cells.length_read (slot_fits inside)
  size_write store slot row := by
    change (store.write slot row).size = store.size
    simp [size, write]
  width_write store slot row := rfl
  sound_write {store slot row} sound inside long := by
    change (store.write slot row).Sound
    simpa [Sound, write] using sound
  read_write {_ _ _ _} sound inside long otherInside := read_write sound inside long otherInside
  swap_eq {store first second firstRow secondRow} sound firstFound secondFound different := by
    change store.swap first second = _
    change store.read first = _ at firstFound
    change store.read second = _ at secondFound
    obtain ⟨firstInside, rfl⟩ := eq_of_read firstFound
    obtain ⟨secondInside, rfl⟩ := eq_of_read secondFound
    exact swap_eq_write sound firstInside secondInside different
  sound_resize {store next count} sound resized := by
    obtain ⟨fits, rfl⟩ := resize_eq resized
    refine ⟨by simpa [Sound] using fits, ?_, rfl⟩
    change (Cells.resize store.cells (count * store.width)).size / store.width = count
    rw [Cells.size_resize, Nat.mul_div_cancel _ store.width_pos]
  read_resize {_ _ _ _} sound resized inside kept := read_resize sound resized inside kept

/-! ### Outside and beyond -/

def Regular (store : FlatSlots γ) : Prop := store.size * store.width = store.cells.size

theorem beyond_of_outside {store : FlatSlots γ} {slot : Nat} (outside : store.size ≤ slot) :
    store.cells.size < slot * store.width + store.width := by
  have short := (Nat.div_lt_iff_lt_mul store.width_pos).mp (Nat.lt_succ_of_le outside)
  rwa [Nat.succ_mul] at short

theorem read_outside {store : FlatSlots γ} {slot : Nat} (outside : store.size ≤ slot) :
    ∃ fault, store.read slot = .error fault := by
  have beyond := beyond_of_outside outside
  rw [read, start, bind_assoc]
  apply Size.checked_bind_error
  rw [bind_assoc]
  apply Size.checked_bind_error
  rw [if_neg (Nat.not_le_of_lt beyond)]
  exact ⟨.outOfRange, rfl⟩

variable [Cell γ]

theorem make_eq_ok {count width : Nat} (wide : 0 < width) (fits : count * width ≤ Size.largestBuffer) :
    make count width = .ok (⟨Cells.blank (count * width), width, wide⟩ : FlatSlots γ) := by
  rw [make, dif_pos wide, Size.checked_eq_ok (Nat.lt_of_le_of_lt fits Size.largestBuffer_lt)]
  change (Size.buffer (count * width) >>= _) = _
  rw [Size.buffer_eq_ok fits]
  rfl

theorem regular_make {count width : Nat} {store : FlatSlots γ} (made : make count width = .ok store) :
    store.Regular := by
  obtain ⟨_, cells, rfl⟩ := make_cases made
  rw [Regular, size, cells, Cells.blank, Array.size_replicate, Nat.mul_div_cancel _ store.width_pos]

theorem resize_ok {store : FlatSlots γ} {count : Nat}
    (fits : count * store.width ≤ Size.largestBuffer) :
    store.resize count = .ok { store with cells := Cells.resize store.cells (count * store.width) } := by
  rw [resize, Size.checked_eq_ok (Nat.lt_of_le_of_lt fits Size.largestBuffer_lt)]
  change (Size.buffer (count * store.width) >>= _) = _
  rw [Size.buffer_eq_ok fits]
  rfl

theorem read_grown {store next : FlatSlots γ} (regular : store.Regular) {count slot : Nat}
    (resized : store.resize count = .ok next) (new : store.size ≤ slot) (inside : slot < count) :
    next.read slot = .ok (List.replicate store.width Cell.blank) := by
  obtain ⟨fits, rfl⟩ := resize_eq resized
  have before := Nat.mul_le_mul_right store.width new
  have whole := Nat.mul_le_mul_right store.width (Nat.succ_le_of_lt inside)
  rw [Nat.succ_mul] at whole
  rw [regular] at before
  have longer : ¬count * store.width ≤ store.cells.size := by
    have wide := store.width_pos
    omega
  rw [read_eq]
  · apply congrArg Except.ok
    apply Cells.read_eq_replicate
    intro index cell
    change index < store.width at cell
    change (Cells.resize store.cells (count * store.width))[slot * store.width + index]? = _
    rw [Cells.resize, if_neg longer, Array.getElem?_append_right (by omega), Cells.blank,
      Array.getElem?_replicate, if_pos (by omega)]
  · simpa [Sound] using fits
  · rw [size]
    simpa [Nat.mul_div_cancel _ store.width_pos] using inside

instance : PlainSlotStore (FlatSlots γ) where
  Regular := Regular
  make_ok count {width chunkSlots} wide _ _ fits := ⟨_, make_eq_ok wide fits⟩
  regular_make {_ _ _ _} _ made := regular_make made
  read_make {count width chunkSlots slot store} made inside := by
    change store.read slot = _
    obtain ⟨_, cells, rfl⟩ := make_cases made
    obtain ⟨sound, sized, _⟩ := LawfulSlotStore.sound_make made
    have whole := Nat.mul_le_mul_right store.width (Nat.succ_le_of_lt inside)
    rw [Nat.succ_mul] at whole
    rw [← sized] at inside
    rw [read_eq sound inside, cells, Cells.read_blank whole]
  read_outside {_ _} _ outside := read_outside outside
  regular_write {store} slot row regular := by
    change (store.write slot row).Regular
    simpa [Regular, size, write] using regular
  resize_ok {_ _} _ _ fits := ⟨_, resize_ok fits⟩
  regular_resize {store next count} _ resized := by
    obtain ⟨_, rfl⟩ := resize_eq resized
    change (Cells.resize store.cells (count * store.width)).size / store.width * store.width =
      (Cells.resize store.cells (count * store.width)).size
    rw [Cells.size_resize, Nat.mul_div_cancel _ store.width_pos]
  read_grown {_ _ _ _} _ regular resized new inside := read_grown regular resized new inside
  swap_same store slot := by
    change store.swap slot slot = _
    rw [swap, if_pos rfl]
    rfl
  swap_outside {store first second} sound different outside := by
    change ∃ fault, store.swap first second = .error fault
    have beyond := outside.imp beyond_of_outside beyond_of_outside
    rw [swap, if_neg different]
    apply Size.checked_bind_error
    apply Size.checked_bind_error
    rw [Cells.exchange_beyond beyond]
    exact ⟨.outOfRange, rfl⟩
  copy_same store slot := by
    change store.copy slot slot = _
    rw [copy, if_pos rfl]
    rfl
  copy_eq {store source target row} sound found inside different := by
    change store.copy source target = _
    change store.read source = _ at found
    obtain ⟨sourceInside, rfl⟩ := eq_of_read found
    have sourceFits := slot_fits sourceInside
    have targetFits := slot_fits inside
    have small : store.cells.size < Size.bound := Nat.lt_of_le_of_lt sound Size.largestBuffer_lt
    rw [copy, if_neg different, Size.checked_eq_ok (by omega)]
    change (Size.checked (source * store.width + store.width) >>= _) = _
    rw [Size.checked_eq_ok (by omega), Size.checked_eq_ok (by omega)]
    change (Cells.copy _ _ _ _ _ >>= _) = _
    rw [Cells.copy, if_pos ⟨sourceFits, targetFits⟩]
    rfl
  copy_outside {store source target} sound different outside := by
    change ∃ fault, store.copy source target = .error fault
    have beyond := outside.imp beyond_of_outside beyond_of_outside
    rw [copy, if_neg different]
    apply Size.checked_bind_error
    apply Size.checked_bind_error
    apply Size.checked_bind_error
    rw [Cells.copy, if_neg (by omega)]
    exact ⟨.outOfRange, rfl⟩

end SpatialStore.FlatSlots
