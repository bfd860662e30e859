import SpatialStore.Slots.Chunked
import SpatialStore.Proofs.Steps
import SpatialStore.Proofs.Slots.Plain

/-! Chunked stores are lawful, and plain. Every chunk is full from the start, there are just as many chunks
as the slots need, and a slot never lies across two of them. Slots that come back in a chunk that was kept
are blanked, and all others that are new are in new chunks. -/

namespace SpatialStore

namespace Size

theorem div_lt_boxes {slot count capacity : Nat} (positive : 0 < capacity) (inside : slot < count) :
    slot / capacity < boxes count capacity := by
  have whole := Nat.div_add_mod count capacity
  have rest := Nat.mod_lt count positive
  unfold boxes
  rw [Nat.div_lt_iff_lt_mul positive]
  split
  next even =>
    rw [Nat.add_zero, Nat.mul_comm]
    omega
  next =>
    rw [Nat.add_mul, Nat.one_mul, Nat.mul_comm]
    omega

theorem boxes_le_boxes {fewer more capacity : Nat} (positive : 0 < capacity) (le : fewer ≤ more) :
    boxes fewer capacity ≤ boxes more capacity := by
  rcases Nat.eq_zero_or_pos fewer with rfl | some
  · simp [boxes]
  · have last := div_lt_boxes positive (show fewer - 1 < more by omega)
    have needed : boxes fewer capacity ≤ (fewer - 1) / capacity + 1 := by
      have whole := Nat.div_add_mod fewer capacity
      unfold boxes
      split
      next even =>
        have quotient : 0 < fewer / capacity := by
          rcases Nat.eq_zero_or_pos (fewer / capacity) with none | positive
          · rw [none, Nat.mul_zero] at whole
            omega
          · exact positive
        have below : fewer / capacity - 1 ≤ (fewer - 1) / capacity := by
          rw [Nat.le_div_iff_mul_le positive, Nat.sub_mul, Nat.one_mul, Nat.mul_comm]
          omega
        omega
      next odd =>
        have below : fewer / capacity ≤ (fewer - 1) / capacity := by
          rw [Nat.le_div_iff_mul_le positive, Nat.mul_comm]
          omega
        omega
    omega

theorem mod_ne_mod {first second capacity : Nat} (together : first / capacity = second / capacity)
    (different : first ≠ second) : first % capacity ≠ second % capacity := by
  intro same
  apply different
  rw [← Nat.div_add_mod first capacity, ← Nat.div_add_mod second capacity, same, together]

theorem boxes_mul_le (count capacity : Nat) : boxes count capacity * capacity ≤ count + capacity := by
  have whole := Nat.div_mul_le_self count capacity
  unfold boxes
  split
  next =>
    rw [Nat.add_zero]
    omega
  next =>
    rw [Nat.add_mul, Nat.one_mul]
    omega

end Size

namespace ChunkedSlots

variable {γ : Type}

def rowAt (store : ChunkedSlots γ) (slot : Nat) : List γ :=
  store.readAt (slot / store.chunkSlots) ((slot % store.chunkSlots) * store.width)

def chunkSizes (store : ChunkedSlots γ) : List Nat := store.chunks.toList.map Array.size

structure Sound (store : ChunkedSlots γ) : Prop where
  chunkSizes_eq : store.chunkSizes =
    List.replicate (Size.boxes store.size store.chunkSlots) (store.chunkSlots * store.width)
  fits : 0 < store.size → store.chunkSlots * store.width ≤ Size.largestBuffer

theorem row_fits (store : ChunkedSlots γ) (slot : Nat) :
    (slot % store.chunkSlots) * store.width + store.width ≤ store.chunkSlots * store.width := by
  have whole := Nat.mul_le_mul_right store.width (Nat.mod_lt slot store.chunkSlots_pos)
  rwa [Nat.succ_mul] at whole

theorem Sound.size_chunks {store : ChunkedSlots γ} (sound : store.Sound) :
    store.chunks.size = Size.boxes store.size store.chunkSlots := by
  have lengths := congrArg List.length sound.chunkSizes_eq
  simpa [chunkSizes] using lengths

theorem Sound.chunk_of_held {store : ChunkedSlots γ} (sound : store.Sound) {slot : Nat}
    (held : slot / store.chunkSlots < store.chunks.size) :
    ∃ cells, store.chunks[slot / store.chunkSlots]? = some cells ∧
      cells.size = store.chunkSlots * store.width := by
  refine ⟨_, Array.getElem?_eq_getElem held, ?_⟩
  apply List.eq_of_mem_replicate (n := Size.boxes store.size store.chunkSlots)
  rw [← sound.chunkSizes_eq]
  exact List.mem_map_of_mem (Array.getElem_mem_toList held)

theorem Sound.held {store : ChunkedSlots γ} (sound : store.Sound) {slot : Nat}
    (inside : slot < store.size) : slot / store.chunkSlots < store.chunks.size := by
  rw [sound.size_chunks]
  exact Size.div_lt_boxes store.chunkSlots_pos inside

theorem locate_eq {store : ChunkedSlots γ} (sound : store.Sound) {slot : Nat}
    (inside : slot < store.size) : store.locate slot =
      .ok (slot / store.chunkSlots, (slot % store.chunkSlots) * store.width) := by
  have whole := store.row_fits slot
  have fits := sound.fits (by omega)
  have small : Size.largestBuffer < Size.bound := by decide
  rw [locate, if_pos inside, Size.checked_eq_ok (by omega)]
  change (Size.checked ((slot % store.chunkSlots) * store.width + store.width) >>= _) = _
  rw [Size.checked_eq_ok (by omega)]
  rfl

theorem read_eq {store : ChunkedSlots γ} (sound : store.Sound) {slot : Nat}
    (inside : slot < store.size) : store.read slot = .ok (store.rowAt slot) := by
  rw [read, locate_eq sound inside]
  rfl

theorem length_rowAt {store : ChunkedSlots γ} (sound : store.Sound) {slot : Nat}
    (inside : slot < store.size) : (store.rowAt slot).length = store.width := by
  obtain ⟨cells, found, full⟩ := sound.chunk_of_held (sound.held inside)
  rw [rowAt, readAt, Array.getD_eq_getD_getElem?, found]
  apply Cells.length_read
  change _ ≤ cells.size
  rw [full]
  exact store.row_fits slot

theorem eq_of_read {store : ChunkedSlots γ} {slot : Nat} {row : List γ} (found : store.read slot = .ok row) :
    slot < store.size ∧ row = store.rowAt slot := by
  obtain ⟨_, located, read⟩ := bind_eq_ok.mp found
  unfold locate at located
  split at located
  next inside =>
    obtain ⟨place, placed, located⟩ := bind_eq_ok.mp located
    obtain ⟨rfl, _⟩ := Size.of_checked placed
    obtain ⟨_, _, located⟩ := bind_eq_ok.mp located
    obtain rfl := Except.ok.inj located
    exact ⟨inside, (Except.ok.inj read).symm⟩
  next => exact nomatch located

/-! ### Writing -/

theorem chunks_write (store : ChunkedSlots γ) (slot : Nat) (row : List γ) (chunk : Nat) :
    (store.write slot row).chunks[chunk]? =
      if slot / store.chunkSlots = chunk
      then store.chunks[chunk]?.map fun cells =>
        Cells.write cells ((slot % store.chunkSlots) * store.width) row
      else store.chunks[chunk]? := by
  simp only [write, writeAt, Array.getElem?_modify]

theorem rowAt_write_same {store : ChunkedSlots γ} (sound : store.Sound) {slot : Nat} {row : List γ}
    (held : slot / store.chunkSlots < store.chunks.size) (long : row.length = store.width) :
    (store.write slot row).rowAt slot = row := by
  obtain ⟨cells, found, full⟩ := sound.chunk_of_held held
  have fits := store.row_fits slot
  change Cells.read ((store.write slot row).chunks.getD (slot / store.chunkSlots) #[])
    ((slot % store.chunkSlots) * store.width) store.width = row
  rw [Array.getD_eq_getD_getElem?, chunks_write, if_pos rfl, found]
  rw [← full, ← long] at fits
  change Cells.read (Cells.write cells _ row) _ store.width = row
  rw [← long, Cells.read_write_same fits]

theorem rowAt_write_other (store : ChunkedSlots γ) {slot other : Nat} {row : List γ}
    (long : row.length = store.width) (different : other ≠ slot) :
    (store.write slot row).rowAt other = store.rowAt other := by
  change Cells.read ((store.write slot row).chunks.getD (other / store.chunkSlots) #[])
    ((other % store.chunkSlots) * store.width) store.width = _
  rw [rowAt, readAt, Array.getD_eq_getD_getElem?, Array.getD_eq_getD_getElem?, chunks_write]
  by_cases chunk : slot / store.chunkSlots = other / store.chunkSlots
  · rw [if_pos chunk]
    have places := Size.mod_ne_mod chunk.symm different
    cases found : store.chunks[other / store.chunkSlots]? with
    | none => rfl
    | some cells =>
      change Cells.read (Cells.write cells _ row) _ _ = Cells.read cells _ _
      apply Cells.read_write_apart
      rw [long]
      exact Cells.rows_apart places
  · rw [if_neg chunk]

theorem chunkSizes_write (store : ChunkedSlots γ) (slot : Nat) (row : List γ) :
    (store.write slot row).chunkSizes = store.chunkSizes := by
  apply List.ext_getElem?
  intro chunk
  rw [chunkSizes, chunkSizes, List.getElem?_map, List.getElem?_map, Array.getElem?_toList,
    Array.getElem?_toList, chunks_write]
  split
  · cases store.chunks[chunk]? with
    | none => rfl
    | some cells => exact congrArg some (Cells.size_write _ _ _)
  · rfl

theorem Sound.write {store : ChunkedSlots γ} (sound : store.Sound) (slot : Nat) (row : List γ) :
    (store.write slot row).Sound where
  chunkSizes_eq := (chunkSizes_write store slot row).trans sound.chunkSizes_eq
  fits := sound.fits

/-! ### Exchanging and copying -/

theorem chunk_eq {store : ChunkedSlots γ} {index : Nat} {cells : Array γ}
    (found : store.chunks[index]? = some cells) : store.chunk index = .ok cells := by
  rw [chunk, found]

theorem readAt_eq {store : ChunkedSlots γ} {index start : Nat} {cells : Array γ}
    (found : store.chunks[index]? = some cells) :
    store.readAt index start = Cells.read cells start store.width := by
  rw [readAt, Array.getD_eq_getD_getElem?, found]
  rfl

theorem write_eq_setChunk {store : ChunkedSlots γ} {slot : Nat} {row : List γ} {cells : Array γ}
    (found : store.chunks[slot / store.chunkSlots]? = some cells) :
    store.write slot row = store.setChunk (slot / store.chunkSlots)
      (Cells.write cells ((slot % store.chunkSlots) * store.width) row) := by
  apply congrArg fun chunks => ({ store with chunks } : ChunkedSlots γ)
  apply Array.ext_getElem?
  intro index
  have inside := (Array.getElem?_eq_some_iff.mp found).1
  rw [Array.getElem?_modify, Array.getElem?_setIfInBounds]
  by_cases here : slot / store.chunkSlots = index
  · subst index
    rw [if_pos rfl, if_pos rfl, if_pos inside, found]
    rfl
  · rw [if_neg here, if_neg here]

theorem getElem?_setChunk_same {store : ChunkedSlots γ} {index other : Nat} {old cells : Array γ}
    (same : index = other) (found : store.chunks[index]? = some old) :
    (store.setChunk index cells).chunks[other]? = some cells := by
  have inside := (Array.getElem?_eq_some_iff.mp found).1
  change (store.chunks.setIfInBounds index cells)[other]? = _
  rw [Array.getElem?_setIfInBounds, if_pos same, if_pos inside]

theorem getElem?_setChunk_other {store : ChunkedSlots γ} {index other : Nat} {cells : Array γ}
    (different : index ≠ other) : (store.setChunk index cells).chunks[other]? = store.chunks[other]? := by
  change (store.chunks.setIfInBounds index cells)[other]? = _
  rw [Array.getElem?_setIfInBounds, if_neg different]

theorem setChunk_setChunk (store : ChunkedSlots γ) (index : Nat) (first second : Array γ) :
    (store.setChunk index first).setChunk index second = store.setChunk index second :=
  congrArg (fun chunks => ({ store with chunks } : ChunkedSlots γ)) (Array.setIfInBounds_setIfInBounds ..)

theorem setChunk_comm (store : ChunkedSlots γ) {lower upper : Nat} (different : lower ≠ upper)
    (first second : Array γ) :
    (store.setChunk lower first).setChunk upper second =
      (store.setChunk upper second).setChunk lower first :=
  congrArg (fun chunks => ({ store with chunks } : ChunkedSlots γ))
    (Array.setIfInBounds_comm _ _ different)

/-- Exchanging pieces of two chunks is writing to both. -/
theorem exchange_eq {store : ChunkedSlots γ} {lower upper lowerStart upperStart : Nat}
    {lowerCells upperCells : Array γ} (lowerFound : store.chunks[lower]? = some lowerCells)
    (upperFound : store.chunks[upper]? = some upperCells)
    (lowerFits : lowerStart + store.width ≤ lowerCells.size)
    (upperFits : upperStart + store.width ≤ upperCells.size) :
    store.exchange lower lowerStart upper upperStart =
      .ok ((store.setChunk lower (Cells.write lowerCells lowerStart
        (Cells.read upperCells upperStart store.width))).setChunk upper
          (Cells.write upperCells upperStart (Cells.read lowerCells lowerStart store.width))) := by
  rw [exchange, chunk_eq lowerFound, chunk_eq upperFound]
  change (Cells.copy _ _ _ _ _ >>= _) = _
  rw [Cells.copy, if_pos ⟨upperFits, lowerFits⟩]
  change (Cells.copy _ _ _ _ _ >>= _) = _
  rw [Cells.copy, if_pos ⟨lowerFits, upperFits⟩]
  rfl

/-- In whichever chunks two slots are, and in whichever order, an exchange writes to both. -/
theorem swap_eq_write {store : ChunkedSlots γ} (sound : store.Sound) {first second : Nat}
    (firstInside : first < store.size) (secondInside : second < store.size) (different : first ≠ second) :
    store.swap first second =
      .ok ((store.write first (store.rowAt second)).write second (store.rowAt first)) := by
  obtain ⟨firstCells, firstFound, firstFull⟩ := sound.chunk_of_held (sound.held firstInside)
  obtain ⟨secondCells, secondFound, secondFull⟩ := sound.chunk_of_held (sound.held secondInside)
  have firstFits := store.row_fits first
  have secondFits := store.row_fits second
  rw [← firstFull] at firstFits
  rw [← secondFull] at secondFits
  rw [swap, if_neg different, locate_eq sound firstInside, locate_eq sound secondInside]
  rw [rowAt, rowAt, readAt_eq firstFound, readAt_eq secondFound, write_eq_setChunk firstFound]
  change (if first / store.chunkSlots = second / store.chunkSlots then _ else _) = _
  by_cases together : first / store.chunkSlots = second / store.chunkSlots
  · have places := Size.mod_ne_mod together different
    obtain rfl : firstCells = secondCells := by
      rw [together, secondFound] at firstFound
      exact (Option.some.inj firstFound).symm
    rw [if_pos together, chunk_eq firstFound]
    change (Cells.exchange _ _ _ _ >>= _) = _
    rw [Cells.exchange_eq (Cells.rows_apart places) firstFits secondFits]
    rw [write_eq_setChunk (getElem?_setChunk_same together firstFound)]
    exact congrArg Except.ok (together ▸ (setChunk_setChunk store _ _ _).symm)
  · rw [if_neg together, write_eq_setChunk ((getElem?_setChunk_other together).trans secondFound)]
    by_cases order : first / store.chunkSlots < second / store.chunkSlots
    · rw [if_pos order]
      exact exchange_eq firstFound secondFound firstFits secondFits
    · rw [if_neg order, exchange_eq secondFound firstFound secondFits firstFits]
      exact congrArg Except.ok (setChunk_comm store (Ne.symm together) _ _)

/-- A copy writes to the target. -/
theorem copy_eq_write {store : ChunkedSlots γ} (sound : store.Sound) {source target : Nat}
    (sourceInside : source < store.size) (targetInside : target < store.size) (different : source ≠ target) :
    store.copy source target = .ok (store.write target (store.rowAt source)) := by
  obtain ⟨origin, sourceFound, sourceFull⟩ := sound.chunk_of_held (sound.held sourceInside)
  obtain ⟨cells, targetFound, targetFull⟩ := sound.chunk_of_held (sound.held targetInside)
  have sourceFits := store.row_fits source
  have targetFits := store.row_fits target
  rw [← sourceFull] at sourceFits
  rw [← targetFull] at targetFits
  rw [copy, if_neg different, locate_eq sound sourceInside, locate_eq sound targetInside]
  change (store.chunk _ >>= _) = _
  rw [chunk_eq sourceFound]
  change (store.chunk _ >>= _) = _
  rw [chunk_eq targetFound]
  change (Cells.copy _ _ _ _ _ >>= _) = _
  rw [Cells.copy, if_pos ⟨sourceFits, targetFits⟩, rowAt, readAt_eq sourceFound,
    write_eq_setChunk targetFound]
  rfl

/-! ### Growing and shrinking -/

variable [Cell γ]

/-- Blanking leaves the arrangement and all slots before the first one blanked. -/
theorem blankFrom_keeps (store : ChunkedSlots γ) (slot count : Nat) :
    (store.blankFrom slot count).chunkSizes = store.chunkSizes ∧
    (store.blankFrom slot count).chunkSlots = store.chunkSlots ∧
    (store.blankFrom slot count).width = store.width ∧
    ∀ other < slot, (store.blankFrom slot count).rowAt other = store.rowAt other := by
  induction count generalizing store slot with
  | zero => exact ⟨rfl, rfl, rfl, fun _ _ => rfl⟩
  | succ count ih =>
    obtain ⟨sizes, slots, width, rows⟩ :=
      ih (store.write slot (List.replicate store.width Cell.blank)) (slot + 1)
    refine ⟨sizes.trans (chunkSizes_write ..), slots, width, ?_⟩
    intro other before
    rw [blankFrom, rows other (by omega), rowAt_write_other store (by simp) (by omega)]

theorem addChunks_eq {store next : ChunkedSlots γ} {count : Nat}
    (added : store.addChunks count = .ok next) :
    next = { store with
      chunks := store.chunks ++ Array.replicate count (Cells.blank (store.chunkSlots * store.width)) } ∧
    (0 < count → store.chunkSlots * store.width ≤ Size.largestBuffer) := by
  unfold addChunks at added
  by_cases none : count = 0
  · rw [if_pos none] at added
    obtain rfl := Except.ok.inj added
    refine ⟨?_, by omega⟩
    simp [none]
  · rw [if_neg none] at added
    by_cases fits : store.chunkSlots * store.width ≤ Size.largestBuffer
    · rw [Size.buffer_eq_ok fits] at added
      exact ⟨(Except.ok.inj added).symm, fun _ => fits⟩
    · rw [Size.buffer, if_neg fits] at added
      exact nomatch added

theorem rowAt_blankFrom {store : ChunkedSlots γ} (sound : store.Sound) {slot count other : Nat}
    (held : slot + count ≤ store.chunks.size * store.chunkSlots) (after : slot ≤ other)
    (before : other < slot + count) :
    (store.blankFrom slot count).rowAt other = List.replicate store.width Cell.blank := by
  induction count generalizing store slot with
  | zero => omega
  | succ count ih =>
    have blank : (List.replicate store.width (Cell.blank : γ)).length = store.width := List.length_replicate
    have soundWritten := sound.write slot (List.replicate store.width Cell.blank)
    have sizes : (store.write slot (List.replicate store.width Cell.blank)).chunks.size = store.chunks.size :=
      Array.size_modify
    rw [blankFrom]
    by_cases here : other = slot
    · have place : slot / store.chunkSlots < store.chunks.size :=
        (Nat.div_lt_iff_lt_mul store.chunkSlots_pos).mpr (by omega)
      obtain ⟨_, _, _, rows⟩ :=
        (store.write slot (List.replicate store.width Cell.blank)).blankFrom_keeps (slot + 1) count
      rw [here, rows slot (Nat.lt_succ_self slot), rowAt_write_same sound place blank]
    · apply ih soundWritten
      · rw [sizes]
        change slot + 1 + count ≤ store.chunks.size * store.chunkSlots
        omega
      · omega
      · omega

theorem resize_cases {store next : ChunkedSlots γ} {count : Nat}
    (resized : store.resize count = .ok next) :
    (store.size < count ∧ ∃ grown,
      (store.blankFrom store.size (min count (store.chunks.size * store.chunkSlots) - store.size)).addChunks
        (Size.boxes count store.chunkSlots - store.chunks.size) = .ok grown ∧
      next = { grown with size := count }) ∨
    (count ≤ store.size ∧ next = { store with
      chunks := store.chunks.extract 0 (Size.boxes count store.chunkSlots), size := count }) := by
  obtain ⟨_, _, resized⟩ := bind_eq_ok.mp resized
  by_cases grows : store.size < count
  · rw [if_pos grows] at resized
    obtain ⟨kept, counted, resized⟩ := bind_eq_ok.mp resized
    obtain ⟨rfl, _⟩ := Size.of_checked counted
    obtain ⟨grown, added, resized⟩ := bind_eq_ok.mp resized
    exact Or.inl ⟨grows, grown, added, (Except.ok.inj resized).symm⟩
  · rw [if_neg grows] at resized
    exact Or.inr ⟨by omega, (Except.ok.inj resized).symm⟩

/-- What a sound store is after its size has changed. -/
structure Resized (store next : ChunkedSlots γ) (count : Nat) : Prop where
  sound : next.Sound
  size_eq : next.size = count
  width_eq : next.width = store.width
  rowAt_eq : ∀ slot < store.size, slot < count → next.rowAt slot = store.rowAt slot

theorem resized_of_grown {store grown : ChunkedSlots γ} {count blanked : Nat} (sound : store.Sound)
    (grows : store.size < count)
    (added : (store.blankFrom store.size blanked).addChunks
      (Size.boxes count store.chunkSlots - store.chunks.size) = .ok grown) :
    Resized store { grown with size := count } count := by
  obtain ⟨sizes, slots, width, rows⟩ := store.blankFrom_keeps store.size blanked
  obtain ⟨rfl, newFits⟩ := addChunks_eq added
  have more := Size.boxes_le_boxes store.chunkSlots_pos (Nat.le_of_lt grows)
  have chunks := sound.size_chunks
  rw [slots, width] at newFits
  constructor
  · constructor
    · change List.map Array.size ((store.blankFrom store.size blanked).chunks ++ _).toList = _
      rw [Array.toList_append, List.map_append, ← chunkSizes, sizes, sound.chunkSizes_eq]
      simp only [slots, width, Array.toList_replicate, List.map_replicate, Cells.blank,
        Array.size_replicate, List.replicate_append_replicate]
      congr 1
      omega
    · intro _
      change (store.blankFrom store.size blanked).chunkSlots *
        (store.blankFrom store.size blanked).width ≤ Size.largestBuffer
      rw [slots, width]
      rcases Nat.eq_zero_or_pos store.size with empty | used
      · apply newFits
        have none : store.chunks.size = 0 := by rw [chunks, empty]; simp [Size.boxes]
        have first := Size.div_lt_boxes store.chunkSlots_pos (show 0 < count by omega)
        rw [Nat.zero_div] at first
        omega
      · exact sound.fits used
  · rfl
  · exact width
  · intro slot inside _
    rw [← rows slot inside]
    have place := Size.div_lt_boxes store.chunkSlots_pos inside
    have present : slot / store.chunkSlots < (store.blankFrom store.size blanked).chunks.size := by
      have lengths := congrArg List.length sizes
      simp only [chunkSizes, List.length_map, Array.length_toList] at lengths
      omega
    simp only [rowAt, readAt, slots, width, Array.getD_eq_getD_getElem?]
    rw [Array.getElem?_append_left present]

omit [Cell γ] in
theorem resized_of_shrunk {store : ChunkedSlots γ} {count : Nat} (sound : store.Sound)
    (shrinks : count ≤ store.size) :
    Resized store { store with
      chunks := store.chunks.extract 0 (Size.boxes count store.chunkSlots), size := count } count := by
  have fewer := Size.boxes_le_boxes store.chunkSlots_pos shrinks
  constructor
  · constructor
    · change List.map Array.size (store.chunks.extract 0 _).toList = _
      rw [Array.toList_extract, List.extract_eq_take_drop, List.drop_zero, Nat.sub_zero, List.map_take,
        ← chunkSizes, sound.chunkSizes_eq, List.take_replicate, Nat.min_eq_left fewer]
    · intro used
      exact sound.fits (Nat.lt_of_lt_of_le used shrinks)
  · rfl
  · rfl
  · intro slot inside kept
    have place := Size.div_lt_boxes store.chunkSlots_pos kept
    have chunks := sound.size_chunks
    simp only [rowAt, readAt, Array.getD_eq_getD_getElem?]
    rw [Array.getElem?_extract, if_pos (by omega), Nat.zero_add]

theorem resized {store next : ChunkedSlots γ} {count : Nat} (sound : store.Sound)
    (resized : store.resize count = .ok next) : Resized store next count := by
  rcases resize_cases resized with ⟨grows, _, added, rfl⟩ | ⟨shrinks, rfl⟩
  · exact resized_of_grown sound grows added
  · exact resized_of_shrunk sound shrinks

omit [Cell γ] in
theorem sound_empty {chunkSlots width : Nat} {width_pos : 0 < width} {chunkSlots_pos : 0 < chunkSlots} :
    Sound (γ := γ) { chunks := #[], chunkSlots, width, size := 0, width_pos, chunkSlots_pos } :=
  ⟨by simp [chunkSizes, Size.boxes], by simp⟩

instance : LawfulSlotStore (ChunkedSlots γ) where
  Sound := Sound
  sound_make {count width chunkSlots store} made := by
    change make count width chunkSlots = .ok store at made
    unfold make at made
    by_cases width_pos : 0 < width
    · rw [dif_pos width_pos] at made
      by_cases chunkSlots_pos : 0 < chunkSlots
      · rw [dif_pos chunkSlots_pos] at made
        have grown := resized sound_empty made
        exact ⟨grown.sound, grown.size_eq, grown.width_eq⟩
      · rw [dif_neg chunkSlots_pos] at made
        exact nomatch made
    · rw [dif_neg width_pos] at made
      exact nomatch made
  read_ok {store slot} sound inside := ⟨_, read_eq sound inside, length_rowAt sound inside⟩
  size_write store slot row := rfl
  width_write store slot row := rfl
  sound_write {store slot row} sound _ _ := sound.write slot row
  read_write {store slot other row} sound inside long otherInside := by
    change (store.write slot row).read other = if other = slot then .ok row else store.read other
    rw [read_eq (sound.write slot row) otherInside, read_eq sound otherInside]
    by_cases same : other = slot
    · rw [if_pos same, same, rowAt_write_same sound (sound.held inside) long]
    · rw [if_neg same, rowAt_write_other store long same]
  swap_eq {store first second firstRow secondRow} sound firstFound secondFound different := by
    change store.swap first second = _
    change store.read first = _ at firstFound
    change store.read second = _ at secondFound
    obtain ⟨firstInside, rfl⟩ := eq_of_read firstFound
    obtain ⟨secondInside, rfl⟩ := eq_of_read secondFound
    exact swap_eq_write sound firstInside secondInside different
  sound_resize {store next count} sound changed := by
    have shape := resized sound changed
    exact ⟨shape.sound, shape.size_eq, shape.width_eq⟩
  read_resize {store next count slot} sound changed inside kept := by
    have shape := resized sound changed
    change next.read slot = store.read slot
    rw [read_eq shape.sound (by rw [shape.size_eq]; exact kept), read_eq sound inside,
      shape.rowAt_eq slot inside kept]

/-! ### Outside and beyond -/

omit [Cell γ] in
theorem locate_outside {store : ChunkedSlots γ} {slot : Nat} (outside : store.size ≤ slot) :
    store.locate slot = .error (.slotOutOfBounds slot store.size) :=
  if_neg (Nat.not_lt.mpr outside)

def Regular (store : ChunkedSlots γ) : Prop := store.chunkSlots * store.width ≤ Size.largestBuffer

theorem addChunks_ok (store : ChunkedSlots γ) (regular : store.Regular) (count : Nat) :
    ∃ next, store.addChunks count = .ok next := by
  unfold addChunks
  split
  next => exact ⟨_, rfl⟩
  next =>
    rw [Size.buffer_eq_ok regular]
    exact ⟨_, rfl⟩

theorem resize_ok {store : ChunkedSlots γ} (regular : store.Regular) {count : Nat}
    (chunks : store.size < count → store.chunks.size * store.chunkSlots < Size.bound) :
    ∃ next, store.resize count = .ok next := by
  rw [resize, Size.checked_eq_ok (Nat.lt_of_le_of_lt regular Size.largestBuffer_lt)]
  by_cases grows : store.size < count
  · obtain ⟨_, slots, width, _⟩ := store.blankFrom_keeps store.size
      (min count (store.chunks.size * store.chunkSlots) - store.size)
    have regularCleared : (store.blankFrom store.size
        (min count (store.chunks.size * store.chunkSlots) - store.size)).Regular := by
      rw [Regular, slots, width]
      exact regular
    obtain ⟨grown, added⟩ :=
      addChunks_ok _ regularCleared (Size.boxes count store.chunkSlots - store.chunks.size)
    refine ⟨{ grown with size := count }, ?_⟩
    change (if store.size < count then _ else _) = _
    rw [if_pos grows, Size.checked_eq_ok (chunks grows)]
    change (addChunks _ _ >>= _) = _
    rw [added]
    rfl
  · change ∃ next, (if store.size < count then _ else _) = _
    rw [if_neg grows]
    exact ⟨_, rfl⟩

theorem resize_keeps {store next : ChunkedSlots γ} {count : Nat} (resized : store.resize count = .ok next) :
    next.chunkSlots = store.chunkSlots ∧ next.width = store.width := by
  rcases resize_cases resized with ⟨_, grown, added, rfl⟩ | ⟨_, rfl⟩
  · obtain ⟨rfl, _⟩ := addChunks_eq added
    obtain ⟨_, slots, width, _⟩ := store.blankFrom_keeps store.size
      (min count (store.chunks.size * store.chunkSlots) - store.size)
    exact ⟨slots, width⟩
  · exact ⟨rfl, rfl⟩

/-- A slot that comes back in a chunk that was kept was blanked, and any other is in a new chunk. -/
theorem rowAt_grown {store next : ChunkedSlots γ} (sound : store.Sound) {count slot : Nat}
    (resized : store.resize count = .ok next) (new : store.size ≤ slot) (inside : slot < count) :
    next.rowAt slot = List.replicate store.width Cell.blank := by
  rcases resize_cases resized with ⟨_, grown, added, rfl⟩ | ⟨shrinks, rfl⟩
  · obtain ⟨rfl, _⟩ := addChunks_eq added
    obtain ⟨sizes, slots, width, _⟩ := store.blankFrom_keeps store.size
      (min count (store.chunks.size * store.chunkSlots) - store.size)
    have kept := congrArg List.length sizes
    simp only [chunkSizes, List.length_map, Array.length_toList] at kept
    have place := Size.div_lt_boxes store.chunkSlots_pos inside
    have fits := store.row_fits slot
    by_cases held : slot < store.chunks.size * store.chunkSlots
    · have chunk := (Nat.div_lt_iff_lt_mul store.chunkSlots_pos).mpr held
      rw [← rowAt_blankFrom sound
        (show store.size + (min count (store.chunks.size * store.chunkSlots) - store.size) ≤ _ by omega)
        new (by omega)]
      simp only [rowAt, readAt, slots, width, Array.getD_eq_getD_getElem?]
      rw [Array.getElem?_append_left (by omega)]
    · have chunk : store.chunks.size ≤ slot / store.chunkSlots :=
        (Nat.le_div_iff_mul_le store.chunkSlots_pos).mpr (Nat.le_of_not_lt held)
      simp only [rowAt, readAt, slots, width, Array.getD_eq_getD_getElem?]
      rw [Array.getElem?_append_right (by omega), Array.getElem?_replicate, if_pos (by omega)]
      exact Cells.read_blank fits
  · omega

instance : PlainSlotStore (ChunkedSlots γ) where
  Regular := Regular
  make_ok count {width chunkSlots} wide some chunk _ := by
    change ∃ store, make count width chunkSlots = .ok store
    rw [make, dif_pos wide, dif_pos some]
    apply resize_ok
    · exact chunk
    · intro _
      change 0 * chunkSlots < Size.bound
      rw [Nat.zero_mul]
      decide
  regular_make {count width chunkSlots store} chunk made := by
    change make count width chunkSlots = .ok store at made
    unfold make at made
    split at made
    next =>
      split at made
      next =>
        obtain ⟨slots, wide⟩ := resize_keeps made
        change store.chunkSlots * store.width ≤ Size.largestBuffer
        rw [slots, wide]
        exact chunk
      next => exact nomatch made
    next => exact nomatch made
  read_make {count width chunkSlots slot store} made inside := by
    obtain ⟨sound, sized, _⟩ := LawfulSlotStore.sound_make made
    change store.read slot = _
    rw [read_eq sound (show slot < SlotStore.size store from sized.symm ▸ inside)]
    change make count width chunkSlots = .ok store at made
    unfold make at made
    split at made
    next =>
      split at made
      next => exact congrArg _ (rowAt_grown sound_empty made (Nat.zero_le _) inside)
      next => exact nomatch made
    next => exact nomatch made
  read_outside {store slot} _ outside := by
    change ∃ fault, store.read slot = .error fault
    rw [read, locate_outside outside]
    exact ⟨_, rfl⟩
  regular_write {_} _ _ regular := regular
  resize_ok {store count} sound regular fits := by
    change ∃ next, store.resize count = .ok next
    change count * store.width ≤ Size.largestBuffer at fits
    change store.chunkSlots * store.width ≤ Size.largestBuffer at regular
    apply ChunkedSlots.resize_ok regular
    intro grows
    have chunks := Size.boxes_mul_le store.size store.chunkSlots
    have slots := Nat.le_mul_of_pos_right store.chunkSlots store.width_pos
    have counted := Nat.le_mul_of_pos_right count store.width_pos
    have small : Size.largestBuffer + Size.largestBuffer < Size.bound := by decide
    rw [sound.size_chunks]
    omega
  regular_resize {store next count} regular resized := by
    obtain ⟨slots, wide⟩ := resize_keeps resized
    change next.chunkSlots * next.width ≤ Size.largestBuffer
    rw [slots, wide]
    exact regular
  read_grown {store next count slot} sound _ resized new inside := by
    have shape := ChunkedSlots.resized sound resized
    change next.read slot = _
    rw [read_eq shape.sound (by rw [shape.size_eq]; exact inside), rowAt_grown sound resized new inside]
    rfl
  swap_same store slot := by
    change store.swap slot slot = _
    rw [swap, if_pos rfl]
    rfl
  swap_outside {store first second} sound different outside := by
    change ∃ fault, store.swap first second = .error fault
    rw [swap, if_neg different]
    by_cases firstInside : first < store.size
    · have secondOutside := outside.resolve_left (Nat.not_le_of_lt firstInside)
      rw [locate_eq sound firstInside, locate_outside secondOutside]
      exact ⟨_, rfl⟩
    · rw [locate_outside (Nat.le_of_not_lt firstInside)]
      exact ⟨_, rfl⟩
  copy_same store slot := by
    change store.copy slot slot = _
    rw [copy, if_pos rfl]
    rfl
  copy_eq {store source target row} sound found inside different := by
    change store.copy source target = _
    change store.read source = _ at found
    obtain ⟨sourceInside, rfl⟩ := eq_of_read found
    exact copy_eq_write sound sourceInside inside different
  copy_outside {store source target} sound different outside := by
    change ∃ fault, store.copy source target = .error fault
    rw [copy, if_neg different]
    by_cases sourceInside : source < store.size
    · have targetOutside := outside.resolve_left (Nat.not_le_of_lt sourceInside)
      rw [locate_eq sound sourceInside, locate_outside targetOutside]
      exact ⟨_, rfl⟩
    · rw [locate_outside (Nat.le_of_not_lt sourceInside)]
      exact ⟨_, rfl⟩

end ChunkedSlots

end SpatialStore
