import SpatialStore.Proofs.Slots.Growth

/-! Index arithmetic. A pool that was made stays within the sizes whatever is done with it, also one whose chunks
are larger than any buffer. But the bytes of a chunk are counted before it is known whether there has to be one, so
a valid sizing can stop a pool from being made at all. -/

namespace SpatialStore

namespace ChunkedSlots

variable {γ : Type} [Cell γ]

/-- A store without chunks whose first chunk cannot be had, though its bytes can be counted. -/
structure Starved (store : ChunkedSlots γ) : Prop where
  none : store.chunks.size = 0
  empty : store.size = 0
  large : Size.largestBuffer < store.chunkSlots * store.width
  counted : store.chunkSlots * store.width < Size.bound

theorem resize_overflow {store : ChunkedSlots γ} (wraps : Size.bound ≤ store.chunkSlots * store.width)
    (count : Nat) : store.resize count = .error .overflow := by
  rw [resize, Size.checked, if_neg (Nat.not_lt.mpr wraps)]
  rfl

theorem resize_starved {store : ChunkedSlots γ} (starved : store.Starved) {count : Nat} (some : 0 < count) :
    store.resize count = .error .tooLarge := by
  have needed : 0 < Size.boxes count store.chunkSlots :=
    Nat.lt_of_le_of_lt (Nat.zero_le _) (Size.div_lt_boxes store.chunkSlots_pos some)
  have unheld : Size.checked (store.chunks.size * store.chunkSlots) = .ok 0 := by
    rw [starved.none, Nat.zero_mul]
    rfl
  have nothing : min count 0 - store.size = 0 := by omega
  rw [resize, Size.checked_eq_ok starved.counted]
  change (if store.size < count then _ else _) = _
  rw [if_pos (starved.empty ▸ some), unheld]
  change (addChunks (store.blankFrom store.size (min count 0 - store.size)) _ >>= _) = _
  rw [nothing, blankFrom, addChunks, starved.none, if_neg (by omega), Size.buffer,
    if_neg (Nat.not_le.mpr starved.large)]
  rfl

omit [Cell γ] in
theorem starved_empty {width chunkSlots : Nat} (width_pos : 0 < width) (chunkSlots_pos : 0 < chunkSlots)
    (large : Size.largestBuffer < chunkSlots * width) (counted : chunkSlots * width < Size.bound) :
    Starved ({ chunks := #[], chunkSlots, width, size := 0, width_pos, chunkSlots_pos } : ChunkedSlots γ) :=
  ⟨rfl, rfl, large, counted⟩

/-- A store without slots needs no chunk, so that only the bytes of one are counted. -/
theorem make_none {width chunkSlots : Nat} (wide : 0 < width) (some : 0 < chunkSlots)
    (counted : chunkSlots * width < Size.bound) :
    make 0 width chunkSlots =
      .ok ({ chunks := #[], chunkSlots, width, size := 0, width_pos := wide, chunkSlots_pos := some } :
        ChunkedSlots γ) := by
  rw [make, dif_pos wide, dif_pos some, resize, Size.checked_eq_ok counted]
  simp only [Array.extract_empty]
  rfl

theorem make_spec {count width chunkSlots : Nat} (wide : 0 < width) (some : 0 < chunkSlots)
    (fits : count * width ≤ Size.largestBuffer) :
    (Size.bound ≤ chunkSlots * width ∧
      (SlotStore.make count width chunkSlots : Except Fault (ChunkedSlots γ)) = .error .overflow) ∨
    (chunkSlots * width < Size.bound ∧ ¬(count = 0 ∨ chunkSlots * width ≤ Size.largestBuffer) ∧
      (SlotStore.make count width chunkSlots : Except Fault (ChunkedSlots γ)) = .error .tooLarge) ∨
    (chunkSlots * width < Size.bound ∧ ∃ store : ChunkedSlots γ,
      SlotStore.make count width chunkSlots = .ok store ∧ (store.Regular ∨ store.Starved)) := by
  by_cases counted : chunkSlots * width < Size.bound
  · by_cases regular : chunkSlots * width ≤ Size.largestBuffer
    · obtain ⟨store, made⟩ := PlainSlotStore.make_ok (α := ChunkedSlots γ) count wide some regular fits
      exact Or.inr (Or.inr ⟨counted, store, made, Or.inl (PlainSlotStore.regular_make regular made)⟩)
    · have starved := starved_empty (γ := γ) wide some (Nat.not_le.mp regular) counted
      by_cases none : count = 0
      · subst none
        exact Or.inr (Or.inr ⟨counted, _, make_none wide some counted, Or.inr starved⟩)
      · refine Or.inr (Or.inl ⟨counted, by omega, ?_⟩)
        change make count width chunkSlots = _
        rw [make, dif_pos wide, dif_pos some]
        exact resize_starved starved (Nat.pos_of_ne_zero none)
  · have wraps := Nat.le_of_not_lt counted
    refine Or.inl ⟨wraps, ?_⟩
    change make count width chunkSlots = _
    rw [make, dif_pos wide, dif_pos some]
    exact resize_overflow wraps count

end ChunkedSlots

namespace SlotPool

variable {α γ : Type} [SlotStore α γ] [Cell γ] [LawfulSlotStore α] {width : Nat}

/-- It is the change itself that calculates an index beyond all sizes, and not the way to its slot. -/
def Act.Overflows (act : Act γ width) (pool : SlotPool α) : Prop :=
  ∃ slot change row, act = .write slot change ∧ pool.records[slot]? = some row ∧
    change.step.outcome row = .error .overflow

/-- All that is calculated on the way to a slot is a size. -/
structure InRange (width : Nat) (pool : SlotPool α) : Prop where
  len_le : pool.len ≤ pool.capacity
  counted : pool.capacity + 1 < Size.bound
  bytes_le : pool.capacity * width ≤ Size.largestBuffer
  overflow : ∀ act : Act γ width, (perform act).outcome pool = .error (.fault .overflow) → act.Overflows pool

/-- A pool without slots, which never gets any for want of memory. -/
structure Starved (pool : SlotPool α) : Prop where
  empty : pool.capacity = 0
  starved : ∀ count, 0 < count → SlotStore.resize pool.store count = .error .tooLarge

theorem Starved.allocate {pool : SlotPool α} (sound : pool.Sound) (starved : pool.Starved) :
    ∃ failure, allocate pool = .error failure pool ∧ failure ≠ .fault .overflow := by
  rcases allocate_spec sound with ⟨_, _, refused⟩ | ⟨_, room, fault, stuck, failed⟩ |
    ⟨store, ⟨free, _⟩ | ⟨_, room, resized⟩, _⟩
  · exact ⟨_, refused, nofun⟩
  · have short := starved.starved _ (Nat.lt_of_le_of_lt (Nat.zero_le _) (lt_enlarged room))
    obtain rfl := Except.error.inj (stuck.symm.trans short)
    exact ⟨_, failed, nofun⟩
  · exact absurd (starved.empty ▸ free) (Nat.not_lt_zero _)
  · have short := starved.starved _ (Nat.lt_of_le_of_lt (Nat.zero_le _) (lt_enlarged room))
    exact nomatch resized.symm.trans short

theorem Starved.perform {pool : SlotPool α} (sound : pool.Sound) (starved : pool.Starved)
    (act : Act γ width) :
    (perform act).Ends pool fun outcome next =>
      outcome ≠ .error (.fault .overflow) ∧ (next = pool ∨ next = pool.clear) := by
  have none : pool.len ≤ 0 := starved.empty ▸ sound.room
  cases act with
  | allocate =>
    obtain ⟨failure, failed, other⟩ := starved.allocate sound
    refine Step.ends_of_error (Step.bind_of_error failed) ⟨?_, Or.inl rfl⟩
    intro same
    exact other (Except.error.inj same)
  | free slot =>
    have refused := free_refused (Nat.le_trans none (Nat.zero_le slot))
    exact Step.ends_of_error (Step.bind_of_error refused) ⟨nofun, Or.inl rfl⟩
  | read slot =>
    have found := read_eq sound slot
    rw [List.getElem?_eq_none (by rw [length_records]; omega)] at found
    have refused := Step.read_of_error (fun pool : SlotPool α => pool.read slot) found
    exact Step.ends_of_error (Step.bind_of_error refused) ⟨nofun, Or.inl rfl⟩
  | write slot change =>
    have refused := edit_refused (Nat.le_trans none (Nat.zero_le slot)) change.step
    exact Step.ends_of_error (Step.bind_of_error refused) ⟨nofun, Or.inl rfl⟩
  | clear =>
    have run : SlotPool.perform (.clear : Act γ width) pool = .ok .cleared pool.clear := rfl
    exact Step.ends_of_ok run ⟨nofun, Or.inr rfl⟩

omit [SlotStore α γ] [LawfulSlotStore α] in
/-- With memory at hand, only a write can stop, and then it has stopped by itself. -/
theorem Follows.stopped_write {limit most : Nat} {rows next : List (List γ)} {entry : Entry γ width}
    {fault : Fault} (follows : Follows width limit most True rows entry next)
    (stopped : entry.2 = .error (.fault fault)) :
    ∃ slot change row, entry.1 = .write slot change ∧ rows[slot]? = some row ∧
      change.step.outcome row = .error fault := by
  cases follows with
  | stopped irregular => exact absurd trivial irregular
  | writeStopped kept failed =>
    obtain rfl := Failure.fault.inj (Except.error.inj stopped)
    exact ⟨_, _, _, rfl, kept, failed⟩
  | _ => exact nomatch stopped

variable [PlainSlotStore α]

/-- A pool that can count the bytes of all slots it can come to have, whether or not it can have them. -/
structure Bounded (width : Nat) (pool : SlotPool α) : Prop where
  sound : pool.Sound
  wide : pool.width = width
  fits : pool.most * width ≤ Size.largestBuffer
  memory : PlainSlotStore.Regular pool.store ∨ pool.Starved

namespace Bounded

variable {pool : SlotPool α}

theorem perform (bounded : Bounded width pool) (act : Act γ width) :
    (perform act).Ends pool fun outcome next =>
      (outcome = .error (.fault .overflow) → act.Overflows pool) ∧ Bounded width next := by
  obtain ⟨sound, rfl, fits, memory⟩ := bounded
  rcases memory with regular | starved
  · obtain ⟨follows, continues⟩ := perform_advances sound (fun _ : True => regular) act
    exact ⟨follows.stopped_write, continues.sound, continues.width, continues.most ▸ fits,
      Or.inl (continues.regular regular)⟩
  · obtain ⟨other, same | cleared⟩ := starved.perform sound act
    · rw [Step.Ends, same]
      exact ⟨fun overflow => absurd overflow other, sound, rfl, fits, Or.inr starved⟩
    · rw [Step.Ends, cleared]
      refine ⟨fun overflow => absurd overflow other, (clear_spec sound).1, rfl, fits, Or.inr ?_⟩
      exact ⟨starved.empty, starved.starved⟩

theorem leftAfter (bounded : Bounded width pool) (acts : List (Act γ width)) :
    Bounded width (Step.leftAfter SlotPool.perform acts pool) := by
  induction acts generalizing pool with
  | nil => exact bounded
  | cons act rest ih => exact ih (bounded.perform act).2

theorem inRange (wide : 0 < width) (bounded : Bounded width pool) : InRange width pool where
  len_le := bounded.sound.room
  counted := by
    have slots : pool.capacity ≤ Size.largestBuffer :=
      calc pool.capacity
        _ ≤ pool.most := Nat.le_max_right _ _
        _ ≤ pool.most * width := Nat.le_mul_of_pos_right _ wide
        _ ≤ Size.largestBuffer := bounded.fits
    have small : Size.largestBuffer + 1 < Size.bound := by decide
    omega
  bytes_le := Nat.le_trans (Nat.mul_le_mul_right width (Nat.le_max_right _ _)) bounded.fits
  overflow act := (bounded.perform act).1

end Bounded

theorem bounded_make {sizing : Sizing} (fits : sizing.initialCapacity * width ≤ Size.largestBuffer)
    {start : SlotPool α} (made : make width sizing = .ok start)
    (memory : PlainSlotStore.Regular start.store ∨ start.Starved) : Bounded width start := by
  obtain ⟨stored, _⟩ := make_cases made
  obtain ⟨_, size, _⟩ := LawfulSlotStore.sound_make stored
  obtain ⟨sound, rfl, _⟩ := sound_make made
  refine ⟨sound, rfl, ?_, memory⟩
  have limited := start.limit_fits
  rw [← size] at fits
  unfold most
  rcases Nat.le_total start.limit start.capacity with below | above
  · rw [Nat.max_eq_right below]
    exact fits
  · rw [Nat.max_eq_left above]
    exact limited

omit [Cell γ] [LawfulSlotStore α] [PlainSlotStore α] in
/-- A new pool of a valid sizing comes to what its store comes to. -/
theorem make_eq {sizing : Sizing} (valid : sizing.validate = .ok ()) (wide : 0 < width) :
    (make width sizing : Except PoolFailure (SlotPool α)) =
      match (SlotStore.make sizing.initialCapacity width sizing.chunkSlots : Except Fault α) with
      | .error fault => .error (.fault fault)
      | .ok store => .ok { store, maximum := sizing.maxCapacity } := by
  rw [make, valid]
  exact if_neg (Nat.ne_of_gt wide)

omit [SlotStore α γ] [LawfulSlotStore α] [PlainSlotStore α] in
theorem make_chunked {sizing : Sizing} (valid : sizing.validate = .ok ()) (wide : 0 < width)
    (fits : sizing.initialCapacity * width ≤ Size.largestBuffer) :
    (Size.bound ≤ sizing.chunkSlots * width ∧
      (make width sizing : Except PoolFailure (SlotPool (ChunkedSlots γ))) = .error (.fault .overflow)) ∨
    (¬(sizing.initialCapacity = 0 ∨ sizing.chunkSlots * width ≤ Size.largestBuffer) ∧
      sizing.chunkSlots * width < Size.bound ∧
      (make width sizing : Except PoolFailure (SlotPool (ChunkedSlots γ))) = .error (.fault .tooLarge)) ∨
    (sizing.chunkSlots * width < Size.bound ∧
      ∃ start : SlotPool (ChunkedSlots γ), make width sizing = .ok start ∧ Bounded width start) := by
  have some := (Sizing.validate_eq_ok_iff.mp valid).2.1
  have made := make_eq (α := ChunkedSlots γ) valid wide
  rcases ChunkedSlots.make_spec (γ := γ) wide some fits with ⟨wraps, stopped⟩ |
    ⟨counted, large, stopped⟩ | ⟨counted, store, stored, memory⟩
  · rw [stopped] at made
    exact Or.inl ⟨wraps, made⟩
  · rw [stopped] at made
    exact Or.inr (Or.inl ⟨large, counted, made⟩)
  · rw [stored] at made
    refine Or.inr (Or.inr ⟨counted, _, made, bounded_make fits made (memory.imp id ?_)⟩)
    intro starved
    exact ⟨starved.empty, fun count slots => ChunkedSlots.resize_starved starved slots⟩

omit [SlotStore α γ] [LawfulSlotStore α] [PlainSlotStore α] in
/-- A flat pool of a valid sizing is always made, and a pool of chunks unless the bytes of a chunk cannot be counted
or there is no memory for the first one. After every run, whatever is calculated to get at a slot is a size. -/
theorem run_in_range {sizing : Sizing} (valid : sizing.validate = .ok ()) (wide : 0 < width)
    (fits : sizing.initialCapacity * width ≤ Size.largestBuffer) :
    (∃ start : SlotPool (FlatSlots γ), make width sizing = .ok start ∧
      ∀ acts : List (Act γ width), InRange width (Step.leftAfter perform acts start)) ∧
    ((make width sizing : Except PoolFailure (SlotPool (ChunkedSlots γ))) = .error (.fault .overflow) ↔
      Size.bound ≤ sizing.chunkSlots * width) ∧
    (sizing.chunkSlots * width < Size.bound →
      sizing.initialCapacity = 0 ∨ sizing.chunkSlots * width ≤ Size.largestBuffer →
      ∃ start : SlotPool (ChunkedSlots γ), make width sizing = .ok start) ∧
    ∀ start : SlotPool (ChunkedSlots γ), make width sizing = .ok start →
      ∀ acts : List (Act γ width), InRange width (Step.leftAfter perform acts start) := by
  constructor
  · obtain ⟨store, stored⟩ : ∃ store : FlatSlots γ,
        SlotStore.make sizing.initialCapacity width sizing.chunkSlots = .ok store :=
      ⟨_, FlatSlots.make_eq_ok wide fits⟩
    obtain ⟨made, good, _⟩ := make_of_stored valid wide stored (FlatSlots.regular_make stored)
    have bounded := bounded_make fits made (Or.inl good.regular)
    exact ⟨_, made, fun acts => (bounded.leftAfter acts).inRange wide⟩
  · rcases make_chunked (γ := γ) valid wide fits with ⟨wraps, stopped⟩ | ⟨large, counted, stopped⟩ |
      ⟨counted, start, made, bounded⟩
    · refine ⟨⟨fun _ => wraps, fun _ => stopped⟩, ?_, ?_⟩
      · intro counted
        exact absurd wraps (Nat.not_le.mpr counted)
      · intro start made
        exact nomatch stopped.symm.trans made
    · refine ⟨⟨?_, ?_⟩, ?_, ?_⟩
      · intro overflow
        exact nomatch stopped.symm.trans overflow
      · intro wraps
        exact absurd counted (Nat.not_lt.mpr wraps)
      · intro _ memory
        exact absurd memory large
      · intro start made
        exact nomatch stopped.symm.trans made
    · refine ⟨⟨?_, ?_⟩, fun _ _ => ⟨start, made⟩, ?_⟩
      · intro overflow
        exact nomatch made.symm.trans overflow
      · intro wraps
        exact absurd counted (Nat.not_lt.mpr wraps)
      · intro other same acts
        obtain rfl := Except.ok.inj (made.symm.trans same)
        exact (bounded.leftAfter acts).inRange wide

def unmet : List (Act UInt8 2) := [.allocate, .free 0, .clear, .read 0, .allocate]

theorem unmet_in_range :
    ∃ start : SlotPool (ChunkedSlots UInt8),
      make 2 { initialCapacity := 0, chunkSlots := 0x4000000000000000 } = .ok start ∧
      (Step.leftAfter perform unmet start).capacity = 0 ∧
      (Step.leftAfter perform unmet start).modifications = 1 ∧
      InRange 2 (Step.leftAfter perform unmet start) := by
  have valid : ({ initialCapacity := 0, chunkSlots := 0x4000000000000000 } : Sizing).validate = .ok () := rfl
  have wide : 0 < 2 := by decide
  obtain ⟨_, _, makes, ranges⟩ := run_in_range (γ := UInt8) valid wide (by decide)
  obtain ⟨start, made⟩ := makes (by decide) (Or.inl rfl)
  refine ⟨start, made, ?_, ?_, ranges start made unmet⟩
  all_goals
    obtain rfl := Except.ok.inj made
    decide +kernel

/-- A valid sizing of no slots, for which there has to be no chunk. There is a flat pool of it, and for the pool of
chunks a product of slots and width is calculated that is not a size. -/
theorem chunk_overflows :
    ({ initialCapacity := 0, chunkSlots := 0x4000000000000000 } : Sizing).validate = .ok () ∧
      0 * 4 ≤ Size.largestBuffer ∧
      (∃ start : SlotPool (FlatSlots UInt8),
        make 4 { initialCapacity := 0, chunkSlots := 0x4000000000000000 } = .ok start) ∧
      (make 4 { initialCapacity := 0, chunkSlots := 0x4000000000000000 } :
        Except PoolFailure (SlotPool (ChunkedSlots UInt8))) = .error (.fault .overflow) :=
  ⟨rfl, Nat.zero_le _, ⟨_, rfl⟩, rfl⟩

end SlotPool

end SpatialStore
