import SpatialStore.Slots.Pool
import SpatialStore.Proofs.Steps
import SpatialStore.Proofs.Slots.Plain
import SpatialStore.Proofs.Slots.Gap

/-! Slot pools as lists of records. Whatever store a pool has, allocating appends a blank record, freeing
puts the last record into the gap, and growing changes no record. -/

namespace SpatialStore

namespace SlotPool

variable {α γ β : Type} [SlotStore α γ]

/-- The rows of the slots in use, in order. -/
def records (pool : SlotPool α) : List (List γ) := (List.range pool.len).map (SlotStore.row pool.store)

/-- The move that freeing a slot brings about in a pool of `len` slots. -/
def relocation (len slot : Nat) : Option Relocation :=
  if slot + 1 = len then none else some ⟨len - 1, slot⟩

def put (pool : SlotPool α) (slot : Nat) (row : List γ) : SlotPool α :=
  { pool with store := SlotStore.write pool.store slot row }

@[simp] theorem length_records (pool : SlotPool α) : pool.records.length = pool.len := by
  simp [records]

theorem getElem?_records (pool : SlotPool α) (slot : Nat) :
    pool.records[slot]? = if slot < pool.len then some (SlotStore.row pool.store slot) else none := by
  unfold records
  by_cases inside : slot < pool.len
  · rw [if_pos inside]
    simp [inside]
  · rw [if_neg inside, List.getElem?_eq_none]
    simpa using inside

theorem free_refused {pool : SlotPool α} {slot : Nat} (outside : pool.len ≤ slot) :
    free slot pool = .error (.refused (.invalidHandle (some slot) pool.len)) pool := by
  rw [free, if_neg (Nat.not_lt.mpr outside)]

theorem edit_refused {pool : SlotPool α} {slot : Nat} (outside : pool.len ≤ slot)
    (step : Step Fault (List γ) β) :
    edit slot step pool = .error (.refused (.invalidHandle (some slot) pool.len)) pool :=
  if_neg (Nat.not_lt.mpr outside)

/-! ### Stamps -/

theorem getD_stampSlot (stamps : Array Nat) (slot count other : Nat) :
    (stampSlot stamps slot count).getD other 0 = if other = slot then count else stamps.getD other 0 := by
  rw [Array.getD_eq_getD_getElem?, Array.getD_eq_getD_getElem?, stampSlot,
    Array.getElem?_setIfInBounds, Array.getElem?_append, Array.getElem?_replicate]
  simp only [Array.size_append, Array.size_replicate]
  by_cases same : other = slot
  · subst other
    rw [if_pos rfl, if_pos rfl, if_pos (by omega)]
    rfl
  · rw [if_neg (fun equal => same equal.symm), if_neg same]
    by_cases inside : other < stamps.size
    · rw [if_pos inside]
    · rw [if_neg inside, Array.getElem?_eq_none (Nat.le_of_not_lt inside)]
      split <;> rfl

/-- Freeing a slot stamps it, and stamps the last slot, whose record is moved or gone. -/
theorem stamp_shrink (pool : SlotPool α) (slot other : Nat) :
    (pool.shrink slot).stamp other =
      if other = slot ∨ other = pool.len - 1 then Nat.max (pool.modifications + 1) pool.clearedAt
      else pool.stamp other := by
  unfold stamp shrink
  rw [getD_stampSlot, getD_stampSlot]
  by_cases last : other = pool.len - 1
  · rw [if_pos last, if_pos (Or.inr last)]
  · rw [if_neg last]
    by_cases here : other = slot
    · rw [if_pos here, if_pos (Or.inl here)]
    · rw [if_neg here, if_neg (fun either => either.elim here last)]

theorem stamp_clear (pool : SlotPool α) (slot : Nat) :
    pool.clear.stamp slot = Nat.max (pool.stamps.getD slot 0) (pool.modifications + 1) := rfl

theorem clearedAt_le_stamp (pool : SlotPool α) (slot : Nat) : pool.clearedAt ≤ pool.stamp slot :=
  Nat.le_max_right _ _

variable [LawfulSlotStore α]

structure Sound (pool : SlotPool α) : Prop where
  store : LawfulSlotStore.Sound pool.store
  room : pool.len ≤ pool.capacity

theorem length_of_getElem?_records {pool : SlotPool α} (sound : pool.Sound) {slot : Nat} {row : List γ}
    (found : pool.records[slot]? = some row) : row.length = pool.width := by
  rw [getElem?_records] at found
  split at found
  next inside =>
    obtain rfl := Option.some.inj found
    exact SlotStore.length_row sound.store (Nat.lt_of_lt_of_le inside sound.room)
  next => exact nomatch found

omit [LawfulSlotStore α] in
theorem make_cases {width : Nat} {sizing : Sizing} {pool : SlotPool α}
    (made : make width sizing = .ok pool) :
    SlotStore.make sizing.initialCapacity width sizing.chunkSlots = .ok pool.store ∧
      pool = { store := pool.store, maximum := sizing.maxCapacity } := by
  unfold make at made
  cases valid : sizing.validate with
  | error reason =>
    rw [valid] at made
    exact nomatch made
  | ok _ =>
    rw [valid] at made
    by_cases none : width = 0
    · rw [if_pos none] at made
      exact nomatch made
    · rw [if_neg none] at made
      cases stored : (SlotStore.make sizing.initialCapacity width sizing.chunkSlots : Except Fault α) with
      | error fault =>
        rw [stored] at made
        exact nomatch made
      | ok store =>
        rw [stored] at made
        obtain rfl := Except.ok.inj made
        exact ⟨rfl, rfl⟩

theorem sound_make {width : Nat} {sizing : Sizing} {pool : SlotPool α}
    (made : make width sizing = .ok pool) :
    pool.Sound ∧ pool.width = width ∧ pool.len = 0 ∧ pool.modifications = 0 ∧ pool.clearedAt = 0 ∧
      pool.stamps = #[] := by
  obtain ⟨stored, fresh⟩ := make_cases made
  obtain ⟨sound, size, wide⟩ := LawfulSlotStore.sound_make stored
  rw [fresh]
  exact ⟨⟨sound, Nat.zero_le _⟩, wide, rfl, rfl, rfl, rfl⟩

/-! ### Reading and writing -/

theorem read_eq {pool : SlotPool α} (sound : pool.Sound) (slot : Nat) :
    pool.read slot = match pool.records[slot]? with
      | some row => .ok row
      | none => .error (.refused (.invalidHandle (some slot) pool.len)) := by
  rw [getElem?_records, read, check]
  by_cases inside : slot < pool.len
  · rw [if_pos inside, if_pos inside]
    change (SlotStore.read pool.store slot).mapError Failure.fault = _
    rw [SlotStore.read_eq_row sound.store (Nat.lt_of_lt_of_le inside sound.room)]
    rfl
  · rw [if_neg inside, if_neg inside]
    rfl

theorem put_spec {pool : SlotPool α} (sound : pool.Sound) {slot : Nat} {row : List γ}
    (inside : slot < pool.len) (long : row.length = pool.width) :
    (pool.put slot row).Sound ∧ (pool.put slot row).width = pool.width ∧
      (pool.put slot row).records = pool.records.set slot row := by
  have stored := Nat.lt_of_lt_of_le inside sound.room
  refine ⟨⟨LawfulSlotStore.sound_write sound.store stored long, ?_⟩,
    LawfulSlotStore.width_write .., ?_⟩
  · change pool.len ≤ SlotStore.size (SlotStore.write pool.store slot row)
    rw [LawfulSlotStore.size_write]
    exact sound.room
  · apply List.ext_getElem?
    intro other
    rw [getElem?_records, List.getElem?_set, getElem?_records, length_records]
    change (if other < pool.len then some (SlotStore.row (SlotStore.write pool.store slot row) other)
      else none) = _
    by_cases otherInside : other < pool.len
    · rw [if_pos otherInside, SlotStore.row_write sound.store stored long
        (Nat.lt_of_lt_of_le otherInside sound.room)]
      by_cases same : other = slot
      · subst other
        rw [if_pos rfl, if_pos rfl, if_pos inside]
      · rw [if_neg same, if_neg (fun equal => same equal.symm), if_pos otherInside]
    · rw [if_neg otherInside, if_neg (by omega), if_neg otherInside]

/-- A step on a record leaves the pool with what it makes of the record, also when it fails. -/
theorem edit_eq {pool : SlotPool α} (sound : pool.Sound) {slot : Nat} {row : List γ}
    (found : pool.records[slot]? = some row) (step : Step Fault (List γ) β) :
    edit slot step pool = match step row with
      | .ok answer next => .ok answer (pool.put slot next)
      | .error fault next => .error (.fault fault) (pool.put slot next) := by
  rw [getElem?_records] at found
  split at found
  next inside =>
    obtain rfl := Option.some.inj found
    have read := SlotStore.read_eq_row sound.store (Nat.lt_of_lt_of_le inside sound.room)
    simp only [edit, if_pos inside, Step.within, SlotStore.edit, read, put]
    cases step (SlotStore.row pool.store slot) <;> rfl
  next => exact nomatch found

theorem left_edit {pool : SlotPool α} (sound : pool.Sound) {slot : Nat} {row : List γ}
    (found : pool.records[slot]? = some row) (step : Step Fault (List γ) β) :
    (edit slot step).left pool = pool.put slot (step.left row) := by
  have edited := edit_eq sound found step
  cases run : step row with
  | ok answer next =>
    rw [run] at edited
    rw [Step.left_of_ok edited, Step.left_of_ok run]
  | error fault next =>
    rw [run] at edited
    rw [Step.left_of_error edited, Step.left_of_error run]

/-! ### Taking and freeing slots -/

/-- The most slots that the pool can come to have: it keeps what it was made with, also beyond its limit. -/
def most (pool : SlotPool α) : Nat := max pool.limit pool.capacity

def enlarged (pool : SlotPool α) : Nat :=
  Nat.min (Nat.max (2 * pool.capacity) (pool.capacity + 1)) pool.limit

omit [LawfulSlotStore α] in
theorem lt_enlarged {pool : SlotPool α} (room : pool.capacity < pool.limit) :
    pool.capacity < pool.enlarged := by
  apply Nat.lt_min.mpr
  exact ⟨Nat.lt_of_lt_of_le (Nat.lt_succ_self _) (Nat.le_max_right _ _), room⟩

omit [LawfulSlotStore α] in
theorem limit_fits (pool : SlotPool α) : pool.limit * pool.width ≤ Size.largestBuffer := by
  have limited : pool.limit ≤ SlotStore.maxSize pool.store := by
    unfold limit
    split
    next => exact Nat.le_refl _
    next => exact Nat.min_le_right _ _
  exact Nat.mul_le_of_le_div _ _ _ limited

omit [LawfulSlotStore α] in
theorem enlarged_fits (pool : SlotPool α) : pool.enlarged * pool.width ≤ Size.largestBuffer :=
  Nat.le_trans (Nat.mul_le_mul_right _ (Nat.min_le_right _ _)) pool.limit_fits

omit [LawfulSlotStore α] in
/-- A pool at its limit does not grow, and another one grows unless its store fails to. -/
theorem grow_cases (pool : SlotPool α) :
    (pool.limit ≤ pool.capacity ∧ pool.grow = .error (.refused (.outOfCapacity pool.limit))) ∨
    (pool.capacity < pool.limit ∧ ∃ fault, SlotStore.resize pool.store pool.enlarged = .error fault ∧
      pool.grow = .error (.fault fault)) ∨
    (pool.capacity < pool.limit ∧ ∃ store, SlotStore.resize pool.store pool.enlarged = .ok store ∧
      pool.grow = .ok { pool with store }) := by
  by_cases full : pool.limit ≤ pool.capacity
  · exact Or.inl ⟨full, if_pos full⟩
  · have room := Nat.lt_of_not_le full
    cases resized : SlotStore.resize pool.store pool.enlarged with
    | error fault =>
      refine Or.inr (Or.inl ⟨room, fault, rfl, ?_⟩)
      unfold enlarged at resized
      simp only [grow, if_neg full, resized]
    | ok store =>
      refine Or.inr (Or.inr ⟨room, store, rfl, ?_⟩)
      unfold enlarged at resized
      simp only [grow, if_neg full, resized]

theorem grown_spec {pool : SlotPool α} (sound : pool.Sound) (room : pool.capacity < pool.limit) {store : α}
    (resized : SlotStore.resize pool.store pool.enlarged = .ok store) :
    ({ pool with store } : SlotPool α).Sound ∧
      ({ pool with store } : SlotPool α).capacity = pool.enlarged ∧
      ({ pool with store } : SlotPool α).width = pool.width ∧
      ({ pool with store } : SlotPool α).records = pool.records := by
  obtain ⟨soundStore, size, wide⟩ := LawfulSlotStore.sound_resize sound.store resized
  have more := lt_enlarged room
  have inUse := sound.room
  refine ⟨⟨soundStore, ?_⟩, size, wide, ?_⟩
  · change pool.len ≤ SlotStore.size store
    omega
  · apply List.map_congr_left
    intro slot member
    have inside : slot < pool.len := List.mem_range.mp member
    exact SlotStore.row_resize sound.store resized (Nat.lt_of_lt_of_le inside inUse) (by omega)

theorem take_spec [Cell γ] {pool : SlotPool α} (sound : pool.Sound) (room : pool.len < pool.capacity) :
    pool.take.Sound ∧ pool.take.width = pool.width ∧
      pool.take.records = pool.records ++ [List.replicate pool.width Cell.blank] := by
  have long : (List.replicate pool.width (Cell.blank : γ)).length = pool.width := List.length_replicate
  refine ⟨⟨LawfulSlotStore.sound_write sound.store room long, ?_⟩, LawfulSlotStore.width_write .., ?_⟩
  · change pool.len + 1 ≤ SlotStore.size (SlotStore.write _ _ _)
    rw [LawfulSlotStore.size_write]
    exact room
  · have rows : ∀ slot < pool.capacity, SlotStore.row pool.take.store slot =
        if slot = pool.len then List.replicate pool.width Cell.blank else SlotStore.row pool.store slot :=
      fun slot inside => SlotStore.row_write sound.store room long inside
    change (List.range (pool.len + 1)).map _ = _
    rw [List.range_succ, List.map_append, List.map_singleton, rows pool.len room, if_pos rfl]
    congr 1
    apply List.map_congr_left
    intro slot member
    have inside := List.mem_range.mp member
    rw [rows slot (by omega), if_neg (by omega)]

/-- Allocating is refused at the limit, fails if the store cannot grow, and else appends a blank record. -/
theorem allocate_spec [Cell γ] {pool : SlotPool α} (sound : pool.Sound) :
    (pool.limit ≤ pool.len ∧ pool.len = pool.capacity ∧
      allocate pool = .error (.refused (.outOfCapacity pool.limit)) pool) ∨
    (pool.len = pool.capacity ∧ pool.capacity < pool.limit ∧
      ∃ fault, SlotStore.resize pool.store pool.enlarged = .error fault ∧
        allocate pool = .error (.fault fault) pool) ∨
    (∃ store, (pool.len < pool.capacity ∧ store = pool.store ∨ pool.len = pool.capacity ∧
        pool.capacity < pool.limit ∧ SlotStore.resize pool.store pool.enlarged = .ok store) ∧
      allocate pool = .ok pool.len ({ pool with store } : SlotPool α).take ∧
      ({ pool with store } : SlotPool α).take.Sound ∧
      ({ pool with store } : SlotPool α).take.width = pool.width ∧
      ({ pool with store } : SlotPool α).take.records =
        pool.records ++ [List.replicate pool.width Cell.blank]) := by
  unfold allocate
  by_cases full : pool.len = pool.capacity
  · rw [if_pos full]
    rcases grow_cases pool with
      ⟨atLimit, refused⟩ | ⟨room, fault, stuck, failed⟩ | ⟨room, store, resized, grown⟩
    · exact Or.inl ⟨full ▸ atLimit, full, by rw [refused]⟩
    · exact Or.inr (Or.inl ⟨full, room, fault, stuck, by rw [failed]⟩)
    · obtain ⟨soundGrown, size, wide, kept⟩ := grown_spec sound room resized
      have free : ({ pool with store } : SlotPool α).len < ({ pool with store } : SlotPool α).capacity := by
        rw [size]
        exact Nat.lt_of_le_of_lt (Nat.le_of_eq full) (lt_enlarged room)
      obtain ⟨soundTaken, wideTaken, taken⟩ := take_spec soundGrown free
      refine Or.inr (Or.inr ⟨store, Or.inr ⟨full, room, resized⟩, by rw [grown], soundTaken, ?_, ?_⟩)
      · exact wideTaken.trans wide
      · rw [taken, wide, kept]
  · rw [if_neg full]
    have free : pool.len < pool.capacity := Nat.lt_of_le_of_ne sound.room full
    exact Or.inr (Or.inr ⟨pool.store, Or.inl ⟨free, rfl⟩, rfl, take_spec sound free⟩)

theorem allocate_cases [Cell γ] {pool : SlotPool α} (sound : pool.Sound) :
    (∃ failure, allocate pool = .error failure pool) ∨
    (∃ store next, next = { pool with store, len := pool.len + 1 } ∧
      allocate pool = .ok pool.len next ∧ next.Sound ∧ next.width = pool.width ∧
      next.records = pool.records ++ [List.replicate pool.width Cell.blank]) := by
  rcases allocate_spec sound with
    ⟨_, _, refused⟩ | ⟨_, _, _, _, failed⟩ | ⟨store, _, taken, result⟩
  · exact Or.inl ⟨_, refused⟩
  · exact Or.inl ⟨_, failed⟩
  · exact Or.inr ⟨_, _, rfl, taken, result⟩

theorem allocate_error [Cell γ] {pool next : SlotPool α} (sound : pool.Sound) {failure : PoolFailure}
    (stopped : allocate pool = .error failure next) :
    (pool.limit ≤ pool.len ∧ failure = .refused (.outOfCapacity pool.limit)) ∨
      ∃ fault, failure = .fault fault := by
  rcases allocate_spec sound with
    ⟨atLimit, _, refused⟩ | ⟨_, _, fault, _, failed⟩ | ⟨store, _, taken, _⟩
  · exact Or.inl ⟨atLimit, (EStateM.Result.error.inj (stopped.symm.trans refused)).1⟩
  · exact Or.inr ⟨fault, (EStateM.Result.error.inj (stopped.symm.trans failed)).1⟩
  · cases stopped.symm.trans taken

/-- There is no slot to be had only in a pool that has as many as it can come to have. -/
theorem most_le_of_refused [Cell γ] {pool next : SlotPool α} (sound : pool.Sound) {reason : Refusal}
    (refused : allocate pool = .error (.refused reason) next) : pool.most ≤ pool.len := by
  rcases allocate_spec sound with
    ⟨atLimit, full, _⟩ | ⟨_, _, fault, _, failed⟩ | ⟨store, _, taken, _⟩
  · exact Nat.max_le.mpr ⟨atLimit, Nat.le_of_eq full.symm⟩
  · exact nomatch failed.symm.trans refused
  · exact nomatch taken.symm.trans refused

theorem lt_most_of_allocate [Cell γ] {pool next : SlotPool α} (sound : pool.Sound) {slot : Nat}
    (run : allocate pool = .ok slot next) : pool.len < pool.most := by
  rcases allocate_spec sound with
    ⟨_, _, refused⟩ | ⟨_, _, fault, _, failed⟩ | ⟨store, whence, _⟩
  · exact nomatch refused.symm.trans run
  · exact nomatch failed.symm.trans run
  · rw [most]
    rcases whence with ⟨free, _⟩ | ⟨full, room, _⟩
    · omega
    · omega

theorem free_ok {pool : SlotPool α} (sound : pool.Sound) {slot : Nat} (inside : slot < pool.len) :
    ∃ store next, next = ({ pool with store } : SlotPool α).shrink slot ∧
      free slot pool = .ok (relocation pool.len slot) next ∧ next.Sound ∧ next.width = pool.width ∧
      next.records = closeGap pool.records slot := by
  have room := sound.room
  unfold free
  rw [if_pos inside]
  by_cases last : slot = pool.len - 1
  · refine ⟨pool.store, pool.shrink slot, rfl, ?_, ⟨sound.store, ?_⟩, rfl, ?_⟩
    · simp only [if_pos last, relocation]
      rw [if_pos (by omega)]
    · change pool.len - 1 ≤ pool.capacity
      omega
    · apply List.ext_getElem?
      intro index
      rw [getElem?_closeGap, getElem?_records, getElem?_records, getElem?_records, length_records]
      change (if index < pool.len - 1 then some (SlotStore.row pool.store index) else none) = _
      by_cases kept : index + 1 < pool.len
      · rw [if_pos kept, if_pos (by omega), if_neg (by omega), if_pos (by omega)]
      · rw [if_neg kept, if_neg (by omega)]
  · obtain ⟨store, swapped, soundStore, size, wide, rows⟩ := SlotStore.swap_ok sound.store
      (Nat.lt_of_lt_of_le inside room) (show pool.len - 1 < _ from Nat.lt_of_lt_of_le (by omega) room) last
    refine ⟨store, _, rfl, ?_, ⟨soundStore, ?_⟩, wide, ?_⟩
    · simp only [if_neg last, swapped, relocation]
      rw [if_neg (by omega)]
    · change pool.len - 1 ≤ SlotStore.size store
      rw [size]
      exact Nat.le_trans (Nat.sub_le _ _) room
    · apply List.ext_getElem?
      intro index
      rw [getElem?_closeGap, getElem?_records, getElem?_records, getElem?_records, length_records]
      change (if index < pool.len - 1 then some (SlotStore.row store index) else none) = _
      by_cases kept : index + 1 < pool.len
      · have stored : index < pool.capacity := by omega
        rw [if_pos kept, if_pos (by omega), rows index stored, if_neg (by omega),
          if_pos (show pool.len - 1 < pool.len by omega), if_pos (show index < pool.len by omega)]
        split <;> rfl
      · rw [if_neg kept, if_neg (by omega)]

theorem clear_spec {pool : SlotPool α} (sound : pool.Sound) :
    pool.clear.Sound ∧ pool.clear.records = [] :=
  ⟨⟨sound.store, Nat.zero_le _⟩, rfl⟩

theorem contents_eq {pool : SlotPool α} (sound : pool.Sound) : pool.contents = .ok pool.records := by
  have read : ∀ slots : List Nat, (∀ slot ∈ slots, slot < pool.len) →
      slots.mapM (SlotStore.read pool.store) = .ok (slots.map (SlotStore.row pool.store)) := by
    intro slots
    induction slots with
    | nil => exact fun _ => rfl
    | cons slot rest ih =>
      intro inside
      have here := Nat.lt_of_lt_of_le (inside slot List.mem_cons_self) sound.room
      rw [List.mapM_cons, SlotStore.read_eq_row sound.store here,
        ih (fun other member => inside other (List.mem_cons_of_mem _ member))]
      rfl
  rw [contents, SlotStore.contents, read _ (fun slot => List.mem_range.mp)]
  rfl

/-! ### Over plain stores -/

section

variable [Cell γ] [PlainSlotStore α]

/-- A pool that another has become, and that is as good. -/
structure Continues (pool next : SlotPool α) : Prop where
  sound : next.Sound
  width : next.width = pool.width
  maximum : next.maximum = pool.maximum
  most : next.most = pool.most
  regular : PlainSlotStore.Regular pool.store → PlainSlotStore.Regular next.store

theorem Continues.refl {pool : SlotPool α} (sound : pool.Sound) : Continues pool pool :=
  ⟨sound, rfl, rfl, rfl, id⟩

omit [LawfulSlotStore α] [Cell γ] [PlainSlotStore α] in
theorem limit_congr {pool next : SlotPool α} (width : next.width = pool.width)
    (maximum : next.maximum = pool.maximum) : next.limit = pool.limit := by
  have widest : SlotStore.maxSize next.store = SlotStore.maxSize pool.store :=
    congrArg (Size.largestBuffer / ·) width
  rw [limit, limit, maximum, widest]

theorem Continues.limit {pool next : SlotPool α} (continues : Continues pool next) :
    next.limit = pool.limit :=
  limit_congr continues.width continues.maximum

def capacityNext (pool : SlotPool α) : Nat :=
  if pool.len = pool.capacity then pool.enlarged else pool.capacity

omit [LawfulSlotStore α] [Cell γ] [PlainSlotStore α] in
theorem most_grown {pool next : SlotPool α} (width : next.width = pool.width)
    (maximum : next.maximum = pool.maximum) (capacity : next.capacity = pool.capacityNext)
    (below : ¬(pool.limit ≤ pool.len ∧ pool.len = pool.capacity)) : next.most = pool.most := by
  rw [most, most, limit_congr width maximum, capacity, capacityNext]
  have limited : pool.enlarged ≤ pool.limit := Nat.min_le_right _ _
  split
  · rw [Nat.max_eq_left limited, Nat.max_eq_left (by omega)]
  · rfl

/-- At the limit allocating is refused. Below it a record is added, unless the store takes its memory in
pieces that are too large. -/
theorem allocate_plain {pool : SlotPool α} (sound : pool.Sound) :
    (pool.limit ≤ pool.len ∧ pool.len = pool.capacity ∧
      allocate pool = .error (.refused (.outOfCapacity pool.limit)) pool) ∨
    (¬PlainSlotStore.Regular pool.store ∧ ∃ fault, allocate pool = .error (.fault fault) pool) ∨
    (¬(pool.limit ≤ pool.len ∧ pool.len = pool.capacity) ∧
      ∃ store, allocate pool = .ok pool.len { pool with store, len := pool.len + 1 } ∧
        Continues pool { pool with store, len := pool.len + 1 } ∧
        SlotStore.size store = pool.capacityNext ∧
        ({ pool with store, len := pool.len + 1 } : SlotPool α).records =
          pool.records ++ [List.replicate pool.width Cell.blank]) := by
  rcases allocate_spec sound with refused | ⟨_, _, fault, stuck, failed⟩ |
    ⟨store, whence, taken, soundTaken, wide, records⟩
  · exact Or.inl refused
  · refine Or.inr (Or.inl ⟨?_, fault, failed⟩)
    intro regular
    obtain ⟨next, resized⟩ := PlainSlotStore.resize_ok sound.store regular pool.enlarged_fits
    rw [resized] at stuck
    exact nomatch stuck
  · have below : ¬(pool.limit ≤ pool.len ∧ pool.len = pool.capacity) := by
      rcases whence with ⟨free, _⟩ | ⟨full, room, _⟩
      · omega
      · omega
    have size : SlotStore.size ({ pool with store } : SlotPool α).take.store = pool.capacityNext := by
      rw [take, capacityNext, LawfulSlotStore.size_write]
      rcases whence with ⟨free, rfl⟩ | ⟨full, _, resized⟩
      · rw [if_neg (Nat.ne_of_lt free)]
        rfl
      · rw [if_pos full]
        exact (LawfulSlotStore.sound_resize sound.store resized).2.1
    refine Or.inr (Or.inr
      ⟨below, _, taken, ⟨soundTaken, wide, rfl, most_grown wide rfl size below, ?_⟩, size, records⟩)
    intro regular
    apply PlainSlotStore.regular_write
    rcases whence with ⟨_, rfl⟩ | ⟨_, _, resized⟩
    · exact regular
    · exact PlainSlotStore.regular_resize regular resized

theorem free_plain {pool : SlotPool α} (sound : pool.Sound) {slot : Nat} (inside : slot < pool.len) :
    ∃ store, free slot pool = .ok (relocation pool.len slot) (({ pool with store } : SlotPool α).shrink slot) ∧
      Continues pool (({ pool with store } : SlotPool α).shrink slot) ∧
      SlotStore.size store = pool.capacity ∧
      (({ pool with store } : SlotPool α).shrink slot).records = closeGap pool.records slot := by
  obtain ⟨store, _, rfl, freed, soundNext, wide, records⟩ := free_ok sound inside
  have kept : SlotStore.size store = pool.capacity ∧
      (PlainSlotStore.Regular pool.store → PlainSlotStore.Regular store) := by
    have inStore := Nat.lt_of_lt_of_le inside sound.room
    have lastInStore : pool.len - 1 < SlotStore.size pool.store :=
      Nat.lt_of_lt_of_le (by omega) sound.room
    unfold free at freed
    rw [if_pos inside] at freed
    by_cases last : slot = pool.len - 1
    · simp only [if_pos last] at freed
      obtain ⟨_, same⟩ := EStateM.Result.ok.inj freed
      obtain rfl : pool.store = store := congrArg SlotPool.store same
      exact ⟨rfl, id⟩
    · simp only [if_neg last] at freed
      obtain ⟨swapped, run, _, size, _⟩ := SlotStore.swap_ok sound.store inStore lastInStore last
      simp only [run] at freed
      obtain ⟨_, same⟩ := EStateM.Result.ok.inj freed
      obtain rfl : swapped = store := congrArg SlotPool.store same
      exact ⟨size, fun regular => SlotStore.regular_swap sound.store regular inStore lastInStore run⟩
  have limit : (({ pool with store } : SlotPool α).shrink slot).limit = pool.limit := limit_congr wide rfl
  have most := congrArg₂ max limit kept.1
  exact ⟨store, freed, ⟨soundNext, wide, rfl, most, kept.2⟩, kept.1, records⟩

theorem clear_plain {pool : SlotPool α} (sound : pool.Sound) : Continues pool pool.clear :=
  ⟨(clear_spec sound).1, rfl, rfl, rfl, id⟩

theorem put_plain {pool : SlotPool α} (sound : pool.Sound) {slot : Nat} {row : List γ}
    (inside : slot < pool.len) (long : row.length = pool.width) : Continues pool (pool.put slot row) := by
  obtain ⟨soundPut, wide, _⟩ := put_spec sound inside long
  have limit : (pool.put slot row).limit = pool.limit := limit_congr wide rfl
  have most := congrArg₂ max limit (LawfulSlotStore.size_write pool.store slot row)
  exact ⟨soundPut, wide, rfl, most, PlainSlotStore.regular_write slot row⟩

end

end SlotPool

end SpatialStore
