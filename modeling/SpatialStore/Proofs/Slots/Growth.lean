import SpatialStore.Proofs.Slots.Alike

/-! How far a pool grows. It has a limit from its sizing and from the size of the largest buffer; on the way there
it doubles, and at the limit it turns down every request for a slot and stays as it is. -/

namespace SpatialStore

def Sizing.most (sizing : Sizing) (width : Nat) : Nat :=
  match sizing.maxCapacity with
  | none => Size.largestBuffer / width
  | some maximum => Nat.min maximum (Size.largestBuffer / width)

theorem Sizing.initialCapacity_le_most {sizing : Sizing} (valid : sizing.validate = .ok ()) {width : Nat}
    (wide : 0 < width) (fits : sizing.initialCapacity * width ≤ Size.largestBuffer) :
    sizing.initialCapacity ≤ sizing.most width := by
  have stored : sizing.initialCapacity ≤ Size.largestBuffer / width :=
    (Nat.le_div_iff_mul_le wide).mpr fits
  unfold most
  split
  next => exact stored
  next maximum limited =>
    exact Nat.le_min.mpr ⟨(validate_eq_ok_iff.mp valid).2.2 maximum limited, stored⟩

namespace SlotPool

variable {α γ : Type} [SlotStore α γ] [LawfulSlotStore α] [Cell γ] [PlainSlotStore α] {width limit : Nat}

/-- A pool that is within its limit, and never has to stop for want of memory. -/
structure Within (width limit : Nat) (pool : SlotPool α) : Prop where
  good : Good width pool
  limited : pool.limit = limit
  below : pool.capacity ≤ limit

/-- A pool that grows up to a limit, whatever is done with it, and is refused slots there and only there. -/
structure GrowsTo (width limit : Nat) (pool : SlotPool α) : Prop where
  len_le : pool.len ≤ pool.capacity
  capacity_le : pool.capacity ≤ limit
  never_smaller : ∀ acts : List (Act γ width), pool.capacity ≤ (Step.leftAfter perform acts pool).capacity
  fails_iff : (∃ failure next, allocate pool = .error failure next) ↔ pool.len = limit
  refusal : ∀ failure next, allocate pool = .error failure next →
    failure = .refused (.outOfCapacity limit) ∧ next = pool
  doubles : ∀ slot next, allocate pool = .ok slot next → pool.len = pool.capacity →
    next.capacity = Nat.min (Nat.max (2 * pool.capacity) (pool.capacity + 1)) limit

namespace Within

variable {pool : SlotPool α}

theorem left (within : Within width limit pool) (act : Act γ width) :
    Within width limit ((perform act).left pool) := by
  have goodNext := within.good.left act
  obtain ⟨⟨sound, regular, rfl⟩, rfl, below⟩ := within
  have continues := (perform_advances sound (fun _ : True => regular) act).continues
  refine ⟨goodNext, continues.limit, ?_⟩
  -- Every act keeps the most slots there can be, and below the limit that is the limit.
  calc ((perform act).left pool).capacity
    _ ≤ ((perform act).left pool).most := Nat.le_max_right _ _
    _ = pool.most := continues.most
    _ = pool.limit := Nat.max_eq_left below

/-- Below the limit a slot is taken, and the pool grows if it is full. -/
theorem allocate_cases (within : Within width limit pool) :
    (pool.len = limit ∧ allocate pool = .error (.refused (.outOfCapacity limit)) pool) ∨
    (pool.len ≠ limit ∧ ∃ next, allocate pool = .ok pool.len next ∧ next.capacity = pool.capacityNext) := by
  obtain ⟨⟨sound, regular, rfl⟩, rfl, below⟩ := within
  have room := sound.room
  rcases allocate_plain sound with ⟨reached, full, refused⟩ | ⟨irregular, _⟩ |
    ⟨free, store, taken, _, size, _⟩
  · exact Or.inl ⟨by omega, refused⟩
  · exact absurd regular irregular
  · refine Or.inr ⟨?_, _, taken, size⟩
    intro full
    exact free ⟨Nat.le_of_eq full.symm, by omega⟩

theorem capacity_le_capacityNext (within : Within width limit pool) (free : pool.len ≠ limit) :
    pool.capacity ≤ pool.capacityNext := by
  unfold capacityNext
  split
  next full =>
    have below := within.below
    have limited := within.limited
    exact Nat.le_of_lt (lt_enlarged (by omega))
  next => exact Nat.le_refl _

theorem capacity_le_left (within : Within width limit pool) (act : Act γ width) :
    pool.capacity ≤ ((perform act).left pool).capacity := by
  have sound := within.good.sound
  cases act with
  | allocate =>
    rw [perform, Step.left_bind_pure]
    rcases within.allocate_cases with ⟨_, refused⟩ | ⟨free, next, taken, size⟩
    · exact Nat.le_of_eq (congrArg capacity (Step.left_of_error refused)).symm
    · rw [Step.left_of_ok taken, size]
      exact within.capacity_le_capacityNext free
  | free slot =>
    rw [perform, Step.left_bind_pure]
    by_cases inside : slot < pool.len
    · obtain ⟨store, freed, _, size, _⟩ := free_plain sound inside
      rw [Step.left_of_ok freed]
      exact Nat.le_of_eq size.symm
    · have refused := free_refused (Nat.le_of_not_lt inside)
      exact Nat.le_of_eq (congrArg capacity (Step.left_of_error refused)).symm
  | read slot =>
    rw [perform, Step.left_bind_pure]
    exact Nat.le_of_eq (congrArg capacity (Step.left_read _ _)).symm
  | write slot change =>
    rw [perform, Step.left_bind_pure]
    cases here : pool.records[slot]? with
    | some row =>
      rw [left_edit sound here]
      exact Nat.le_of_eq (LawfulSlotStore.size_write ..).symm
    | none =>
      have outside := List.getElem?_eq_none_iff.mp here
      rw [length_records] at outside
      have refused := edit_refused outside change.step
      exact Nat.le_of_eq (congrArg capacity (Step.left_of_error refused)).symm
  | clear => exact Nat.le_refl _

theorem run (within : Within width limit pool) (acts : List (Act γ width)) :
    Within width limit (Step.leftAfter perform acts pool) ∧
      pool.capacity ≤ (Step.leftAfter perform acts pool).capacity := by
  induction acts generalizing pool with
  | nil => exact ⟨within, Nat.le_refl _⟩
  | cons act rest ih =>
    obtain ⟨last, longer⟩ := ih (within.left act)
    exact ⟨last, Nat.le_trans (within.capacity_le_left act) longer⟩

theorem growsTo (within : Within width limit pool) : GrowsTo width limit pool where
  len_le := within.good.sound.room
  capacity_le := within.below
  never_smaller acts := (within.run acts).2
  fails_iff := by
    rcases within.allocate_cases with ⟨full, refused⟩ | ⟨free, next, taken, _⟩
    · exact ⟨fun _ => full, fun _ => ⟨_, _, refused⟩⟩
    · refine ⟨?_, fun full => absurd full free⟩
      intro failed
      obtain ⟨failure, next, refused⟩ := failed
      cases taken.symm.trans refused
  refusal failure next failed := by
    rcases within.allocate_cases with ⟨_, refused⟩ | ⟨_, other, taken, _⟩
    · obtain ⟨rfl, rfl⟩ := EStateM.Result.error.inj (refused.symm.trans failed)
      exact ⟨rfl, rfl⟩
    · cases taken.symm.trans failed
  doubles slot next done full := by
    rcases within.allocate_cases with ⟨_, refused⟩ | ⟨_, other, taken, size⟩
    · cases refused.symm.trans done
    · obtain ⟨rfl, rfl⟩ := EStateM.Result.ok.inj (taken.symm.trans done)
      rw [size, capacityNext, if_pos full, enlarged, within.limited]

end Within

theorem within_make {sizing : Sizing} (valid : sizing.validate = .ok ()) (wide : 0 < width)
    (fits : sizing.initialCapacity * width ≤ Size.largestBuffer) {store : α}
    (stored : SlotStore.make sizing.initialCapacity width sizing.chunkSlots = .ok store)
    (regular : PlainSlotStore.Regular store) :
    ∃ start : SlotPool α, make width sizing = .ok start ∧ start.capacity = sizing.initialCapacity ∧
      Within width (sizing.most width) start := by
  obtain ⟨made, good, size⟩ := make_of_stored valid wide stored regular
  refine ⟨_, made, size, good, ?_, ?_⟩
  · have widest : SlotStore.maxSize store = Size.largestBuffer / width :=
      congrArg (Size.largestBuffer / ·) good.wide
    rw [Sizing.most, ← widest]
    rfl
  · exact Nat.le_trans (Nat.le_of_eq size) (Sizing.initialCapacity_le_most valid wide fits)

omit [SlotStore α γ] [LawfulSlotStore α] [PlainSlotStore α] in
/-- A pool of a valid sizing that can be had at all, in either store, grows to its limit after every run. -/
theorem run_grows_to {sizing : Sizing} (valid : sizing.validate = .ok ()) (wide : 0 < width)
    (fits : sizing.initialCapacity * width ≤ Size.largestBuffer) :
    (∃ start : SlotPool (FlatSlots γ), make width sizing = .ok start ∧
      start.capacity = sizing.initialCapacity ∧
      ∀ acts : List (Act γ width), GrowsTo width (sizing.most width) (Step.leftAfter perform acts start)) ∧
    (sizing.chunkSlots * width ≤ Size.largestBuffer →
      ∃ start : SlotPool (ChunkedSlots γ), make width sizing = .ok start ∧
        start.capacity = sizing.initialCapacity ∧
        ∀ acts : List (Act γ width),
          GrowsTo width (sizing.most width) (Step.leftAfter perform acts start)) := by
  constructor
  · obtain ⟨store, stored⟩ : ∃ store : FlatSlots γ,
        SlotStore.make sizing.initialCapacity width sizing.chunkSlots = .ok store :=
      ⟨_, FlatSlots.make_eq_ok wide fits⟩
    obtain ⟨start, made, size, within⟩ :=
      within_make valid wide fits stored (FlatSlots.regular_make stored)
    exact ⟨start, made, size, fun acts => (within.run acts).1.growsTo⟩
  · intro chunk
    have chunks := (Sizing.validate_eq_ok_iff.mp valid).2.1
    obtain ⟨store, stored⟩ :=
      PlainSlotStore.make_ok (α := ChunkedSlots γ) sizing.initialCapacity wide chunks chunk fits
    obtain ⟨start, made, size, within⟩ :=
      within_make valid wide fits stored (PlainSlotStore.regular_make chunk stored)
    exact ⟨start, made, size, fun acts => (within.run acts).1.growsTo⟩

/-- From no slots to five, of which the fifth is not a doubling. -/
theorem empty_grows_to :
    ∃ start : SlotPool (ChunkedSlots UInt8),
      make 2 { initialCapacity := 0, maxCapacity := some 5, chunkSlots := 2 } = .ok start ∧
      (List.range 7).map (fun taken =>
          (Step.leftAfter perform (List.replicate taken (Act.allocate : Act UInt8 2)) start).capacity) =
        [0, 1, 2, 4, 4, 5, 5] ∧
      GrowsTo 2 5
        (Step.leftAfter perform (List.replicate 6 (Act.allocate : Act UInt8 2)) start) ∧
      (perform (Act.allocate : Act UInt8 2)).outcome
          (Step.leftAfter perform (List.replicate 5 (Act.allocate : Act UInt8 2)) start) =
        .error (.refused (.outOfCapacity 5)) := by
  have valid : ({ initialCapacity := 0, maxCapacity := some 5, chunkSlots := 2 } : Sizing).validate = .ok () := rfl
  have wide : 0 < 2 := by decide
  have fits : 0 * 2 ≤ Size.largestBuffer := by decide
  have chunk : 2 * 2 ≤ Size.largestBuffer := by decide
  obtain ⟨start, made, _, grows⟩ := (run_grows_to (γ := UInt8) valid wide fits).2 chunk
  refine ⟨start, made, ?_, grows _, ?_⟩
  all_goals
    obtain rfl := Except.ok.inj made
    rfl

end SlotPool

end SpatialStore
