import SpatialStore.Proofs.Slots.Rows
import SpatialStore.Proofs.Slots.Table

/-! Flat and chunked stores cannot be told apart, for each does what a list of rows does. Pools over them
go through the same states, and refuse the same requests. -/

namespace SpatialStore

namespace SlotStore

variable {α β : Type} [SlotStore α UInt8] [SlotStore β UInt8]

structure Alike (first : α) (second : β) : Prop where
  width : SlotStore.width first = SlotStore.width second
  size : SlotStore.size first = SlotStore.size second
  reads : ∀ slot, (read first slot).toOption = (read second slot).toOption

def Spares (act : Act) (store : α) : Prop :=
  ∀ fault, (perform act).outcome store = .error fault → Alike ((perform act).left store) store

theorem Shows.alike [LawfulSlotStore α] [PlainSlotStore α] [LawfulSlotStore β] [PlainSlotStore β] {first : α}
    {second : β} {width : Nat} {rows : List Bytes} (firstShows : Shows first width rows)
    (secondShows : Shows second width rows) : Alike first second where
  width := firstShows.width_eq.trans secondShows.width_eq.symm
  size := firstShows.size_eq.trans secondShows.size_eq.symm
  reads slot := (firstShows.toOption_read slot).trans (secondShows.toOption_read slot).symm

theorem Shows.spares [LawfulSlotStore α] [PlainSlotStore α] {store : α} {width : Nat} {rows : List Bytes}
    (shows : Shows store width rows) {act : Act} (fits : act.Fits width) : Spares act store :=
  fun _ failed => (shows_of_failed shows fits failed).alike shows

end SlotStore

namespace SlotPool

variable {α β γ : Type} [SlotStore α γ] [SlotStore β γ]

/-- Two pools that differ in how they keep their slots at most. -/
structure Alike (first : SlotPool α) (second : SlotPool β) : Prop where
  len : first.len = second.len
  capacity : first.capacity = second.capacity
  width : first.width = second.width
  maximum : first.maximum = second.maximum
  modifications : first.modifications = second.modifications
  stamps : first.stamps = second.stamps
  clearedAt : first.clearedAt = second.clearedAt
  records : first.records = second.records

/-- A pool of slots of that width which never has to stop for want of memory. -/
structure Good [Cell γ] [LawfulSlotStore α] [PlainSlotStore α] (width : Nat) (pool : SlotPool α) : Prop where
  sound : pool.Sound
  regular : PlainSlotStore.Regular pool.store
  wide : pool.width = width

theorem Good.left [Cell γ] [LawfulSlotStore α] [PlainSlotStore α] {width : Nat} {pool : SlotPool α}
    (good : Good width pool) (act : Act γ width) : Good width ((perform act).left pool) := by
  obtain ⟨sound, regular, rfl⟩ := good
  have continues := (perform_advances sound (fun _ : True => regular) act).continues
  exact ⟨continues.sound, continues.regular regular, continues.width⟩

namespace Alike

variable {first : SlotPool α} {second : SlotPool β}

theorem limit (alike : Alike first second) : first.limit = second.limit := by
  have widest : SlotStore.maxSize first.store = SlotStore.maxSize second.store :=
    congrArg (Size.largestBuffer / ·) alike.width
  rw [SlotPool.limit, SlotPool.limit, alike.maximum, widest]

theorem capacityNext (alike : Alike first second) : first.capacityNext = second.capacityNext := by
  rw [SlotPool.capacityNext, SlotPool.capacityNext, enlarged, enlarged, alike.limit, alike.capacity, alike.len]

variable [Cell γ]

theorem of_ok {width : Nat} {act : Act γ width} {answer : Answer γ} {firstNext : SlotPool α}
    {secondNext : SlotPool β} (firstRun : perform act first = .ok answer firstNext)
    (secondRun : perform act second = .ok answer secondNext) (alike : Alike firstNext secondNext) :
    (perform act).outcome first = (perform act).outcome second ∧
      Alike ((perform act).left first) ((perform act).left second) := by
  rw [Step.outcome_of_ok firstRun, Step.outcome_of_ok secondRun, Step.left_of_ok firstRun,
    Step.left_of_ok secondRun]
  exact ⟨rfl, alike⟩

theorem of_error {width : Nat} {act : Act γ width} {failure : PoolFailure} {firstNext : SlotPool α}
    {secondNext : SlotPool β} (firstRun : perform act first = .error failure firstNext)
    (secondRun : perform act second = .error failure secondNext) (alike : Alike firstNext secondNext) :
    (perform act).outcome first = (perform act).outcome second ∧
      Alike ((perform act).left first) ((perform act).left second) := by
  rw [Step.outcome_of_error firstRun, Step.outcome_of_error secondRun, Step.left_of_error firstRun,
    Step.left_of_error secondRun]
  exact ⟨rfl, alike⟩

variable [LawfulSlotStore α] [LawfulSlotStore β]

omit [Cell γ] in
theorem put (alike : Alike first second) (firstSound : first.Sound) (secondSound : second.Sound) {slot : Nat}
    {row : List γ} (inside : slot < first.len) (long : row.length = first.width) :
    Alike (first.put slot row) (second.put slot row) := by
  have secondInside : slot < second.len := alike.len ▸ inside
  have secondLong : row.length = second.width := long.trans alike.width
  obtain ⟨_, firstWide, firstRecords⟩ := put_spec firstSound inside long
  obtain ⟨_, secondWide, secondRecords⟩ := put_spec secondSound secondInside secondLong
  refine ⟨alike.len, ?_, ?_, alike.maximum, alike.modifications, alike.stamps, alike.clearedAt, ?_⟩
  · exact (LawfulSlotStore.size_write ..).trans (alike.capacity.trans (LawfulSlotStore.size_write ..).symm)
  · rw [firstWide, secondWide, alike.width]
  · rw [firstRecords, secondRecords, alike.records]

variable [PlainSlotStore α] [PlainSlotStore β]

theorem allocate {width : Nat} (alike : Alike first second) (firstGood : Good width first)
    (secondGood : Good width second) :
    (∃ failure, allocate first = .error failure first ∧ allocate second = .error failure second) ∨
    (∃ firstNext secondNext, allocate first = .ok first.len firstNext ∧
      allocate second = .ok second.len secondNext ∧ Alike firstNext secondNext) := by
  have len := alike.len
  have limit := alike.limit
  have capacity := alike.capacity
  rcases allocate_plain firstGood.sound with ⟨firstLimit, firstFull, firstRefused⟩ | ⟨irregular, _⟩ |
    ⟨firstBelow, firstStore, firstTaken, firstContinues, firstSize, firstRecords⟩
  · rcases allocate_plain secondGood.sound with ⟨_, _, secondRefused⟩ | ⟨irregular, _⟩ | ⟨secondBelow, _⟩
    · rw [← limit] at secondRefused
      exact Or.inl ⟨_, firstRefused, secondRefused⟩
    · exact absurd secondGood.regular irregular
    · exact absurd ⟨by omega, by omega⟩ secondBelow
  · exact absurd firstGood.regular irregular
  · rcases allocate_plain secondGood.sound with ⟨secondLimit, secondFull, _⟩ | ⟨irregular, _⟩ |
      ⟨_, secondStore, secondTaken, secondContinues, secondSize, secondRecords⟩
    · exact absurd ⟨by omega, by omega⟩ firstBelow
    · exact absurd secondGood.regular irregular
    · refine Or.inr ⟨_, _, firstTaken, secondTaken, congrArg (· + 1) len, ?_, ?_, alike.maximum,
        alike.modifications, alike.stamps, alike.clearedAt, ?_⟩
      · exact firstSize.trans (alike.capacityNext.trans secondSize.symm)
      · rw [firstContinues.width, secondContinues.width, alike.width]
      · rw [firstRecords, secondRecords, alike.records, alike.width]

theorem free (alike : Alike first second) (firstSound : first.Sound) (secondSound : second.Sound) {slot : Nat}
    (inside : slot < first.len) :
    ∃ firstNext secondNext, free slot first = .ok (relocation first.len slot) firstNext ∧
      free slot second = .ok (relocation second.len slot) secondNext ∧ Alike firstNext secondNext := by
  obtain ⟨firstStore, firstFreed, firstContinues, firstSize, firstRecords⟩ := free_plain firstSound inside
  obtain ⟨secondStore, secondFreed, secondContinues, secondSize, secondRecords⟩ :=
    free_plain secondSound (show slot < second.len from alike.len ▸ inside)
  refine ⟨_, _, firstFreed, secondFreed, congrArg (· - 1) alike.len, ?_, ?_, alike.maximum,
    congrArg (· + 1) alike.modifications, ?_, alike.clearedAt, ?_⟩
  · exact firstSize.trans (alike.capacity.trans secondSize.symm)
  · rw [firstContinues.width, secondContinues.width, alike.width]
  · simp only [shrink, alike.stamps, alike.modifications, alike.len]
  · rw [firstRecords, secondRecords, alike.records]

theorem perform {width : Nat} (alike : Alike first second) (firstGood : Good width first)
    (secondGood : Good width second) (act : Act γ width) :
    (perform act).outcome first = (perform act).outcome second ∧
      Alike ((SlotPool.perform act).left first) ((SlotPool.perform act).left second) := by
  cases act with
  | allocate =>
    rcases alike.allocate firstGood secondGood with ⟨_, firstRefused, secondRefused⟩ |
      ⟨_, _, firstTaken, secondTaken, alikeNext⟩
    · exact of_error (Step.bind_of_error firstRefused) (Step.bind_of_error secondRefused) alike
    · refine of_ok (Step.bind_of_ok firstTaken) ?_ alikeNext
      rw [alike.len]
      exact Step.bind_of_ok secondTaken
  | free slot =>
    by_cases inside : slot < first.len
    · obtain ⟨_, _, firstFreed, secondFreed, alikeNext⟩ :=
        alike.free firstGood.sound secondGood.sound inside
      refine of_ok (Step.bind_of_ok firstFreed) ?_ alikeNext
      rw [alike.len]
      exact Step.bind_of_ok secondFreed
    · have outside := Nat.le_of_not_lt inside
      have secondRefused := free_refused (alike.len ▸ outside : second.len ≤ slot)
      rw [← alike.len] at secondRefused
      exact of_error (Step.bind_of_error (free_refused outside)) (Step.bind_of_error secondRefused) alike
  | read slot =>
    have firstRead := read_eq firstGood.sound slot
    have secondRead := read_eq secondGood.sound slot
    rw [← alike.records, ← alike.len] at secondRead
    cases here : first.records[slot]? with
    | some row =>
      rw [here] at firstRead secondRead
      exact of_ok (Step.bind_of_ok (Step.read_of_ok (fun pool : SlotPool α => pool.read slot) firstRead))
        (Step.bind_of_ok (Step.read_of_ok (fun pool : SlotPool β => pool.read slot) secondRead)) alike
    | none =>
      rw [here] at firstRead secondRead
      exact of_error
        (Step.bind_of_error (Step.read_of_error (fun pool : SlotPool α => pool.read slot) firstRead))
        (Step.bind_of_error (Step.read_of_error (fun pool : SlotPool β => pool.read slot) secondRead)) alike
  | write slot change =>
    cases here : first.records[slot]? with
    | some row =>
      have inside := (List.getElem?_eq_some_iff.mp here).1
      rw [length_records] at inside
      have rowLong := (length_of_getElem?_records firstGood.sound here).trans firstGood.wide
      have long := (change.keeps_length row rowLong).trans firstGood.wide.symm
      have alikeNext := alike.put firstGood.sound secondGood.sound inside long
      have firstEdited := edit_eq firstGood.sound here change.step
      have secondEdited := edit_eq secondGood.sound (alike.records ▸ here) change.step
      cases run : change.step row with
      | ok answer next =>
        rw [run] at firstEdited secondEdited
        rw [Step.left_of_ok run] at alikeNext
        exact of_ok (Step.bind_of_ok firstEdited) (Step.bind_of_ok secondEdited) alikeNext
      | error fault next =>
        rw [run] at firstEdited secondEdited
        rw [Step.left_of_error run] at alikeNext
        exact of_error (Step.bind_of_error firstEdited) (Step.bind_of_error secondEdited) alikeNext
    | none =>
      have outside := List.getElem?_eq_none_iff.mp here
      rw [length_records] at outside
      have secondRefused := edit_refused (alike.len ▸ outside : second.len ≤ slot) change.step
      rw [← alike.len] at secondRefused
      exact of_error (Step.bind_of_error (edit_refused outside change.step))
        (Step.bind_of_error secondRefused) alike
  | clear =>
    have firstRun : SlotPool.perform (.clear : Act γ width) first = .ok .cleared first.clear := rfl
    have secondRun : SlotPool.perform (.clear : Act γ width) second = .ok .cleared second.clear := rfl
    refine of_ok firstRun secondRun ?_
    exact ⟨rfl, alike.capacity, alike.width, alike.maximum, congrArg (· + 1) alike.modifications,
      alike.stamps, congrArg (· + 1) alike.modifications, rfl⟩

end Alike

variable [Cell γ] [LawfulSlotStore α] [LawfulSlotStore β] [PlainSlotStore α] [PlainSlotStore β]

theorem run_alike {width : Nat} (acts : List (Act γ width)) {first : SlotPool α} {second : SlotPool β}
    (firstGood : Good width first) (secondGood : Good width second) (alike : Alike first second) :
    Step.outcomes perform acts first = Step.outcomes perform acts second ∧
      Alike (Step.leftAfter perform acts first) (Step.leftAfter perform acts second) ∧
      (Step.leftAfter perform acts first).contents = (Step.leftAfter perform acts second).contents := by
  induction acts generalizing first second with
  | nil =>
    refine ⟨rfl, alike, ?_⟩
    rw [Step.leftAfter, Step.leftAfter, contents_eq firstGood.sound, contents_eq secondGood.sound,
      alike.records]
  | cons act rest ih =>
    obtain ⟨sameOutcome, alikeNext⟩ := alike.perform firstGood secondGood act
    obtain ⟨sameRest, last⟩ := ih (firstGood.left act) (secondGood.left act) alikeNext
    refine ⟨?_, last⟩
    rw [Step.outcomes, Step.outcomes, sameOutcome, sameRest]

theorem make_of_stored {width : Nat} {sizing : Sizing} (valid : sizing.validate = .ok ()) (wide : 0 < width)
    {store : α} (stored : SlotStore.make sizing.initialCapacity width sizing.chunkSlots = .ok store)
    (regular : PlainSlotStore.Regular store) :
    make width sizing = .ok { store, maximum := sizing.maxCapacity } ∧
      Good width ({ store, maximum := sizing.maxCapacity } : SlotPool α) ∧
      SlotStore.size store = sizing.initialCapacity := by
  obtain ⟨sound, size, widthEq⟩ := LawfulSlotStore.sound_make stored
  refine ⟨?_, ⟨⟨sound, Nat.zero_le _⟩, regular, widthEq⟩, size⟩
  rw [make, valid]
  simp only [if_neg (Nat.ne_of_gt wide), stored]

theorem make_good (α : Type) [SlotStore α γ] [LawfulSlotStore α] [PlainSlotStore α] {width : Nat}
    {sizing : Sizing} (valid : sizing.validate = .ok ()) (wide : 0 < width)
    (chunk : sizing.chunkSlots * width ≤ Size.largestBuffer)
    (fits : sizing.initialCapacity * width ≤ Size.largestBuffer) :
    ∃ store : α, make width sizing = .ok { store, maximum := sizing.maxCapacity } ∧
      Good width ({ store, maximum := sizing.maxCapacity } : SlotPool α) ∧
      SlotStore.size store = sizing.initialCapacity := by
  obtain ⟨store, stored⟩ := PlainSlotStore.make_ok (α := α) sizing.initialCapacity wide
    (Sizing.validate_eq_ok_iff.mp valid).2.1 chunk fits
  exact ⟨store, make_of_stored valid wide stored (PlainSlotStore.regular_make chunk stored)⟩

/-- New pools are refused for the same reasons, and are alike if they are not. -/
theorem make_alike (α β : Type) [SlotStore α γ] [SlotStore β γ] [LawfulSlotStore α] [LawfulSlotStore β]
    [PlainSlotStore α] [PlainSlotStore β] {width : Nat} {sizing : Sizing} (wide : 0 < width)
    (chunk : sizing.chunkSlots * width ≤ Size.largestBuffer)
    (fits : sizing.initialCapacity * width ≤ Size.largestBuffer) :
    (∃ failure, (make width sizing : Except PoolFailure (SlotPool α)) = .error failure ∧
      (make width sizing : Except PoolFailure (SlotPool β)) = .error failure) ∨
    (∃ (first : SlotPool α) (second : SlotPool β), make width sizing = .ok first ∧
      make width sizing = .ok second ∧ Good width first ∧ Good width second ∧ Alike first second) := by
  cases valid : sizing.validate with
  | error reason =>
    refine Or.inl ⟨.refused reason, ?_, ?_⟩
    · rw [make, valid]
    · rw [make, valid]
  | ok _ =>
    obtain ⟨firstStore, firstMade, firstGood, firstSize⟩ := make_good α valid wide chunk fits
    obtain ⟨secondStore, secondMade, secondGood, secondSize⟩ := make_good β valid wide chunk fits
    refine Or.inr ⟨_, _, firstMade, secondMade, firstGood, secondGood, rfl, ?_, ?_, rfl, rfl, rfl, rfl, rfl⟩
    · exact firstSize.trans secondSize.symm
    · exact firstGood.wide.trans secondGood.wide.symm

end SlotPool

namespace SlotStore

/-- Whatever is done with a flat and with a chunked store of as many slots, both answer the same or both fail,
and both have the same slots afterwards, which no failure changes. So do pools over them, and refuse the same
for the same reasons. -/
theorem flat_alike_chunked {width chunkSlots : Nat} (wide : 0 < width) (some : 0 < chunkSlots)
    (chunk : chunkSlots * width ≤ Size.largestBuffer) :
    (∀ count, count * width ≤ Size.largestBuffer →
      ∃ (flat : FlatSlots UInt8) (chunked : ChunkedSlots UInt8),
        make count width chunkSlots = .ok flat ∧ make count width chunkSlots = .ok chunked ∧
        ∀ acts : List Act, (∀ act ∈ acts, act.Fits width) →
          answers perform acts flat = answers perform acts chunked ∧
            Alike (Step.leftAfter perform acts flat) (Step.leftAfter perform acts chunked) ∧
            ∀ act : Act, act.Fits width → Spares act (Step.leftAfter perform acts flat) ∧
              Spares act (Step.leftAfter perform acts chunked)) ∧
    (∀ sizing : Sizing, sizing.chunkSlots = chunkSlots →
      sizing.initialCapacity * width ≤ Size.largestBuffer →
      (∃ failure, (SlotPool.make width sizing : Except PoolFailure (SlotPool (FlatSlots UInt8))) =
          .error failure ∧
        (SlotPool.make width sizing : Except PoolFailure (SlotPool (ChunkedSlots UInt8))) =
          .error failure) ∨
      (∃ (flat : SlotPool (FlatSlots UInt8)) (chunked : SlotPool (ChunkedSlots UInt8)),
        SlotPool.make width sizing = .ok flat ∧ SlotPool.make width sizing = .ok chunked ∧
        ∀ acts : List (SlotPool.Act UInt8 width),
          Step.outcomes SlotPool.perform acts flat = Step.outcomes SlotPool.perform acts chunked ∧
            SlotPool.Alike (Step.leftAfter SlotPool.perform acts flat)
              (Step.leftAfter SlotPool.perform acts chunked) ∧
            (Step.leftAfter SlotPool.perform acts flat).contents =
              (Step.leftAfter SlotPool.perform acts chunked).contents)) := by
  constructor
  · intro count fits
    obtain ⟨flat, flatMade, flatShows⟩ := shows_make (FlatSlots UInt8) wide some chunk fits
    obtain ⟨chunked, chunkedMade, chunkedShows⟩ := shows_make (ChunkedSlots UInt8) wide some chunk fits
    refine ⟨flat, chunked, flatMade, chunkedMade, ?_⟩
    intro acts fit
    obtain ⟨flatAnswers, flatLast⟩ := run_shows acts fit flatShows
    obtain ⟨chunkedAnswers, chunkedLast⟩ := run_shows acts fit chunkedShows
    refine ⟨flatAnswers.trans chunkedAnswers.symm, flatLast.alike chunkedLast, ?_⟩
    intro act fits
    exact ⟨flatLast.spares fits, chunkedLast.spares fits⟩
  · intro sizing same fits
    subst same
    rcases SlotPool.make_alike (FlatSlots UInt8) (ChunkedSlots UInt8) wide chunk fits with refused |
      ⟨flat, chunked, flatMade, chunkedMade, flatGood, chunkedGood, alike⟩
    · exact Or.inl refused
    · refine Or.inr ⟨flat, chunked, flatMade, chunkedMade, ?_⟩
      intro acts
      exact SlotPool.run_alike acts flatGood chunkedGood alike

/-- Slots exchanged and copied from chunk to chunk, and a slot that comes back in the chunk that was kept. -/
def regrow : List Act :=
  [.put 1 1 .byte 8, .put 2 0 .byte 9, .put 2 2 .byte 7, .swap 2 0, .copy 1 2, .read 2, .read 3, .swap 5 5,
    .swap 0 5, .resize 1, .resize 4, .read 0, .read 1, .zero 0, .copy 3 4, .copy 0 3, .read 3]

theorem regrow_alike :
    (∃ (flat : FlatSlots UInt8) (chunked : ChunkedSlots UInt8),
      make 3 2 2 = .ok flat ∧ make 3 2 2 = .ok chunked ∧
      answers perform regrow chunked =
        [some none, some none, none, some none, some none, some (some [0, 8]), none, some none, none,
          some none, some none, some (some [9, 0]), some (some [0, 0]), some none, none, some none,
          some (some [0, 0])] ∧
      answers perform regrow flat = answers perform regrow chunked ∧
      Alike (Step.leftAfter perform regrow flat) (Step.leftAfter perform regrow chunked)) ∧
    (∃ (flat : SlotPool (FlatSlots UInt8)) (chunked : SlotPool (ChunkedSlots UInt8)),
      SlotPool.make 2 { initialCapacity := 1, chunkSlots := 2 } = .ok flat ∧
      SlotPool.make 2 { initialCapacity := 1, chunkSlots := 2 } = .ok chunked ∧
      Step.outcomes SlotPool.perform SlotPool.reuse flat =
        Step.outcomes SlotPool.perform SlotPool.reuse chunked ∧
      SlotPool.Alike (Step.leftAfter SlotPool.perform SlotPool.reuse flat)
        (Step.leftAfter SlotPool.perform SlotPool.reuse chunked) ∧
      (Step.leftAfter SlotPool.perform SlotPool.reuse chunked).contents = .ok [[0, 0], [0, 0]] ∧
      (Step.leftAfter SlotPool.perform SlotPool.reuse flat).contents =
        (Step.leftAfter SlotPool.perform SlotPool.reuse chunked).contents) := by
  have wide : 0 < 2 := by decide
  have chunk : 2 * 2 ≤ Size.largestBuffer := by decide
  obtain ⟨storesAlike, poolsAlike⟩ := flat_alike_chunked wide wide chunk
  constructor
  · obtain ⟨flat, chunked, flatMade, chunkedMade, runs⟩ := storesAlike 3 (by decide)
    have fits : ∀ act ∈ regrow, act.Fits 2 := by
      simp [regrow, Act.Fits, Size.largestBuffer]
    obtain ⟨same, alike, _⟩ := runs regrow fits
    refine ⟨flat, chunked, flatMade, chunkedMade, ?_, same, alike⟩
    obtain rfl := Except.ok.inj chunkedMade
    rfl
  · rcases poolsAlike { initialCapacity := 1, chunkSlots := 2 } rfl (by decide) with ⟨failure, refused, _⟩ |
      ⟨flat, chunked, flatMade, chunkedMade, runs⟩
    · exact nomatch refused
    · obtain ⟨same, alike, contents⟩ := runs SlotPool.reuse
      refine ⟨flat, chunked, flatMade, chunkedMade, same, alike, ?_, contents⟩
      obtain rfl := Except.ok.inj chunkedMade
      rfl

end SlotStore

end SpatialStore
