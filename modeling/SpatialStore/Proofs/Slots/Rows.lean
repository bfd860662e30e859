import SpatialStore.Proofs.Slots.Chunked
import SpatialStore.Proofs.Slots.Flat
import SpatialStore.Proofs.Records.Writes

/-! Runs of a slot pool. Whatever its slots are kept in, and however far that has grown, a pool is a list of
rows of one width: taking a slot appends a blank row, and freeing one closes the gap with the last row. -/

namespace SpatialStore.SlotPool

inductive Act (γ : Type) (width : Nat)
  | allocate
  | free (slot : Nat)
  | read (slot : Nat)
  | write (slot : Nat) (change : Overwrite γ width)
  | clear

inductive Answer (γ : Type)
  | allocated (slot : Nat)
  | freed (relocation : Option Relocation)
  | row (content : List γ)
  | written
  | cleared

abbrev Entry (γ : Type) (width : Nat) := Act γ width × Except PoolFailure (Answer γ)

section

variable {γ : Type} [Cell γ] {width : Nat}

/-- How one entry of a history changes a list of rows, of which there can be `most`. What is refused
changes nothing, and a write that stops half-way leaves what it has written. A pool has to stop for want of
memory only if it is not `regular`. -/
inductive Follows (width limit most : Nat) (regular : Prop) :
    List (List γ) → Entry γ width → List (List γ) → Prop
  | allocated {rows : List (List γ)} (below : rows.length < most) :
      Follows width limit most regular rows (.allocate, .ok (.allocated rows.length))
        (rows ++ [List.replicate width Cell.blank])
  | full {rows : List (List γ)} (atMost : most ≤ rows.length) :
      Follows width limit most regular rows (.allocate, .error (.refused (.outOfCapacity limit))) rows
  | stopped {rows : List (List γ)} {fault : Fault} (irregular : ¬regular) :
      Follows width limit most regular rows (.allocate, .error (.fault fault)) rows
  | freed {rows : List (List γ)} {slot : Nat} (inside : slot < rows.length) :
      Follows width limit most regular rows (.free slot, .ok (.freed (relocation rows.length slot)))
        (closeGap rows slot)
  | freeRefused {rows : List (List γ)} {slot : Nat} (outside : rows.length ≤ slot) :
      Follows width limit most regular rows
        (.free slot, .error (.refused (.invalidHandle (some slot) rows.length))) rows
  | read {rows : List (List γ)} {slot : Nat} {row : List γ} (kept : rows[slot]? = some row) :
      Follows width limit most regular rows (.read slot, .ok (.row row)) rows
  | readRefused {rows : List (List γ)} {slot : Nat} (outside : rows.length ≤ slot) :
      Follows width limit most regular rows
        (.read slot, .error (.refused (.invalidHandle (some slot) rows.length))) rows
  | written {rows : List (List γ)} {slot : Nat} {row : List γ} {change : Overwrite γ width}
      (kept : rows[slot]? = some row) (done : change.step.outcome row = .ok ()) :
      Follows width limit most regular rows (.write slot change, .ok .written)
        (rows.set slot (change.step.left row))
  | writeStopped {rows : List (List γ)} {slot : Nat} {row : List γ} {change : Overwrite γ width}
      {fault : Fault} (kept : rows[slot]? = some row) (stopped : change.step.outcome row = .error fault) :
      Follows width limit most regular rows (.write slot change, .error (.fault fault))
        (rows.set slot (change.step.left row))
  | writeRefused {rows : List (List γ)} {slot : Nat} {change : Overwrite γ width}
      (outside : rows.length ≤ slot) :
      Follows width limit most regular rows
        (.write slot change, .error (.refused (.invalidHandle (some slot) rows.length))) rows
  | cleared {rows : List (List γ)} : Follows width limit most regular rows (.clear, .ok .cleared) []

inductive History (width limit most : Nat) (regular : Prop) :
    List (List γ) → List (Entry γ width) → List (List γ) → Prop
  | done {rows : List (List γ)} : History width limit most regular rows [] rows
  | next {rows middle last : List (List γ)} {entry : Entry γ width} {rest : List (Entry γ width)} :
      Follows width limit most regular rows entry middle → History width limit most regular middle rest last →
      History width limit most regular rows (entry :: rest) last

end

variable {α γ : Type} [SlotStore α γ]

def perform [Cell γ] {width : Nat} : Act γ width → Step PoolFailure (SlotPool α) (Answer γ)
  | .allocate => allocate >>= fun slot => pure (.allocated slot)
  | .free slot => free slot >>= fun relocation => pure (.freed relocation)
  | .read slot => Step.read (fun pool => pool.read slot) >>= fun content => pure (.row content)
  | .write slot change => edit slot change.step >>= fun _ => pure .written
  | .clear => modify clear >>= fun _ => pure .cleared

/-- A pool in which there are just these rows. -/
structure Holds (pool : SlotPool α) (rows : List (List γ)) : Prop where
  len_eq : pool.len = rows.length
  wide : ∀ row ∈ rows, row.length = pool.width
  reads : ∀ slot, pool.read slot = match rows[slot]? with
    | some row => .ok row
    | none => .error (.refused (.invalidHandle (some slot) rows.length))
  contents : pool.contents = .ok rows

variable [LawfulSlotStore α]

theorem holds_records {pool : SlotPool α} (sound : pool.Sound) : pool.Holds pool.records where
  len_eq := pool.length_records.symm
  wide row member := by
    obtain ⟨slot, found⟩ := List.mem_iff_getElem?.mp member
    exact length_of_getElem?_records sound found
  reads slot := by
    have run := read_eq sound slot
    rw [length_records]
    cases here : pool.records[slot]? with
    | some row =>
      rw [here] at run
      exact run
    | none =>
      rw [here] at run
      exact run
  contents := contents_eq sound

variable [Cell γ] [PlainSlotStore α]

structure Advances {width : Nat} (regular : Prop) (pool : SlotPool α) (entry : Entry γ width)
    (next : SlotPool α) : Prop where
  follows : Follows width pool.limit pool.most regular pool.records entry next.records
  continues : Continues pool next

theorem perform_advances {regular : Prop} {pool : SlotPool α} (sound : pool.Sound)
    (kept : regular → PlainSlotStore.Regular pool.store) (act : Act γ pool.width) :
    pool.Advances regular (act, (perform act).outcome pool) ((perform act).left pool) := by
  change (perform act).Ends pool fun outcome next => pool.Advances regular (act, outcome) next
  have same := Continues.refl sound
  have counted : pool.records.length = pool.len := pool.length_records
  cases act with
  | allocate =>
    have room := sound.room
    rcases allocate_plain sound with ⟨atLimit, full, refused⟩ | ⟨irregular, fault, failed⟩ |
      ⟨below, store, taken, continues, _, records⟩
    · refine Step.ends_of_error (Step.bind_of_error refused) ?_
      have atMost : pool.most ≤ pool.records.length := by
        rw [most]
        omega
      exact ⟨.full atMost, same⟩
    · refine Step.ends_of_error (Step.bind_of_error failed) ?_
      exact ⟨.stopped (irregular ∘ kept), same⟩
    · refine Step.ends_of_ok (Step.bind_of_ok taken) ?_
      have below : pool.records.length < pool.most := by
        rw [most]
        omega
      exact ⟨by rw [records, ← counted]; exact .allocated below, continues⟩
  | free slot =>
    by_cases inside : slot < pool.len
    · obtain ⟨store, freed, continues, _, records⟩ := free_plain sound inside
      refine Step.ends_of_ok (Step.bind_of_ok freed) ?_
      rw [← counted] at inside
      exact ⟨by rw [records, ← counted]; exact .freed inside, continues⟩
    · have outside := Nat.le_of_not_lt inside
      refine Step.ends_of_error (Step.bind_of_error (free_refused outside)) ?_
      rw [← counted] at outside ⊢
      exact ⟨.freeRefused outside, same⟩
  | read slot =>
    have found := read_eq sound slot
    cases here : pool.records[slot]? with
    | some row =>
      rw [here] at found
      refine Step.ends_of_ok
        (Step.bind_of_ok (Step.read_of_ok (fun pool : SlotPool α => pool.read slot) found)) ?_
      exact ⟨.read here, same⟩
    | none =>
      rw [here] at found
      refine Step.ends_of_error
        (Step.bind_of_error (Step.read_of_error (fun pool : SlotPool α => pool.read slot) found)) ?_
      rw [← counted]
      exact ⟨.readRefused (List.getElem?_eq_none_iff.mp here), same⟩
  | write slot change =>
    cases here : pool.records[slot]? with
    | some row =>
      have inside := (List.getElem?_eq_some_iff.mp here).1
      rw [counted] at inside
      have long := change.keeps_length row (length_of_getElem?_records sound here)
      have continues := put_plain sound inside long
      obtain ⟨_, _, records⟩ := put_spec sound inside long
      have edited := edit_eq sound here change.step
      cases run : change.step row with
      | ok answer next =>
        rw [run] at edited
        rw [Step.left_of_ok run] at continues records
        refine Step.ends_of_ok (Step.bind_of_ok edited) ?_
        refine ⟨?_, continues⟩
        rw [records, ← Step.left_of_ok run]
        exact .written here (Step.outcome_of_ok run)
      | error fault next =>
        rw [run] at edited
        rw [Step.left_of_error run] at continues records
        refine Step.ends_of_error (Step.bind_of_error edited) ?_
        refine ⟨?_, continues⟩
        rw [records, ← Step.left_of_error run]
        exact .writeStopped here (Step.outcome_of_error run)
    | none =>
      have outside := List.getElem?_eq_none_iff.mp here
      refine Step.ends_of_error (Step.bind_of_error (edit_refused (counted ▸ outside) change.step)) ?_
      rw [← counted]
      exact ⟨.writeRefused outside, same⟩
  | clear =>
    have run : perform (.clear : Act γ pool.width) pool = .ok .cleared pool.clear := rfl
    refine Step.ends_of_ok run ?_
    exact ⟨(clear_spec sound).2 ▸ .cleared, clear_plain sound⟩

theorem run_follows {width limit most : Nat} {regular : Prop} (acts : List (Act γ width))
    {pool : SlotPool α} (sound : pool.Sound) (wide : pool.width = width) (limited : pool.limit = limit)
    (bounded : pool.most = most)
    (kept : regular → PlainSlotStore.Regular pool.store) :
    History width limit most regular pool.records (Step.outcomes perform acts pool)
        (Step.leftAfter perform acts pool).records ∧
      (Step.leftAfter perform acts pool).Sound := by
  induction acts generalizing pool with
  | nil => exact ⟨.done, sound⟩
  | cons act rest ih =>
    subst width limit most
    obtain ⟨follows, continues⟩ := perform_advances sound kept act
    obtain ⟨history, soundLast⟩ :=
      ih continues.sound continues.width continues.limit continues.most (continues.regular ∘ kept)
    exact ⟨.next follows history, soundLast⟩

theorem run_of_make {width : Nat} {sizing : Sizing} {regular : Prop} {start : SlotPool α}
    (made : make width sizing = .ok start) (kept : regular → PlainSlotStore.Regular start.store)
    (acts : List (Act γ width)) :
    ∃ rows, History width start.limit start.most regular [] (Step.outcomes perform acts start) rows ∧
      (Step.leftAfter perform acts start).Holds rows := by
  obtain ⟨sound, wide, none, _⟩ := sound_make made
  have empty : start.records = [] := by
    rw [records, none]
    rfl
  obtain ⟨history, soundLast⟩ := run_follows acts sound wide rfl rfl kept
  rw [empty] at history
  exact ⟨_, history, holds_records soundLast⟩

omit [SlotStore α γ] [LawfulSlotStore α] [PlainSlotStore α] in
/-- Whatever is done with a new pool, in either store, it has done to a list of rows, and these rows are in
it afterwards. -/
theorem run_keeps_rows {width : Nat} {sizing : Sizing} (acts : List (Act γ width)) :
    (∀ start : SlotPool (FlatSlots γ), make width sizing = .ok start →
      ∃ rows, History width start.limit start.most True [] (Step.outcomes perform acts start) rows ∧
        (Step.leftAfter perform acts start).Holds rows) ∧
    (∀ start : SlotPool (ChunkedSlots γ), make width sizing = .ok start →
      ∃ rows, History width start.limit start.most (sizing.chunkSlots * width ≤ Size.largestBuffer) []
          (Step.outcomes perform acts start) rows ∧
        (Step.leftAfter perform acts start).Holds rows) := by
  constructor
  · intro start made
    exact run_of_make made (fun _ => FlatSlots.regular_make (make_cases made).1) acts
  · intro start made
    exact run_of_make made (fun fits => PlainSlotStore.regular_make fits (make_cases made).1) acts

/-- Three rows, of which the middle one is freed, so that its slot gets the last one's cells. The slot that is
then taken again, and the one that is taken after all were freed, are blank. -/
def reuse : List (Act UInt8 2) :=
  [.allocate, .allocate, .allocate, .write 2 (.field 2 ⟨.one .byte, 1⟩ 7), .free 1, .read 1, .free 2,
    .allocate, .read 2, .clear, .allocate, .read 1, .allocate, .read 1]

theorem reuse_keeps_rows :
    ∃ start : SlotPool (ChunkedSlots UInt8), make 2 { initialCapacity := 1, chunkSlots := 2 } = .ok start ∧
      Step.outcomes perform reuse start = reuse.zip
        [.ok (.allocated 0), .ok (.allocated 1), .ok (.allocated 2), .ok .written,
          .ok (.freed (some ⟨2, 1⟩)), .ok (.row [0, 7]), .error (.refused (.invalidHandle (some 2) 2)),
          .ok (.allocated 2), .ok (.row [0, 0]), .ok .cleared, .ok (.allocated 0),
          .error (.refused (.invalidHandle (some 1) 1)), .ok (.allocated 1), .ok (.row [0, 0])] ∧
      ∃ rows, History 2 start.limit start.most (2 * 2 ≤ Size.largestBuffer) []
          (Step.outcomes perform reuse start) rows ∧
        (Step.leftAfter perform reuse start).Holds rows := by
  have made : ∃ start : SlotPool (ChunkedSlots UInt8),
      make 2 { initialCapacity := 1, chunkSlots := 2 } = .ok start := ⟨_, rfl⟩
  obtain ⟨start, made⟩ := made
  refine ⟨start, made, ?_, (run_keeps_rows reuse).2 start made⟩
  obtain rfl := Except.ok.inj made
  rfl

end SpatialStore.SlotPool
