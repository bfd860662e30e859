import SpatialStore.Records.Fields
import SpatialStore.Proofs.Slots.Pool

/-! Record pools as lists of records. A new record holds what the form says, a record keeps its width
whatever is written to it, and an operation that is turned down changes nothing. -/

namespace SpatialStore

/-- A step that writes to a record of `width` cells. It may fail half-way, but it neither lengthens nor
shortens the record. -/
structure Overwrite (γ : Type) (width : Nat) where
  step : Step Fault (List γ) Unit
  keeps_length : ∀ row : List γ, row.length = width → (step.left row).length = width

namespace RecordPool

variable {α γ β : Type}

theorem checkOwner_own {pool : RecordPool α γ} {handle : Handle} (own : handle.poolId = pool.poolId) :
    pool.checkOwner handle = .ok () := if_pos own

theorem checkOwner_foreign {pool : RecordPool α γ} {handle : Handle}
    (foreign : handle.poolId ≠ pool.poolId) :
    pool.checkOwner handle = .error (.refused .foreignHandle) := if_neg foreign

theorem onSlots_ok {step : Step PoolFailure (SlotPool α) β} {pool : RecordPool α γ} {answer : β}
    {next : SlotPool α} (run : step pool.slots = .ok answer next) :
    onSlots step pool = .ok answer { pool with slots := next } := by
  rw [onSlots, Step.within_ok run]

theorem onSlots_error {step : Step PoolFailure (SlotPool α) β} {pool : RecordPool α γ}
    {failure : PoolFailure} {next : SlotPool α} (run : step pool.slots = .error failure next) :
    onSlots step pool = .error failure { pool with slots := next } := by
  rw [onSlots, Step.within_error run]
  rfl

def shrunk (pool : RecordPool α γ) (store : α) (slot : Nat) : RecordPool α γ :=
  { pool with slots := ({ pool.slots with store } : SlotPool α).shrink slot }

theorem len_shrunk (pool : RecordPool α γ) (store : α) (slot : Nat) :
    (pool.shrunk store slot).len = pool.len - 1 := rfl

theorem stamp_shrunk (pool : RecordPool α γ) (store : α) (slot other : Nat) :
    (pool.shrunk store slot).slots.stamp other =
      if other = slot ∨ other = pool.len - 1 then Nat.max (pool.modifications + 1) pool.slots.clearedAt
      else pool.slots.stamp other :=
  SlotPool.stamp_shrink { pool.slots with store } slot other

/-! ### Handles -/

theorem slotOf_eq_ok {pool : RecordPool α γ} {handle : Handle} {slot : Nat}
    (good : pool.slotOf handle = .ok slot) : handle.slot = some slot ∧ slot < pool.len := by
  unfold slotOf at good
  obtain ⟨_, _, rest⟩ := bind_eq_ok.mp good
  cases bound : handle.slot with
  | none =>
    rw [bound] at rest
    exact nomatch rest
  | some place =>
    rw [bound] at rest
    by_cases accepted : place < pool.len ∧ pool.slots.stamp place ≤ handle.boundAt
    · simp only [if_pos accepted] at rest
      obtain rfl := Except.ok.inj rest
      exact ⟨rfl, accepted.1⟩
    · simp only [if_neg accepted] at rest
      exact nomatch rest

theorem bind_ok_cases {pool : RecordPool α γ} {handle bound : Handle} {slot : Nat}
    (done : pool.bind slot handle = .ok bound) :
    handle.poolId = pool.poolId ∧ slot < pool.len ∧ bound = pool.bound handle slot := by
  unfold bind at done
  obtain ⟨_, owned, rest⟩ := bind_eq_ok.mp done
  obtain ⟨_, checked, rest⟩ := bind_eq_ok.mp rest
  obtain rfl := Except.ok.inj rest
  refine ⟨?_, ?_, rfl⟩
  · by_contra foreign
    rw [checkOwner_foreign foreign] at owned
    exact nomatch owned
  · by_contra outside
    have refused : pool.slots.check slot = .error (.refused (.invalidHandle (some slot) pool.len)) :=
      if_neg outside
    rw [refused] at checked
    exact nomatch checked

theorem acquire_refused {lending next : Lending} {failure : PoolFailure}
    (refused : Lending.acquire lending = .error failure next) : next = lending := by
  unfold Lending.acquire at refused
  split at refused
  next => exact (EStateM.Result.error.inj refused).2.symm
  next =>
    split at refused
    next => exact nomatch refused
    next =>
      split at refused
      next => exact nomatch refused
      next => exact (EStateM.Result.error.inj refused).2.symm

theorem lend_eq (pool : RecordPool α γ) :
    lend pool = match Lending.acquire pool.lending with
      | .ok number lending => .ok { poolId := pool.poolId, number } { pool with lending }
      | .error failure lending => .error failure { pool with lending } := by
  let onLending : Step PoolFailure (RecordPool α γ) Nat :=
    Step.within RecordPool.lending (fun lending pool => { pool with lending }) id Lending.acquire
  cases taken : Lending.acquire pool.lending with
  | ok number lending =>
    have run : onLending pool = .ok number { pool with lending } := Step.within_ok taken
    exact Step.bind_of_ok run
  | error failure lending =>
    have run : onLending pool = .error failure { pool with lending } := Step.within_error taken
    exact Step.bind_of_error run

theorem takeBack_own {pool : RecordPool α γ} {handle : Handle} (own : handle.poolId = pool.poolId) :
    takeBack handle pool = .ok () { pool with lending := pool.lending.release handle.number } :=
  Step.bind_of_ok (Step.read_of_ok (fun pool : RecordPool α γ => pool.checkOwner handle) (checkOwner_own own))

theorem takeBack_foreign {pool : RecordPool α γ} {handle : Handle} (foreign : handle.poolId ≠ pool.poolId) :
    takeBack handle pool = .error (.refused .foreignHandle) pool :=
  Step.bind_of_error
    (Step.read_of_error (fun pool : RecordPool α γ => pool.checkOwner handle) (checkOwner_foreign foreign))

theorem lend_cases (pool : RecordPool α γ) :
    (∃ failure, lend pool = .error failure pool) ∨
    (∃ handle lending, lend pool = .ok handle { pool with lending }) := by
  have lent := lend_eq pool
  cases taken : Lending.acquire pool.lending with
  | ok number lending =>
    rw [taken] at lent
    exact Or.inr ⟨_, lending, lent⟩
  | error failure lending =>
    obtain rfl := acquire_refused taken
    rw [taken] at lent
    exact Or.inl ⟨failure, lent⟩

theorem takeBack_cases (pool : RecordPool α γ) (handle : Handle) :
    (∃ failure, takeBack handle pool = .error failure pool) ∨
    (∃ lending, takeBack handle pool = .ok () { pool with lending }) := by
  by_cases own : handle.poolId = pool.poolId
  · exact Or.inr ⟨_, takeBack_own own⟩
  · exact Or.inl ⟨_, takeBack_foreign own⟩

variable [SlotStore α γ]

def records (pool : RecordPool α γ) : List (List γ) := pool.slots.records

def put (pool : RecordPool α γ) (slot : Nat) (row : List γ) : RecordPool α γ :=
  { pool with slots := pool.slots.put slot row }

@[simp] theorem length_records (pool : RecordPool α γ) : pool.records.length = pool.len :=
  pool.slots.length_records

theorem deleteAt_refused {pool : RecordPool α γ} {slot : Nat} (outside : pool.len ≤ slot) :
    deleteAt slot pool = .error (.refused (.invalidHandle (some slot) pool.len)) pool :=
  onSlots_error (SlotPool.free_refused outside)

theorem edit_refused {pool : RecordPool α γ} {slot : Nat} (outside : pool.len ≤ slot)
    (step : Step Fault (List γ) β) :
    edit slot step pool = .error (.refused (.invalidHandle (some slot) pool.len)) pool :=
  onSlots_error (SlotPool.edit_refused outside step)

variable [LawfulSlotStore α]

structure Sound (pool : RecordPool α γ) : Prop where
  slots : pool.slots.Sound
  width : pool.form.width = pool.slots.width
  fresh : pool.form.fresh.length = pool.form.width

theorem length_of_getElem?_records {pool : RecordPool α γ} (sound : pool.Sound) {slot : Nat}
    {row : List γ} (found : pool.records[slot]? = some row) : row.length = pool.form.width := by
  rw [sound.width]
  exact SlotPool.length_of_getElem?_records sound.slots found

theorem sound_make {poolId : Nat} {form : Form γ} {sizing : Sizing} {pool : RecordPool α γ}
    (fresh : form.fresh.length = form.width) (made : make poolId form sizing = .ok pool) :
    pool.Sound ∧ pool.form = form ∧ pool.poolId = poolId ∧ pool.len = 0 ∧ pool.modifications = 0 ∧
      pool.slots.clearedAt = 0 ∧ pool.slots.stamps = #[] := by
  unfold make at made
  cases slotsMade : (SlotPool.make form.width sizing : Except PoolFailure (SlotPool α)) with
  | error failure =>
    rw [slotsMade] at made
    exact nomatch made
  | ok slots =>
    rw [slotsMade] at made
    obtain rfl := Except.ok.inj made
    obtain ⟨sound, wide, len, modifications, clearedAt, stamps⟩ := SlotPool.sound_make slotsMade
    exact ⟨⟨sound, wide.symm, fresh⟩, rfl, rfl, len, modifications, clearedAt, stamps⟩

omit [LawfulSlotStore α] in
theorem maximum_make {poolId : Nat} {form : Form γ} {sizing : Sizing} {pool : RecordPool α γ}
    (made : make poolId form sizing = .ok pool) : pool.slots.maximum = sizing.maxCapacity := by
  unfold make at made
  cases slotsMade : (SlotPool.make form.width sizing : Except PoolFailure (SlotPool α)) with
  | error failure =>
    rw [slotsMade] at made
    exact nomatch made
  | ok slots =>
    rw [slotsMade] at made
    obtain rfl := Except.ok.inj made
    exact congrArg SlotPool.maximum (SlotPool.make_cases slotsMade).2

/-- Pools for records of one form have one limit, if one maximum was set for them. -/
theorem limit_congr {pool next : RecordPool α γ} (sound : pool.Sound) (soundNext : next.Sound)
    (form : next.form = pool.form) (maximum : next.slots.maximum = pool.slots.maximum) :
    next.slots.limit = pool.slots.limit :=
  SlotPool.limit_congr (soundNext.width.symm.trans ((congrArg Form.width form).trans sound.width)) maximum

theorem read_eq {pool : RecordPool α γ} (sound : pool.Sound) (slot : Nat) :
    pool.read slot = match pool.records[slot]? with
      | some row => .ok row
      | none => .error (.refused (.invalidHandle (some slot) pool.len)) :=
  SlotPool.read_eq sound.slots slot

theorem put_spec {pool : RecordPool α γ} (sound : pool.Sound) {slot : Nat} {row : List γ}
    (inside : slot < pool.len) (long : row.length = pool.form.width) :
    (pool.put slot row).Sound ∧ (pool.put slot row).records = pool.records.set slot row := by
  obtain ⟨soundSlots, wide, rows⟩ := SlotPool.put_spec sound.slots inside (long.trans sound.width)
  exact ⟨⟨soundSlots, sound.width.trans wide.symm, sound.fresh⟩, rows⟩

theorem edit_eq {pool : RecordPool α γ} (sound : pool.Sound) {slot : Nat} {row : List γ}
    (found : pool.records[slot]? = some row) (step : Step Fault (List γ) β) :
    edit slot step pool = match step row with
      | .ok answer next => .ok answer (pool.put slot next)
      | .error fault next => .error (.fault fault) (pool.put slot next) := by
  have edited := SlotPool.edit_eq sound.slots found step
  cases run : step row with
  | ok answer next =>
    rw [run] at edited
    exact onSlots_ok edited
  | error fault next =>
    rw [run] at edited
    exact onSlots_error edited

theorem overwrite_spec {pool : RecordPool α γ} (sound : pool.Sound) {slot : Nat} {row : List γ}
    (found : pool.records[slot]? = some row) (change : Overwrite γ pool.form.width) :
    (pool.put slot (change.step.left row)).Sound ∧
    (pool.put slot (change.step.left row)).records =
      pool.records.set slot (change.step.left row) := by
  have inside : slot < pool.len := by
    rw [← length_records]
    exact (List.getElem?_eq_some_iff.mp found).1
  exact put_spec sound inside (change.keeps_length row (length_of_getElem?_records sound found))

/-- Allocating either leaves the pool as it was, there being no slot, or appends a new record. -/
theorem allocate_cases [Cell γ] {pool : RecordPool α γ} (sound : pool.Sound) :
    (∃ failure, SlotPool.allocate pool.slots = .error failure pool.slots ∧
      allocate pool = .error failure pool) ∨
    (∃ store next, next = { pool with slots := { pool.slots with store, len := pool.len + 1 } } ∧
      allocate pool = .ok pool.len next ∧ next.Sound ∧
      next.records = pool.records ++ [pool.form.fresh]) := by
  rcases SlotPool.allocate_cases sound.slots with
    ⟨failure, refused⟩ | ⟨store, slots, shape, taken, soundSlots, wide, rows⟩
  · exact Or.inl ⟨failure, refused, Step.bind_of_error (onSlots_error refused)⟩
  · have soundTaken : ({ pool with slots } : RecordPool α γ).Sound :=
      ⟨soundSlots, sound.width.trans wide.symm, sound.fresh⟩
    have last : ({ pool with slots } : RecordPool α γ).records[pool.len]? =
        some (List.replicate pool.slots.width Cell.blank) := by
      change slots.records[pool.len]? = _
      rw [rows, List.getElem?_append_right (by simp [len]), SlotPool.length_records]
      simp [len]
    have inside : pool.len < ({ pool with slots } : RecordPool α γ).len := by
      change pool.len < slots.len
      rw [shape]
      exact Nat.lt_succ_self _
    obtain ⟨soundPut, rowsPut⟩ := put_spec soundTaken inside sound.fresh
    refine Or.inr ⟨SlotStore.write store pool.len pool.form.fresh,
      ({ pool with slots } : RecordPool α γ).put pool.len pool.form.fresh, ?_, ?_, soundPut, ?_⟩
    · rw [shape]
      rfl
    · have written := edit_eq soundTaken last (set pool.form.fresh : Step Fault (List γ) PUnit)
      rw [allocate, Step.bind_of_ok (onSlots_ok taken)]
      change (edit pool.len (set pool.form.fresh) >>= fun _ => pure pool.len) { pool with slots } = _
      rw [Step.bind_of_ok written]
      rfl
    · rw [rowsPut]
      change slots.records.set pool.len pool.form.fresh = _
      rw [rows, List.set_append_right _ _ (by simp [len])]
      simp [len, records]

theorem lt_most_of_allocate [Cell γ] {pool next : RecordPool α γ} (sound : pool.Sound) {slot : Nat}
    (run : allocate pool = .ok slot next) : pool.len < pool.slots.most := by
  cases taken : SlotPool.allocate pool.slots with
  | ok place slots => exact SlotPool.lt_most_of_allocate sound.slots taken
  | error failure slots => exact nomatch (Step.bind_of_error (onSlots_error taken)).symm.trans run

theorem deleteAt_ok {pool : RecordPool α γ} (sound : pool.Sound) {slot : Nat}
    (inside : slot < pool.len) :
    ∃ store next, next = { pool with slots := ({ pool.slots with store } : SlotPool α).shrink slot } ∧
      deleteAt slot pool = .ok (SlotPool.relocation pool.len slot) next ∧ next.Sound ∧
      next.records = closeGap pool.records slot := by
  obtain ⟨store, slots, shape, freed, soundSlots, wide, rows⟩ := SlotPool.free_ok sound.slots inside
  refine ⟨store, { pool with slots }, by rw [shape], onSlots_ok freed,
    ⟨soundSlots, sound.width.trans wide.symm, sound.fresh⟩, rows⟩

theorem create_cases [Cell γ] {pool : RecordPool α γ} (sound : pool.Sound) (handle : Handle) :
    (∃ failure, create handle pool = .error failure pool) ∨
    (∃ store next, next = { pool with slots := { pool.slots with store, len := pool.len + 1 } } ∧
      handle.poolId = pool.poolId ∧ create handle pool = .ok (pool.len, next.bound handle pool.len) next ∧
      next.Sound ∧ next.records = pool.records ++ [pool.form.fresh]) := by
  unfold create
  by_cases own : handle.poolId = pool.poolId
  · have owned := Step.read_of_ok (fun pool : RecordPool α γ => pool.checkOwner handle) (checkOwner_own own)
    rw [Step.bind_of_ok owned]
    rcases allocate_cases sound with ⟨failure, _, refused⟩ | ⟨store, next, shape, taken, soundNext, rows⟩
    · exact Or.inl ⟨failure, Step.bind_of_error refused⟩
    · exact Or.inr ⟨store, next, shape, own, Step.bind_of_ok taken, soundNext, rows⟩
  · have refused := Step.read_of_error (fun pool : RecordPool α γ => pool.checkOwner handle)
      (checkOwner_foreign own)
    exact Or.inl ⟨_, Step.bind_of_error refused⟩

theorem delete_cases {pool : RecordPool α γ} (sound : pool.Sound) (handle : Handle) :
    (∃ failure, delete handle pool = .error failure pool) ∨
    (∃ slot store, handle.slot = some slot ∧ slot < pool.len ∧
      delete handle pool =
        .ok (SlotPool.relocation pool.len slot, { handle with slot := none }) (pool.shrunk store slot) ∧
      (pool.shrunk store slot).Sound) := by
  unfold delete
  cases found : pool.slotOf handle with
  | error failure =>
    have refused := Step.read_of_error (fun pool : RecordPool α γ => pool.slotOf handle) found
    exact Or.inl ⟨failure, Step.bind_of_error refused⟩
  | ok slot =>
    have looked := Step.read_of_ok (fun pool : RecordPool α γ => pool.slotOf handle) found
    obtain ⟨bound, inside⟩ := slotOf_eq_ok found
    obtain ⟨store, next, rfl, freed, soundNext, _⟩ := deleteAt_ok sound inside
    rw [Step.bind_of_ok looked, Step.bind_of_ok freed]
    exact Or.inr ⟨slot, store, bound, inside, rfl, soundNext⟩

theorem clear_spec {pool : RecordPool α γ} (sound : pool.Sound) :
    pool.clear.Sound ∧ pool.clear.records = [] := by
  obtain ⟨soundSlots, rows⟩ := SlotPool.clear_spec sound.slots
  exact ⟨⟨soundSlots, sound.width, sound.fresh⟩, rows⟩

end RecordPool

end SpatialStore
