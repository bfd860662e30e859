import SpatialStore.Entities.Store
import SpatialStore.Proofs.Records.Pool
import SpatialStore.Proofs.Entities.Directory

/-! Entity stores as ledgers of records. The directory and the records move in step, so that what an
operation does to the records it does to the entries of the ledger. -/

namespace SpatialStore

/-- The record kept under each identifier. -/
abbrev Ledger (γ : Type) := EntityId → Option (List γ)

namespace Ledger

variable {γ : Type}

def empty : Ledger γ := fun _ => none

def enter (ledger : Ledger γ) (id : EntityId) (row : List γ) : Ledger γ := fun other =>
  if other = id then some row else ledger other

def erase (ledger : Ledger γ) (id : EntityId) : Ledger γ := fun other =>
  if other = id then none else ledger other

end Ledger

namespace EntityStore

variable {α γ β : Type}

theorem onRecords_ok {step : Step PoolFailure (RecordPool α γ) β} {store : EntityStore α γ} {answer : β}
    {next : RecordPool α γ} (run : step store.records = .ok answer next) :
    onRecords step store = .ok answer { store with records := next } := by
  rw [onRecords, Step.within_ok run]

theorem onRecords_error {step : Step PoolFailure (RecordPool α γ) β} {store : EntityStore α γ}
    {failure : PoolFailure} {next : RecordPool α γ} (run : step store.records = .error failure next) :
    onRecords step store = .error failure { store with records := next } := by
  rw [onRecords, Step.within_error run]
  rfl

theorem onDirectory_ok {step : Step PoolFailure Directory β} (store : EntityStore α γ) {answer : β}
    {next : Directory} (run : step store.directory = .ok answer next) :
    onDirectory step store = .ok answer { store with directory := next } := by
  rw [onDirectory, Step.within_ok run]

theorem require_ok {store : EntityStore α γ} {id : EntityId} {slot : Nat}
    (found : store.slotOf id = some slot) :
    Step.read (fun store : EntityStore α γ => store.require id) store = .ok slot store := by
  rw [Step.read, require, found]

theorem require_unknown {store : EntityStore α γ} {id : EntityId} (missing : store.slotOf id = none) :
    Step.read (fun store : EntityStore α γ => store.require id) store =
      .error (.refused (.unknownId id.raw)) store := by
  rw [Step.read, require, missing]

variable [SlotStore α γ]

theorem remove_unknown {store : EntityStore α γ} {id : EntityId} (missing : store.slotOf id = none) :
    remove id store = .error (.refused (.unknownId id.raw)) store :=
  Step.bind_of_error (require_unknown missing)

theorem edit_unknown {store : EntityStore α γ} {id : EntityId} (missing : store.slotOf id = none)
    (step : Step Fault (List γ) β) :
    edit id step store = .error (.refused (.unknownId id.raw)) store :=
  Step.bind_of_error (require_unknown missing)

theorem advance_ok {store : EntityStore α γ} (more : store.nextId.toNat + 1 < 0x100000000) :
    advance store = .ok () { store with nextId := store.nextId + 1 } := by
  rw [advance, Step.bind_get, if_pos more]
  rfl

theorem advance_refused {store : EntityStore α γ} (spent : ¬store.nextId.toNat + 1 < 0x100000000) :
    advance store = .error (.refused (.outOfCapacity store.records.capacity)) store := by
  rw [advance, Step.bind_get, if_neg spent]
  rfl

def ledger (store : EntityStore α γ) : Ledger γ := fun id =>
  (store.slotOf id).bind fun slot => store.records.records[slot]?

theorem ledger_vacant {store : EntityStore α γ} {id : EntityId}
    (vacant : store.directory.contains id = false) : store.ledger id = none := by
  rw [ledger, slotOf, Directory.slotOf_none vacant]
  rfl

theorem firstVacant_vacant {directory : Directory} {raw found : UInt32}
    (vacant : firstVacant directory raw = some found) : directory.contains ⟨found⟩ = false := by
  fun_induction firstVacant directory raw with
  | case1 raw taken more ih => exact ih vacant
  | case2 raw taken last => exact nomatch vacant
  | case3 raw free =>
    obtain rfl := Option.some.inj vacant
    exact Bool.eq_false_iff.mpr free

/-- Looking for an identifier changes what comes next and nothing else. -/
theorem skipTaken_cases (store : EntityStore α γ) :
    (∃ failure raw, firstVacant store.directory store.nextId = none ∧
      skipTaken store = .error failure { store with nextId := raw }) ∨
    (∃ raw, firstVacant store.directory store.nextId = some raw ∧
      skipTaken store = .ok () { store with nextId := raw }) := by
  rw [skipTaken, Step.bind_get]
  cases found : firstVacant store.directory store.nextId with
  | none => exact Or.inl ⟨_, _, rfl, rfl⟩
  | some raw => exact Or.inr ⟨raw, rfl, rfl⟩

variable [LawfulSlotStore α]

structure Sound (store : EntityStore α γ) : Prop where
  records : store.records.Sound
  paired : store.directory.Paired
  len_eq : store.directory.len = store.records.len

theorem length_ids {store : EntityStore α γ} (sound : store.Sound) :
    store.directory.ids.toList.length = store.records.records.length := by
  rw [Array.length_toList, RecordPool.length_records]
  exact sound.len_eq

theorem ledger_eq_some {store : EntityStore α γ} (sound : store.Sound) {id : EntityId} {row : List γ} :
    store.ledger id = some row ↔ Together store.directory.ids.toList store.records.records id row := by
  rw [ledger, Option.bind_eq_some_iff]
  constructor
  · intro read
    obtain ⟨slot, found, kept⟩ := read
    refine ⟨slot, ?_, kept⟩
    rw [Directory.getElem?_ids]
    exact (sound.paired _ _).mp found
  · intro read
    obtain ⟨slot, found, kept⟩ := read
    rw [Directory.getElem?_ids] at found
    exact ⟨slot, (sound.paired _ _).mpr found, kept⟩

theorem live_cases {store : EntityStore α γ} (sound : store.Sound) (id : EntityId) :
    (store.slotOf id = none ∧ store.ledger id = none) ∨
    (∃ slot row, store.slotOf id = some slot ∧ store.directory.idAt slot = some id ∧
      slot < store.records.len ∧ store.records.records[slot]? = some row ∧
      store.ledger id = some row) := by
  cases found : store.slotOf id with
  | none =>
    refine Or.inl ⟨rfl, ?_⟩
    rw [ledger, found]
    rfl
  | some slot =>
    have here := (sound.paired _ _).mp found
    have inside : slot < store.records.len := sound.len_eq ▸ Directory.idAt_lt here
    have kept := List.getElem?_eq_getElem (l := store.records.records)
      (show slot < _ by rw [RecordPool.length_records]; exact inside)
    refine Or.inr ⟨slot, _, rfl, here, inside, kept, ?_⟩
    rw [ledger, found]
    exact kept

theorem ext_ledger {first second : Ledger γ}
    (same : ∀ id row, first id = some row ↔ second id = some row) : first = second := by
  funext id
  apply Option.ext
  intro row
  exact same id row

/-! ### Entering and removing -/

theorem Sound.withNextId {store : EntityStore α γ} (sound : store.Sound) (raw : UInt32) :
    ({ store with nextId := raw } : EntityStore α γ).Sound :=
  ⟨sound.records, sound.paired, sound.len_eq⟩

def nextAfter (nextId : UInt32) (id : EntityId) : UInt32 :=
  if nextId ≤ id.raw then if id.raw.toNat + 1 < 0x100000000 then id.raw + 1 else id.raw else nextId

/-- The store has taken an entity in: its identifier and its record come last. -/
structure Entered (store : EntityStore α γ) (id : EntityId) (next : EntityStore α γ) : Prop where
  sound : next.Sound
  shape : ∃ cells, next.records = { store.records with
    slots := { store.records.slots with store := cells, len := store.records.len + 1 } }
  ids : next.directory.ids = store.directory.ids.push id
  rows : next.records.records = store.records.records ++ [store.records.form.fresh]

namespace Entered

variable {store next : EntityStore α γ} {id : EntityId}

theorem withNextId (entered : store.Entered id next) (raw : UInt32) :
    store.Entered id { next with nextId := raw } :=
  ⟨entered.sound.withNextId raw, entered.shape, entered.ids, entered.rows⟩

theorem form (entered : store.Entered id next) : next.records.form = store.records.form := by
  obtain ⟨cells, shape⟩ := entered.shape
  rw [shape]

theorem mem_ids (entered : store.Entered id next) {other : EntityId} :
    other ∈ next.ids ↔ other ∈ store.ids ∨ other = id := by
  rw [EntityStore.ids, entered.ids, Array.toList_push, List.mem_append, List.mem_singleton]
  rfl

theorem room (entered : store.Entered id next) :
    next.records.len = store.records.len + 1 ∧ next.records.slots.maximum = store.records.slots.maximum := by
  obtain ⟨cells, shape⟩ := entered.shape
  rw [shape]
  exact ⟨rfl, rfl⟩

theorem ledger (entered : store.Entered id next) (sound : store.Sound)
    (vacant : store.directory.contains id = false) :
    next.ledger = store.ledger.enter id store.records.form.fresh := by
  apply ext_ledger
  intro other row
  rw [ledger_eq_some entered.sound, entered.ids, entered.rows, Array.toList_push,
    together_append (length_ids sound), ← ledger_eq_some sound, Ledger.enter]
  by_cases same : other = id
  · subst other
    rw [ledger_vacant vacant, if_pos rfl]
    simp
  · rw [if_neg same]
    constructor
    · intro either
      rcases either with kept | ⟨equal, _⟩
      · exact kept
      · exact absurd equal.symm same
    · exact Or.inl

end Entered

/-- Entering fails only where there is no slot for the record, and then leaves the store as it was. -/
theorem enter_cases [Cell γ] {store : EntityStore α γ} (sound : store.Sound) {id : EntityId}
    (vacant : store.directory.contains id = false) :
    (∃ failure, SlotPool.allocate store.records.slots = .error failure store.records.slots ∧
      enter id store = .error failure store) ∨
    (∃ next, store.records.len < store.records.slots.most ∧ enter id store = .ok () next ∧
      store.Entered id next ∧ next.nextId = nextAfter store.nextId id) := by
  rcases RecordPool.allocate_cases sound.records with
    ⟨failure, stopped, refused⟩ | ⟨cells, records, shape, taken, soundRecords, rows⟩
  · exact Or.inl ⟨failure, stopped, Step.bind_of_error (onRecords_error refused)⟩
  · obtain ⟨directory, entered, paired, ids⟩ := Directory.insert_ok sound.paired vacant
    rw [sound.len_eq] at entered
    have soundEntered : ({ store with records, directory } : EntityStore α γ).Sound := by
      refine ⟨soundRecords, paired, ?_⟩
      change directory.ids.size = records.slots.len
      rw [ids, Array.size_push, shape]
      exact congrArg Nat.succ sound.len_eq
    refine Or.inr ⟨{ records, directory, nextId := nextAfter store.nextId id },
      RecordPool.lt_most_of_allocate sound.records taken, ?_, ⟨soundEntered.withNextId _, ⟨cells, shape⟩, ids, rows⟩, rfl⟩
    rw [enter, Step.bind_of_ok (onRecords_ok taken)]
    change (onDirectory (Directory.insert id store.records.len) >>= _) { store with records } = _
    rw [Step.bind_of_ok (onDirectory_ok { store with records } entered)]
    change EStateM.Result.ok _ (if store.nextId ≤ id.raw then _ else _) = _
    unfold nextAfter
    split <;> rfl

/-- The store has given up the entity in a slot, to which the last one has moved. -/
structure Removed (store : EntityStore α γ) (slot : Nat) (next : EntityStore α γ) : Prop where
  sound : next.Sound
  shape : ∃ cells, next.records = store.records.shrunk cells slot
  ids : next.directory.ids.toList = closeGap store.directory.ids.toList slot
  rows : next.records.records = closeGap store.records.records slot
  nextId : next.nextId = store.nextId

namespace Removed

variable {store next : EntityStore α γ} {slot : Nat}

theorem form (removed : store.Removed slot next) : next.records.form = store.records.form := by
  obtain ⟨cells, shape⟩ := removed.shape
  rw [shape]
  rfl

theorem room (removed : store.Removed slot next) :
    next.records.len = store.records.len - 1 ∧ next.records.slots.maximum = store.records.slots.maximum := by
  obtain ⟨cells, shape⟩ := removed.shape
  rw [shape]
  exact ⟨rfl, rfl⟩

theorem ledger (removed : store.Removed slot next) (sound : store.Sound) {id : EntityId}
    (here : store.directory.idAt slot = some id) : next.ledger = store.ledger.erase id := by
  apply ext_ledger
  intro other row
  rw [ledger_eq_some removed.sound, removed.ids, removed.rows, together_closeGap sound.paired.nodup
    (length_ids sound) ((Directory.getElem?_ids _ _).trans here), ← ledger_eq_some sound, Ledger.erase]
  by_cases same : other = id
  · simp [same]
  · simp [same]

end Removed

theorem remove_ok {store : EntityStore α γ} (sound : store.Sound) {id : EntityId} {slot : Nat}
    (found : store.slotOf id = some slot) :
    ∃ next, remove id store = .ok (SlotPool.relocation store.len slot) next ∧ store.Removed slot next := by
  have here := (sound.paired _ _).mp found
  have inside : slot < store.records.len := sound.len_eq ▸ Directory.idAt_lt here
  obtain ⟨cells, records, shape, freed, soundRecords, rows⟩ := RecordPool.deleteAt_ok sound.records inside
  obtain ⟨directory, removed, paired, ids⟩ := Directory.removeSlot_ok sound.paired here
  rw [sound.len_eq] at removed
  have soundRemoved : ({ store with records, directory } : EntityStore α γ).Sound := by
    refine ⟨soundRecords, paired, ?_⟩
    have lengths := congrArg List.length ids
    rw [Array.length_toList, length_closeGap, Array.length_toList] at lengths
    change directory.ids.size = records.slots.len
    rw [lengths, shape]
    exact congrArg (· - 1) sound.len_eq
  refine ⟨{ store with records, directory }, ?_, soundRemoved, ⟨cells, shape⟩, ids, rows, rfl⟩
  rw [remove, Step.bind_of_ok (require_ok found), Step.bind_of_ok (onRecords_ok freed)]
  rw [Step.bind_of_ok (onDirectory_ok { store with records } removed)]
  rfl

theorem edit_found {store : EntityStore α γ} (sound : store.Sound) {id : EntityId} {slot : Nat}
    {row : List γ} (found : store.slotOf id = some slot) (kept : store.records.records[slot]? = some row)
    (change : Overwrite γ store.records.form.width) :
    ∃ next, next = { store with records := store.records.put slot (change.step.left row) } ∧
      (edit id change.step store = match change.step row with
        | .ok answer _ => .ok answer next
        | .error fault _ => .error (.fault fault) next) ∧
      next.Sound ∧ next.ledger = store.ledger.enter id (change.step.left row) := by
  have here := (sound.paired _ _).mp found
  obtain ⟨soundRecords, rows⟩ := RecordPool.overwrite_spec sound.records kept change
  have soundNext : ({ store with
      records := store.records.put slot (change.step.left row) } : EntityStore α γ).Sound :=
    ⟨soundRecords, sound.paired, sound.len_eq⟩
  refine ⟨_, rfl, ?_, soundNext, ?_⟩
  · have edited := RecordPool.edit_eq sound.records kept change.step
    rw [edit, Step.bind_of_ok (require_ok found)]
    cases run : change.step row with
    | ok answer next =>
      rw [run] at edited
      rw [onRecords_ok edited, Step.left_of_ok run]
    | error fault next =>
      rw [run] at edited
      rw [onRecords_error edited, Step.left_of_error run]
  · apply ext_ledger
    intro other content
    rw [ledger_eq_some soundNext]
    change Together store.directory.ids.toList
      (store.records.put slot (change.step.left row)).records other content ↔ _
    rw [rows, together_set sound.paired.nodup (length_ids sound)
      ((Directory.getElem?_ids _ _).trans here), ← ledger_eq_some sound, Ledger.enter]
    by_cases same : other = id
    · simp [same]
    · simp [same]

/-- Steps that do the same to the record that an entity has are the same step on the entity. -/
theorem edit_congr {store : EntityStore α γ} (sound : store.Sound) (id : EntityId)
    {first second : Step Fault (List γ) β}
    (same : ∀ row, store.ledger id = some row → first row = second row) :
    edit id first store = edit id second store := by
  rcases live_cases sound id with ⟨missing, _⟩ | ⟨slot, row, found, _, _, here, kept⟩
  · rw [edit_unknown missing, edit_unknown missing]
  · have edited : RecordPool.edit slot first store.records = RecordPool.edit slot second store.records := by
      rw [RecordPool.edit_eq sound.records here, RecordPool.edit_eq sound.records here, same row kept]
    rw [edit, edit, Step.bind_of_ok (require_ok found), Step.bind_of_ok (require_ok found), onRecords,
      onRecords, Step.within, Step.within, edited]

end EntityStore

end SpatialStore
