import SpatialStore.Proofs.Slots.Chunked
import SpatialStore.Proofs.Slots.Flat
import SpatialStore.Proofs.Records.Writes
import SpatialStore.Proofs.Entities.Store

/-! Runs of an entity store. Whatever is asked of a store, and however often it is turned down, it stays
the ledger that its answers tell of: every identifier reads what was last written under it, wherever the
removals of others have moved its record. -/

namespace SpatialStore

def EntityId.last : EntityId := ⟨0xfffffffe⟩

namespace EntityStore

inductive Act (γ : Type) (width : Nat)
  | create
  | createWithId (id : EntityId)
  | remove (id : EntityId)
  | write (id : EntityId) (change : Overwrite γ width)
  | clear

inductive Answer
  | created (id : EntityId)
  | removed (relocation : Option Relocation)
  | written
  | cleared

abbrev Entry (γ : Type) (width : Nat) := Act γ width × Except PoolFailure Answer

end EntityStore

open EntityStore (Entry)

namespace Ledger

variable {γ : Type} {width : Nat}

/-- How one entry of a history changes a ledger. An act that fails changes nothing, with two exceptions:
a write that stops half-way leaves what it has written, and there is no identifier left to count on to
once the last one is given out, so that its entity is added and its creation still refused. -/
inductive Follows (fresh : List γ) : Ledger γ → Entry γ width → Ledger γ → Prop
  | created {ledger : Ledger γ} {id : EntityId} (named : id ≠ EntityId.null)
      (vacant : ledger id = none) :
      Follows fresh ledger (.create, .ok (.created id)) (ledger.enter id fresh)
  | creationRefused {ledger : Ledger γ} {failure : PoolFailure} :
      Follows fresh ledger (.create, .error failure) ledger
  | lastCreated {ledger : Ledger γ} {capacity : Nat} (vacant : ledger EntityId.last = none) :
      Follows fresh ledger (.create, .error (.refused (.outOfCapacity capacity)))
        (ledger.enter EntityId.last fresh)
  | createdWithId {ledger : Ledger γ} {id : EntityId} (named : id ≠ EntityId.null)
      (vacant : ledger id = none) :
      Follows fresh ledger (.createWithId id, .ok (.created id)) (ledger.enter id fresh)
  | noName {ledger : Ledger γ} :
      Follows fresh ledger
        (.createWithId EntityId.null, .error (.refused (.unknownId EntityId.null.raw))) ledger
  | taken {ledger : Ledger γ} {id : EntityId} {row : List γ} (kept : ledger id = some row) :
      Follows fresh ledger (.createWithId id, .error (.refused (.duplicateKey id.raw))) ledger
  | noRoom {ledger : Ledger γ} {id : EntityId} {failure : PoolFailure} (vacant : ledger id = none) :
      Follows fresh ledger (.createWithId id, .error failure) ledger
  | removed {ledger : Ledger γ} {id : EntityId} {row : List γ} {relocation : Option Relocation}
      (kept : ledger id = some row) :
      Follows fresh ledger (.remove id, .ok (.removed relocation)) (ledger.erase id)
  | removalUnknown {ledger : Ledger γ} {id : EntityId} (vacant : ledger id = none) :
      Follows fresh ledger (.remove id, .error (.refused (.unknownId id.raw))) ledger
  | written {ledger : Ledger γ} {id : EntityId} {row : List γ} {change : Overwrite γ width}
      (kept : ledger id = some row) (done : change.step.outcome row = .ok ()) :
      Follows fresh ledger (.write id change, .ok .written) (ledger.enter id (change.step.left row))
  | writeStopped {ledger : Ledger γ} {id : EntityId} {row : List γ} {change : Overwrite γ width}
      {fault : Fault} (kept : ledger id = some row) (stopped : change.step.outcome row = .error fault) :
      Follows fresh ledger (.write id change, .error (.fault fault))
        (ledger.enter id (change.step.left row))
  | writeUnknown {ledger : Ledger γ} {id : EntityId} {change : Overwrite γ width}
      (vacant : ledger id = none) :
      Follows fresh ledger (.write id change, .error (.refused (.unknownId id.raw))) ledger
  | cleared {ledger : Ledger γ} : Follows fresh ledger (.clear, .ok .cleared) empty

inductive History (fresh : List γ) : Ledger γ → List (Entry γ width) → Ledger γ → Prop
  | done {ledger : Ledger γ} : History fresh ledger [] ledger
  | next {ledger middle last : Ledger γ} {entry : Entry γ width} {rest : List (Entry γ width)} :
      Follows fresh ledger entry middle → History fresh middle rest last →
      History fresh ledger (entry :: rest) last

end Ledger

namespace EntityStore

variable {α γ : Type} [SlotStore α γ]

def perform [Cell γ] {width : Nat} : Act γ width → Step PoolFailure (EntityStore α γ) Answer
  | .create => create >>= fun id => pure (.created id)
  | .createWithId id => createWithId id >>= fun id => pure (.created id)
  | .remove id => remove id >>= fun relocation => pure (.removed relocation)
  | .write id change => edit id change.step >>= fun _ => pure .written
  | .clear => modify clear >>= fun _ => pure .cleared

theorem perform_write_change [Cell γ] {τ : Type} [Stored τ γ] [LawfulStored τ] (id : EntityId)
    (change : τ → τ) :
    perform (.write id (.change change)) =
      (update id change >>= fun _ => pure .written : Step _ (EntityStore α γ) _) := rfl

/-- A store and the ledger that it stands for. -/
structure Represents (store : EntityStore α γ) (ledger : Ledger γ) : Prop where
  in_step : store.directory.len = store.records.len
  inverse : ∀ id slot, store.slotOf id = some slot ↔ store.idAt slot = some id
  compact : ∀ slot, (∃ id, store.idAt slot = some id) ↔ slot < store.records.len
  live : ∀ id, (∃ slot, store.slotOf id = some slot) ↔ ∃ row, ledger id = some row
  reads : ∀ id, store.read id = match ledger id with
    | some row => .ok row
    | none => .error (.refused (.unknownId id.raw))

variable [LawfulSlotStore α]

theorem represents_ledger {store : EntityStore α γ} (sound : store.Sound) :
    store.Represents store.ledger := by
  refine ⟨sound.len_eq, sound.paired, ?_, ?_, ?_⟩
  · intro slot
    constructor
    · intro taken
      obtain ⟨id, here⟩ := taken
      rw [← sound.len_eq]
      exact Directory.idAt_lt here
    · intro inside
      rw [← sound.len_eq] at inside
      exact ⟨_, Array.getElem?_eq_getElem inside⟩
  · intro id
    rcases live_cases sound id with ⟨missing, absent⟩ | ⟨slot, row, found, _, _, _, kept⟩
    · rw [missing, absent]
      constructor
      · intro present
        obtain ⟨_, taken⟩ := present
        exact nomatch taken
      · intro present
        obtain ⟨_, taken⟩ := present
        exact nomatch taken
    · exact ⟨fun _ => ⟨row, kept⟩, fun _ => ⟨slot, found⟩⟩
  · intro id
    rcases live_cases sound id with ⟨missing, absent⟩ | ⟨slot, row, found, _, _, here, kept⟩
    · rw [absent, read, require, missing]
      rfl
    · rw [kept, read, require, found]
      change store.records.read slot = _
      rw [RecordPool.read_eq sound.records, here]

/-! ### One act -/

/-- The next identifier to be given out is the last one, and there is a slot for it. -/
def AtLast (store : EntityStore α γ) : Prop :=
  firstVacant store.directory store.nextId = some EntityId.last.raw ∧
    store.records.len < store.records.slots.most

/-- What creating comes to at the first identifier that no entity has. Two are counted on, one by the entering
and one by the creation, and at the last identifier there is only the first. -/
theorem create_at [Cell γ] {store : EntityStore α γ} (sound : store.Sound) {raw : UInt32}
    (found : firstVacant store.directory store.nextId = some raw) :
    (∃ failure, create store = .error failure { store with nextId := raw } ∧
      (raw = EntityId.null.raw ∧ failure = .refused (.outOfCapacity store.records.capacity) ∨
        SlotPool.allocate store.records.slots = .error failure store.records.slots) ∧
      ∀ reason, failure = .refused reason → ¬store.AtLast) ∨
    (∃ next, raw.toNat + 2 < 0x100000000 ∧ create store = .ok ⟨raw⟩ next ∧ store.Entered ⟨raw⟩ next ∧
      next.nextId.toNat = raw.toNat + 2) ∨
    (∃ next, raw = EntityId.last.raw ∧
      create store = .error (.refused (.outOfCapacity next.records.capacity)) next ∧ store.AtLast ∧
      store.Entered ⟨raw⟩ next ∧ next.nextId.toNat = raw.toNat + 1) := by
  have skipped : skipTaken store = .ok () { store with nextId := raw } := by
    rcases skipTaken_cases store with ⟨_, _, spent, _⟩ | ⟨other, foundOther, skipped⟩
    · cases spent.symm.trans found
    · obtain rfl := Option.some.inj (found.symm.trans foundOther)
      exact skipped
  unfold create
  rw [Step.bind_of_ok skipped, Step.bind_get]
  by_cases last : EntityId.isNull ⟨raw⟩ = true
  · rw [if_pos last]
    refine Or.inl ⟨_, rfl, Or.inl ⟨of_decide_eq_true last, rfl⟩, ?_⟩
    intro _ _ atLast
    obtain rfl := Option.some.inj (found.symm.trans atLast.1)
    cases last
  · rw [if_neg last]
    have more : raw.toNat + 1 < 0x100000000 := by
      have different : raw.toNat ≠ 0xffffffff := fun same => last (decide_eq_true (UInt32.toNat_inj.mp same))
      have bound := raw.toNat_lt
      omega
    rcases enter_cases (sound.withNextId raw) (firstVacant_vacant found) with
      ⟨failure, stopped, refused⟩ | ⟨next, room, done, ⟨soundNext, shape, ids, rows⟩, counted⟩
    · refine Or.inl ⟨failure, Step.bind_of_error refused, Or.inr stopped, ?_⟩
      intro reason same atLast
      rw [same] at stopped
      exact Nat.not_lt.mpr (SlotPool.most_le_of_refused sound.records.slots stopped) atLast.2
    · have entered : store.Entered ⟨raw⟩ next := ⟨soundNext, shape, ids, rows⟩
      rw [Step.bind_of_ok done]
      have counts : next.nextId.toNat = raw.toNat + 1 := by
        rw [counted, nextAfter, if_pos (UInt32.le_refl raw), if_pos more, UInt32.toNat_add]
        exact Nat.mod_eq_of_lt more
      refine Or.inr ?_
      by_cases further : next.nextId.toNat + 1 < 0x100000000
      · rw [Step.bind_of_ok (advance_ok further)]
        have fits : raw.toNat + 2 < 0x100000000 := by omega
        refine Or.inl ⟨_, fits, rfl, entered.withNextId _, ?_⟩
        change (next.nextId + 1).toNat = _
        rw [UInt32.toNat_add, counts]
        exact Nat.mod_eq_of_lt fits
      · rw [Step.bind_of_error (advance_refused further)]
        have final : raw = EntityId.last.raw := by
          apply UInt32.toNat_inj.mp
          change raw.toNat = 0xfffffffe
          omega
        subst final
        exact Or.inr ⟨next, rfl, rfl, ⟨found, room⟩, entered, counts⟩

theorem create_cases [Cell γ] {store : EntityStore α γ} (sound : store.Sound) :
    (∃ failure raw, create store = .error failure { store with nextId := raw } ∧
      ∀ reason, failure = .refused reason → ¬store.AtLast) ∨
    (∃ id next, create store = .ok id next ∧ id ≠ EntityId.null ∧ store.directory.contains id = false ∧
      store.Entered id next) ∨
    (∃ next, create store = .error (.refused (.outOfCapacity next.records.capacity)) next ∧ store.AtLast ∧
      store.directory.contains EntityId.last = false ∧ store.Entered EntityId.last next) := by
  rcases skipTaken_cases store with ⟨failure, raw, spent, refused⟩ | ⟨raw, found, _⟩
  · refine Or.inl ⟨failure, raw, Step.bind_of_error refused, ?_⟩
    intro _ _ atLast
    cases spent.symm.trans atLast.1
  · have vacant := firstVacant_vacant found
    rcases create_at sound found with ⟨failure, refused, _, exempt⟩ | ⟨next, more, done, entered, _⟩ |
      ⟨next, rfl, refused, atLast, entered, _⟩
    · exact Or.inl ⟨failure, raw, refused, exempt⟩
    · have named : (⟨raw⟩ : EntityId) ≠ EntityId.null := by
        intro same
        obtain rfl : raw = 0xffffffff := congrArg EntityId.raw same
        exact absurd more (by decide)
      exact Or.inr (Or.inl ⟨⟨raw⟩, next, done, named, vacant, entered⟩)
    · exact Or.inr (Or.inr ⟨next, refused, atLast, vacant, entered⟩)

theorem entered_of_create [Cell γ] {store next : EntityStore α γ} (sound : store.Sound) {id : EntityId}
    (done : create store = .ok id next) : store.Entered id next := by
  rcases create_cases sound with ⟨_, _, refused, _⟩ | ⟨other, last, created, _, _, entered⟩ | ⟨_, refused, _⟩
  · cases refused.symm.trans done
  · obtain ⟨rfl, rfl⟩ := EStateM.Result.ok.inj (created.symm.trans done)
    exact entered
  · cases refused.symm.trans done

theorem createWithId_cases [Cell γ] {store : EntityStore α γ} (sound : store.Sound) (id : EntityId) :
    (id = EntityId.null ∧ createWithId id store = .error (.refused (.unknownId id.raw)) store) ∨
    (∃ row, store.ledger id = some row ∧
      createWithId id store = .error (.refused (.duplicateKey id.raw)) store) ∨
    (store.directory.contains id = false ∧ ∃ failure, createWithId id store = .error failure store) ∨
    (id ≠ EntityId.null ∧ store.directory.contains id = false ∧
      ∃ next, createWithId id store = .ok id next ∧ store.Entered id next ∧
        next.nextId = nextAfter store.nextId id) := by
  unfold createWithId
  by_cases named : id.isNull = true
  · rw [if_pos named]
    have null : id = EntityId.null := congrArg EntityId.mk (of_decide_eq_true named)
    exact Or.inl ⟨null, rfl⟩
  · rw [if_neg named]
    refine Or.inr ?_
    have notNull : id ≠ EntityId.null := by
      intro same
      subst same
      exact named rfl
    rcases live_cases sound id with ⟨missing, _⟩ | ⟨slot, row, found, _, _, _, kept⟩
    · have vacant : store.directory.contains id = false := by
        rw [Directory.contains_eq]
        exact congrArg Option.isSome missing
      have free : store.directory.checkVacant id = .ok () := by
        rw [Directory.checkVacant, vacant]
        rfl
      have looked := Step.read_of_ok (fun store : EntityStore α γ => store.directory.checkVacant id) free
      rw [Step.bind_of_ok looked]
      refine Or.inr ?_
      rcases enter_cases sound vacant with ⟨failure, _, refused⟩ | ⟨next, _, done, entered, counted⟩
      · exact Or.inl ⟨vacant, failure, Step.bind_of_error refused⟩
      · exact Or.inr ⟨notNull, vacant, next, Step.bind_of_ok done, entered, counted⟩
    · have taken : store.directory.checkVacant id = .error (.refused (.duplicateKey id.raw)) := by
        rw [Directory.checkVacant, if_pos]
        rw [Directory.contains_eq]
        exact congrArg Option.isSome found
      have looked := Step.read_of_error (fun store : EntityStore α γ => store.directory.checkVacant id) taken
      rw [Step.bind_of_error looked]
      exact Or.inl ⟨row, kept, rfl⟩

theorem clear_spec {store : EntityStore α γ} (sound : store.Sound) :
    store.clear.Sound ∧ store.clear.ledger = Ledger.empty := by
  refine ⟨⟨(RecordPool.clear_spec sound.records).1, Directory.paired_empty, rfl⟩, ?_⟩
  funext id
  exact congrArg (Option.bind · _) (Directory.slotOf_empty id)

/-- The store has come to `next` by what the entry says, and is as good as before. -/
structure Advances {width : Nat} (store : EntityStore α γ) (entry : Entry γ width)
    (next : EntityStore α γ) : Prop where
  follows : Ledger.Follows store.records.form.fresh store.ledger entry next.ledger
  sound : next.Sound
  formed : next.records.form = store.records.form

theorem perform_advances [Cell γ] {store : EntityStore α γ} (sound : store.Sound)
    (act : Act γ store.records.form.width) :
    store.Advances (act, (perform act).outcome store) ((perform act).left store) := by
  change (perform act).Ends store fun outcome next => store.Advances (act, outcome) next
  cases act with
  | create =>
    rcases create_cases sound with ⟨failure, raw, refused, _⟩ | ⟨id, next, done, named, vacant, entered⟩ |
      ⟨next, refused, _, vacant, entered⟩
    · refine Step.ends_of_error (Step.bind_of_error refused) ?_
      exact ⟨.creationRefused, sound.withNextId raw, rfl⟩
    · refine Step.ends_of_ok (Step.bind_of_ok done) ?_
      exact ⟨entered.ledger sound vacant ▸ .created named (ledger_vacant vacant), entered.sound, entered.form⟩
    · refine Step.ends_of_error (Step.bind_of_error refused) ?_
      exact ⟨entered.ledger sound vacant ▸ .lastCreated (ledger_vacant vacant), entered.sound, entered.form⟩
  | createWithId id =>
    rcases createWithId_cases sound id with ⟨rfl, refused⟩ | ⟨row, kept, refused⟩ |
      ⟨vacant, failure, refused⟩ | ⟨named, vacant, next, done, entered, _⟩
    · refine Step.ends_of_error (Step.bind_of_error refused) ?_
      exact ⟨.noName, sound, rfl⟩
    · refine Step.ends_of_error (Step.bind_of_error refused) ?_
      exact ⟨.taken kept, sound, rfl⟩
    · refine Step.ends_of_error (Step.bind_of_error refused) ?_
      exact ⟨.noRoom (ledger_vacant vacant), sound, rfl⟩
    · refine Step.ends_of_ok (Step.bind_of_ok done) ?_
      exact ⟨entered.ledger sound vacant ▸ .createdWithId named (ledger_vacant vacant), entered.sound,
        entered.form⟩
  | remove id =>
    rcases live_cases sound id with ⟨missing, vacant⟩ | ⟨slot, row, found, here, _, _, kept⟩
    · refine Step.ends_of_error (Step.bind_of_error (remove_unknown missing)) ?_
      exact ⟨.removalUnknown vacant, sound, rfl⟩
    · obtain ⟨next, done, removed⟩ := remove_ok sound found
      refine Step.ends_of_ok (Step.bind_of_ok done) ?_
      exact ⟨removed.ledger sound here ▸ .removed kept, removed.sound, removed.form⟩
  | write id change =>
    rcases live_cases sound id with ⟨missing, vacant⟩ | ⟨slot, row, found, _, _, here, kept⟩
    · refine Step.ends_of_error (Step.bind_of_error (edit_unknown missing _)) ?_
      exact ⟨.writeUnknown vacant, sound, rfl⟩
    · obtain ⟨next, rfl, edited, soundNext, entered⟩ := edit_found sound found here change
      cases written : change.step row with
      | ok answer left =>
        rw [written] at edited
        refine Step.ends_of_ok (Step.bind_of_ok edited) ?_
        exact ⟨entered ▸ .written kept (Step.outcome_of_ok written), soundNext, rfl⟩
      | error fault left =>
        rw [written] at edited
        refine Step.ends_of_error (Step.bind_of_error edited) ?_
        exact ⟨entered ▸ .writeStopped kept (Step.outcome_of_error written), soundNext, rfl⟩
  | clear =>
    obtain ⟨soundClear, empty⟩ := clear_spec sound
    have run : perform (.clear : Act γ store.records.form.width) store = .ok .cleared store.clear := rfl
    refine Step.ends_of_ok run ?_
    exact ⟨empty ▸ .cleared, soundClear, rfl⟩

/-! ### Runs -/

theorem run_follows [Cell γ] {form : Form γ} (acts : List (Act γ form.width)) {store : EntityStore α γ}
    (sound : store.Sound) (formed : store.records.form = form) :
    Ledger.History form.fresh store.ledger (Step.outcomes perform acts store)
        (Step.leftAfter perform acts store).ledger ∧
      (Step.leftAfter perform acts store).Sound := by
  induction acts generalizing store with
  | nil => exact ⟨.done, sound⟩
  | cons act rest ih =>
    subst form
    obtain ⟨follows, soundNext, formedNext⟩ := perform_advances sound act
    obtain ⟨history, soundLast⟩ := ih soundNext formedNext
    exact ⟨.next follows history, soundLast⟩

omit [LawfulSlotStore α] in
theorem make_cases {poolId : Nat} {form : Form γ} {sizing : Sizing} {store : EntityStore α γ}
    (made : make poolId form sizing = .ok store) :
    RecordPool.make poolId form sizing = .ok store.records ∧ store.directory = {} ∧ store.nextId = 0 := by
  obtain ⟨records, recordsMade, rest⟩ := bind_eq_ok.mp made
  obtain ⟨directory, directoryMade, rest⟩ := bind_eq_ok.mp rest
  obtain rfl := Except.ok.inj rest
  refine ⟨recordsMade, ?_, rfl⟩
  unfold Directory.ofCapacity at directoryMade
  split at directoryMade
  next => exact (Except.ok.inj directoryMade).symm
  next => exact nomatch directoryMade

theorem sound_make {poolId : Nat} {form : Form γ} {sizing : Sizing} {store : EntityStore α γ}
    (fits : form.fresh.length = form.width) (made : make poolId form sizing = .ok store) :
    store.Sound ∧ store.records.form = form ∧ store.ledger = Ledger.empty := by
  obtain ⟨recordsMade, blank, _⟩ := make_cases made
  obtain ⟨soundRecords, formed, _, none, _⟩ := RecordPool.sound_make fits recordsMade
  refine ⟨⟨soundRecords, ?_, ?_⟩, formed, ?_⟩
  · rw [blank]
    exact Directory.paired_empty
  · rw [blank]
    exact none.symm
  · funext id
    rw [ledger, slotOf, blank, Directory.slotOf_empty]
    rfl

/-- Whatever is done with a new store, each answer is the one that the ledger gives, and the store is left
standing for the ledger. -/
theorem run_represents_ledger [Cell γ] {poolId : Nat} {form : Form γ} {sizing : Sizing}
    {start : EntityStore α γ} (fits : form.fresh.length = form.width)
    (made : make poolId form sizing = .ok start) (acts : List (Act γ form.width)) :
    ∃ ledger, Ledger.History form.fresh Ledger.empty (Step.outcomes perform acts start) ledger ∧
      (Step.leftAfter perform acts start).Represents ledger := by
  obtain ⟨sound, formed, empty⟩ := sound_make fits made
  obtain ⟨history, soundLast⟩ := run_follows acts sound formed
  rw [empty] at history
  exact ⟨_, history, represents_ledger soundLast⟩

/-- Three entities, of which the first is removed, so that the last one's record moves to its slot. -/
def churn : List (Act UInt8 2) :=
  [.create, .create, .create, .write ⟨4⟩ (.field 2 ⟨.one .byte, 1⟩ 7), .remove ⟨0⟩, .remove ⟨9⟩,
    .createWithId ⟨1⟩, .createWithId ⟨4⟩]

theorem churn_represents_ledger :
    ∃ start : EntityStore (ChunkedSlots UInt8) UInt8,
      make 0 ⟨2, [0, 1]⟩ { initialCapacity := 1, chunkSlots := 2 } = .ok start ∧
      (Step.leftAfter perform churn start).slotOf ⟨4⟩ = some 0 ∧
      (Step.leftAfter perform churn start).read ⟨4⟩ = .ok [0, 7] ∧
      ∃ ledger, Ledger.History [0, 1] Ledger.empty (Step.outcomes perform churn start) ledger ∧
        (Step.leftAfter perform churn start).Represents ledger := by
  obtain ⟨start, made, moved, kept⟩ : ∃ start : EntityStore (ChunkedSlots UInt8) UInt8,
      make 0 ⟨2, [0, 1]⟩ { initialCapacity := 1, chunkSlots := 2 } = .ok start ∧
      (Step.leftAfter perform churn start).slotOf ⟨4⟩ = some 0 ∧
      (Step.leftAfter perform churn start).read ⟨4⟩ = .ok [0, 7] := by
    refine ⟨_, rfl, ?_, ?_⟩
    · decide +kernel
    · decide +kernel
  have fits : (Form.mk 2 [(0 : UInt8), 1]).fresh.length = 2 := rfl
  exact ⟨start, made, moved, kept, run_represents_ledger fits made churn⟩

end EntityStore

end SpatialStore
