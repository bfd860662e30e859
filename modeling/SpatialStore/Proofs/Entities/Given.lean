import SpatialStore.Proofs.Entities.Numbering

/-! Stores that choose all their identifiers themselves. They give out every other number, upwards from zero,
so that none is given out again after its entity was removed. -/

namespace SpatialStore

namespace EntityId

def given (count : Nat) : EntityId := ⟨UInt32.ofNat (2 * count)⟩

def supply : Nat := 0x80000000

theorem given_of_ultimate {count : Nat} (ultimate : count + 1 = supply) : given count = last := by
  obtain rfl : count = 0x7fffffff := Nat.succ.inj ultimate
  rfl

theorem given_ne_last {count : Nat} (more : count + 1 < supply) : given count ≠ last := by
  intro same
  have raw : (2 * count) % 0x100000000 = 0xfffffffe := congrArg (fun id => id.raw.toNat) same
  have supplied : supply = 0x80000000 := rfl
  omega

theorem given_eq {raw : UInt32} {count : Nat} (counted : raw.toNat = 2 * count) :
    (⟨raw⟩ : EntityId) = given count := by
  rw [given, ← counted, UInt32.ofNat_toNat]

end EntityId

namespace EntityStore

variable {α γ : Type} {store next : EntityStore α γ} {count : Nat}

/-- The store has given out so many identifiers, and it has no entity under a later one. -/
structure Gave (store : EntityStore α γ) (count : Nat) : Prop where
  counted : store.nextId.toNat = min (2 * count) 0xffffffff
  below : ∀ id ∈ store.ids, id.raw < store.nextId

theorem Gave.withRecords (gave : store.Gave count) (records : RecordPool α γ) :
    ({ store with records } : EntityStore α γ).Gave count := ⟨gave.counted, gave.below⟩

variable [SlotStore α γ] [LawfulSlotStore α]

theorem Gave.entered (gave : store.Gave count) (entered : store.Entered ⟨store.nextId⟩ next)
    (counted : next.nextId.toNat = min (2 * (count + 1)) 0xffffffff)
    (later : store.nextId.toNat < next.nextId.toNat) : next.Gave (count + 1) := by
  refine ⟨counted, ?_⟩
  intro id member
  rcases entered.mem_ids.mp member with before | rfl
  · exact UInt32.lt_trans (gave.below id before) later
  · exact later

theorem Gave.removed (gave : store.Gave count) {slot : Nat} (removed : store.Removed slot next) :
    next.Gave count := by
  refine ⟨by rw [removed.nextId]; exact gave.counted, ?_⟩
  intro id member
  rw [ids, removed.ids] at member
  rw [removed.nextId]
  exact gave.below id (mem_of_mem_closeGap member)

omit [LawfulSlotStore α] in
theorem gave_make {poolId : Nat} {form : Form γ} {sizing : Sizing}
    (made : make poolId form sizing = .ok store) : store.Gave 0 := by
  obtain ⟨_, blank, first⟩ := make_cases made
  refine ⟨by rw [first]; rfl, ?_⟩
  intro id member
  rw [ids, blank] at member
  cases member

/-- Why a store creates no entity. -/
inductive Barred [Cell γ] (store : EntityStore α γ) (count : Nat) : PoolFailure → Prop
  | full (reached : store.records.slots.limit ≤ store.records.len) :
      Barred store count (.refused (.outOfCapacity store.records.slots.limit))
  | spent (out : EntityId.supply ≤ count) :
      Barred store count (.refused (.outOfCapacity store.records.capacity))
  | stopped {fault : Fault}
      (failed : SlotPool.allocate store.records.slots = .error (.fault fault) store.records.slots) :
      Barred store count (.fault fault)

/-- Creating gives out the next identifier or is turned down; for the last one it does both. -/
theorem create_given [Cell γ] (sound : store.Sound) (gave : store.Gave count) :
    (∃ failure, create store = .error failure store ∧ store.Barred count failure) ∨
    (store.directory.contains (EntityId.given count) = false ∧ ∃ next,
      store.Entered (EntityId.given count) next ∧ next.Gave (count + 1) ∧
      ((count + 1 < EntityId.supply ∧ create store = .ok (EntityId.given count) next) ∨
        (count + 1 = EntityId.supply ∧
          create store = .error (.refused (.outOfCapacity next.records.capacity)) next))) := by
  have counted := gave.counted
  have supply : EntityId.supply = 0x80000000 := rfl
  have ahead : store.Ahead := gave.below
  have found := ahead.firstVacant_eq sound
  have vacant := firstVacant_vacant found
  rcases create_at sound found with ⟨failure, refused, why, _⟩ | ⟨next, more, done, entered, later⟩ |
    ⟨next, last, refused, _, entered, later⟩
  · refine Or.inl ⟨failure, refused, ?_⟩
    rcases why with ⟨last, rfl⟩ | stopped
    · have final : store.nextId.toNat = 0xffffffff := congrArg UInt32.toNat last
      exact .spent (by omega)
    · rcases SlotPool.allocate_error sound.records.slots stopped with ⟨reached, rfl⟩ | ⟨fault, rfl⟩
      · exact .full reached
      · exact .stopped stopped
  · have same : (⟨store.nextId⟩ : EntityId) = EntityId.given count := EntityId.given_eq (by omega)
    have gaveNext := gave.entered entered (by omega) (by omega)
    rw [same] at vacant done entered
    exact Or.inr ⟨vacant, next, entered, gaveNext, Or.inl ⟨by omega, done⟩⟩
  · have final : store.nextId.toNat = 0xfffffffe := congrArg UInt32.toNat last
    have same : (⟨store.nextId⟩ : EntityId) = EntityId.given count := EntityId.given_eq (by omega)
    have gaveNext := gave.entered entered (by omega) (by omega)
    rw [same] at vacant entered
    exact Or.inr ⟨vacant, next, entered, gaveNext, Or.inr ⟨by omega, refused⟩⟩

end EntityStore

end SpatialStore
