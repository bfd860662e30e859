import SpatialStore.Proofs.Entities.Ledger

/-! What an act comes to in the state of a store. An act that is turned down leaves the records and the
directory alone, except for a creation at the last identifier, which is entered first and refused then. -/

namespace SpatialStore.EntityStore

variable {α γ : Type} [SlotStore α γ] [LawfulSlotStore α] {width : Nat}

/-- What there is of a store after an act and what came of it. -/
inductive Effect (store : EntityStore α γ) : Entry γ width → EntityStore α γ → Prop
  | failed {act : Act γ width} {failure : PoolFailure} (raw : UInt32)
      (exempt : ∀ reason, failure = .refused reason → ¬(act = .create ∧ store.AtLast)) :
      Effect store (act, .error failure) { store with nextId := raw }
  | created {act : Act γ width} {id : EntityId} {next : EntityStore α γ}
      (vacant : store.directory.contains id = false) (entered : store.Entered id next) :
      Effect store (act, .ok (.created id)) next
  | lastCreated {next : EntityStore α γ} (atLast : store.AtLast)
      (vacant : store.directory.contains EntityId.last = false)
      (entered : store.Entered EntityId.last next) :
      Effect store (.create, .error (.refused (.outOfCapacity next.records.capacity))) next
  | removed {id : EntityId} {slot : Nat} {next : EntityStore α γ} (here : store.idAt slot = some id)
      (removed : store.Removed slot next) :
      Effect store (.remove id, .ok (.removed (SlotPool.relocation store.len slot))) next
  | written {id : EntityId} {change : Overwrite γ width} {outcome : Except PoolFailure Answer}
      {slot : Nat} {row : List γ} {next : EntityStore α γ}
      (shape : next = { store with records := store.records.put slot row }) (sound : next.Sound)
      (accepted : ∀ reason, outcome ≠ .error (.refused reason)) :
      Effect store (.write id change, outcome) next
  | cleared : Effect store (.clear, .ok .cleared) store.clear

namespace Effect

variable {store next : EntityStore α γ} {entry : Entry γ width}

theorem sound (effect : Effect store entry next) (sound : store.Sound) : next.Sound := by
  cases effect with
  | failed raw => exact sound.withNextId raw
  | created _ entered => exact entered.sound
  | lastCreated _ _ entered => exact entered.sound
  | removed _ removed => exact removed.sound
  | written _ soundNext => exact soundNext
  | cleared => exact (clear_spec sound).1

theorem form (effect : Effect store entry next) : next.records.form = store.records.form := by
  cases effect with
  | failed raw => rfl
  | created _ entered => exact entered.form
  | lastCreated _ _ entered => exact entered.form
  | removed _ removed => exact removed.form
  | written shape =>
    rw [shape]
    rfl
  | cleared => rfl

end Effect

/-- An act other than creating leaves, when it fails, what there was. -/
theorem effect_unchanged [Cell γ] {store : EntityStore α γ} {act : Act γ width} {failure : PoolFailure}
    (run : perform act store = .error failure store) (other : act ≠ .create) :
    (perform act).Ends store fun outcome next => Effect store (act, outcome) next := by
  refine Step.ends_of_error run ?_
  exact .failed store.nextId fun _ _ both => other both.1

theorem perform_effect [Cell γ] {store : EntityStore α γ} (sound : store.Sound)
    (act : Act γ store.records.form.width) :
    (perform act).Ends store fun outcome next => Effect store (act, outcome) next := by
  cases act with
  | create =>
    rcases create_cases sound with ⟨failure, raw, refused, exempt⟩ | ⟨id, next, done, _, vacant, entered⟩ |
      ⟨next, refused, atLast, vacant, entered⟩
    · refine Step.ends_of_error (Step.bind_of_error refused) ?_
      exact .failed raw fun reason same both => exempt reason same both.2
    · exact Step.ends_of_ok (Step.bind_of_ok done) (.created vacant entered)
    · exact Step.ends_of_error (Step.bind_of_error refused) (.lastCreated atLast vacant entered)
  | createWithId id =>
    rcases createWithId_cases sound id with ⟨_, refused⟩ | ⟨_, _, refused⟩ | ⟨_, _, refused⟩ |
      ⟨_, vacant, next, done, entered, _⟩
    · exact effect_unchanged (Step.bind_of_error refused) nofun
    · exact effect_unchanged (Step.bind_of_error refused) nofun
    · exact effect_unchanged (Step.bind_of_error refused) nofun
    · exact Step.ends_of_ok (Step.bind_of_ok done) (.created vacant entered)
  | remove id =>
    rcases live_cases sound id with ⟨missing, _⟩ | ⟨slot, _, found, here, _⟩
    · exact effect_unchanged (Step.bind_of_error (remove_unknown missing)) nofun
    · obtain ⟨next, done, removed⟩ := remove_ok sound found
      exact Step.ends_of_ok (Step.bind_of_ok done) (.removed here removed)
  | write id change =>
    rcases live_cases sound id with ⟨missing, _⟩ | ⟨slot, row, found, _, _, kept, _⟩
    · exact effect_unchanged (Step.bind_of_error (edit_unknown missing _)) nofun
    · obtain ⟨next, shape, edited, soundNext, _⟩ := edit_found sound found kept change
      cases written : change.step row with
      | ok answer left =>
        rw [written] at edited
        exact Step.ends_of_ok (Step.bind_of_ok edited) (.written shape soundNext nofun)
      | error fault left =>
        rw [written] at edited
        exact Step.ends_of_error (Step.bind_of_error edited) (.written shape soundNext nofun)
  | clear =>
    have run : perform (.clear : Act γ store.records.form.width) store = .ok .cleared store.clear := rfl
    exact Step.ends_of_ok run .cleared

end SpatialStore.EntityStore
