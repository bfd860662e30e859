import SpatialStore.Proofs.Records.Session
import SpatialStore.Proofs.Entities.Effect

/-! Sessions of an entity store: a store with the handles that its callers hold. Handles are bound to
entities, by their identifiers or by the slots that they are in, and each act reports what it has done to
bindings and to entities. -/

namespace SpatialStore

structure EntitySession (α γ : Type) where
  store : EntityStore α γ
  held : List Handle := []

namespace EntitySession

/-- What the callers can ask for. A holder is the place of a handle among those that are held. -/
inductive Act (γ : Type) (width : Nat)
  | entities (act : EntityStore.Act γ width)
  | lend
  | takeBack (holder : Nat)
  | bind (id : EntityId) (holder : Nat)
  | bindSlot (slot holder : Nat)

inductive Event
  | bound (holder : Nat) (id : EntityId)
  /-- An entity was removed, and the record of another one moved to its slot. -/
  | removed (id : EntityId) (moved : Option EntityId)
  | cleared
  deriving DecidableEq

variable {α γ β : Type} {width : Nat}

def onStore (step : Step PoolFailure (EntityStore α γ) β) : Step PoolFailure (EntitySession α γ) β :=
  Step.within EntitySession.store (fun store session => { session with store }) id step

def withHeld (holder : Nat) (step : Handle → Step PoolFailure (EntitySession α γ) (List Event)) :
    Step PoolFailure (EntitySession α γ) (List Event) := fun session =>
  match session.held[holder]? with
  | none => .ok [] session
  | some handle => step handle session

def hold (holder : Nat) (handle : Handle) : Step PoolFailure (EntitySession α γ) PUnit :=
  modify fun session => { session with held := session.held.set holder handle }

theorem onStore_ok {step : Step PoolFailure (EntityStore α γ) β} {session : EntitySession α γ}
    {answer : β} {next : EntityStore α γ} (run : step session.store = .ok answer next) :
    onStore step session = .ok answer { session with store := next } := by
  rw [onStore, Step.within_ok run]

theorem onStore_error {step : Step PoolFailure (EntityStore α γ) β} {session : EntitySession α γ}
    {failure : PoolFailure} {next : EntityStore α γ} (run : step session.store = .error failure next) :
    onStore step session = .error failure { session with store := next } := by
  rw [onStore, Step.within_error run]
  rfl

theorem lend_cases (store : EntityStore α γ) :
    (∃ failure, store.lend = .error failure store) ∨
    (∃ handle lending, store.lend = .ok handle { store with records := { store.records with lending } }) := by
  rcases store.records.lend_cases with ⟨failure, refused⟩ | ⟨handle, lending, lent⟩
  · exact Or.inl ⟨failure, EntityStore.onRecords_error refused⟩
  · exact Or.inr ⟨handle, lending, EntityStore.onRecords_ok lent⟩

theorem takeBack_cases (store : EntityStore α γ) (handle : Handle) :
    (∃ failure, EntityStore.takeBack handle store = .error failure store) ∨
    (∃ lending, EntityStore.takeBack handle store =
      .ok () { store with records := { store.records with lending } }) := by
  rcases store.records.takeBack_cases handle with ⟨failure, refused⟩ | ⟨lending, taken⟩
  · exact Or.inl ⟨failure, EntityStore.onRecords_error refused⟩
  · exact Or.inr ⟨lending, EntityStore.onRecords_ok taken⟩

theorem bind_ok_cases {store : EntityStore α γ} {id : EntityId} {handle bound : Handle}
    (done : store.bind id handle = .ok bound) :
    ∃ slot, store.slotOf id = some slot ∧ handle.poolId = store.records.poolId ∧
      slot < store.records.len ∧ bound = store.records.bound handle slot := by
  unfold EntityStore.bind EntityStore.require at done
  obtain ⟨slot, found, rest⟩ := bind_eq_ok.mp done
  refine ⟨slot, ?_, RecordPool.bind_ok_cases rest⟩
  cases known : store.slotOf id with
  | none =>
    rw [known] at found
    exact nomatch found
  | some place =>
    rw [known] at found
    obtain rfl := Except.ok.inj found
    rfl

def movedBy (store : EntityStore α γ) (relocation : Option Relocation) : Option EntityId :=
  relocation.bind fun move => store.idAt move.source

/-- What an act on a store has done that is seen in its answer. -/
def eventsOf (store : EntityStore α γ) : EntityStore.Act γ width → EntityStore.Answer → List Event
  | .remove id, .removed relocation => [.removed id (movedBy store relocation)]
  | .clear, .cleared => [.cleared]
  | _, _ => []

def toldOf (store : EntityStore α γ) (act : EntityStore.Act γ width)
    (outcome : Except PoolFailure EntityStore.Answer) : List Event :=
  Step.reported (outcome.map (eventsOf store act))

theorem toldOf_error (store : EntityStore α γ) (act : EntityStore.Act γ width) (failure : PoolFailure) :
    toldOf store act (.error failure) = [] := rfl

theorem toldOf_created (store : EntityStore α γ) (act : EntityStore.Act γ width) (id : EntityId) :
    toldOf store act (.ok (.created id)) = [] := by
  cases act <;> rfl

theorem toldOf_removed (store : EntityStore α γ) (id : EntityId)
    (outcome : Except PoolFailure (Option Relocation)) :
    toldOf store (.remove id : EntityStore.Act γ width) (outcome.map .removed) =
      Step.reported (outcome.map fun relocation => [.removed id (movedBy store relocation)]) := by
  cases outcome <;> rfl

theorem toldOf_write (store : EntityStore α γ) (id : EntityId) (change : Overwrite γ width)
    (outcome : Except PoolFailure EntityStore.Answer) : toldOf store (.write id change) outcome = [] := by
  cases outcome with
  | ok answer => cases answer <;> rfl
  | error failure => rfl

variable [SlotStore α γ]

def perform [Cell γ] : Act γ width → Step PoolFailure (EntitySession α γ) (List Event)
  | .entities act => do
    let before ← get
    let answer ← onStore (EntityStore.perform act)
    return eventsOf before.store act answer
  | .lend => do
    let handle ← onStore EntityStore.lend
    modify fun session => { session with held := session.held ++ [handle] }
    return []
  | .takeBack holder => withHeld holder fun handle => do
    onStore (EntityStore.takeBack handle)
    return []
  | .bind id holder => withHeld holder fun handle => do
    let handle ← Step.read (fun session => session.store.bind id handle)
    hold holder handle
    return [.bound holder id]
  | .bindSlot slot holder => withHeld holder fun handle => do
    let handle ← Step.read (fun session => session.store.records.bind slot handle)
    hold holder handle
    return ((← get).store.idAt slot).toList.map (.bound holder)

theorem perform_entities [Cell γ] (act : EntityStore.Act γ width) (session : EntitySession α γ) :
    perform (.entities act) session =
      (onStore (EntityStore.perform act) >>= fun answer =>
        (pure (eventsOf session.store act answer) : Step _ _ _)) session := rfl

theorem left_entities [Cell γ] (act : EntityStore.Act γ width) (session : EntitySession α γ) :
    (perform (.entities act)).left session =
      { session with store := (EntityStore.perform act).left session.store } := by
  rw [Step.left, perform_entities, ← Step.left, Step.left_bind_pure, onStore, Step.left_within]

theorem reported_entities [Cell γ] (act : EntityStore.Act γ width) (session : EntitySession α γ) :
    Step.reported ((perform (.entities act)).outcome session) =
      toldOf session.store act ((EntityStore.perform act).outcome session.store) := by
  rw [Step.outcome, perform_entities, ← Step.outcome, Step.outcome_bind_pure, onStore, Step.outcome_within]
  cases (EntityStore.perform act).outcome session.store <;> rfl

/-! ### What an act does to a session -/

variable [LawfulSlotStore α]

/-- What there is of a session after an act, and what the act reports. -/
inductive Turn (session : EntitySession α γ) : Act γ width → Except PoolFailure (List Event) →
    EntitySession α γ → Prop
  | idle {act : Act γ width} : Turn session act (.ok []) session
  | refused {act : Act γ width} {failure : PoolFailure} (other : act ≠ .entities .create) :
      Turn session act (.error failure) session
  | done {act : EntityStore.Act γ width} {answer : EntityStore.Answer} {next : EntityStore α γ}
      (effect : session.store.Effect (act, .ok answer) next) :
      Turn session (.entities act) (.ok (eventsOf session.store act answer)) { session with store := next }
  | failed {act : EntityStore.Act γ width} {failure : PoolFailure} {next : EntityStore α γ}
      (effect : session.store.Effect (act, .error failure) next) :
      Turn session (.entities act) (.error failure) { session with store := next }
  | lent {act : Act γ width} (lending : Lending) {held : List Handle} (kept : session.held <+: held) :
      Turn session act (.ok []) ⟨{ session.store with
        records := { session.store.records with lending } }, held⟩
  | bound {act : Act γ width} {holder slot : Nat} {id : EntityId} {handle : Handle}
      (held : session.held[holder]? = some handle) (own : handle.poolId = session.store.records.poolId)
      (inside : slot < session.store.records.len) (here : session.store.idAt slot = some id) :
      Turn session act (.ok [.bound holder id])
        { session with held := session.held.set holder (session.store.records.bound handle slot) }

def Turns (step : Step PoolFailure (EntitySession α γ) (List Event)) (act : Act γ width)
    (session : EntitySession α γ) : Prop :=
  step.Ends session (Turn session act)

theorem turns_withHeld {session : EntitySession α γ} {act : Act γ width} {holder : Nat}
    {step : Handle → Step PoolFailure (EntitySession α γ) (List Event)}
    (each : ∀ handle, session.held[holder]? = some handle → Turns (step handle) act session) :
    Turns (withHeld holder step) act session := by
  cases held : session.held[holder]? with
  | none =>
    have run : withHeld holder step session = .ok [] session := by
      rw [withHeld, held]
    exact Step.ends_of_ok run .idle
  | some handle =>
    have run : withHeld holder step session = step handle session := by
      rw [withHeld, held]
    have turns := each handle held
    rw [Turns, Step.Ends, Step.outcome, Step.left] at turns ⊢
    rw [run]
    exact turns

theorem perform_turns [Cell γ] {session : EntitySession α γ} (sound : session.store.Sound)
    (wide : session.store.records.form.width = width) (act : Act γ width) :
    Turns (perform act) act session := by
  subst wide
  cases act with
  | entities act =>
    have effect := EntityStore.perform_effect sound act
    cases run : EntityStore.perform act session.store with
    | ok answer next =>
      rw [Step.Ends, Step.outcome_of_ok run, Step.left_of_ok run] at effect
      exact Step.ends_of_ok ((perform_entities act session).trans (Step.bind_of_ok (onStore_ok run))) (.done effect)
    | error failure next =>
      rw [Step.Ends, Step.outcome_of_error run, Step.left_of_error run] at effect
      exact Step.ends_of_error ((perform_entities act session).trans (Step.bind_of_error (onStore_error run)))
        (.failed effect)
  | lend =>
    rcases lend_cases session.store with ⟨failure, refused⟩ | ⟨handle, lending, lent⟩
    · exact Step.ends_of_error (Step.bind_of_error (onStore_error refused)) (.refused (by simp))
    · exact Step.ends_of_bind (onStore_ok lent) (.lent lending (List.prefix_append _ _))
  | takeBack holder =>
    apply turns_withHeld
    intro handle _
    rcases takeBack_cases session.store handle with ⟨failure, refused⟩ | ⟨lending, taken⟩
    · exact Step.ends_of_error (Step.bind_of_error (onStore_error refused)) (.refused (by simp))
    · exact Step.ends_of_bind (onStore_ok taken) (.lent lending List.prefix_rfl)
  | bind id holder =>
    apply turns_withHeld
    intro handle held
    cases bound : session.store.bind id handle with
    | error failure =>
      have refused := Step.read_of_error (fun session : EntitySession α γ => session.store.bind id handle) bound
      exact Step.ends_of_error (Step.bind_of_error refused) (.refused (by simp))
    | ok next =>
      have looked := Step.read_of_ok (fun session : EntitySession α γ => session.store.bind id handle) bound
      obtain ⟨slot, found, own, inside, rfl⟩ := bind_ok_cases bound
      exact Step.ends_of_bind looked (.bound held own inside ((sound.paired _ _).mp found))
  | bindSlot slot holder =>
    apply turns_withHeld
    intro handle held
    cases bound : session.store.records.bind slot handle with
    | error failure =>
      have refused := Step.read_of_error
        (fun session : EntitySession α γ => session.store.records.bind slot handle) bound
      exact Step.ends_of_error (Step.bind_of_error refused) (.refused (by simp))
    | ok next =>
      have looked := Step.read_of_ok
        (fun session : EntitySession α γ => session.store.records.bind slot handle) bound
      obtain ⟨own, inside, rfl⟩ := RecordPool.bind_ok_cases bound
      have listed : slot < session.store.directory.ids.size :=
        Nat.lt_of_lt_of_eq inside sound.len_eq.symm
      have here : session.store.idAt slot = some session.store.directory.ids[slot] :=
        Array.getElem?_eq_getElem listed
      apply Step.ends_of_bind looked
      change Turn session _ (.ok ((session.store.idAt slot).toList.map (Event.bound holder))) _
      rw [here]
      exact .bound held own inside here

namespace Turn

variable {session next : EntitySession α γ} {act : Act γ width} {outcome : Except PoolFailure (List Event)}

theorem sound (turn : Turn session act outcome next) (sound : session.store.Sound) : next.store.Sound := by
  cases turn with
  | idle => exact sound
  | refused => exact sound
  | done effect => exact effect.sound sound
  | failed effect => exact effect.sound sound
  | lent => exact ⟨⟨sound.records.slots, sound.records.width, sound.records.fresh⟩, sound.paired, sound.len_eq⟩
  | bound => exact sound

theorem form (turn : Turn session act outcome next) :
    next.store.records.form = session.store.records.form := by
  cases turn with
  | idle => rfl
  | refused => rfl
  | done effect => exact effect.form
  | failed effect => exact effect.form
  | lent => rfl
  | bound => rfl

end Turn

/-! ### Refusals -/

theorem run_sound [Cell γ] (acts : List (Act γ width)) {session : EntitySession α γ}
    (sound : session.store.Sound) (wide : session.store.records.form.width = width) :
    (Step.leftAfter perform acts session).store.Sound ∧
      (Step.leftAfter perform acts session).store.records.form.width = width := by
  induction acts generalizing session with
  | nil => exact ⟨sound, wide⟩
  | cons act rest ih =>
    have turn := perform_turns sound wide act
    exact ih (turn.sound sound) ((congrArg Form.width turn.form).trans wide)

/-- An act that is refused leaves the session as it was, up to the identifier to go on from. The one
exception is the creation at the last identifier: there is none to go on from after it, and by the time
that is found the entity is entered. -/
theorem refused_spares_unless_last [Cell γ] {poolId : Nat} {form : Form γ} {sizing : Sizing}
    {start : EntityStore α γ} (fits : form.fresh.length = form.width)
    (made : EntityStore.make poolId form sizing = .ok start) (held : List Handle)
    (acts : List (Act γ form.width)) {last next : EntitySession α γ}
    (ran : Step.leftAfter perform acts ⟨start, held⟩ = last) {act : Act γ form.width} {reason : Refusal}
    (refused : perform act last = .error (.refused reason) next) :
    (¬(act = .entities .create ∧ last.store.AtLast) ∧
      ∃ raw, next = { last with store := { last.store with nextId := raw } }) ∨
    (act = .entities .create ∧ last.store.AtLast ∧ last.store.contains EntityId.last = false ∧
      reason = .outOfCapacity next.store.records.capacity ∧ next.held = last.held ∧
      last.store.Entered EntityId.last next.store) := by
  obtain ⟨soundStart, formed, _⟩ := EntityStore.sound_make fits made
  have begun : (⟨start, held⟩ : EntitySession α γ).store.Sound := soundStart
  obtain ⟨sound, wide⟩ := run_sound acts begun (congrArg Form.width formed)
  rw [ran] at sound wide
  have turn := perform_turns sound wide act
  rw [Turns, Step.Ends, Step.outcome_of_error refused, Step.left_of_error refused] at turn
  generalize failed : (Failure.refused reason : PoolFailure) = failure at turn
  cases turn with
  | refused other => exact Or.inl ⟨fun both => other both.1, last.store.nextId, rfl⟩
  | failed effect =>
    cases effect with
    | failed raw exempt =>
      refine Or.inl ⟨?_, raw, rfl⟩
      intro both
      exact exempt reason failed.symm ⟨Act.entities.inj both.1, both.2⟩
    | lastCreated atLast vacant entered =>
      exact Or.inr ⟨rfl, atLast, vacant, Failure.refused.inj failed, rfl, entered⟩
    | written shape _ accepted => exact absurd (congrArg Except.error failed.symm) (accepted reason)

def nearLast : List (Act UInt8 1) := [.entities (.createWithId ⟨0xfffffffd⟩)]

theorem last_entered_and_refused :
    ∃ start : EntityStore (FlatSlots UInt8) UInt8,
      EntityStore.make 0 ⟨1, [0]⟩ { initialCapacity := 4, maxCapacity := some 4 } = .ok start ∧
      let session := Step.leftAfter perform nearLast ⟨start, []⟩
      let create : Step PoolFailure _ _ := perform (.entities .create : Act UInt8 1)
      create.outcome session = .error (.refused (.outOfCapacity 4)) ∧ session.store.ids = [⟨0xfffffffd⟩] ∧
        (create.left session).store.ids = [⟨0xfffffffd⟩, ⟨0xfffffffe⟩] := by
  refine ⟨_, rfl, ?_, ?_, ?_⟩
  · decide +kernel
  · decide +kernel
  · decide +kernel

theorem near_last_spares_unless_last :
    ∃ start : EntityStore (FlatSlots UInt8) UInt8,
      EntityStore.make 0 ⟨1, [0]⟩ { initialCapacity := 4, maxCapacity := some 4 } = .ok start ∧
      ∃ last next, Step.leftAfter perform nearLast ⟨start, []⟩ = last ∧
        perform (.entities .create : Act UInt8 1) last = .error (.refused (.outOfCapacity 4)) next ∧
        ((¬((.entities .create : Act UInt8 1) = .entities .create ∧ last.store.AtLast) ∧
          ∃ raw, next = { last with store := { last.store with nextId := raw } }) ∨
        ((.entities .create : Act UInt8 1) = .entities .create ∧ last.store.AtLast ∧
          last.store.contains EntityId.last = false ∧
          Refusal.outOfCapacity 4 = .outOfCapacity next.store.records.capacity ∧ next.held = last.held ∧
          last.store.Entered EntityId.last next.store)) := by
  obtain ⟨start, made, stopped⟩ : ∃ start : EntityStore (FlatSlots UInt8) UInt8,
      EntityStore.make 0 ⟨1, [0]⟩ { initialCapacity := 4, maxCapacity := some 4 } = .ok start ∧
      (perform (.entities .create : Act UInt8 1)).outcome (Step.leftAfter perform nearLast ⟨start, []⟩) =
        .error (.refused (.outOfCapacity 4)) := by
    refine ⟨_, rfl, ?_⟩
    decide +kernel
  have refused := Step.of_outcome_error stopped
  have fits : (Form.mk 1 [(0 : UInt8)]).fresh.length = 1 := rfl
  exact ⟨start, made, _, _, rfl, refused, refused_spares_unless_last fits made [] nearLast rfl refused⟩

end EntitySession

end SpatialStore
