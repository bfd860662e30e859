import SpatialStore.Proofs.Entities.Session

/-! Entities that keep their slots. The count of modifications of the records tells whether any entity was
removed or dropped, and as long as none was, every entity is in its slot. -/

namespace SpatialStore.EntitySession

variable {α γ : Type} {width : Nat}

def Event.upsets : Event → Bool
  | .bound _ _ => false
  | .removed _ _ => true
  | .cleared => true

/-- What there is of a session after it was done something to: with these events, any entity that was
neither removed nor dropped is where it was. -/
structure Retains (session : EntitySession α γ) (told : List Event) (next : EntitySession α γ) : Prop where
  modifications : next.store.records.modifications =
    session.store.records.modifications + told.countP Event.upsets
  ids : (∀ event ∈ told, event.upsets = false) → session.store.ids <+: next.store.ids

theorem Retains.trans {first second third : EntitySession α γ} {told toldNext : List Event}
    (before : Retains first told second) (after : Retains second toldNext third) :
    Retains first (told ++ toldNext) third := by
  constructor
  · rw [after.modifications, before.modifications, List.countP_append, Nat.add_assoc]
  · intro steady
    exact (before.ids fun event member => steady event (List.mem_append_left _ member)).trans
      (after.ids fun event member => steady event (List.mem_append_right _ member))

variable [SlotStore α γ] [LawfulSlotStore α]

theorem retains_entered {store next : EntityStore α γ} {id : EntityId} (entered : store.Entered id next)
    (held : List Handle) : Retains ⟨store, held⟩ [] ⟨next, held⟩ := by
  obtain ⟨cells, shape⟩ := entered.shape
  constructor
  · rw [shape]
    rfl
  · intro _
    change store.directory.ids.toList <+: next.directory.ids.toList
    rw [entered.ids, Array.toList_push]
    exact List.prefix_append _ _

theorem effect_retains {store next : EntityStore α γ} {act : EntityStore.Act γ width}
    {outcome : Except PoolFailure EntityStore.Answer} (effect : store.Effect (act, outcome) next)
    (held : List Handle) : Retains ⟨store, held⟩ (toldOf store act outcome) ⟨next, held⟩ := by
  cases effect with
  | failed raw => exact ⟨rfl, fun _ => List.prefix_rfl⟩
  | created _ entered =>
    rw [toldOf_created]
    exact retains_entered entered held
  | lastCreated _ _ entered => exact retains_entered entered held
  | removed _ removed =>
    obtain ⟨cells, shape⟩ := removed.shape
    refine ⟨?_, fun steady => nomatch steady _ List.mem_cons_self⟩
    rw [shape]
    rfl
  | written shape =>
    rw [toldOf_write, shape]
    exact ⟨rfl, fun _ => List.prefix_rfl⟩
  | cleared => exact ⟨rfl, fun steady => nomatch steady _ List.mem_cons_self⟩

theorem Turn.retains {session next : EntitySession α γ} {act : Act γ width}
    {outcome : Except PoolFailure (List Event)} (turn : Turn session act outcome next) :
    Retains session (Step.reported outcome) next := by
  cases turn with
  | idle => exact ⟨rfl, fun _ => List.prefix_rfl⟩
  | refused => exact ⟨rfl, fun _ => List.prefix_rfl⟩
  | done effect => exact effect_retains effect session.held
  | failed effect => exact effect_retains effect session.held
  | lent => exact ⟨rfl, fun _ => List.prefix_rfl⟩
  | bound => exact ⟨rfl, fun _ => List.prefix_rfl⟩

theorem run_retains [Cell γ] (acts : List (Act γ width)) {session : EntitySession α γ}
    (sound : session.store.Sound) (wide : session.store.records.form.width = width) :
    Retains session (Step.reports perform acts session) (Step.leftAfter perform acts session) := by
  induction acts generalizing session with
  | nil => exact ⟨rfl, fun _ => List.prefix_rfl⟩
  | cons act rest ih =>
    have turn := perform_turns sound wide act
    exact turn.retains.trans (ih (turn.sound sound) ((congrArg Form.width turn.form).trans wide))

def Keeps [Cell γ] (session : EntitySession α γ) (acts : List (Act γ width)) (slot : Nat) : Prop :=
  ∃ id, session.store.idAt slot = some id ∧ (Step.leftAfter perform acts session).store.idAt slot = some id

theorem keeps_of_steady [Cell γ] {session : EntitySession α γ} (sound : session.store.Sound)
    (wide : session.store.records.form.width = width) {acts : List (Act γ width)}
    (steady : ∀ event ∈ Step.reports perform acts session, event.upsets = false) {slot : Nat}
    (inside : slot < session.store.records.len) :
    slot < (Step.leftAfter perform acts session).store.records.len ∧ session.Keeps acts slot := by
  obtain ⟨more, longer⟩ := (run_retains acts sound wide).ids steady
  have soundLast := (run_sound acts sound wide).1
  have listed (store : EntityStore α γ) : store.ids[slot]? = store.idAt slot := Directory.getElem?_ids _ _
  rw [← RecordPool.length_records, ← EntityStore.length_ids sound] at inside
  have here : session.store.ids[slot]? = some session.store.ids[slot] := List.getElem?_eq_getElem inside
  have there : (Step.leftAfter perform acts session).store.ids[slot]? = some session.store.ids[slot] := by
    rw [← longer]
    exact (List.getElem?_append_left inside).trans here
  refine ⟨?_, _, (listed _).symm.trans here, (listed _).symm.trans there⟩
  rw [← RecordPool.length_records, ← EntityStore.length_ids soundLast]
  exact (List.getElem?_eq_some_iff.mp there).1

end SpatialStore.EntitySession
