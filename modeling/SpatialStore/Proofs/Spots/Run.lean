import SpatialStore.Spots.Store
import SpatialStore.Proofs.Entities.Given
import SpatialStore.Proofs.Entities.Steady

/-! Runs of a spot store. Each act is one or two acts on the entities, so that what holds of the runs of an
entity store holds of those of a spot store. -/

namespace SpatialStore.SpotStore

open EntitySession (Event)

inductive Act (S : Type)
  | add (timepoint : Int32) (position : Point S 3) (radius : S)
  | remove (id : EntityId)
  | setPosition (id : EntityId) (position : Point S 3)
  | setCovariance (id : EntityId) (covariance : Vector S 9)

inductive Answer
  | added (id : EntityId)
  | removed (relocation : Option Relocation)
  | changed
  deriving DecidableEq

abbrev Entry (S : Type) := Act S × Except PoolFailure Answer

variable {α γ S : Type} {width : Nat} [SlotStore α γ] [Cell γ]

/-- Each act answers with what it has done to entities. -/
def perform [Stored (Spot S) γ] [AnalyticScalar S] : Act S → Step PoolFailure (SpotStore α γ) (List Event)
  | .add timepoint position radius => do
    let _ ← add timepoint position radius
    return []
  | .remove id => fun store => (do
    let relocation ← remove id
    return [.removed id (EntitySession.movedBy store.entities relocation)] : Step _ _ _) store
  | .setPosition id position => do
    setPosition id position
    return []
  | .setCovariance id covariance => do
    setCovariance id covariance
    return []

def respond [Stored (Spot S) γ] [AnalyticScalar S] : Act S → Step PoolFailure (SpotStore α γ) Answer
  | .add timepoint position radius => add timepoint position radius >>= fun id => pure (.added id)
  | .remove id => remove id >>= fun relocation => pure (.removed relocation)
  | .setPosition id position => setPosition id position >>= fun _ => pure .changed
  | .setCovariance id covariance => setCovariance id covariance >>= fun _ => pure .changed

theorem perform_remove [Stored (Spot S) γ] [AnalyticScalar S] (id : EntityId) (store : SpotStore α γ) :
    perform (.remove id : Act S) store =
      (remove id >>= fun relocation =>
        (pure [.removed id (EntitySession.movedBy store.entities relocation)] : Step _ _ _)) store := rfl

theorem left_respond [Stored (Spot S) γ] [AnalyticScalar S] (act : Act S) (store : SpotStore α γ) :
    (respond act).left store = (perform act).left store := by
  cases act with
  | add timepoint position radius => rw [respond, perform, Step.left_bind_pure, Step.left_bind_pure]
  | remove id =>
    rw [Step.left, Step.left, perform_remove, ← Step.left, ← Step.left, respond, Step.left_bind_pure,
      Step.left_bind_pure]
  | setPosition id position => rw [respond, perform, Step.left_bind_pure, Step.left_bind_pure]
  | setCovariance id covariance => rw [respond, perform, Step.left_bind_pure, Step.left_bind_pure]

theorem leftAfter_respond [Stored (Spot S) γ] [AnalyticScalar S] (acts : List (Act S)) (store : SpotStore α γ) :
    Step.leftAfter respond acts store = Step.leftAfter perform acts store := by
  induction acts generalizing store with
  | nil => rfl
  | cons act rest ih => rw [Step.leftAfter, Step.leftAfter, left_respond, ih]

def Keeps [Stored (Spot S) γ] [AnalyticScalar S] (store : SpotStore α γ) (acts : List (Act S)) (slot : Nat) : Prop :=
  ∃ id, store.entities.idAt slot = some id ∧
    (Step.leftAfter perform acts store).entities.idAt slot = some id

/-- Acts on the entities of a store that come to the same. -/
structure Mirrors (acts : List (EntitySession.Act γ width)) (store : SpotStore α γ) (told : List Event)
    (next : SpotStore α γ) : Prop where
  left : Step.leftAfter EntitySession.perform acts ⟨store.entities, []⟩ = ⟨next.entities, []⟩
  reports : Step.reports EntitySession.perform acts ⟨store.entities, []⟩ = told

theorem mirrors_entities (act : EntityStore.Act γ width) (store : SpotStore α γ) :
    Mirrors [.entities act] store
      (EntitySession.toldOf store.entities act ((EntityStore.perform act).outcome store.entities))
      ⟨(EntityStore.perform act).left store.entities⟩ := by
  constructor
  · exact EntitySession.left_entities act ⟨store.entities, []⟩
  · change Step.reported _ ++ [] = _
    rw [List.append_nil]
    exact EntitySession.reported_entities act ⟨store.entities, []⟩

theorem Mirrors.trans {first second third : SpotStore α γ} {told toldNext : List Event}
    {acts actsNext : List (EntitySession.Act γ width)} (before : Mirrors acts first told second)
    (after : Mirrors actsNext second toldNext third) :
    Mirrors (acts ++ actsNext) first (told ++ toldNext) third := by
  constructor
  · rw [Step.leftAfter_append, before.left, after.left]
  · rw [Step.reports_append, before.left, before.reports, after.reports]

variable [Stored (Spot S) γ] [LawfulStored (Spot S)]

omit [Cell γ] in
theorem sound_make [LawfulSlotStore α] {sizing : Sizing} {start : SpotStore α γ}
    (made : make S sizing = .ok start) :
    start.entities.Sound ∧ start.records.form = Stored.form (Spot S) ∧
      start.entities.ledger = Ledger.empty ∧ start.records.len = 0 ∧ start.entities.Gave 0 := by
  unfold make at made
  cases entitiesMade : (EntityStore.make 0 (Stored.form (Spot S)) sizing : Except _ (EntityStore α γ)) with
  | error failure =>
    rw [entitiesMade] at made
    exact nomatch made
  | ok entities =>
    rw [entitiesMade] at made
    obtain rfl := Except.ok.inj made
    have fits : (Stored.form (Spot S) : Form γ).fresh.length = (Stored.form (Spot S) : Form γ).width :=
      LawfulStored.length_encode _
    obtain ⟨sound, formed, empty⟩ := EntityStore.sound_make fits entitiesMade
    obtain ⟨_, _, _, none, _⟩ := RecordPool.sound_make fits (EntityStore.make_cases entitiesMade).1
    exact ⟨sound, formed, empty, none, EntityStore.gave_make entitiesMade⟩

theorem mirrors_update (id : EntityId) (change : Spot S → Spot S) (store : SpotStore α γ) :
    Mirrors [.entities (.write id (.change change))] store []
      ⟨(EntityStore.update id change).left store.entities⟩ := by
  have mirrors := mirrors_entities (.write id (.change change)) store
  rw [EntitySession.toldOf_write, EntityStore.perform_write_change, Step.left_bind_pure] at mirrors
  exact mirrors

variable [AnalyticScalar S]

omit [LawfulStored (Spot S)] in
theorem mirrors_remove (id : EntityId) (store : SpotStore α γ) :
    Mirrors [.entities (.remove id : EntityStore.Act γ width)] store
      (Step.reported ((perform (.remove id : Act S)).outcome store))
      ((perform (.remove id : Act S)).left store) := by
  have mirrors := mirrors_entities (.remove id : EntityStore.Act γ width) store
  rw [EntityStore.perform, Step.outcome_bind_pure, EntitySession.toldOf_removed, Step.left_bind_pure] at mirrors
  rw [Step.outcome, Step.left, perform_remove, ← Step.outcome, ← Step.left, Step.outcome_bind_pure,
    Step.left_bind_pure, remove, onEntities, Step.outcome_within, Step.left_within, Step.map_mapError,
    Step.reported_mapError]
  exact mirrors

theorem exists_mirrors (act : Act S) (store : SpotStore α γ) :
    ∃ acts : List (EntitySession.Act γ (Stored.width (Spot S))),
      Mirrors acts store (Step.reported ((perform act).outcome store)) ((perform act).left store) := by
  cases act with
  | add timepoint position radius =>
    unfold perform
    rw [Step.outcome_bind_pure, Step.reported_map_nil, Step.left_bind_pure, add, onEntities, Step.left_within]
    have created := mirrors_entities (.create : EntityStore.Act γ (Stored.width (Spot S))) store
    cases run : EntityStore.create store.entities with
    | error failure next =>
      have stopped : EntityStore.perform (.create : EntityStore.Act γ (Stored.width (Spot S))) store.entities =
          .error failure next := Step.bind_of_error run
      rw [Step.outcome_of_error stopped, Step.left_of_error stopped] at created
      rw [Step.left_of_error (Step.bind_of_error run)]
      exact ⟨_, created⟩
    | ok id next =>
      have done : EntityStore.perform (.create : EntityStore.Act γ (Stored.width (Spot S))) store.entities =
          .ok (.created id) next := Step.bind_of_ok run
      rw [Step.outcome_of_ok done, Step.left_of_ok done] at created
      rw [Step.left, Step.bind_of_ok run, ← Step.left, Step.left_bind_pure]
      exact ⟨_, created.trans (mirrors_update id _ ⟨next⟩)⟩
  | remove id => exact ⟨_, mirrors_remove id store⟩
  | setPosition id position =>
    unfold perform
    rw [Step.outcome_bind_pure, Step.reported_map_nil, Step.left_bind_pure, setPosition, onEntities,
      Step.left_within]
    exact ⟨_, mirrors_update id _ store⟩
  | setCovariance id covariance =>
    unfold perform
    rw [Step.outcome_bind_pure, Step.reported_map_nil, Step.left_bind_pure, setCovariance, onEntities,
      Step.left_within]
    exact ⟨_, mirrors_update id _ store⟩

/-- Every run of a spot store is a run of its entities. -/
theorem run_mirrors (acts : List (Act S)) (store : SpotStore α γ) :
    ∃ mirror : List (EntitySession.Act γ (Stored.width (Spot S))),
      Mirrors mirror store (Step.reports perform acts store) (Step.leftAfter perform acts store) := by
  induction acts generalizing store with
  | nil => exact ⟨[], rfl, rfl⟩
  | cons act rest ih =>
    obtain ⟨first, mirrors⟩ := exists_mirrors act store
    obtain ⟨second, mirrorsRest⟩ := ih ((perform act).left store)
    exact ⟨first ++ second, mirrors.trans mirrorsRest⟩

variable [LawfulSlotStore α]

theorem run_sound (acts : List (Act S)) {store : SpotStore α γ} (sound : store.entities.Sound)
    (wide : store.records.form.width = Stored.width (Spot S)) :
    (Step.leftAfter perform acts store).entities.Sound ∧
      (Step.leftAfter perform acts store).records.form.width = Stored.width (Spot S) := by
  obtain ⟨mirror, mirrors⟩ := run_mirrors acts store
  have begun : (EntitySession.mk store.entities []).store.Sound := sound
  have kept := EntitySession.run_sound mirror begun wide
  rw [mirrors.left] at kept
  exact kept

theorem modifications_run (acts : List (Act S)) {store : SpotStore α γ} (sound : store.entities.Sound)
    (wide : store.records.form.width = Stored.width (Spot S)) :
    (Step.leftAfter perform acts store).records.modifications =
      store.records.modifications + (Step.reports perform acts store).countP Event.upsets := by
  obtain ⟨mirror, mirrors⟩ := run_mirrors acts store
  have begun : (EntitySession.mk store.entities []).store.Sound := sound
  have retains := EntitySession.run_retains mirror begun wide
  rw [mirrors.left, mirrors.reports] at retains
  exact retains.modifications

theorem keeps_of_steady {store : SpotStore α γ} (sound : store.entities.Sound)
    (wide : store.records.form.width = Stored.width (Spot S)) {acts : List (Act S)}
    (steady : ∀ event ∈ Step.reports perform acts store, event.upsets = false) {slot : Nat}
    (inside : slot < store.records.len) :
    slot < (Step.leftAfter perform acts store).records.len ∧ store.Keeps acts slot := by
  obtain ⟨mirror, mirrors⟩ := run_mirrors acts store
  have begun : (EntitySession.mk store.entities []).store.Sound := sound
  rw [← mirrors.reports] at steady
  have kept := EntitySession.keeps_of_steady begun wide steady inside
  rw [EntitySession.Keeps, mirrors.left] at kept
  exact kept

end SpatialStore.SpotStore
