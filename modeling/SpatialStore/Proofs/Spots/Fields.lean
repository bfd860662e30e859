import SpatialStore.Proofs.Bytes.Packed
import SpatialStore.Proofs.Entities.Values
import SpatialStore.Proofs.Spots.Run

/-! Spots in the bytes of their slots. The fields lie side by side, so that setting one of them in the bytes
sets it in the spot and touches no other. -/

namespace SpatialStore

/-! ### The fields of a spot -/

namespace Spot

def positionField : Field := ⟨.doubles 3, 0⟩

def covarianceField : Field := ⟨.doubles 9, 24⟩

def squaredRadiusField : Field := ⟨.one .double, 96⟩

def timepointField : Field := ⟨.one .int, 104⟩

/-- These are the fields that the layout places. -/
theorem layout_eq :
    layout = ([positionField, covarianceField, squaredRadiusField, timepointField], ⟨108⟩) := rfl

/-- A field of the bytes is where a spot has this part. -/
structure LiesAt (field : Field) (part : Spot Double → field.Value)
    (set : Spot Double → field.Value → Spot Double) : Prop where
  get (spot : Spot Double) : field.get (encode spot) = .ok (part spot)
  put (spot : Spot Double) (value : field.Value) :
    field.put value (encode spot) = .ok () (encode (set spot value))

theorem liesAt_of_split {field : Field} {part : Spot Double → field.Value}
    {set : Spot Double → field.Value → Spot Double} (before after : Spot Double → Bytes)
    (start : ∀ spot, (before spot).length = field.offset)
    (whole : ∀ spot, encode spot = before spot ++ (field.shape.encode (part spot) ++ after spot))
    (changed : ∀ spot value,
      encode (set spot value) = before spot ++ (field.shape.encode value ++ after spot)) :
    LiesAt field part set where
  get spot := by
    rw [whole]
    exact field.get_between (start spot) _ _
  put spot value := by
    rw [whole, changed]
    exact field.put_between (start spot) _ _ _

def front (spot : Spot Double) : Bytes :=
  Doubles.encode spot.position.toList ++ Doubles.encode spot.covariance.toList

def back (spot : Spot Double) : Bytes :=
  Kind.double.encode spot.squaredRadius ++ Kind.int.encode spot.timepoint

theorem encode_eq (spot : Spot Double) : encode spot = spot.front ++ spot.back := by
  rw [front, back, ← List.append_assoc]
  rfl

theorem length_position (spot : Spot Double) : (Doubles.encode spot.position.toList).length = 24 := by
  rw [Doubles.length_encode, Vector.length_toList]
  rfl

theorem length_front (spot : Spot Double) : spot.front.length = 96 := by
  rw [front, List.length_append, length_position, Doubles.length_encode, Vector.length_toList]
  rfl

theorem position_liesAt : LiesAt positionField position withPosition :=
  liesAt_of_split (fun _ => []) (fun spot => Doubles.encode spot.covariance.toList ++ spot.back) (fun _ => rfl)
    (fun _ => (encode_eq _).trans (List.append_assoc _ _ _))
    (fun _ _ => (encode_eq _).trans (List.append_assoc _ _ _))

theorem covariance_liesAt :
    LiesAt covarianceField covariance fun spot covariance => { spot with covariance } :=
  liesAt_of_split (fun spot => Doubles.encode spot.position.toList) back length_position
    (fun _ => (encode_eq _).trans (List.append_assoc _ _ _))
    (fun _ _ => (encode_eq _).trans (List.append_assoc _ _ _))

theorem squaredRadius_liesAt :
    LiesAt squaredRadiusField squaredRadius fun spot squaredRadius => { spot with squaredRadius } :=
  liesAt_of_split front (fun spot => Kind.int.encode spot.timepoint) length_front encode_eq
    (fun _ _ => encode_eq _)

theorem timepoint_liesAt : LiesAt timepointField timepoint fun spot timepoint => { spot with timepoint } :=
  liesAt_of_split (fun spot => spot.front ++ Kind.double.encode spot.squaredRadius) (fun _ => [])
    (fun spot => by rw [List.length_append, length_front, Kind.length_encode]; rfl)
    (fun _ => by rw [List.append_nil]; rfl)
    (fun _ _ => by rw [List.append_nil]; rfl)

instance : PackedStored (Spot Double) where
  encode_decode row long := by
    change row.length = 108 at long
    let position := Doubles.read 3 row
    let covariance := Doubles.read 9 position.2
    let squaredRadius := Kind.double.read covariance.2
    have positionLeft : position.2.length = 84 := by
      change (row.drop 24).length = 84
      rw [List.length_drop, long]
    have covarianceLeft : covariance.2.length = 12 := by
      change (position.2.drop 72).length = 12
      rw [List.length_drop, positionLeft]
    have radiusLeft : squaredRadius.2.length = 4 := by
      rw [Kind.length_read, covarianceLeft]
      rfl
    change Doubles.encode position.1.toList ++ Doubles.encode covariance.1.toList ++
      Kind.double.encode squaredRadius.1 ++ Kind.int.encode (Kind.int.decode squaredRadius.2) = row
    rw [Kind.encode_decode (by decide : Kind.int ≠ .bool) radiusLeft, List.append_assoc,
      Kind.encode_read (by decide : Kind.double ≠ .bool) (covarianceLeft ▸ by decide), List.append_assoc,
      Doubles.encode_read (positionLeft ▸ by decide), Doubles.encode_read (long ▸ by decide)]

def putShape (covariance : Vector Double 9) : Step Fault Bytes Unit := do
  covarianceField.put covariance
  squaredRadiusField.put (Ellipsoid.largestEigenvalue covariance : Double)

def putAll (spot : Spot Double) : Step Fault Bytes Unit := do
  positionField.put spot.position
  covarianceField.put spot.covariance
  squaredRadiusField.put spot.squaredRadius
  timepointField.put spot.timepoint

theorem putShape_encode (spot : Spot Double) (shape : Vector Double 9) :
    putShape shape (encode spot) = .ok () (encode (spot.withCovariance shape)) := by
  rw [putShape, Step.bind_of_ok (covariance_liesAt.put spot shape)]
  exact squaredRadius_liesAt.put _ _

theorem putAll_encode (old spot : Spot Double) : putAll spot (encode old) = .ok () (encode spot) := by
  rw [putAll, Step.bind_of_ok (position_liesAt.put old spot.position),
    Step.bind_of_ok (covariance_liesAt.put _ spot.covariance),
    Step.bind_of_ok (squaredRadius_liesAt.put _ spot.squaredRadius)]
  exact timepoint_liesAt.put _ _

end Spot

/-! ### The fields of the spots in a store -/

namespace SpotStore

variable {α : Type} [SlotStore α UInt8] [LawfulSlotStore α]

omit [SlotStore α UInt8] [LawfulSlotStore α] in
theorem onEntities_congr {β : Type} {first second : Step PoolFailure (EntityStore α UInt8) β}
    {store : SpotStore α UInt8} (same : first store.entities = second store.entities) :
    onEntities first store = onEntities second store := by
  rw [onEntities, onEntities, Step.within, Step.within, same]

theorem encode_of_ledger {entities : EntityStore α UInt8} (sound : entities.Sound)
    (wide : entities.records.form.width = Stored.width (Spot Double)) {id : EntityId} {row : Bytes}
    (kept : entities.ledger id = some row) : ∃ spot : Spot Double, row = Spot.encode spot := by
  rw [EntityStore.ledger, Option.bind_eq_some_iff] at kept
  obtain ⟨slot, _, here⟩ := kept
  have long := RecordPool.length_of_getElem?_records sound.records here
  exact ⟨Stored.decode row, (PackedStored.encode_decode row (long.trans wide)).symm⟩

/-- Changing a spot comes to what a step on its bytes does to every spot. -/
theorem update_eq_edit {entities : EntityStore α UInt8} (sound : entities.Sound)
    (wide : entities.records.form.width = Stored.width (Spot Double)) (id : EntityId)
    {change : Spot Double → Spot Double} {step : Step Fault Bytes Unit}
    (agree : ∀ spot, step (Spot.encode spot) = .ok () (Spot.encode (change spot))) :
    EntityStore.update id change entities = EntityStore.edit id step entities := by
  apply EntityStore.edit_congr sound id
  intro row kept
  obtain ⟨spot, rfl⟩ := encode_of_ledger sound wide kept
  rw [agree]
  change EStateM.Result.ok () (Stored.encode (change (Stored.decode (Stored.encode spot)))) = _
  rw [LawfulStored.decode_encode]
  rfl

theorem getField_eq {store : SpotStore α UInt8} (sound : store.entities.Sound)
    (wide : store.records.form.width = Stored.width (Spot Double)) {field : Field}
    {part : Spot Double → field.Value} {set : Spot Double → field.Value → Spot Double}
    (lies : Spot.LiesAt field part set) (id : EntityId) :
    store.entities.getField id field = (store.get Double id).map part := by
  rcases EntityStore.live_cases sound id with ⟨missing, _⟩ | ⟨slot, row, found, _, _, here, kept⟩
  · rw [EntityStore.getField, get, EntityStore.get, EntityStore.require, missing]
    rfl
  · obtain ⟨spot, rfl⟩ := encode_of_ledger sound wide kept
    have read : store.entities.records.read slot = .ok (Spot.encode spot) := by
      rw [RecordPool.read_eq sound.records, here]
    rw [EntityStore.getField, get, EntityStore.get, EntityStore.require, found]
    change RecordPool.getAt _ _ _ = Except.map part ((store.entities.records.read slot).map Stored.decode)
    rw [RecordPool.getAt, read]
    change (field.get (Spot.encode spot)).mapError Failure.fault =
      .ok (part (Stored.decode (Stored.encode spot)))
    rw [lies.get, LawfulStored.decode_encode]
    rfl

/-- Each act with its answer, as puts of the fields that it sets. -/
def respondInFields : Act Double → Step PoolFailure (SpotStore α UInt8) Answer
  | .add timepoint position radius => onEntities (do
      let id ← EntityStore.create
      EntityStore.edit id (Spot.putAll (Spot.ofSphere timepoint position radius))
      return id) >>= fun id => pure (.added id)
  | .remove id => remove id >>= fun relocation => pure (.removed relocation)
  | .setPosition id position =>
    onEntities (EntityStore.setField id Spot.positionField position) >>= fun _ => pure .changed
  | .setCovariance id covariance =>
    onEntities (EntityStore.edit id (Spot.putShape covariance)) >>= fun _ => pure .changed

theorem respond_eq_inFields {store : SpotStore α UInt8} (sound : store.entities.Sound)
    (wide : store.records.form.width = Stored.width (Spot Double)) (act : Act Double) :
    respond act store = respondInFields act store := by
  cases act with
  | add timepoint position radius =>
    refine Step.bind_congr (onEntities_congr (Step.bind_congr rfl ?_)) fun _ _ _ => rfl
    intro id next created
    have entered := EntityStore.entered_of_create sound created
    have wideNext := (congrArg Form.width entered.form).trans wide
    have same := update_eq_edit entered.sound wideNext id fun old =>
      Spot.putAll_encode old (Spot.ofSphere timepoint position radius)
    exact Step.bind_congr same fun _ _ _ => rfl
  | remove id => rfl
  | setPosition id position =>
    have same := update_eq_edit sound wide id fun spot => Spot.position_liesAt.put spot position
    exact Step.bind_congr (onEntities_congr same) fun _ _ _ => rfl
  | setCovariance id covariance =>
    have same := update_eq_edit sound wide id fun spot => Spot.putShape_encode spot covariance
    exact Step.bind_congr (onEntities_congr same) fun _ _ _ => rfl

theorem run_eq_inFields (acts : List (Act Double)) {store : SpotStore α UInt8} (sound : store.entities.Sound)
    (wide : store.records.form.width = Stored.width (Spot Double)) :
    Step.outcomes respond acts store = Step.outcomes respondInFields acts store ∧
      Step.leftAfter respond acts store = Step.leftAfter respondInFields acts store := by
  induction acts generalizing store with
  | nil => exact ⟨rfl, rfl⟩
  | cons act rest ih =>
    have same := respond_eq_inFields sound wide act
    have kept := run_sound [act] sound wide
    rw [← leftAfter_respond, Step.leftAfter, Step.leftAfter] at kept
    obtain ⟨outcomes, left⟩ := ih kept.1 kept.2
    rw [Step.outcomes, Step.outcomes, Step.leftAfter, Step.leftAfter, outcomes, left, Step.outcome, Step.left, same]
    exact ⟨rfl, rfl⟩

/-- In the bytes of a store every run is one of puts of fields, and every part of a spot is read from its field
alone. -/
structure RunsInFields (start : SpotStore α UInt8) (acts : List (Act Double)) : Prop where
  outcomes : Step.outcomes respond acts start = Step.outcomes respondInFields acts start
  left : Step.leftAfter respond acts start = Step.leftAfter respondInFields acts start
  position : ∀ id, (Step.leftAfter respond acts start).entities.getField id Spot.positionField =
    ((Step.leftAfter respond acts start).get Double id).map Spot.position
  covariance : ∀ id, (Step.leftAfter respond acts start).entities.getField id Spot.covarianceField =
    ((Step.leftAfter respond acts start).get Double id).map Spot.covariance
  squaredRadius : ∀ id, (Step.leftAfter respond acts start).entities.getField id Spot.squaredRadiusField =
    ((Step.leftAfter respond acts start).get Double id).map Spot.squaredRadius
  timepoint : ∀ id, (Step.leftAfter respond acts start).entities.getField id Spot.timepointField =
    ((Step.leftAfter respond acts start).get Double id).map Spot.timepoint

theorem runs_in_fields {sizing : Sizing} {start : SpotStore α UInt8} (made : make Double sizing = .ok start)
    (acts : List (Act Double)) : start.RunsInFields acts := by
  obtain ⟨soundStart, formed, _⟩ := sound_make made
  obtain ⟨outcomes, left⟩ := run_eq_inFields acts soundStart (congrArg Form.width formed)
  obtain ⟨sound, wide⟩ := run_sound acts soundStart (congrArg Form.width formed)
  rw [← leftAfter_respond] at sound wide
  exact ⟨outcomes, left, getField_eq sound wide Spot.position_liesAt, getField_eq sound wide Spot.covariance_liesAt,
    getField_eq sound wide Spot.squaredRadius_liesAt, getField_eq sound wide Spot.timepoint_liesAt⟩

end SpotStore

end SpatialStore
