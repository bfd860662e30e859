import SpatialStore.Proofs.Entities.Given
import SpatialStore.Proofs.Entities.Values
import SpatialStore.Proofs.Number.Real
import SpatialStore.Proofs.Spots.Fields

/-! A spot store as a book of spots, one page for each identifier. A page says what was last set, wherever
the removal of other spots has moved the record. The squared radius of a spot is written by two operations,
directly when it is added and from its shape when that is set; over exact numbers both write the same. The book
does not foresee that the last identifier runs out while it is given out: its spot stays though it is refused. -/

namespace SpatialStore

/-- The spot of each identifier, how many spots there are, and how many identifiers were given out. -/
structure SpotBook (S : Type) where
  page : EntityId → Option (Spot S)
  live : Nat
  given : Nat

/-- What a record is before anything was set. -/
def Spot.blank {S : Type} [Scalar S] : Spot S where
  position := Vector.replicate 3 Scalar.zero
  covariance := Vector.replicate 9 Scalar.zero
  squaredRadius := Scalar.zero
  timepoint := 0

theorem Spot.covariance_blank {S : Type} [Scalar S] :
    (Spot.blank : Spot S).covariance = Spot.sphere Scalar.zero := rfl

namespace SpotBook

open SpotStore (Entry)

variable {S : Type}

def empty : SpotBook S := ⟨fun _ => none, 0, 0⟩

def write (book : SpotBook S) (id : EntityId) (page : Option (Spot S)) : SpotBook S :=
  { book with page := Function.update book.page id page }

def add (book : SpotBook S) (spot : Spot S) : SpotBook S :=
  { book.write (EntityId.given book.given) (some spot) with live := book.live + 1, given := book.given + 1 }

def drop (book : SpotBook S) (id : EntityId) : SpotBook S :=
  { book.write id none with live := book.live - 1 }

theorem page_add (book : SpotBook S) (spot : Spot S) :
    (book.add spot).page (EntityId.given book.given) = some spot := Function.update_self _ _ _

theorem write_add (book : SpotBook S) (first second : Spot S) :
    (book.add first).write (EntityId.given book.given) (some second) = book.add second :=
  congrArg (SpotBook.mk · _ _) (Function.update_idem _ _ _)

theorem page_written {book : SpotBook S} {target id : EntityId} {page : Option (Spot S)} {spot : Spot S}
    (kept : (book.write target page).page id = some spot) :
    (id = target ∧ page = some spot) ∨ book.page id = some spot := by
  change Function.update book.page target page id = some spot at kept
  rw [Function.update_apply] at kept
  split at kept
  next here => exact Or.inl ⟨here, kept⟩
  next => exact Or.inr kept

/-- How one entry of a history changes a book, in which there can be `limit` spots. An act that fails changes
nothing. -/
inductive Follows [AnalyticScalar S] (limit : Nat) (book : SpotBook S) : Entry S → SpotBook S → Prop
  | added {timepoint : Int32} {position : Point S 3} {radius : S} (more : book.given + 1 < EntityId.supply)
      (vacant : book.page (EntityId.given book.given) = none) :
      Follows limit book (.add timepoint position radius, .ok (.added (EntityId.given book.given)))
        (book.add
          { position, timepoint, squaredRadius := Scalar.mul radius radius
            covariance := Spot.sphere (Scalar.mul radius radius) })
  | full {timepoint : Int32} {position : Point S 3} {radius : S} (reached : limit ≤ book.live) :
      Follows limit book (.add timepoint position radius, .error (.refused (.outOfCapacity limit))) book
  | spent {timepoint : Int32} {position : Point S 3} {radius : S} {capacity : Nat}
      (out : EntityId.supply ≤ book.given) :
      Follows limit book (.add timepoint position radius, .error (.refused (.outOfCapacity capacity))) book
  | stopped {timepoint : Int32} {position : Point S 3} {radius : S} {fault : Fault} :
      Follows limit book (.add timepoint position radius, .error (.fault fault)) book
  | removed {id : EntityId} {spot : Spot S} {relocation : Option Relocation}
      (kept : book.page id = some spot) :
      Follows limit book (.remove id, .ok (.removed relocation)) (book.drop id)
  | removalUnknown {id : EntityId} (vacant : book.page id = none) :
      Follows limit book (.remove id, .error (.refused (.unknownId id.raw))) book
  | moved {id : EntityId} {spot : Spot S} {position : Point S 3} (kept : book.page id = some spot) :
      Follows limit book (.setPosition id position, .ok .changed) (book.write id (some { spot with position }))
  | moveUnknown {id : EntityId} {position : Point S 3} (vacant : book.page id = none) :
      Follows limit book (.setPosition id position, .error (.refused (.unknownId id.raw))) book
  | reshaped {id : EntityId} {spot : Spot S} {covariance : Vector S 9} (kept : book.page id = some spot) :
      Follows limit book (.setCovariance id covariance, .ok .changed)
        (book.write id (some
          { spot with covariance, squaredRadius := Ellipsoid.largestEigenvalue covariance }))
  | reshapingUnknown {id : EntityId} {covariance : Vector S 9} (vacant : book.page id = none) :
      Follows limit book (.setCovariance id covariance, .error (.refused (.unknownId id.raw))) book

inductive History [AnalyticScalar S] (limit : Nat) : SpotBook S → List (Entry S) → SpotBook S → Prop
  | done {book : SpotBook S} : History limit book [] book
  | next {book middle last : SpotBook S} {entry : Entry S} {rest : List (Entry S)} :
      Follows limit book entry middle → History limit middle rest last →
      History limit book (entry :: rest) last

/-- The one act that changes a book though it fails. After the last identifier there is none to count on to, so that
its spot is refused when it is in the store already, where it stays as a blank one. -/
inductive Exhausts [Scalar S] (book : SpotBook S) : Entry S → SpotBook S → Prop
  | last {timepoint : Int32} {position : Point S 3} {radius : S} {capacity : Nat}
      (ultimate : book.given + 1 = EntityId.supply) (vacant : book.page (EntityId.given book.given) = none) :
      Exhausts book (.add timepoint position radius, .error (.refused (.outOfCapacity capacity)))
        (book.add Spot.blank)

/-- A history in which the identifiers are exhausted, once. -/
inductive Exhaustion [AnalyticScalar S] (limit : Nat) : SpotBook S → List (Entry S) → SpotBook S → Prop
  | within {first book middle last : SpotBook S} {earlier later : List (Entry S)} {entry : Entry S}
      (before : History limit first earlier book) (exhausts : Exhausts book entry middle)
      (after : History limit middle later last) : Exhaustion limit first (earlier ++ entry :: later) last

theorem Follows.given_le [AnalyticScalar S] {limit : Nat} {book next : SpotBook S} {entry : Entry S}
    (follows : Follows limit book entry next) : book.given ≤ next.given ∧ next.given ≤ book.given + 1 := by
  cases follows with
  | added => exact ⟨Nat.le_succ _, Nat.le_refl _⟩
  | _ => exact ⟨Nat.le_refl _, Nat.le_succ _⟩

theorem Follows.eq_of_error [AnalyticScalar S] {limit : Nat} {book next : SpotBook S} {act : SpotStore.Act S}
    {failure : PoolFailure} (follows : Follows limit book (act, .error failure) next) : next = book := by
  cases follows with
  | _ => rfl

theorem History.given_le [AnalyticScalar S] {limit : Nat} {book last : SpotBook S} {entries : List (Entry S)}
    (history : History limit book entries last) :
    book.given ≤ last.given ∧ last.given ≤ book.given + entries.length := by
  induction history with
  | done => exact ⟨Nat.le_refl _, Nat.le_refl _⟩
  | next follows _ ih =>
    have one := follows.given_le
    rw [List.length_cons]
    omega

theorem Exhausts.given_eq [Scalar S] {book next : SpotBook S} {entry : Entry S} (exhausts : Exhausts book entry next) :
    book.given + 1 = EntityId.supply ∧ next.given = EntityId.supply := by
  obtain ⟨ultimate, _⟩ := exhausts
  exact ⟨ultimate, ultimate⟩

theorem Exhausts.refused [Scalar S] {book next : SpotBook S} {entry : Entry S} (exhausts : Exhausts book entry next) :
    (∃ failure, entry.2 = .error failure) ∧ next.live = book.live + 1 := by
  obtain ⟨_, _⟩ := exhausts
  exact ⟨⟨_, rfl⟩, rfl⟩

/-- The identifiers are exhausted only by giving out all of them. -/
theorem Exhaustion.supply_le [AnalyticScalar S] {limit : Nat} {book last : SpotBook S} {entries : List (Entry S)}
    (exhaustion : Exhaustion limit book entries last) :
    book.given < EntityId.supply ∧ EntityId.supply ≤ book.given + entries.length ∧
      last.given ≤ book.given + entries.length := by
  obtain ⟨before, exhausts, after⟩ := exhaustion
  have givenBefore := before.given_le
  have ultimate := exhausts.given_eq
  have givenAfter := after.given_le
  rw [List.length_append, List.length_cons]
  omega

theorem not_exhaustion [AnalyticScalar S] {limit : Nat} {book last : SpotBook S} {entries : List (Entry S)}
    (few : book.given + entries.length < EntityId.supply) : ¬Exhaustion limit book entries last :=
  fun exhaustion => absurd exhaustion.supply_le.2.1 (Nat.not_le_of_lt few)

theorem Exhaustion.next [AnalyticScalar S] {limit : Nat} {book middle last : SpotBook S} {entry : Entry S}
    {rest : List (Entry S)} (follows : Follows limit book entry middle)
    (exhaustion : Exhaustion limit middle rest last) : Exhaustion limit book (entry :: rest) last := by
  obtain ⟨before, exhausts, after⟩ := exhaustion
  exact .within (.next follows before) exhausts after

/-- Every spot has the sphere of its shape. -/
def InShape [AnalyticScalar S] (book : SpotBook S) : Prop :=
  ∀ id spot, book.page id = some spot → spot.squaredRadius = Ellipsoid.largestEigenvalue spot.covariance

theorem InShape.write [AnalyticScalar S] {book : SpotBook S} (shaped : book.InShape) (id : EntityId)
    {page : Option (Spot S)} (shapedPage : ∀ spot ∈ page,
      spot.squaredRadius = Ellipsoid.largestEigenvalue spot.covariance) : (book.write id page).InShape := by
  intro other spot kept
  rcases page_written kept with ⟨_, here⟩ | before
  · exact shapedPage spot here
  · exact shaped other spot before

end SpotBook

/-! ### Spheres of exact numbers -/

section

variable {S : Type} [AnalyticScalar S] [CommRing S] [LinearOrder S] [ExactScalar S]

/-- The shape of a sphere has no coupling, so that its size is read off the diagonal. -/
theorem Ellipsoid.largestEigenvalue_sphere (squaredRadius : S) :
    largestEigenvalue (Spot.sphere squaredRadius) = squaredRadius := by
  have uncoupled : Scalar.le (Scalar.add (Scalar.add (Scalar.mul Scalar.zero Scalar.zero)
      (Scalar.mul Scalar.zero Scalar.zero)) (Scalar.mul Scalar.zero Scalar.zero) : S) Scalar.zero = true := by
    simp only [ExactScalar.le_eq, ExactScalar.add_eq, ExactScalar.mul_eq, ExactScalar.zero_eq]
    simp
  calc largestEigenvalue (Spot.sphere squaredRadius)
      = largestOnDiagonal squaredRadius squaredRadius squaredRadius := if_pos uncoupled
    _ = squaredRadius := by
      rw [largestOnDiagonal, ExactScalar.max_eq, ExactScalar.max_eq, max_self, max_self]

namespace SpotBook

theorem Follows.inShape {limit : Nat} {book next : SpotBook S} {entry : SpotStore.Entry S}
    (follows : Follows limit book entry next) (shaped : book.InShape) : next.InShape := by
  cases follows with
  | full => exact shaped
  | spent => exact shaped
  | stopped => exact shaped
  | removalUnknown => exact shaped
  | moveUnknown => exact shaped
  | reshapingUnknown => exact shaped
  | added =>
    apply shaped.write
    rintro _ ⟨⟩
    exact (Ellipsoid.largestEigenvalue_sphere _).symm
  | removed =>
    apply shaped.write
    rintro _ ⟨⟩
  | moved kept =>
    apply shaped.write
    rintro _ ⟨⟩
    have shapedBefore := shaped _ _ kept
    exact shapedBefore
  | reshaped =>
    apply shaped.write
    rintro _ ⟨⟩
    rfl

theorem History.inShape {limit : Nat} {book last : SpotBook S} {entries : List (SpotStore.Entry S)}
    (history : History limit book entries last) (shaped : book.InShape) : last.InShape := by
  induction history with
  | done => exact shaped
  | next follows _ ih => exact ih (follows.inShape shaped)

theorem Exhausts.inShape {book next : SpotBook S} {entry : SpotStore.Entry S} (exhausts : Exhausts book entry next)
    (shaped : book.InShape) : next.InShape := by
  obtain ⟨_, _⟩ := exhausts
  apply shaped.write
  rintro _ ⟨⟩
  rw [Spot.covariance_blank, Ellipsoid.largestEigenvalue_sphere]
  rfl

theorem Exhaustion.inShape {limit : Nat} {book last : SpotBook S} {entries : List (SpotStore.Entry S)}
    (exhaustion : Exhaustion limit book entries last) (shaped : book.InShape) : last.InShape := by
  obtain ⟨before, exhausts, after⟩ := exhaustion
  exact after.inShape (exhausts.inShape (before.inShape shaped))

end SpotBook

end

/-! ### Spots of real numbers -/

noncomputable instance : Cell (ℝ ⊕ Int32) := ⟨.inl 0⟩

namespace Spot

noncomputable instance : Stored (Spot ℝ) (ℝ ⊕ Int32) where
  width := 14
  fresh := blank
  encode spot :=
    (spot.position.toList ++ spot.covariance.toList ++ [spot.squaredRadius]).map .inl ++ [.inr spot.timepoint]
  decode cells :=
    let number (place : Nat) : ℝ := (cells[place]?.bind Sum.getLeft?).getD 0
    { position := Vector.ofFn fun place => number place
      covariance := Vector.ofFn fun place => number (3 + place)
      squaredRadius := number 12
      timepoint := (cells[13]?.bind Sum.getRight?).getD 0 }

instance : LawfulStored (Spot ℝ) where
  length_encode spot := by simp [Stored.encode, Stored.width]
  decode_encode spot := by
    obtain ⟨position, covariance, squaredRadius, timepoint⟩ := spot
    simp only [Stored.decode, Stored.encode, Spot.mk.injEq]
    refine ⟨?_, ?_, ?_, ?_⟩
    · ext place inside
      simp [List.getElem?_append]
    · ext place inside
      simp [List.getElem?_append]
    · simp
    · simp

end Spot

/-! ### Stores -/

namespace SpotStore

section

variable {α γ β : Type} {step : Step PoolFailure (EntityStore α γ) β} {store : SpotStore α γ}
  {next : EntityStore α γ}

theorem onEntities_ok {answer : β} (run : step store.entities = .ok answer next) :
    onEntities step store = .ok answer ⟨next⟩ := by
  rw [onEntities, Step.within_ok run]

theorem onEntities_error {failure : PoolFailure} (run : step store.entities = .error failure next) :
    onEntities step store = .error failure ⟨next⟩ := by
  rw [onEntities, Step.within_error run]
  rfl

end

variable {α γ S : Type} [SlotStore α γ] [Stored (Spot S) γ]

/-- A store that shows a book. The slots of a timepoint are those that its spots have now. -/
structure Shows (store : SpotStore α γ) (book : SpotBook S) : Prop where
  live : ∀ id, (∃ slot, store.entities.slotOf id = some slot) ↔ ∃ spot, book.page id = some spot
  reads : ∀ id spot, book.page id = some spot → store.get S id = .ok spot
  unknown : ∀ id, book.page id = none → store.get S id = .error (.refused (.unknownId id.raw))
  slots : ∀ timepoint, ∃ slots, store.slotsAt S timepoint = .ok slots ∧ slots.Pairwise (· < ·) ∧
    ∀ slot, slot ∈ slots ↔
      ∃ id spot, store.entities.slotOf id = some slot ∧ book.page id = some spot ∧ spot.timepoint = timepoint
  radii : ∃ radii, store.radii S = .ok radii ∧ ∀ slot entry, radii[slot]? = some entry ↔
    ∃ id spot, store.entities.slotOf id = some slot ∧ book.page id = some spot ∧
      entry = (spot.timepoint, spot.squaredRadius)

theorem chosen_slots {τ : Type} (items : List τ) (chosen : τ → Bool) :
    let slots := (items.zipIdx.filter fun entry => chosen entry.1).map Prod.snd
    slots.Pairwise (· < ·) ∧
      ∀ slot, slot ∈ slots ↔ ∃ item, items[slot]? = some item ∧ chosen item = true := by
  constructor
  · have upwards : (items.zipIdx.map Prod.snd).Pairwise (· < ·) := by
      rw [List.zipIdx_map_snd]
      exact List.pairwise_lt_range'
    exact upwards.sublist (List.filter_sublist.map Prod.snd)
  · intro slot
    simp only [List.mem_map, List.mem_filter, List.mem_zipIdx_iff_getElem?]
    constructor
    · rintro ⟨⟨item, _⟩, ⟨here, wanted⟩, rfl⟩
      exact ⟨item, here, wanted⟩
    · rintro ⟨item, here, wanted⟩
      exact ⟨(item, slot), ⟨here, wanted⟩, rfl⟩

variable [LawfulSlotStore α]

theorem spots_eq {store : SpotStore α γ} (sound : store.entities.Sound) :
    store.spots S = .ok (store.records.items (Spot S)) := RecordPool.values_eq sound.records

/-- A store of so many slots stands for the book of the values in it. -/
structure Stands (limit : Nat) (store : SpotStore α γ) (book : SpotBook S) : Prop where
  sound : store.entities.Sound
  formed : store.records.form = Stored.form (Spot S)
  limited : store.records.slots.limit = limit
  len_eq : store.records.len = book.live
  gave : store.entities.Gave book.given
  values_eq : store.entities.values (Spot S) = book.page

namespace Stands

variable {limit : Nat} {store : SpotStore α γ} {book : SpotBook S}

/-- The spot in a slot is that of the identifier that has the slot. -/
theorem getElem?_spots (stands : store.Stands limit book) (slot : Nat) (spot : Spot S) :
    (store.records.items (Spot S))[slot]? = some spot ↔
      ∃ id, store.entities.slotOf id = some slot ∧ book.page id = some spot := by
  have looked := EntityStore.getElem?_items (τ := Spot S) stands.sound slot
  have paired := stands.sound.paired
  rw [records, looked, Option.bind_eq_some_iff, stands.values_eq]
  constructor
  · rintro ⟨id, here, kept⟩
    exact ⟨id, (paired _ _).mpr here, kept⟩
  · rintro ⟨id, found, kept⟩
    exact ⟨id, (paired _ _).mp found, kept⟩

theorem shows_book (stands : store.Stands limit book) : store.Shows book where
  live id := by
    rcases EntityStore.values_cases (τ := Spot S) stands.sound id with ⟨missing, vacant⟩ |
      ⟨slot, row, found, _, _, kept⟩
    · rw [missing, ← stands.values_eq, vacant]
      simp
    · rw [← stands.values_eq]
      exact ⟨fun _ => ⟨_, kept⟩, fun _ => ⟨_, found⟩⟩
  reads id spot kept := by
    rw [get, EntityStore.get_eq stands.sound, stands.values_eq, kept]
    rfl
  unknown id vacant := by
    rw [get, EntityStore.get_eq stands.sound, stands.values_eq, vacant]
    rfl
  slots timepoint := by
    obtain ⟨upwards, member⟩ := chosen_slots (store.records.items (Spot S))
      fun spot => decide (spot.timepoint = timepoint)
    refine ⟨_, by rw [slotsAt, spots_eq stands.sound]; rfl, upwards, ?_⟩
    intro slot
    rw [member]
    simp only [stands.getElem?_spots, decide_eq_true_eq]
    constructor
    · rintro ⟨spot, ⟨id, found, kept⟩, wanted⟩
      exact ⟨id, spot, found, kept, wanted⟩
    · rintro ⟨id, spot, found, kept, wanted⟩
      exact ⟨spot, ⟨id, found, kept⟩, wanted⟩
  radii := by
    refine ⟨_, by rw [SpotStore.radii, spots_eq stands.sound]; rfl, ?_⟩
    intro slot entry
    rw [List.getElem?_map, Option.map_eq_some_iff]
    constructor
    · rintro ⟨spot, here, rfl⟩
      obtain ⟨id, found, kept⟩ := (stands.getElem?_spots slot spot).mp here
      exact ⟨id, spot, found, kept, rfl⟩
    · rintro ⟨id, spot, found, kept, rfl⟩
      exact ⟨spot, (stands.getElem?_spots slot spot).mpr ⟨id, found, kept⟩, rfl⟩

variable [LawfulStored (Spot S)]

theorem entered (stands : store.Stands limit book) {next : EntityStore α γ}
    (vacant : store.entities.directory.contains (EntityId.given book.given) = false)
    (entered : store.entities.Entered (EntityId.given book.given) next) (gave : next.Gave (book.given + 1)) :
    (⟨next⟩ : SpotStore α γ).Stands limit (book.add (Stored.fresh : Spot S)) := by
  obtain ⟨len, maximum⟩ := entered.room
  have limited := RecordPool.limit_congr stands.sound.records entered.sound.records entered.form maximum
  refine ⟨entered.sound, entered.form.trans stands.formed, limited.trans stands.limited,
    len.trans (congrArg (· + 1) stands.len_eq), gave, ?_⟩
  rw [entered.values_eq stands.sound vacant stands.formed, stands.values_eq]
  rfl

omit [LawfulStored (Spot S)] in
theorem removed (stands : store.Stands limit book) {next : EntityStore α γ} {id : EntityId} {slot : Nat}
    (here : store.entities.idAt slot = some id) (removed : store.entities.Removed slot next) :
    (⟨next⟩ : SpotStore α γ).Stands limit (book.drop id) := by
  obtain ⟨len, maximum⟩ := removed.room
  have limited := RecordPool.limit_congr stands.sound.records removed.sound.records removed.form maximum
  refine ⟨removed.sound, removed.form.trans stands.formed, limited.trans stands.limited,
    len.trans (congrArg (· - 1) stands.len_eq), stands.gave.removed removed, ?_⟩
  rw [EntityStore.values_erase (removed.ledger stands.sound here), stands.values_eq]
  rfl

theorem update_cases (stands : store.Stands limit book) (id : EntityId) (change : Spot S → Spot S) :
    (book.page id = none ∧
      EntityStore.update id change store.entities = .error (.refused (.unknownId id.raw)) store.entities) ∨
    (∃ spot next, book.page id = some spot ∧ EntityStore.update id change store.entities = .ok () next ∧
      (⟨next⟩ : SpotStore α γ).Stands limit (book.write id (some (change spot)))) := by
  rw [← stands.values_eq]
  rcases EntityStore.update_cases stands.sound stands.formed id change with unknown |
    ⟨spot, records, kept, done, sound, formed, len, maximum, values⟩
  · exact Or.inl unknown
  · have limited := RecordPool.limit_congr stands.sound.records sound.records formed maximum
    refine Or.inr ⟨spot, _, kept, done, sound, formed.trans stands.formed, limited.trans stands.limited,
      len.trans stands.len_eq, stands.gave.withRecords records, ?_⟩
    rw [values, stands.values_eq]
    rfl

variable [Cell γ] [AnalyticScalar S]

/-- Adding a spot is turned down, or enters it under the next identifier. If that is the last one, the spot is refused
after it was entered, and before it is set. -/
theorem add_cases (blank : (Stored.fresh : Spot S) = Spot.blank) (stands : store.Stands limit book)
    (timepoint : Int32) (position : Point S 3) (radius : S) :
    (∃ failure, respond (.add timepoint position radius) store = .error failure store ∧
      store.entities.Barred book.given failure) ∨
    (book.page (EntityId.given book.given) = none ∧ ∃ next : SpotStore α γ,
      (book.given + 1 < EntityId.supply ∧
        respond (.add timepoint position radius) store = .ok (.added (EntityId.given book.given)) next ∧
        next.Stands limit (book.add (Spot.ofSphere timepoint position radius))) ∨
      (book.given + 1 = EntityId.supply ∧
        (∃ capacity, respond (.add timepoint position radius) store =
          .error (.refused (.outOfCapacity capacity)) next) ∧
        next.Stands limit (book.add Spot.blank))) := by
  let spot : Spot S := Spot.ofSphere timepoint position radius
  rcases EntityStore.create_given stands.sound stands.gave with ⟨failure, refused, barred⟩ |
    ⟨vacant, entities, entered, gave, created⟩
  · exact Or.inl ⟨failure, Step.bind_of_error (onEntities_error (Step.bind_of_error refused)), barred⟩
  · have standsEntered := stands.entered vacant entered gave
    have free : book.page (EntityId.given book.given) = none := by
      rw [← stands.values_eq, EntityStore.values, EntityStore.ledger_vacant vacant, Option.map_none]
    refine Or.inr ⟨free, ?_⟩
    rcases created with ⟨more, created⟩ | ⟨ultimate, refused⟩
    · rcases standsEntered.update_cases (EntityId.given book.given) (fun _ => spot) with
        ⟨absent, _⟩ | ⟨_, next, _, updated, standsNext⟩
      · cases (book.page_add _).symm.trans absent
      · rw [SpotBook.write_add] at standsNext
        have done : (EntityStore.create >>= fun id =>
            (EntityStore.update id fun _ : Spot S => spot) >>= fun _ => pure id : Step _ _ _)
            store.entities = .ok (EntityId.given book.given) next := by
          rw [Step.bind_of_ok created, Step.bind_of_ok updated]
          rfl
        exact ⟨_, Or.inl ⟨more, Step.bind_of_ok (onEntities_ok done), standsNext⟩⟩
    · refine ⟨_, Or.inr ⟨ultimate, ⟨entities.records.capacity, ?_⟩, blank ▸ standsEntered⟩⟩
      exact Step.bind_of_error (onEntities_error (Step.bind_of_error refused))

omit [LawfulStored (Spot S)] [Cell γ] [AnalyticScalar S] in
theorem remove_cases (stands : store.Stands limit book) (id : EntityId) :
    (book.page id = none ∧ remove id store = .error (.refused (.unknownId id.raw)) store) ∨
    (∃ spot relocation next, book.page id = some spot ∧ remove id store = .ok relocation next ∧
      next.Stands limit (book.drop id)) := by
  rcases EntityStore.values_cases (τ := Spot S) stands.sound id with ⟨missing, vacant⟩ |
    ⟨slot, row, found, here, _, kept⟩
  · rw [stands.values_eq] at vacant
    exact Or.inl ⟨vacant, onEntities_error (EntityStore.remove_unknown missing)⟩
  · rw [stands.values_eq] at kept
    obtain ⟨next, done, removed⟩ := EntityStore.remove_ok stands.sound found
    exact Or.inr ⟨_, _, _, kept, onEntities_ok done, stands.removed here removed⟩

/-- One act changes a store and the book that it stands for alike, or it is to add the last spot. -/
theorem respond_follows (blank : (Stored.fresh : Spot S) = Spot.blank) (stands : store.Stands limit book)
    (act : Act S) :
    ∃ next : SpotBook S, ((respond act).left store).Stands limit next ∧
      (SpotBook.Follows limit book (act, (respond act).outcome store) next ∨
        SpotBook.Exhausts book (act, (respond act).outcome store) next) := by
  change (respond act).Ends store fun outcome left => ∃ next : SpotBook S, left.Stands limit next ∧
    (SpotBook.Follows limit book (act, outcome) next ∨ SpotBook.Exhausts book (act, outcome) next)
  cases act with
  | add timepoint position radius =>
    rcases stands.add_cases blank timepoint position radius with ⟨failure, refused, barred⟩ |
      ⟨vacant, next, ⟨more, done, standsNext⟩ | ⟨ultimate, ⟨capacity, refused⟩, standsNext⟩⟩
    · refine Step.ends_of_error refused ⟨book, stands, Or.inl ?_⟩
      have limited : store.entities.records.slots.limit = limit := stands.limited
      cases barred with
      | full reached =>
        rw [limited] at reached ⊢
        exact .full (reached.trans_eq stands.len_eq)
      | spent out => exact .spent out
      | stopped => exact .stopped
    · exact Step.ends_of_ok done ⟨_, standsNext, Or.inl (.added more vacant)⟩
    · exact Step.ends_of_error refused ⟨_, standsNext, Or.inr (.last ultimate vacant)⟩
  | remove id =>
    rcases stands.remove_cases id with ⟨vacant, unknown⟩ | ⟨spot, relocation, next, kept, done, standsNext⟩
    · exact Step.ends_of_error (Step.bind_of_error unknown) ⟨book, stands, Or.inl (.removalUnknown vacant)⟩
    · exact Step.ends_of_ok (Step.bind_of_ok done) ⟨_, standsNext, Or.inl (.removed kept)⟩
  | setPosition id position =>
    rcases stands.update_cases id (fun spot => spot.withPosition position) with ⟨vacant, unknown⟩ |
      ⟨spot, next, kept, done, standsNext⟩
    · refine Step.ends_of_error (Step.bind_of_error (onEntities_error unknown)) ?_
      exact ⟨book, stands, Or.inl (.moveUnknown vacant)⟩
    · refine Step.ends_of_ok (Step.bind_of_ok (onEntities_ok done)) ?_
      exact ⟨_, standsNext, Or.inl (.moved kept)⟩
  | setCovariance id covariance =>
    rcases stands.update_cases id (fun spot => spot.withCovariance covariance) with ⟨vacant, unknown⟩ |
      ⟨spot, next, kept, done, standsNext⟩
    · refine Step.ends_of_error (Step.bind_of_error (onEntities_error unknown)) ?_
      exact ⟨book, stands, Or.inl (.reshapingUnknown vacant)⟩
    · refine Step.ends_of_ok (Step.bind_of_ok (onEntities_ok done)) ?_
      exact ⟨_, standsNext, Or.inl (.reshaped kept)⟩

theorem run_follows (blank : (Stored.fresh : Spot S) = Spot.blank) (acts : List (Act S))
    (stands : store.Stands limit book) :
    ∃ last : SpotBook S, (Step.leftAfter respond acts store).Stands limit last ∧
      (SpotBook.History limit book (Step.outcomes respond acts store) last ∨
        SpotBook.Exhaustion limit book (Step.outcomes respond acts store) last) := by
  induction acts generalizing store book with
  | nil => exact ⟨book, stands, Or.inl .done⟩
  | cons act rest ih =>
    obtain ⟨middle, standsNext, step⟩ := stands.respond_follows blank act
    obtain ⟨last, standsLast, run⟩ := ih standsNext
    refine ⟨last, standsLast, ?_⟩
    rcases step with follows | exhausts
    · exact run.imp (.next follows) (.next follows)
    · -- There are no identifiers left that could be exhausted again.
      have history := run.resolve_right fun again => by
        have spent := exhausts.given_eq.2
        have left := again.supply_le.1
        omega
      have exhaustion := SpotBook.Exhaustion.within .done exhausts history
      exact Or.inr exhaustion

end Stands

variable [LawfulStored (Spot S)]

theorem stands_make {sizing : Sizing} {start : SpotStore α γ} (made : make S sizing = .ok start) :
    start.Stands start.records.slots.limit (SpotBook.empty : SpotBook S) := by
  obtain ⟨sound, formed, empty, none, gave⟩ := sound_make made
  refine ⟨sound, formed, rfl, none, gave, ?_⟩
  funext id
  rw [EntityStore.values, empty]
  rfl

variable [Cell γ] [AnalyticScalar S]

/-- Whatever is done with a new store, it shows the book that the answers tell of: what was last set is read,
and the slots of a timepoint are those of its spots. Over exact numbers the sphere of every spot in the book is
that of its shape. All this still holds when the identifiers are exhausted, but then the answers do not tell of
one spot. In bytes a run is one of puts of fields. -/
theorem run_shows_book (blank : (Stored.fresh : Spot S) = Spot.blank) {sizing : Sizing}
    {start : SpotStore α γ} (made : make S sizing = .ok start) (acts : List (Act S)) :
    (∃ book : SpotBook S,
      (SpotBook.History start.records.slots.limit SpotBook.empty (Step.outcomes respond acts start) book ∨
        SpotBook.Exhaustion start.records.slots.limit SpotBook.empty (Step.outcomes respond acts start) book) ∧
      (Step.leftAfter respond acts start).Shows book ∧
      ∀ [CommRing S] [LinearOrder S] [ExactScalar S], book.InShape) ∧
    ∀ {β : Type} [SlotStore β UInt8] [LawfulSlotStore β] {bytes : SpotStore β UInt8},
      make Double sizing = .ok bytes → ∀ acts : List (Act Double), bytes.RunsInFields acts := by
  constructor
  · obtain ⟨book, stands, history⟩ := (stands_make made).run_follows blank acts
    refine ⟨book, history, stands.shows_book, ?_⟩
    intro _ _ _
    have shapedEmpty : (SpotBook.empty : SpotBook S).InShape := by rintro _ _ ⟨⟩
    rcases history with history | exhaustion
    · exact history.inShape shapedEmpty
    · exact exhaustion.inShape shapedEmpty
  · intro _ _ _ _ madeBytes actsBytes
    exact runs_in_fields madeBytes actsBytes

variable (S) in
/-- Three spots, of which the first is removed, so that the last one gets its slot, and is then moved and
given another shape. What is asked of the one that is gone is refused. -/
def relocating : List (Act S) :=
  let number : Nat → S := AnalyticScalar.ofNat
  let origin : Point S 3 := #v[number 0, number 0, number 0]
  let coupled : Vector S 9 :=
    #v[number 2, number 1, number 0, number 1, number 2, number 0, number 0, number 0, number 1]
  [.add 1 origin (number 2), .add 2 origin (number 1), .add 1 origin (number 3), .remove ⟨0⟩,
    .setPosition ⟨4⟩ #v[number 7, number 8, number 9], .setCovariance ⟨4⟩ coupled, .setPosition ⟨0⟩ origin]

def relocated : List (Except PoolFailure Answer) :=
  [.ok (.added ⟨0⟩), .ok (.added ⟨2⟩), .ok (.added ⟨4⟩), .ok (.removed (some ⟨2, 0⟩)), .ok .changed,
    .ok .changed, .error (.refused (.unknownId 0))]

theorem relocating_shows_book :
    (∃ start : SpotStore (ChunkedSlots (ℝ ⊕ Int32)) (ℝ ⊕ Int32),
      make ℝ { initialCapacity := 1, chunkSlots := 2 } = .ok start ∧
      (Step.outcomes respond (relocating ℝ) start).map Prod.snd = relocated ∧
      (Step.leftAfter respond (relocating ℝ) start).slotsAt ℝ 1 = .ok [0] ∧
      ∃ book : SpotBook ℝ,
        SpotBook.History start.records.slots.limit SpotBook.empty
          (Step.outcomes respond (relocating ℝ) start) book ∧
        (Step.leftAfter respond (relocating ℝ) start).Shows book ∧ book.InShape) ∧
    (∃ start : SpotStore (FlatSlots UInt8) UInt8, make Double { initialCapacity := 1 } = .ok start ∧
      start.RunsInFields (relocating Double) ∧
      ∃ book : SpotBook Double,
        SpotBook.History start.records.slots.limit SpotBook.empty
          (Step.outcomes respond (relocating Double) start) book ∧
        (Step.leftAfter respond (relocating Double) start).Shows book) := by
  constructor
  · obtain ⟨start, made, answers, slots⟩ : ∃ start : SpotStore (ChunkedSlots (ℝ ⊕ Int32)) (ℝ ⊕ Int32),
        make ℝ { initialCapacity := 1, chunkSlots := 2 } = .ok start ∧
        (Step.outcomes respond (relocating ℝ) start).map Prod.snd = relocated ∧
        (Step.leftAfter respond (relocating ℝ) start).slotsAt ℝ 1 = .ok [0] := by
      refine ⟨_, rfl, ?_, ?_⟩
      · decide +kernel
      · decide +kernel
    obtain ⟨⟨book, history, shown, shaped⟩, _⟩ := run_shows_book rfl made (relocating ℝ)
    have followed := history.resolve_right (SpotBook.not_exhaustion (of_decide_eq_true rfl))
    exact ⟨start, made, answers, slots, book, followed, shown, shaped⟩
  · have made : ∃ start : SpotStore (FlatSlots UInt8) UInt8,
        make Double { initialCapacity := 1 } = .ok start := ⟨_, rfl⟩
    obtain ⟨start, made⟩ := made
    obtain ⟨⟨book, history, shown, _⟩, inFields⟩ := run_shows_book rfl made (relocating Double)
    have followed := history.resolve_right (SpotBook.not_exhaustion (of_decide_eq_true rfl))
    exact ⟨start, made, inFields made (relocating Double), book, followed, shown⟩

end SpotStore

end SpatialStore
