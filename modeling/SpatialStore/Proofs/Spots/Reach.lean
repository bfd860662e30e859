import SpatialStore.Spots.Reach
import SpatialStore.Proofs.Number.Greatest
import SpatialStore.Proofs.Spots.Book

/-! How far spots reach. Rebuilt from a store, the reach of a timepoint is the largest sphere among its spots, in
whatever order they are gone through. From then on it is a bound for all spots whose spheres have been reported since
they were set: a report never lowers it, and nothing else changes it. -/

namespace SpatialStore

namespace Reach

variable {S : Type}

def radiiAt (radii : List (Int32 × S)) (timepoint : Int32) : List S :=
  (radii.filter fun entry => entry.1 = timepoint).map Prod.snd

theorem mem_radiiAt {radii : List (Int32 × S)} {timepoint : Int32} {squaredRadius : S} :
    squaredRadius ∈ radiiAt radii timepoint ↔ (timepoint, squaredRadius) ∈ radii := by
  simp [radiiAt]

theorem radiiAt_concat (radii : List (Int32 × S)) (entry : Int32 × S) (timepoint : Int32) :
    radiiAt (radii ++ [entry]) timepoint =
      if entry.1 = timepoint then radiiAt radii timepoint ++ [entry.2] else radiiAt radii timepoint := by
  rw [radiiAt, List.filter_append, List.map_append]
  by_cases here : entry.1 = timepoint
  · rw [if_pos here, List.filter_cons_of_pos (by simpa using here)]
    rfl
  · rw [if_neg here, List.filter_cons_of_neg (by simpa using here)]
    exact List.append_nil _

variable [Scalar S]

theorem largestAt_report (reach : Reach S) (timepoint other : Int32) (squaredRadius : S) :
    (reach.report timepoint squaredRadius).largestAt other =
      if timepoint = other then some (Scalar.max ((reach.largestAt other).getD squaredRadius) squaredRadius)
      else reach.largestAt other := by
  rw [largestAt, report, Std.TreeMap.getElem?_insert]
  by_cases same : timepoint = other
  · subst same
    rw [if_pos Std.compare_self, if_pos rfl]
    rfl
  · rw [if_neg (by simpa using same), if_neg same]
    rfl

theorem ofRadii_concat (radii : List (Int32 × S)) (entry : Int32 × S) :
    ofRadii (radii ++ [entry]) = (ofRadii radii).report entry.1 entry.2 := List.foldl_concat ..

/-- A sphere that is within the reach of its timepoint. -/
def Covers (reach : Reach S) (timepoint : Int32) (squaredRadius : S) : Prop :=
  ∃ largest, reach.largestAt timepoint = some largest ∧ Scalar.le squaredRadius largest = true

/-- What was reported were numbers. -/
def Numeric (reach : Reach S) : Prop :=
  ∀ timepoint largest, reach.largestAt timepoint = some largest → Scalar.IsNumber largest

variable [SelectiveScalar S] [ComparableScalar S]

omit [ComparableScalar S] in
theorem Numeric.report {reach : Reach S} (numeric : reach.Numeric) {timepoint : Int32} {squaredRadius : S}
    (isNumber : Scalar.IsNumber squaredRadius) : (reach.report timepoint squaredRadius).Numeric := by
  intro other largest found
  rw [largestAt_report] at found
  split at found
  next =>
    obtain rfl := Option.some.inj found
    apply Scalar.isNumber_max _ isNumber
    cases held : reach.largestAt other with
    | none => exact isNumber
    | some before => exact numeric other before held
  next => exact numeric other largest found

omit [SelectiveScalar S] in
/-- A report covers what it reports and uncovers nothing. -/
theorem Numeric.covers_report {reach : Reach S} (numeric : reach.Numeric) (timepoint : Int32) {squaredRadius : S}
    (isNumber : Scalar.IsNumber squaredRadius) :
    (reach.report timepoint squaredRadius).Covers timepoint squaredRadius ∧
      ∀ other radius, reach.Covers other radius → (reach.report timepoint squaredRadius).Covers other radius := by
  constructor
  · refine ⟨_, by rw [largestAt_report, if_pos rfl], ?_⟩
    cases held : reach.largestAt timepoint with
    | none => exact (ComparableScalar.le_max isNumber isNumber).2
    | some before => exact (ComparableScalar.le_max (numeric timepoint before held) isNumber).2
  · rintro other radius ⟨largest, found, below⟩
    rw [Covers, largestAt_report]
    split
    next =>
      rw [found, Option.getD_some]
      have kept := (ComparableScalar.le_max (ComparableScalar.isNumber_right below) isNumber).1
      exact ⟨_, rfl, ComparableScalar.le_trans below kept⟩
    next => exact ⟨largest, found, below⟩

/-- The reach of a timepoint is the greatest of its squared radii. -/
theorem greatest_ofRadii {radii : List (Int32 × S)} (numbers : ∀ entry ∈ radii, Scalar.IsNumber entry.2)
    (timepoint : Int32) : Scalar.Greatest (radiiAt radii timepoint) ((ofRadii radii).largestAt timepoint) := by
  induction radii using List.reverseRecOn with
  | nil =>
    have nothing : (ofRadii ([] : List (Int32 × S))).largestAt timepoint = none := Std.TreeMap.getElem?_emptyc
    rw [nothing]
    rfl
  | append_singleton radii entry ih =>
    have before := ih fun other member => numbers other (List.mem_append_left _ member)
    have isNumber := numbers entry (List.mem_append_right _ (List.mem_singleton_self entry))
    rw [radiiAt_concat, ofRadii_concat, largestAt_report]
    split
    next => exact before.concat isNumber
    next => exact before

theorem numeric_ofRadii {radii : List (Int32 × S)} (numbers : ∀ entry ∈ radii, Scalar.IsNumber entry.2) :
    (ofRadii radii).Numeric := by
  intro timepoint largest found
  have greatest := greatest_ofRadii numbers timepoint
  rw [found] at greatest
  exact numbers (timepoint, largest) (mem_radiiAt.mp greatest.1)

theorem covers_ofRadii {radii : List (Int32 × S)} (numbers : ∀ entry ∈ radii, Scalar.IsNumber entry.2)
    {timepoint : Int32} {squaredRadius : S} (member : (timepoint, squaredRadius) ∈ radii) :
    (ofRadii radii).Covers timepoint squaredRadius :=
  (greatest_ofRadii numbers timepoint).above (mem_radiiAt.mpr member)

theorem greatest_ofRadii_perm {radii others : List (Int32 × S)}
    (numbers : ∀ entry ∈ radii, Scalar.IsNumber entry.2) (perm : others.Perm radii) (timepoint : Int32) :
    Scalar.Greatest (radiiAt radii timepoint) ((ofRadii others).largestAt timepoint) := by
  have greatest := greatest_ofRadii (fun entry member => numbers entry (perm.mem_iff.mp member)) timepoint
  refine greatest.congr ?_
  intro number
  rw [mem_radiiAt, mem_radiiAt, perm.mem_iff]

end Reach

namespace SpotBook

variable {S : Type}

/-- A spot keeps its sphere in every act, unless it is added or given another shape. -/
theorem Follows.sphere [AnalyticScalar S] {limit : Nat} {book next : SpotBook S} {entry : SpotStore.Entry S}
    (follows : Follows limit book entry next) {id : EntityId} {spot : Spot S} (kept : next.page id = some spot) :
    (∃ old, book.page id = some old ∧ old.timepoint = spot.timepoint ∧ old.squaredRadius = spot.squaredRadius) ∨
    (∃ timepoint position radius, entry = (.add timepoint position radius, .ok (.added id))) ∨
    (∃ covariance, entry.1 = .setCovariance id covariance) := by
  have same : book.page id = some spot → ∃ old, book.page id = some old ∧
      old.timepoint = spot.timepoint ∧ old.squaredRadius = spot.squaredRadius := fun here => ⟨spot, here, rfl, rfl⟩
  cases follows with
  | full => exact Or.inl (same kept)
  | spent => exact Or.inl (same kept)
  | stopped => exact Or.inl (same kept)
  | removalUnknown => exact Or.inl (same kept)
  | moveUnknown => exact Or.inl (same kept)
  | reshapingUnknown => exact Or.inl (same kept)
  | added =>
    rcases page_written kept with ⟨rfl, _⟩ | before
    · exact Or.inr (Or.inl ⟨_, _, _, rfl⟩)
    · exact Or.inl (same before)
  | removed =>
    rcases page_written kept with ⟨_, gone⟩ | before
    · exact nomatch gone
    · exact Or.inl (same before)
  | moved here =>
    rcases page_written kept with ⟨rfl, page⟩ | before
    · obtain rfl := Option.some.inj page
      exact Or.inl ⟨_, here, rfl, rfl⟩
    · exact Or.inl (same before)
  | reshaped =>
    rcases page_written kept with ⟨rfl, _⟩ | before
    · exact Or.inr (Or.inr ⟨_, rfl⟩)
    · exact Or.inl (same before)

theorem Exhausts.spot [Scalar S] {book next : SpotBook S} {entry : SpotStore.Entry S}
    (exhausts : Exhausts book entry next) {id : EntityId} {spot : Spot S} (kept : next.page id = some spot) :
    book.page id = some spot ∨ (id = EntityId.last ∧ spot = Spot.blank) := by
  obtain ⟨ultimate, _⟩ := exhausts
  rcases page_written kept with ⟨rfl, page⟩ | before
  · exact Or.inr ⟨EntityId.given_of_ultimate ultimate, (Option.some.inj page).symm⟩
  · exact Or.inl before

end SpotBook

end SpatialStore
