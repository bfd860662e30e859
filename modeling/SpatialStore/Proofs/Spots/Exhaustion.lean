import SpatialStore.Proofs.Spots.Book

/-! Stores whose identifiers are exhausted. A store with room for one spot comes to it by adding and removing them
one after another. The last one is then refused, and stays in the store as a blank spot that no book has. -/

namespace SpatialStore

namespace SpotBook

variable {S : Type}

def vacated (given : Nat) : SpotBook S := ⟨fun _ => none, 0, given⟩

theorem drop_add_vacated (count : Nat) (spot : Spot S) :
    ((vacated count).add spot).drop (EntityId.given count) = vacated (count + 1) := by
  have page : Function.update (Function.update (fun _ => none) (EntityId.given count) (some spot))
      (EntityId.given count) none = fun _ => none := by
    rw [Function.update_idem, Function.update_eq_self]
  exact congrArg (SpotBook.mk · 0 (count + 1)) page

variable [AnalyticScalar S] {limit : Nat} {book next : SpotBook S}

/-- No answer tells of a spot under the last identifier. -/
theorem Follows.page_last {entry : SpotStore.Entry S} (follows : Follows limit book entry next)
    (vacant : book.page EntityId.last = none) : next.page EntityId.last = none := by
  have absent : ∀ spot, book.page EntityId.last ≠ some spot := Option.eq_none_iff_forall_ne_some.mp vacant
  refine Option.eq_none_iff_forall_ne_some.mpr fun spot kept => ?_
  cases follows with
  | full => exact absent _ kept
  | spent => exact absent _ kept
  | stopped => exact absent _ kept
  | removalUnknown => exact absent _ kept
  | moveUnknown => exact absent _ kept
  | reshapingUnknown => exact absent _ kept
  | added more =>
    rcases page_written kept with ⟨same, _⟩ | before
    · exact EntityId.given_ne_last more same.symm
    · exact absent _ before
  | removed =>
    rcases page_written kept with ⟨_, gone⟩ | before
    · exact nomatch gone
    · exact absent _ before
  | moved here =>
    rcases page_written kept with ⟨rfl, _⟩ | before
    · exact absent _ here
    · exact absent _ before
  | reshaped here =>
    rcases page_written kept with ⟨rfl, _⟩ | before
    · exact absent _ here
    · exact absent _ before

theorem History.page_last {entries : List (SpotStore.Entry S)} (history : History limit book entries next)
    (vacant : book.page EntityId.last = none) : next.page EntityId.last = none := by
  induction history with
  | done => exact vacant
  | next follows _ ih => exact ih (follows.page_last vacant)

end SpotBook

namespace SpotStore

variable {γ S : Type} [Cell γ] [AnalyticScalar S] [Stored (Spot S) γ]

variable (S) in
/-- Adds and removes so many spots, one after the other. -/
def spending : Nat → List (Act S)
  | 0 => []
  | count + 1 => spending count ++ [.add 0 (Vector.replicate 3 Scalar.zero) Scalar.zero, .remove (EntityId.given count)]

variable (S) in
def another : Act S := .add 5 (Vector.replicate 3 Scalar.zero) (AnalyticScalar.ofNat 2)

variable (S) in
def exhausting : List (Act S) := spending S (EntityId.supply - 1) ++ [another S]

variable {limit : Nat} {store start : SpotStore (FlatSlots γ) γ} {book : SpotBook S}

namespace Stands

omit [AnalyticScalar S] in
theorem not_barred (stands : store.Stands limit book) (room : book.live < limit)
    (more : book.given < EntityId.supply) (failure : PoolFailure) : ¬store.entities.Barred book.given failure := by
  intro barred
  have limited : store.entities.records.slots.limit = limit := stands.limited
  have len : store.entities.records.len = book.live := stands.len_eq
  cases barred with
  | full reached => omega
  | spent out => omega
  | stopped failed =>
    rcases SlotPool.allocate_spec stands.sound.records.slots with ⟨_, _, refused⟩ | ⟨_, _, _, stuck, _⟩ |
      ⟨_, _, taken, _⟩
    · exact nomatch refused.symm.trans failed
    · exact nomatch stuck.symm.trans (FlatSlots.resize_ok (SlotPool.enlarged_fits _))
    · exact nomatch taken.symm.trans failed

variable [LawfulStored (Spot S)]

theorem vacated_next (blank : (Stored.fresh : Spot S) = Spot.blank) {count : Nat}
    (stands : store.Stands limit (SpotBook.vacated count : SpotBook S)) (room : 0 < limit)
    (more : count + 1 < EntityId.supply) (timepoint : Int32) (position : Point S 3) (radius : S) :
    (Step.leftAfter respond [.add timepoint position radius, .remove (EntityId.given count)] store).Stands limit
      (SpotBook.vacated (count + 1) : SpotBook S) := by
  rcases stands.add_cases blank timepoint position radius with ⟨failure, _, barred⟩ |
    ⟨_, next, ⟨_, added, standsNext⟩ | ⟨ultimate, _⟩⟩
  · exact absurd barred (stands.not_barred room (Nat.lt_of_succ_lt more) failure)
  · rcases standsNext.remove_cases (EntityId.given count) with ⟨vacant, _⟩ | ⟨_, _, last, _, removed, standsLast⟩
    · exact nomatch vacant.symm.trans (SpotBook.page_add _ _)
    · have gone : respond (.remove (EntityId.given count) : Act S) next = .ok (.removed _) last :=
        Step.bind_of_ok removed
      rw [Step.leftAfter, Step.left_of_ok added, Step.leftAfter, Step.left_of_ok gone, Step.leftAfter,
        ← SpotBook.drop_add_vacated]
      exact standsLast
  · exact absurd ultimate (Nat.ne_of_lt more)

/-- The identifiers are used up though the store is empty. -/
theorem vacated_spending (blank : (Stored.fresh : Spot S) = Spot.blank)
    (stands : start.Stands limit (SpotBook.empty : SpotBook S)) (room : 0 < limit) {count : Nat}
    (more : count < EntityId.supply) :
    (Step.leftAfter respond (spending S count) start).Stands limit (SpotBook.vacated count : SpotBook S) := by
  induction count with
  | zero => exact stands
  | succ count ih =>
    rw [spending, Step.leftAfter_append]
    exact (ih (Nat.lt_of_succ_lt more)).vacated_next blank room more _ _ _

/-- The last spot is refused, and the store has it as a blank one. -/
theorem add_last (blank : (Stored.fresh : Spot S) = Spot.blank) {count : Nat}
    (stands : store.Stands limit (SpotBook.vacated count : SpotBook S)) (room : 0 < limit)
    (ultimate : count + 1 = EntityId.supply) :
    (∃ capacity, (respond (another S)).outcome store = .error (.refused (.outOfCapacity capacity))) ∧
      ((respond (another S)).left store).get S EntityId.last = .ok Spot.blank := by
  have left : count < EntityId.supply := Nat.lt_of_succ_le (Nat.le_of_eq ultimate)
  rcases stands.add_cases blank 5 (Vector.replicate 3 Scalar.zero) (AnalyticScalar.ofNat 2) with
    ⟨failure, _, barred⟩ | ⟨_, next, ⟨more, _⟩ | ⟨_, ⟨capacity, refused⟩, standsNext⟩⟩
  · exact absurd barred (stands.not_barred room left failure)
  · exact absurd ultimate (Nat.ne_of_lt more)
  · have last : (respond (another S)).left store = next := Step.left_of_error refused
    refine ⟨⟨capacity, Step.outcome_of_error refused⟩, ?_⟩
    rw [last, ← EntityId.given_of_ultimate ultimate]
    exact standsNext.shows_book.reads _ _ (SpotBook.page_add _ _)

end Stands

theorem supply_ultimate : EntityId.supply - 1 + 1 = EntityId.supply := Nat.sub_add_cancel (by decide)

variable [LawfulStored (Spot S)]

theorem stands_spending (blank : (Stored.fresh : Spot S) = Spot.blank) {sizing : Sizing}
    (made : make S sizing = .ok start) (room : 0 < start.records.slots.limit) :
    (Step.leftAfter respond (spending S (EntityId.supply - 1)) start).Stands start.records.slots.limit
      (SpotBook.vacated (EntityId.supply - 1) : SpotBook S) :=
  (stands_make made).vacated_spending blank room (Nat.lt_of_succ_le (Nat.le_of_eq supply_ultimate))

theorem get_exhausting (blank : (Stored.fresh : Spot S) = Spot.blank) {sizing : Sizing}
    (made : make S sizing = .ok start) (room : 0 < start.records.slots.limit) :
    (Step.leftAfter respond (exhausting S) start).get S EntityId.last = .ok Spot.blank := by
  rw [exhausting, Step.leftAfter_append]
  exact ((stands_spending blank made room).add_last blank room supply_ultimate).2

/-- The answers tell of no spot under the last identifier, where the store has one. -/
theorem no_book_exhausting (blank : (Stored.fresh : Spot S) = Spot.blank) {sizing : Sizing}
    (made : make S sizing = .ok start) (room : 0 < start.records.slots.limit) :
    ¬∃ book : SpotBook S,
      SpotBook.History start.records.slots.limit SpotBook.empty (Step.outcomes respond (exhausting S) start) book ∧
      (Step.leftAfter respond (exhausting S) start).Shows book := by
  rintro ⟨book, history, shows⟩
  have unknown := shows.unknown EntityId.last (history.page_last rfl)
  exact nomatch (get_exhausting blank made room).symm.trans unknown

theorem exists_roomy : ∃ start : SpotStore (FlatSlots UInt8) UInt8,
    make Double { initialCapacity := 1 } = .ok start ∧ 0 < start.records.slots.limit :=
  ⟨_, rfl, by decide +kernel⟩

theorem exhausting_shows_no_book :
    (∃ start : SpotStore (FlatSlots (ℝ ⊕ Int32)) (ℝ ⊕ Int32), make ℝ { initialCapacity := 1 } = .ok start ∧
      ¬∃ book : SpotBook ℝ,
        SpotBook.History start.records.slots.limit SpotBook.empty
          (Step.outcomes respond (exhausting ℝ) start) book ∧
        (Step.leftAfter respond (exhausting ℝ) start).Shows book) ∧
    (∃ start : SpotStore (FlatSlots UInt8) UInt8, make Double { initialCapacity := 1 } = .ok start ∧
      (∃ capacity, (respond (another Double)).outcome
        (Step.leftAfter respond (spending Double (EntityId.supply - 1)) start) =
          .error (.refused (.outOfCapacity capacity))) ∧
      (Step.leftAfter respond (exhausting Double) start).get Double EntityId.last = .ok Spot.blank ∧
      ¬∃ book : SpotBook Double,
        SpotBook.History start.records.slots.limit SpotBook.empty
          (Step.outcomes respond (exhausting Double) start) book ∧
        (Step.leftAfter respond (exhausting Double) start).Shows book) := by
  constructor
  · obtain ⟨start, made, room⟩ : ∃ start : SpotStore (FlatSlots (ℝ ⊕ Int32)) (ℝ ⊕ Int32),
        make ℝ { initialCapacity := 1 } = .ok start ∧ 0 < start.records.slots.limit :=
      ⟨_, rfl, by decide +kernel⟩
    exact ⟨start, made, no_book_exhausting rfl made room⟩
  · obtain ⟨start, made, room⟩ := exists_roomy
    have refused := ((stands_spending rfl made room).add_last rfl room supply_ultimate).1
    exact ⟨start, made, refused, get_exhausting rfl made room, no_book_exhausting rfl made room⟩

end SpotStore

end SpatialStore
