import SpatialStore.Proofs.Spots.Exhaustion
import SpatialStore.Proofs.Spots.Reach

/-! A store of spots that is watched. The reach of its timepoints is kept beside it, rebuilt once and then told of
every spot that is added or given another shape. Removing spots and moving them needs no report. Nobody can report
the spot that stays in the store when the last identifier runs out, since its adding was refused. -/

namespace SpatialStore

namespace SpotStore

variable {α γ S : Type} [SlotStore α γ] [Stored (Spot S) γ]

def Largest [Scalar S] (store : SpotStore α γ) (timepoint : Int32) : Option S → Prop
  | none => ∀ id (spot : Spot S), store.get S id = .ok spot → spot.timepoint ≠ timepoint
  | some largest =>
    (∃ id spot, store.get S id = .ok spot ∧ spot.timepoint = timepoint ∧ spot.squaredRadius = largest) ∧
      ∀ id spot, store.get S id = .ok spot → spot.timepoint = timepoint →
        Scalar.le spot.squaredRadius largest = true

theorem Shows.get_iff {store : SpotStore α γ} {book : SpotBook S} (shows : store.Shows book) {id : EntityId}
    {spot : Spot S} : store.get S id = .ok spot ↔ book.page id = some spot := by
  constructor
  · intro got
    cases page : book.page id with
    | none => exact nomatch got.symm.trans (shows.unknown id page)
    | some other => rw [Except.ok.inj (got.symm.trans (shows.reads id other page))]
  · exact shows.reads id spot

theorem Shows.mem_radii {store : SpotStore α γ} {book : SpotBook S} (shows : store.Shows book) :
    ∃ radii, store.radii S = .ok radii ∧ ∀ entry, entry ∈ radii ↔
      ∃ id spot, store.get S id = .ok spot ∧ entry = (spot.timepoint, spot.squaredRadius) := by
  obtain ⟨radii, told, places⟩ := shows.radii
  refine ⟨radii, told, ?_⟩
  intro entry
  rw [List.mem_iff_getElem?]
  constructor
  · rintro ⟨slot, here⟩
    obtain ⟨id, spot, _, page, same⟩ := (places slot entry).mp here
    exact ⟨id, spot, shows.get_iff.mpr page, same⟩
  · rintro ⟨id, spot, got, same⟩
    have page := shows.get_iff.mp got
    obtain ⟨slot, found⟩ := (shows.live id).mpr ⟨spot, page⟩
    exact ⟨slot, (places slot entry).mpr ⟨id, spot, found, page, same⟩⟩

theorem largest_of_greatest [Scalar S] {store : SpotStore α γ} {radii : List (Int32 × S)}
    (member : ∀ entry, entry ∈ radii ↔
      ∃ id spot, store.get S id = .ok spot ∧ entry = (spot.timepoint, spot.squaredRadius))
    {timepoint : Int32} {greatest : Option S}
    (holds : Scalar.Greatest (Reach.radiiAt radii timepoint) greatest) : store.Largest timepoint greatest := by
  have among : ∀ id (spot : Spot S), store.get S id = .ok spot → spot.timepoint = timepoint →
      spot.squaredRadius ∈ Reach.radiiAt radii timepoint := by
    intro id spot got same
    exact Reach.mem_radiiAt.mpr ((member _).mpr ⟨id, spot, got, by rw [same]⟩)
  cases greatest with
  | none =>
    intro id spot got same
    obtain ⟨_, nothing, _⟩ := holds.above (among id spot got same)
    exact nomatch nothing
  | some largest =>
    obtain ⟨one, above⟩ := holds
    obtain ⟨id, spot, got, same⟩ := (member _).mp (Reach.mem_radiiAt.mp one)
    obtain ⟨rfl, rfl⟩ := Prod.mk.inj same
    exact ⟨⟨id, spot, got, rfl, rfl⟩, fun other spot got same => above _ (among other spot got same)⟩

variable [Cell γ] [AnalyticScalar S]

/-- The act has set the sphere of this spot: either it says that it has added the spot, or it has given it another
shape. -/
def Sets (store : SpotStore α γ) (spot : Spot S) : Act S → Prop
  | .add timepoint position radius =>
    ∃ id, (respond (.add timepoint position radius)).outcome store = .ok (.added id) ∧
      ((respond (.add timepoint position radius)).left store).get S id = .ok spot
  | .remove _ => False
  | .setPosition _ _ => False
  | .setCovariance id covariance => ((respond (.setCovariance id covariance)).left store).get S id = .ok spot

/-- The act fails, and there is one spot more. -/
def Exhausts (store : SpotStore α γ) (act : Act S) : Prop :=
  (∃ failure, (respond act).outcome store = .error failure) ∧
    store.records.len < ((respond act).left store).records.len

variable [LawfulSlotStore α] [LawfulStored (Spot S)]

namespace Stands

variable {limit : Nat} {store : SpotStore α γ} {book : SpotBook S}

theorem respond_sphere (blank : (Stored.fresh : Spot S) = Spot.blank) (stands : store.Stands limit book)
    (act : Act S) :
    ∃ next : SpotBook S, ((respond act).left store).Stands limit next ∧
      ∀ id spot, ((respond act).left store).get S id = .ok spot → store.Sets spot act ∨
        (∃ old : Spot S, store.get S id = .ok old ∧ old.timepoint = spot.timepoint ∧
          old.squaredRadius = spot.squaredRadius) ∨
        (store.Exhausts act ∧ id = EntityId.last ∧ spot = Spot.blank) := by
  obtain ⟨next, standsNext, step⟩ := stands.respond_follows blank act
  refine ⟨next, standsNext, ?_⟩
  intro id spot got
  have page := standsNext.shows_book.get_iff.mp got
  rcases step with follows | exhausts
  · rcases follows.sphere page with ⟨old, page, same⟩ | ⟨_, _, _, added⟩ | ⟨_, reshaped⟩
    · exact Or.inr (Or.inl ⟨old, stands.shows_book.get_iff.mpr page, same⟩)
    · obtain ⟨rfl, answered⟩ := Prod.mk.inj added
      exact Or.inl ⟨id, answered, got⟩
    · obtain rfl : act = _ := reshaped
      exact Or.inl got
  · rcases exhausts.spot page with before | ⟨last, unset⟩
    · exact Or.inr (Or.inl ⟨spot, stands.shows_book.get_iff.mpr before, rfl, rfl⟩)
    · obtain ⟨refused, live⟩ := exhausts.refused
      refine Or.inr (Or.inr ⟨⟨refused, ?_⟩, last, unset⟩)
      rw [stands.len_eq, standsNext.len_eq, live]
      exact Nat.lt_succ_self _

/-- An add that answers has added the spot that it was asked to add, and no other one. -/
theorem sets_add (blank : (Stored.fresh : Spot S) = Spot.blank) (stands : store.Stands limit book)
    {timepoint : Int32} {position : Point S 3} {radius : S} {spot : Spot S}
    (sets : store.Sets spot (.add timepoint position radius)) :
    spot.timepoint = timepoint ∧ spot.squaredRadius = Scalar.mul radius radius := by
  obtain ⟨id, answered, got⟩ := sets
  obtain ⟨next, standsNext, step⟩ := stands.respond_follows blank (.add timepoint position radius)
  have page := standsNext.shows_book.get_iff.mp got
  rw [answered] at step
  rcases step with follows | exhausts
  · cases follows with
    | added =>
      obtain rfl := Option.some.inj ((SpotBook.page_add _ _).symm.trans page)
      exact ⟨rfl, rfl⟩
  · exact nomatch exhausts

theorem not_exhausts (blank : (Stored.fresh : Spot S) = Spot.blank) (stands : store.Stands limit book)
    (more : book.given + 1 < EntityId.supply) (act : Act S) : ¬store.Exhausts act := by
  rintro ⟨⟨failure, failed⟩, longer⟩
  obtain ⟨next, standsNext, step⟩ := stands.respond_follows blank act
  rcases step with follows | exhausts
  · rw [failed] at follows
    rw [stands.len_eq, standsNext.len_eq, follows.eq_of_error] at longer
    exact Nat.lt_irrefl _ longer
  · exact absurd exhausts.given_eq.1 (Nat.ne_of_lt more)

end Stands

end SpotStore

inductive Call (S : Type)
  | act (act : SpotStore.Act S)
  | report (timepoint : Int32) (squaredRadius : S)

/-- A store of spots and how far they are known to reach. -/
structure Watch (α γ S : Type) where
  store : SpotStore α γ
  reach : Reach S

namespace Watch

variable {α γ S : Type} [SlotStore α γ] [Stored (Spot S) γ] [Cell γ] [AnalyticScalar S]

def next (watch : Watch α γ S) : Call S → Watch α γ S
  | .act act => { watch with store := (SpotStore.respond act).left watch.store }
  | .report timepoint squaredRadius => { watch with reach := watch.reach.report timepoint squaredRadius }

/-- Every sphere that is set is reported some time later. -/
def Reported : List (Call S) → SpotStore α γ → Prop
  | [], _ => True
  | .act act :: rest, store =>
    (∀ spot, store.Sets spot act → .report spot.timepoint spot.squaredRadius ∈ rest) ∧
      Reported rest ((SpotStore.respond act).left store)
  | .report _ _ :: rest, store => Reported rest store

/-- One of the acts has exhausted the store. -/
def Exhausted : List (Call S) → SpotStore α γ → Prop
  | [], _ => False
  | .act act :: rest, store => store.Exhausts act ∨ Exhausted rest ((SpotStore.respond act).left store)
  | .report _ _ :: rest, store => Exhausted rest store

variable [LawfulSlotStore α] [LawfulStored (Spot S)]

theorem Exhausted.supply_le (blank : (Stored.fresh : Spot S) = Spot.blank) {limit : Nat} {calls : List (Call S)}
    {store : SpotStore α γ} {book : SpotBook S} (stands : store.Stands limit book)
    (exhausted : Exhausted calls store) : EntityId.supply ≤ book.given + calls.length := by
  induction calls generalizing store book with
  | nil => exact exhausted.elim
  | cons call rest ih =>
    rw [List.length_cons]
    cases call with
    | act act =>
      rcases exhausted with now | later
      · have most := Nat.le_of_not_lt fun more => stands.not_exhausts blank more act now
        omega
      · obtain ⟨next, standsNext, step⟩ := stands.respond_follows blank act
        have whole := ih standsNext later
        have one : next.given ≤ book.given + 1 := by
          rcases step with follows | exhausts
          · exact follows.given_le.2
          · exact Nat.le_of_eq (exhausts.given_eq.2.trans exhausts.given_eq.1.symm)
        omega
    | report =>
      have whole := ih stands exhausted
      omega

/-- Every sphere in the store is covered, or its report is still to come, but for the one that was left behind when
the store was exhausted. -/
structure Awaits (limit : Nat) (exhausted : Prop) (rest : List (Call S)) (watch : Watch α γ S) : Prop where
  stands : ∃ book : SpotBook S, watch.store.Stands limit book
  numeric : watch.reach.Numeric
  covered : ∀ id (spot : Spot S), watch.store.get S id = .ok spot →
    watch.reach.Covers spot.timepoint spot.squaredRadius ∨
      .report spot.timepoint spot.squaredRadius ∈ rest ∨
      (exhausted ∧ id = EntityId.last ∧ spot.timepoint = 0 ∧ spot.squaredRadius = Scalar.zero)

namespace Awaits

variable {limit : Nat} {exhausted : Prop} {watch : Watch α γ S}

theorem act (blank : (Stored.fresh : Spot S) = Spot.blank) {act : SpotStore.Act S} {rest : List (Call S)}
    (awaits : Awaits limit exhausted (.act act :: rest) watch) (reported : Reported (.act act :: rest) watch.store) :
    Awaits limit (exhausted ∨ watch.store.Exhausts act) rest (watch.next (.act act)) := by
  obtain ⟨book, stands⟩ := awaits.stands
  obtain ⟨next, standsNext, spheres⟩ := stands.respond_sphere blank act
  refine ⟨⟨next, standsNext⟩, awaits.numeric, ?_⟩
  intro id spot got
  rcases spheres id spot got with set | ⟨old, before, timepoint, squaredRadius⟩ | ⟨exhausts, last, rfl⟩
  · exact Or.inr (Or.inl (reported.1 spot set))
  · rw [← timepoint, ← squaredRadius]
    refine (awaits.covered id old before).imp_right (Or.imp ?_ (And.imp_left Or.inl))
    intro member
    exact (List.mem_cons.mp member).resolve_left nofun
  · exact Or.inr (Or.inr ⟨Or.inr exhausts, last, rfl, rfl⟩)

omit [Cell γ] [LawfulStored (Spot S)] in
theorem report [ComparableScalar S] [SelectiveScalar S] {timepoint : Int32} {squaredRadius : S}
    {rest : List (Call S)} (isNumber : Scalar.IsNumber squaredRadius)
    (awaits : Awaits limit exhausted (.report timepoint squaredRadius :: rest) watch) :
    Awaits limit exhausted rest { watch with reach := watch.reach.report timepoint squaredRadius } := by
  obtain ⟨reached, kept⟩ := awaits.numeric.covers_report timepoint isNumber
  refine ⟨awaits.stands, awaits.numeric.report isNumber, ?_⟩
  intro id spot got
  rcases awaits.covered id spot got with covered | pending | lost
  · exact Or.inl (kept _ _ covered)
  · rcases List.mem_cons.mp pending with here | later
    · obtain ⟨same, radius⟩ := Call.report.inj here
      rw [same, radius]
      exact Or.inl reached
    · exact Or.inr (Or.inl later)
  · exact Or.inr (Or.inr lost)

theorem run [ComparableScalar S] [SelectiveScalar S] (blank : (Stored.fresh : Spot S) = Spot.blank)
    {before after : List (Call S)} (awaits : Awaits limit exhausted (before ++ after) watch)
    (numbers : ∀ timepoint squaredRadius, .report timepoint squaredRadius ∈ before →
      Scalar.IsNumber squaredRadius)
    (reported : Reported (before ++ after) watch.store) :
    Awaits limit (exhausted ∨ Exhausted before watch.store) after (before.foldl Watch.next watch) := by
  induction before generalizing exhausted watch with
  | nil =>
    rw [Exhausted, or_false]
    exact awaits
  | cons call rest ih =>
    have later : ∀ timepoint squaredRadius, Call.report timepoint squaredRadius ∈ rest →
        Scalar.IsNumber squaredRadius := fun timepoint squaredRadius member =>
      numbers timepoint squaredRadius (List.mem_cons_of_mem call member)
    cases call with
    | act act =>
      rw [Exhausted, ← or_assoc]
      exact ih (awaits.act blank reported) later reported.2
    | report timepoint squaredRadius =>
      exact ih (awaits.report (numbers timepoint squaredRadius List.mem_cons_self)) later reported

end Awaits

end Watch

namespace SpotStore

variable {α γ S : Type} [SlotStore α γ] [Stored (Spot S) γ] [Cell γ] [AnalyticScalar S] [LawfulSlotStore α]
  [LawfulStored (Spot S)] [ComparableScalar S] [SelectiveScalar S]

structure Rebuilt (store : SpotStore α γ) (radii : List (Int32 × S)) : Prop where
  largest : ∀ timepoint, store.Largest timepoint ((Reach.ofRadii radii).largestAt timepoint)
  any_order : ∀ others : List (Int32 × S), others.Perm radii → ∀ timepoint,
    Option.Rel Scalar.Level ((Reach.ofRadii others).largestAt timepoint)
      ((Reach.ofRadii radii).largestAt timepoint)
  /-- In a linear order there is one number at most of each height. -/
  any_order_eq : (∀ first ∈ radii, ∀ second ∈ radii, Scalar.Level first.2 second.2 → first.2 = second.2) →
    ∀ others : List (Int32 × S), others.Perm radii → ∀ timepoint,
      (Reach.ofRadii others).largestAt timepoint = (Reach.ofRadii radii).largestAt timepoint
  /-- At any time after it was rebuilt, a sphere is covered unless its report is still to come, or it is that of the
  spot that was left behind when the store was exhausted. -/
  covers : ∀ before after : List (Call S),
    (∀ timepoint squaredRadius, .report timepoint squaredRadius ∈ before → Scalar.IsNumber squaredRadius) →
    Watch.Reported (before ++ after) store →
    ∀ id (spot : Spot S), (before.foldl Watch.next ⟨store, Reach.ofRadii radii⟩).store.get S id = .ok spot →
      (before.foldl Watch.next ⟨store, Reach.ofRadii radii⟩).reach.Covers spot.timepoint spot.squaredRadius ∨
        .report spot.timepoint spot.squaredRadius ∈ after ∨
        (Watch.Exhausted before store ∧ id = EntityId.last ∧ spot.timepoint = 0 ∧
          spot.squaredRadius = Scalar.zero)

/-- Whatever was done with a store, its reach can be rebuilt, and is kept by reports alone. -/
theorem run_reach (blank : (Stored.fresh : Spot S) = Spot.blank) {sizing : Sizing} {start : SpotStore α γ}
    (made : make S sizing = .ok start) (earlier : List (Act S)) :
    ∃ radii : List (Int32 × S), (Step.leftAfter respond earlier start).radii S = .ok radii ∧
      ((∀ entry ∈ radii, Scalar.IsNumber entry.2) → (Step.leftAfter respond earlier start).Rebuilt radii) := by
  obtain ⟨book, stands, _⟩ := (stands_make made).run_follows blank earlier
  obtain ⟨radii, told, member⟩ := stands.shows_book.mem_radii
  refine ⟨radii, told, ?_⟩
  intro numbers
  have greatest := Reach.greatest_ofRadii numbers
  have reordered := fun (others : List (Int32 × S)) (perm : others.Perm radii) =>
    Reach.greatest_ofRadii_perm numbers perm
  refine ⟨fun timepoint => largest_of_greatest member (greatest timepoint), ?_, ?_, ?_⟩
  · intro others perm timepoint
    exact (reordered others perm timepoint).level (greatest timepoint)
  · intro linear others perm timepoint
    apply (reordered others perm timepoint).unique (greatest timepoint)
    intro first firstMember second secondMember
    exact linear _ (Reach.mem_radiiAt.mp firstMember) _ (Reach.mem_radiiAt.mp secondMember)
  · intro before after reports reported
    have awaits : Watch.Awaits start.records.slots.limit False (before ++ after)
        ⟨Step.leftAfter respond earlier start, Reach.ofRadii radii⟩ := by
      refine ⟨⟨book, stands⟩, Reach.numeric_ofRadii numbers, ?_⟩
      intro id spot got
      exact Or.inl (Reach.covers_ofRadii numbers ((member _).mpr ⟨id, spot, got, rfl⟩))
    have covered := (awaits.run blank reports reported).covered
    simp only [false_or] at covered
    exact covered

/-- The first spot is removed, and another one is added and moved, and reported only then. -/
noncomputable def replacing : List (Call ℝ) :=
  [.act (.remove ⟨0⟩), .act (.add 1 #v[0, 0, 0] 3), .act (.setPosition ⟨2⟩ #v[7, 8, 9]),
    .report 1 (Scalar.mul 3 3)]

theorem replacing_reach :
    ∃ start : SpotStore (ChunkedSlots (ℝ ⊕ Int32)) (ℝ ⊕ Int32),
      make ℝ { initialCapacity := 1, chunkSlots := 2 } = .ok start ∧
      ∃ radii, (Step.leftAfter respond [.add 1 #v[0, 0, 0] (2 : ℝ)] start).radii ℝ = .ok radii ∧
        (Step.leftAfter respond [.add 1 #v[0, 0, 0] (2 : ℝ)] start).Rebuilt radii ∧
        Watch.Reported (replacing ++ []) (Step.leftAfter respond [.add 1 #v[0, 0, 0] (2 : ℝ)] start) ∧
        ∀ id (spot : Spot ℝ),
          (replacing.foldl Watch.next ⟨Step.leftAfter respond [.add 1 #v[0, 0, 0] (2 : ℝ)] start,
            Reach.ofRadii radii⟩).store.get ℝ id = .ok spot →
          (replacing.foldl Watch.next ⟨Step.leftAfter respond [.add 1 #v[0, 0, 0] (2 : ℝ)] start,
            Reach.ofRadii radii⟩).reach.Covers spot.timepoint spot.squaredRadius := by
  have made : ∃ start : SpotStore (ChunkedSlots (ℝ ⊕ Int32)) (ℝ ⊕ Int32),
      make ℝ { initialCapacity := 1, chunkSlots := 2 } = .ok start := ⟨_, rfl⟩
  obtain ⟨start, made⟩ := made
  obtain ⟨radii, told, rebuilds⟩ := run_reach rfl made [.add 1 #v[0, 0, 0] 2]
  have rebuilt := rebuilds fun entry _ => Scalar.isNumber_exact entry.2
  obtain ⟨_, added, history⟩ := (stands_make made).run_follows rfl [.add 1 #v[0, 0, 0] 2]
  obtain ⟨_, removed, _⟩ := added.respond_follows rfl (.remove ⟨0⟩)
  have reported : Watch.Reported (replacing ++ [])
      (Step.leftAfter respond [.add 1 #v[0, 0, 0] (2 : ℝ)] start) := by
    refine ⟨fun _ => False.elim, ?_, fun _ => False.elim, trivial⟩
    intro spot sets
    obtain ⟨timepoint, squaredRadius⟩ := removed.sets_add rfl sets
    rw [timepoint, squaredRadius]
    exact List.mem_cons_of_mem _ List.mem_cons_self
  refine ⟨start, made, radii, told, rebuilt, reported, ?_⟩
  intro id spot got
  have covers := rebuilt.covers replacing [] (fun _ radius _ => Scalar.isNumber_exact radius) reported
  rcases covers id spot got with covered | pending | ⟨exhausted, _⟩
  · exact covered
  · exact absurd pending List.not_mem_nil
  · have one := history.elim (fun history => history.given_le.2) (fun exhaustion => exhaustion.supply_le.2.2)
    have most := exhausted.supply_le rfl added
    exact absurd (Nat.le_trans most (Nat.add_le_add_right one _)) (of_decide_eq_false rfl)

variable (S) in
def adding : List (Call S) :=
  [.act (another S), .report 5 (Scalar.mul (AnalyticScalar.ofNat 2) (AnalyticScalar.ofNat 2))]

omit [ComparableScalar S] [SelectiveScalar S] in
/-- If it is the last one, there is a spot of a timepoint that nothing is known to reach to. -/
theorem Stands.adding_not_covered {γ : Type} [Stored (Spot S) γ] [Cell γ] [LawfulStored (Spot S)]
    {store : SpotStore (FlatSlots γ) γ} (blank : (Stored.fresh : Spot S) = Spot.blank) {limit count : Nat}
    (stands : store.Stands limit (SpotBook.vacated count : SpotBook S)) (room : 0 < limit)
    (ultimate : count + 1 = EntityId.supply) :
    store.radii S = .ok [] ∧ Watch.Reported (adding S) store ∧
      ((adding S).foldl Watch.next ⟨store, Reach.ofRadii []⟩).store.get S EntityId.last = .ok Spot.blank ∧
      ((adding S).foldl Watch.next ⟨store, Reach.ofRadii []⟩).reach.largestAt
        (Spot.blank : Spot S).timepoint = none := by
  refine ⟨?_, ⟨?_, trivial⟩, (stands.add_last blank room ultimate).2, ?_⟩
  · obtain ⟨radii, told, member⟩ := stands.shows_book.mem_radii
    obtain rfl : radii = [] := by
      refine List.eq_nil_iff_forall_not_mem.mpr fun entry inside => ?_
      obtain ⟨id, spot, got, _⟩ := (member entry).mp inside
      exact nomatch stands.shows_book.get_iff.mp got
    exact told
  · intro spot sets
    obtain ⟨timepoint, squaredRadius⟩ := stands.sets_add blank sets
    rw [timepoint, squaredRadius]
    exact List.mem_cons_self
  · change (Reach.report (Reach.ofRadii []) 5 _).largestAt 0 = none
    rw [Reach.largestAt_report, if_neg (by decide)]
    exact Std.TreeMap.getElem?_emptyc

theorem exhausting_not_covered :
    ∃ start : SpotStore (FlatSlots UInt8) UInt8, make Double { initialCapacity := 1 } = .ok start ∧
      ∃ store, store = Step.leftAfter respond (spending Double (EntityId.supply - 1)) start ∧
        store.radii Double = .ok [] ∧ Watch.Reported (adding Double) store ∧
        (∀ timepoint squaredRadius, .report timepoint squaredRadius ∈ adding Double →
          Scalar.IsNumber squaredRadius) ∧
        ∃ watch, watch = (adding Double).foldl Watch.next ⟨store, Reach.ofRadii []⟩ ∧
          ∃ spot : Spot Double, watch.store.get Double EntityId.last = .ok spot ∧
            watch.reach.largestAt spot.timepoint = none ∧
            ¬watch.reach.Covers spot.timepoint spot.squaredRadius := by
  obtain ⟨start, made, room⟩ := exists_roomy
  obtain ⟨told, reported, got, nothing⟩ :=
    (stands_spending rfl made room).adding_not_covered rfl room supply_ultimate
  refine ⟨start, made, _, rfl, told, reported, ?_, _, rfl, Spot.blank, got, nothing, ?_⟩
  · rintro timepoint squaredRadius (_ | ⟨_, _ | ⟨_, absent⟩⟩)
    · change Scalar.le _ _ = true
      decide +kernel
    · exact nomatch absent
  · rintro ⟨largest, found, _⟩
    exact nomatch nothing.symm.trans found

end SpotStore

end SpatialStore
