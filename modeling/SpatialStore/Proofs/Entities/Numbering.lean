import Mathlib.Data.List.Induction
import Mathlib.Data.Set.Insert
import SpatialStore.Proofs.Entities.Ledger

/-! The order in which a store issues identifiers. The next one is always beyond every entity that there ever
was, so that none is issued twice. From an identifier that the store has issued itself it goes on by two, and from
one that a caller has chosen by one. -/

namespace SpatialStore

namespace EntityId

variable {ids had issued : Set EntityId} {id : EntityId} {number : Nat}

def Largest (ids : Set EntityId) (id : EntityId) : Prop :=
  id ∈ ids ∧ ∀ other ∈ ids, other.raw.toNat ≤ id.raw.toNat

theorem largest_insert (beyond : ∀ other ∈ ids, other.raw.toNat < id.raw.toNat) :
    Largest (insert id ids) id := by
  refine ⟨Set.mem_insert _ _, ?_⟩
  intro other member
  rcases Set.mem_insert_iff.mp member with rfl | before
  · exact Nat.le_refl _
  · exact Nat.le_of_lt (beyond other before)

theorem Largest.insert {largest : EntityId} (holds : Largest ids largest)
    (below : id.raw.toNat ≤ largest.raw.toNat) : Largest (insert id ids) largest := by
  refine ⟨Set.mem_insert_of_mem _ holds.1, ?_⟩
  intro other member
  rcases Set.mem_insert_iff.mp member with rfl | before
  · exact below
  · exact holds.2 other before

/-- The number to go on from, after entities with these identifiers, of which some were issued. -/
inductive Upcoming (had issued : Set EntityId) : Nat → Prop
  | first (none : had = ∅) : Upcoming had issued 0
  | afterChosen {id : EntityId} (largest : Largest had id) (chosen : id ∉ issued) :
      Upcoming had issued (id.raw.toNat + 1)
  | afterIssued {id : EntityId} (largest : Largest had id) (member : id ∈ issued) :
      Upcoming had issued (id.raw.toNat + 2)

namespace Upcoming

theorem beyond (upcoming : Upcoming had issued number) (member : id ∈ had) : id.raw.toNat < number := by
  cases upcoming with
  | first none =>
    rw [none] at member
    exact absurd member (Set.notMem_empty id)
  | afterChosen largest => exact Nat.lt_succ_of_le (largest.2 id member)
  | afterIssued largest =>
    have below := largest.2 id member
    omega

theorem of_issued (beyond : ∀ other ∈ had, other.raw.toNat < id.raw.toNat) :
    Upcoming (insert id had) (insert id issued) (id.raw.toNat + 2) :=
  .afterIssued (largest_insert beyond) (Set.mem_insert _ _)

theorem of_chosen (within : issued ⊆ had) (beyond : ∀ other ∈ had, other.raw.toNat < id.raw.toNat) :
    Upcoming (insert id had) issued (id.raw.toNat + 1) := by
  refine .afterChosen (largest_insert beyond) ?_
  intro member
  exact Nat.lt_irrefl _ (beyond id (within member))

/-- An identifier chosen from among the numbers that were passed over does not change what comes next. -/
theorem of_passed (upcoming : Upcoming had issued number) (within : issued ⊆ had)
    (passed : id.raw.toNat < number) : Upcoming (insert id had) issued number := by
  cases upcoming with
  | first none => exact absurd passed (Nat.not_lt_zero _)
  | afterChosen largest chosen =>
    exact .afterChosen (largest.insert (Nat.le_of_lt_succ passed)) chosen
  | @afterIssued before largest member =>
    by_cases below : id.raw.toNat ≤ before.raw.toNat
    · exact .afterIssued (largest.insert below) member
    -- The one number between the last that was issued and the next becomes the largest, and a chosen one.
    · have next : before.raw.toNat + 2 = id.raw.toNat + 1 := by omega
      rw [next]
      refine of_chosen within ?_
      intro other known
      have bound := largest.2 other known
      omega

end Upcoming

end EntityId

namespace EntityStore

variable {α γ : Type} {width : Nat}

/-- The next identifier is beyond those of all entities. -/
def Ahead (store : EntityStore α γ) : Prop := ∀ id ∈ store.ids, id.raw < store.nextId

/-- How an act changes what identifier comes next. -/
inductive Counts (store : EntityStore α γ) [SlotStore α γ] [LawfulSlotStore α] :
    Entry γ width → EntityStore α γ → Prop
  | kept {act : Act γ width} {outcome : Except PoolFailure Answer} {next : EntityStore α γ}
      (same : next.nextId = store.nextId) (fewer : ∀ id ∈ next.ids, id ∈ store.ids)
      (other : ∀ id, outcome ≠ .ok (.created id)) : Counts store (act, outcome) next
  | issued {next : EntityStore α γ} (entered : store.Entered ⟨store.nextId⟩ next)
      (counted : next.nextId.toNat = store.nextId.toNat + 2) :
      Counts store (.create, .ok (.created ⟨store.nextId⟩)) next
  | lastEntered {failure : PoolFailure} {next : EntityStore α γ}
      (entered : store.Entered ⟨store.nextId⟩ next)
      (counted : next.nextId.toNat = store.nextId.toNat + 1) :
      Counts store (.create, .error failure) next
  | chosen {id : EntityId} {next : EntityStore α γ} (named : id ≠ EntityId.null)
      (entered : store.Entered id next) (counted : next.nextId = nextAfter store.nextId id) :
      Counts store (.createWithId id, .ok (.created id)) next

variable [SlotStore α γ]

section

variable [Cell γ]

/-- The entities that a store has had by the end of a run, also those that were removed or dropped. -/
def had (start : EntityStore α γ) (acts : List (Act γ width)) : Set EntityId :=
  {id | ∃ earlier, earlier <+: acts ∧ id ∈ (Step.leftAfter perform earlier start).ids}

def issued (start : EntityStore α γ) (acts : List (Act γ width)) : Set EntityId :=
  {id | (.create, .ok (.created id)) ∈ Step.outcomes perform acts start}

variable {start : EntityStore α γ} {acts : List (Act γ width)} {act : Act γ width}

theorem leftAfter_concat (start : EntityStore α γ) (acts : List (Act γ width)) (act : Act γ width) :
    Step.leftAfter perform (acts ++ [act]) start =
      (perform act).left (Step.leftAfter perform acts start) :=
  Step.leftAfter_append perform acts [act] start

theorem mem_had_of_mem_ids {id : EntityId} (member : id ∈ (Step.leftAfter perform acts start).ids) :
    id ∈ start.had acts :=
  ⟨acts, List.prefix_rfl, member⟩

theorem had_nil (blank : start.directory = {}) : start.had ([] : List (Act γ width)) = ∅ := by
  apply Set.eq_empty_of_forall_notMem
  intro id member
  obtain ⟨earlier, before, here⟩ := member
  obtain rfl := List.prefix_nil.mp before
  rw [Step.leftAfter, ids, blank] at here
  cases here

theorem mem_had_concat {id : EntityId} :
    id ∈ start.had (acts ++ [act]) ↔
      id ∈ start.had acts ∨ id ∈ ((perform act).left (Step.leftAfter perform acts start)).ids := by
  constructor
  · intro member
    obtain ⟨earlier, before, here⟩ := member
    rcases List.prefix_concat_iff.mp before with rfl | before
    · rw [leftAfter_concat] at here
      exact Or.inr here
    · exact Or.inl ⟨earlier, before, here⟩
  · intro either
    rcases either with ⟨earlier, before, here⟩ | here
    · exact ⟨earlier, before.trans (List.prefix_append _ _), here⟩
    · rw [← leftAfter_concat] at here
      exact mem_had_of_mem_ids here

theorem mem_issued_concat {id : EntityId} :
    id ∈ start.issued (acts ++ [act]) ↔ id ∈ start.issued acts ∨
      (act, (perform act).outcome (Step.leftAfter perform acts start)) = (.create, .ok (.created id)) := by
  change _ ∈ Step.outcomes perform (acts ++ [act]) start ↔ _
  rw [Step.outcomes_append, List.mem_append, Step.outcomes, Step.outcomes, List.mem_singleton]
  exact or_congr Iff.rfl eq_comm

theorem had_concat_of_fewer
    (fewer : ∀ id ∈ ((perform act).left (Step.leftAfter perform acts start)).ids,
      id ∈ (Step.leftAfter perform acts start).ids) :
    start.had (acts ++ [act]) = start.had acts := by
  ext id
  rw [mem_had_concat]
  constructor
  · intro either
    exact either.elim (fun before => before) fun here => mem_had_of_mem_ids (fewer id here)
  · exact Or.inl

theorem issued_concat_of_other
    (other : ∀ id, (act, (perform act).outcome (Step.leftAfter perform acts start)) ≠
      (.create, .ok (.created id))) : start.issued (acts ++ [act]) = start.issued acts := by
  ext id
  rw [mem_issued_concat]
  exact or_iff_left (other id)

theorem issued_concat_of_created {id : EntityId}
    (done : (act, (perform act).outcome (Step.leftAfter perform acts start)) =
      (.create, .ok (.created id))) : start.issued (acts ++ [act]) = insert id (start.issued acts) := by
  ext other
  rw [mem_issued_concat, done, Set.mem_insert_iff, or_comm]
  refine or_congr_left ?_
  constructor
  · intro same
    cases same
    rfl
  · intro same
    rw [same]

end

variable [LawfulSlotStore α]

theorem Ahead.firstVacant_eq {store : EntityStore α γ} (ahead : store.Ahead) (sound : store.Sound) :
    firstVacant store.directory store.nextId = some store.nextId := by
  rw [firstVacant, if_neg]
  intro taken
  rw [Directory.contains_eq, Option.isSome_iff_exists] at taken
  obtain ⟨slot, found⟩ := taken
  have member : (⟨store.nextId⟩ : EntityId) ∈ store.ids :=
    List.mem_of_getElem? ((Directory.getElem?_ids _ _).trans ((sound.paired _ _).mp found))
  exact UInt32.lt_irrefl _ (ahead _ member)

variable [Cell γ]

theorem perform_keeps {store : EntityStore α γ} (sound : store.Sound)
    (wide : store.records.form.width = width) (act : Act γ width) :
    ((perform act).left store).Sound ∧ ((perform act).left store).records.form = store.records.form := by
  subst wide
  obtain ⟨_, soundNext, formed⟩ := perform_advances sound act
  exact ⟨soundNext, formed⟩

theorem nextAfter_cases (nextId : UInt32) {id : EntityId} (named : id ≠ EntityId.null) :
    (nextId.toNat ≤ id.raw.toNat ∧ (nextAfter nextId id).toNat = id.raw.toNat + 1) ∨
    (id.raw.toNat < nextId.toNat ∧ nextAfter nextId id = nextId) := by
  unfold nextAfter
  by_cases reached : nextId ≤ id.raw
  · have more : id.raw.toNat + 1 < 0x100000000 := by
      have different : id.raw.toNat ≠ 0xffffffff := fun same =>
        named (congrArg EntityId.mk (UInt32.toNat_inj.mp same))
      have bound := id.raw.toNat_lt
      omega
    refine Or.inl ⟨UInt32.le_iff_toNat_le.mp reached, ?_⟩
    rw [if_pos reached, if_pos more, UInt32.toNat_add]
    exact Nat.mod_eq_of_lt more
  · refine Or.inr ⟨?_, if_neg reached⟩
    rw [UInt32.le_iff_toNat_le] at reached
    exact Nat.lt_of_not_le reached

/-- An act that leaves the store as it was, when it fails, leaves what comes next. -/
theorem counts_unchanged {store : EntityStore α γ} {act : Act γ width} {failure : PoolFailure}
    (run : perform act store = .error failure store) :
    (perform act).Ends store fun outcome next => store.Counts (act, outcome) next := by
  refine Step.ends_of_error run (.kept rfl (fun _ member => member) ?_)
  intro id same
  cases same

theorem perform_counts {store : EntityStore α γ} (sound : store.Sound)
    (wide : store.records.form.width = width) (ahead : store.Ahead) (act : Act γ width) :
    (perform act).Ends store fun outcome next => store.Counts (act, outcome) next := by
  subst wide
  cases act with
  | create =>
    rcases create_at sound (ahead.firstVacant_eq sound) with ⟨failure, refused, _⟩ |
      ⟨next, _, done, entered, counted⟩ | ⟨next, _, refused, _, entered, counted⟩
    · exact counts_unchanged (Step.bind_of_error refused)
    · exact Step.ends_of_ok (Step.bind_of_ok done) (.issued entered counted)
    · exact Step.ends_of_error (Step.bind_of_error refused) (.lastEntered entered counted)
  | createWithId id =>
    rcases createWithId_cases sound id with ⟨_, refused⟩ | ⟨_, _, refused⟩ | ⟨_, _, refused⟩ |
      ⟨named, _, next, done, entered, counted⟩
    · exact counts_unchanged (Step.bind_of_error refused)
    · exact counts_unchanged (Step.bind_of_error refused)
    · exact counts_unchanged (Step.bind_of_error refused)
    · exact Step.ends_of_ok (Step.bind_of_ok done) (.chosen named entered counted)
  | remove id =>
    rcases live_cases sound id with ⟨missing, _⟩ | ⟨slot, _, found, _⟩
    · exact counts_unchanged (Step.bind_of_error (remove_unknown missing))
    · obtain ⟨next, done, removed⟩ := remove_ok sound found
      refine Step.ends_of_ok (Step.bind_of_ok done) (.kept removed.nextId ?_ ?_)
      · intro other member
        rw [ids, removed.ids] at member
        exact mem_of_mem_closeGap member
      · intro other same
        cases same
  | write id change =>
    rcases live_cases sound id with ⟨missing, _⟩ | ⟨slot, row, found, _, _, kept, _⟩
    · exact counts_unchanged (Step.bind_of_error (edit_unknown missing _))
    · obtain ⟨next, rfl, edited, _⟩ := edit_found sound found kept change
      cases written : change.step row with
      | ok answer left =>
        rw [written] at edited
        refine Step.ends_of_ok (Step.bind_of_ok edited) (.kept rfl (fun _ member => member) ?_)
        intro other same
        cases same
      | error fault left =>
        rw [written] at edited
        refine Step.ends_of_error (Step.bind_of_error edited) (.kept rfl (fun _ member => member) ?_)
        intro other same
        cases same
  | clear =>
    have run : perform (.clear : Act γ store.records.form.width) store = .ok .cleared store.clear := rfl
    refine Step.ends_of_ok run (.kept rfl ?_ ?_)
    · intro other member
      cases member
    · intro other same
      cases same

/-! ### Runs -/

structure Numbered (start : EntityStore α γ) (acts : List (Act γ width)) : Prop where
  sound : (Step.leftAfter perform acts start).Sound
  wide : (Step.leftAfter perform acts start).records.form.width = width
  within : start.issued acts ⊆ start.had acts
  upcoming : EntityId.Upcoming (start.had acts) (start.issued acts)
    (Step.leftAfter perform acts start).nextId.toNat

section

variable {start : EntityStore α γ} {acts : List (Act γ width)} {act : Act γ width}

theorem Numbered.ahead (numbered : start.Numbered acts) : (Step.leftAfter perform acts start).Ahead := by
  intro id member
  exact UInt32.lt_iff_toNat_lt.mpr (numbered.upcoming.beyond (mem_had_of_mem_ids member))

theorem had_concat_of_entered {id : EntityId}
    (entered : (Step.leftAfter perform acts start).Entered id
      ((perform act).left (Step.leftAfter perform acts start))) :
    start.had (acts ++ [act]) = insert id (start.had acts) := by
  ext other
  rw [mem_had_concat, entered.mem_ids, Set.mem_insert_iff]
  constructor
  · intro either
    rcases either with before | before | here
    · exact Or.inr before
    · exact Or.inr (mem_had_of_mem_ids before)
    · exact Or.inl here
  · intro either
    rcases either with here | before
    · exact Or.inr (Or.inr here)
    · exact Or.inl before

theorem Numbered.next (numbered : start.Numbered acts) (act : Act γ width) :
    start.Numbered (acts ++ [act]) := by
  obtain ⟨soundNext, formed⟩ := perform_keeps numbered.sound numbered.wide act
  have counts := perform_counts numbered.sound numbered.wide numbered.ahead act
  have within := numbered.within
  have upcoming := numbered.upcoming
  have beyond : ∀ other ∈ start.had acts, other.raw.toNat < _ := fun _ => upcoming.beyond
  suffices kept : start.issued (acts ++ [act]) ⊆ start.had (acts ++ [act]) ∧
      EntityId.Upcoming (start.had (acts ++ [act])) (start.issued (acts ++ [act]))
        ((perform act).left (Step.leftAfter perform acts start)).nextId.toNat by
    rw [← leftAfter_concat] at soundNext formed kept
    exact ⟨soundNext, (congrArg Form.width formed).trans numbered.wide, kept.1, kept.2⟩
  rw [Step.Ends] at counts
  generalize came : (perform act).outcome (Step.leftAfter perform acts start) = outcome at counts
  generalize gone : (perform act).left (Step.leftAfter perform acts start) = next at counts ⊢
  cases counts with
  | kept same fewer other =>
    have unissued : start.issued (acts ++ [act]) = start.issued acts := by
      apply issued_concat_of_other
      intro id done
      exact other id (came.symm.trans (congrArg Prod.snd done))
    rw [had_concat_of_fewer (gone ▸ fewer), unissued, same]
    exact ⟨within, upcoming⟩
  | issued entered counted =>
    rw [had_concat_of_entered (gone ▸ entered), issued_concat_of_created (congrArg _ came), counted]
    exact ⟨Set.insert_subset_insert within, .of_issued beyond⟩
  | lastEntered entered counted =>
    have unissued : start.issued (acts ++ [.create]) = start.issued acts := by
      apply issued_concat_of_other
      intro id done
      cases came.symm.trans (congrArg Prod.snd done)
    rw [had_concat_of_entered (gone ▸ entered), unissued, counted]
    exact ⟨within.trans (Set.subset_insert _ _), .of_chosen within beyond⟩
  | @chosen id _ named entered counted =>
    have unissued : start.issued (acts ++ [.createWithId id]) = start.issued acts := by
      apply issued_concat_of_other
      intro other done
      cases congrArg Prod.fst done
    rw [had_concat_of_entered (gone ▸ entered), unissued, counted]
    refine ⟨within.trans (Set.subset_insert _ _), ?_⟩
    rcases nextAfter_cases (Step.leftAfter perform acts start).nextId named with
      ⟨reached, after⟩ | ⟨passed, after⟩
    · rw [after]
      exact .of_chosen within fun other known => Nat.lt_of_lt_of_le (beyond other known) reached
    · rw [after]
      exact upcoming.of_passed within passed

end

theorem run_numbered {form : Form γ} {start : EntityStore α γ} (sound : start.Sound)
    (formed : start.records.form = form) (blank : start.directory = {}) (first : start.nextId = 0)
    (acts : List (Act γ form.width)) : start.Numbered acts := by
  induction acts using List.reverseRecOn with
  | nil =>
    refine ⟨sound, congrArg Form.width formed, ?_, ?_⟩
    · intro id member
      cases member
    · rw [Step.leftAfter, first]
      exact .first (had_nil blank)
  | append_singleton acts act ih => exact ih.next act

theorem make_numbered {poolId : Nat} {form : Form γ} {sizing : Sizing} {start : EntityStore α γ}
    (fits : form.fresh.length = form.width) (made : make poolId form sizing = .ok start)
    (acts : List (Act γ form.width)) : start.Numbered acts := by
  obtain ⟨sound, formed, _⟩ := sound_make fits made
  obtain ⟨_, blank, first⟩ := make_cases made
  exact run_numbered sound formed blank first acts

/-- Why no identifier is issued, and what there is of the store afterwards. -/
inductive Withheld (store : EntityStore α γ) : PoolFailure → EntityStore α γ → Prop
  | full (reached : store.records.slots.most ≤ store.records.len) :
      Withheld store (.refused (.outOfCapacity store.records.slots.limit)) store
  | spent (out : store.nextId = EntityId.null.raw) :
      Withheld store (.refused (.outOfCapacity store.records.capacity)) store
  | entered {next : EntityStore α γ} (last : store.nextId = EntityId.last.raw)
      (here : EntityId.last ∈ next.ids) :
      Withheld store (.refused (.outOfCapacity next.records.capacity)) next
  | stopped {fault : Fault} : Withheld store (.fault fault) store

theorem create_issues {store : EntityStore α γ} (sound : store.Sound) (ahead : store.Ahead) :
    (∃ next, create store = .ok ⟨store.nextId⟩ next ∧ store.nextId ≠ EntityId.null.raw) ∨
    (∃ failure next, create store = .error failure next ∧ store.Withheld failure next) := by
  rcases create_at sound (ahead.firstVacant_eq sound) with ⟨failure, refused, why, _⟩ |
    ⟨next, more, done, _⟩ | ⟨next, last, refused, _, entered, _⟩
  · refine Or.inr ⟨failure, store, refused, ?_⟩
    rcases why with ⟨out, rfl⟩ | stopped
    · exact .spent out
    · rcases SlotPool.allocate_error sound.records.slots stopped with ⟨_, rfl⟩ | ⟨fault, rfl⟩
      · exact .full (SlotPool.most_le_of_refused sound.records.slots stopped)
      · exact .stopped
  · refine Or.inl ⟨next, done, ?_⟩
    intro out
    have number : store.nextId.toNat = 0xffffffff := congrArg UInt32.toNat out
    omega
  · refine Or.inr ⟨_, next, refused, .entered last ?_⟩
    exact entered.mem_ids.mpr (Or.inr (congrArg EntityId.mk last.symm))

/-- Whatever a new store was asked to do, an identifier that it then issues is not null, is beyond those of all
entities that it ever had, and was not issued before. It is never found to be taken. -/
theorem created_beyond_had {poolId : Nat} {form : Form γ} {sizing : Sizing} {start : EntityStore α γ}
    (fits : form.fresh.length = form.width) (made : make poolId form sizing = .ok start)
    (acts : List (Act γ form.width)) :
    (∀ id next, create (Step.leftAfter perform acts start) = .ok id next →
      id ≠ EntityId.null ∧ (∀ other ∈ start.had acts, other.raw < id.raw) ∧ id ∉ start.issued acts) ∧
    (∀ key next, create (Step.leftAfter perform acts start) ≠
      .error (.refused (.duplicateKey key)) next) := by
  have numbered := make_numbered fits made acts
  have beyond : ∀ other ∈ start.had acts, other.raw < (Step.leftAfter perform acts start).nextId :=
    fun _ known => UInt32.lt_iff_toNat_lt.mpr (numbered.upcoming.beyond known)
  rcases create_issues numbered.sound numbered.ahead with ⟨last, done, named⟩ |
    ⟨failure, last, refused, withheld⟩
  · constructor
    · intro id next created
      obtain ⟨rfl, rfl⟩ := EStateM.Result.ok.inj (done.symm.trans created)
      refine ⟨fun null => named (congrArg EntityId.raw null), beyond, ?_⟩
      intro again
      exact UInt32.lt_irrefl _ (beyond _ (numbered.within again))
    · intro key next taken
      exact nomatch done.symm.trans taken
  · constructor
    · intro id next created
      exact nomatch refused.symm.trans created
    · intro key next taken
      obtain ⟨rfl, rfl⟩ := EStateM.Result.error.inj (refused.symm.trans taken)
      cases withheld

/-- An identifier that a caller has chosen, whose entity was removed, and others that were dropped. -/
def forgotten : List (Act UInt8 1) :=
  [.create, .create, .createWithId ⟨9⟩, .remove ⟨9⟩, .createWithId ⟨5⟩, .clear]

theorem forgotten_beyond_had :
    ∃ start : EntityStore (FlatSlots UInt8) UInt8,
      make 0 ⟨1, [0]⟩ { initialCapacity := 4 } = .ok start ∧
      create.outcome (Step.leftAfter perform forgotten start) = .ok ⟨10⟩ ∧
      (∀ id next, create (Step.leftAfter perform forgotten start) = .ok id next →
        id ≠ EntityId.null ∧ (∀ other ∈ start.had forgotten, other.raw < id.raw) ∧
          id ∉ start.issued forgotten) ∧
      (∀ key next, create (Step.leftAfter perform forgotten start) ≠
        .error (.refused (.duplicateKey key)) next) := by
  obtain ⟨start, made, issued⟩ : ∃ start : EntityStore (FlatSlots UInt8) UInt8,
      make 0 ⟨1, [0]⟩ { initialCapacity := 4 } = .ok start ∧
      create.outcome (Step.leftAfter perform forgotten start) = .ok ⟨10⟩ := by
    refine ⟨_, rfl, ?_⟩
    decide +kernel
  have fits : (Form.mk 1 [(0 : UInt8)]).fresh.length = 1 := rfl
  exact ⟨start, made, issued, created_beyond_had fits made forgotten⟩

/-- A new store issues the number that comes next after all entities it ever had. With a slot to be had it
refuses only where that is the last one, whose entity is entered first, or where there is none. -/
theorem created_eq_upcoming {poolId : Nat} {form : Form γ} {sizing : Sizing} {start : EntityStore α γ}
    (fits : form.fresh.length = form.width) (made : make poolId form sizing = .ok start)
    (acts : List (Act γ form.width)) :
    let last := Step.leftAfter perform acts start
    ∃ number, EntityId.Upcoming (start.had acts) (start.issued acts) number ∧
      (∀ id next, create last = .ok id next → id.raw.toNat = number) ∧
      (∀ reason next, last.records.len < last.records.slots.most →
        create last = .error (.refused reason) next →
          (number = EntityId.last.raw.toNat ∧ EntityId.last ∈ next.ids) ∨
            number = EntityId.null.raw.toNat) := by
  intro last
  have numbered := make_numbered fits made acts
  refine ⟨_, numbered.upcoming, ?_⟩
  rcases create_issues numbered.sound numbered.ahead with ⟨stored, done, _⟩ |
    ⟨failure, stored, refused, withheld⟩
  · constructor
    · intro id next created
      obtain ⟨rfl, rfl⟩ := EStateM.Result.ok.inj (done.symm.trans created)
      rfl
    · intro reason next _ stopped
      exact nomatch done.symm.trans stopped
  · constructor
    · intro id next created
      exact nomatch refused.symm.trans created
    · intro reason next room stopped
      obtain ⟨rfl, rfl⟩ := EStateM.Result.error.inj (refused.symm.trans stopped)
      cases withheld with
      | full reached => exact absurd room (Nat.not_lt.mpr reached)
      | spent out => exact Or.inr (congrArg UInt32.toNat out)
      | entered atLast here => exact Or.inl ⟨congrArg UInt32.toNat atLast, here⟩

def nearEnd : List (Act UInt8 1) := [.createWithId ⟨0xfffffffc⟩, .create]

theorem near_end_eq_upcoming :
    ∃ start : EntityStore (FlatSlots UInt8) UInt8,
      make 0 ⟨1, [0]⟩ { initialCapacity := 4 } = .ok start ∧
      let last := Step.leftAfter perform nearEnd start
      last.ids = [⟨0xfffffffc⟩, ⟨0xfffffffd⟩] ∧ last.records.len < last.records.slots.most ∧
      create.outcome last = .error (.refused (.outOfCapacity 4)) ∧
      ∃ number, EntityId.Upcoming (start.had nearEnd) (start.issued nearEnd) number ∧
        (∀ id next, create last = .ok id next → id.raw.toNat = number) ∧
        (∀ reason next, last.records.len < last.records.slots.most →
          create last = .error (.refused reason) next →
            (number = EntityId.last.raw.toNat ∧ EntityId.last ∈ next.ids) ∨
              number = EntityId.null.raw.toNat) := by
  obtain ⟨start, made, listed, room, stopped⟩ : ∃ start : EntityStore (FlatSlots UInt8) UInt8,
      make 0 ⟨1, [0]⟩ { initialCapacity := 4 } = .ok start ∧
      (Step.leftAfter perform nearEnd start).ids = [⟨0xfffffffc⟩, ⟨0xfffffffd⟩] ∧
      (Step.leftAfter perform nearEnd start).records.len <
        (Step.leftAfter perform nearEnd start).records.slots.most ∧
      create.outcome (Step.leftAfter perform nearEnd start) = .error (.refused (.outOfCapacity 4)) := by
    refine ⟨_, rfl, ?_, ?_, ?_⟩
    · decide +kernel
    · decide +kernel
    · decide +kernel
  have fits : (Form.mk 1 [(0 : UInt8)]).fresh.length = 1 := rfl
  exact ⟨start, made, listed, room, stopped, created_eq_upcoming fits made nearEnd⟩

def once : List (Act UInt8 1) := [.create]

/-- One identifier was issued and no other ever had, and the next to be issued is not the one after it. -/
theorem issued_not_successive :
    ∃ start : EntityStore (FlatSlots UInt8) UInt8,
      make 0 ⟨1, [0]⟩ { initialCapacity := 4 } = .ok start ∧ start.had once = {⟨0⟩} ∧
      create.outcome (Step.leftAfter perform once start) = .ok ⟨2⟩ := by
  obtain ⟨start, made, listed, issued⟩ : ∃ start : EntityStore (FlatSlots UInt8) UInt8,
      make 0 ⟨1, [0]⟩ { initialCapacity := 4 } = .ok start ∧
      (Step.leftAfter perform once start).ids = [⟨0⟩] ∧
      create.outcome (Step.leftAfter perform once start) = .ok ⟨2⟩ := by
    refine ⟨_, rfl, ?_, ?_⟩
    · decide +kernel
    · decide +kernel
  refine ⟨start, made, ?_, issued⟩
  ext id
  change id ∈ start.had (([] : List (Act UInt8 1)) ++ [.create]) ↔ _
  rw [mem_had_concat, ← leftAfter_concat]
  change _ ∨ id ∈ (Step.leftAfter perform once start).ids ↔ _
  rw [had_nil (make_cases made).2.1, listed, List.mem_singleton]
  exact or_iff_right (Set.notMem_empty id)

end EntityStore

end SpatialStore
