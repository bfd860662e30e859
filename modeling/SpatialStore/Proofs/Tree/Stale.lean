import SpatialStore.Proofs.Entities.Steady
import SpatialStore.Proofs.Spots.Run
import SpatialStore.Proofs.Tree.Listing
import SpatialStore.Proofs.Tree.Accepted
import SpatialStore.Proofs.Tree.Survey

/-! Stale trees. A tree keeps nothing of the records that it was made over but their slots and one count of
theirs, and that is enough: the count stays the same exactly as long as no record is freed or dropped, and
so long every slot that the tree names holds the record that it held. -/

namespace SpatialStore

namespace KdTree

variable {γ S : Type} {N : Nat} [Scalar S] [Cell γ] [Stored (KdNode S N) γ]

/-- A tree in which, since it was made, at most the validity of nodes has changed. -/
structure Remarked (tree next : KdTree γ S N) : Prop where
  sound : next.Sound
  sites : next.sites = tree.sites
  builtAt : next.builtAt = tree.builtAt

theorem Remarked.setValid [LawfulStored (KdNode S N)] {tree middle : KdTree γ S N}
    (remarked : Remarked tree middle) (slot : Nat) (valid : Bool) :
    Remarked tree ((setValid slot valid).left middle) := by
  rcases setValid_cases remarked.sound slot valid with
    ⟨failure, refused⟩ | same | ⟨nodes, validLen, next, shape, marked, sound, _, sites⟩
  · rw [Step.left_of_error refused]
    exact remarked
  · rw [Step.left_of_ok same]
    exact remarked
  · rw [Step.left_of_ok marked]
    refine ⟨sound, sites.trans remarked.sites, ?_⟩
    rw [shape]
    exact remarked.builtAt

/-- Its nodes are of the same records. -/
theorem Remarked.dataSlot_eq {tree next : KdTree γ S N} (remarked : Remarked tree next) (sound : tree.Sound) :
    next.len = tree.len ∧ ∀ node < tree.len, (next.view node).dataSlot = (tree.view node).dataSlot := by
  have len : next.len = tree.len := by
    rw [← length_sites, remarked.sites, length_sites]
  refine ⟨len, ?_⟩
  intro node inside
  have before := getElem?_dataSlots sound.nodes inside
  have after := getElem?_dataSlots remarked.sound.nodes (len ▸ inside)
  rw [remarked.sites, before] at after
  exact (Option.some.inj after).symm

def MadeOver {α σ : Type} (τ : Type) [SlotStore α σ] [Stored τ σ] [Located τ S N] (source : RecordPool α σ)
    (slots : List Nat) (tree : KdTree γ S N) : Prop :=
  build τ source slots = .ok tree ∨ ∃ old, Reached old ∧ rebuild τ source slots old = .ok () tree

variable {α σ τ : Type} [SlotStore α σ] [Stored τ σ] [Located τ S N]

theorem builtAt_rebuild {source : RecordPool α σ} {slots : List Nat} {old tree : KdTree γ S N}
    (rebuilt : rebuild τ source slots old = .ok () tree) : tree.builtAt = source.modifications := by
  unfold rebuild at rebuilt
  split at rebuilt
  next => exact nomatch rebuilt
  next =>
    split at rebuilt
    next => exact nomatch rebuilt
    next =>
      obtain ⟨_, rfl⟩ := EStateM.Result.ok.inj rebuilt
      rfl

namespace MadeOver

variable {source : RecordPool α σ} {slots : List Nat} {tree : KdTree γ S N}

theorem builtOver (made : MadeOver τ source slots tree) : BuiltOver tree slots (pointAt τ source) := by
  rcases made with built | ⟨old, reached, rebuilt⟩
  · exact .built built
  · obtain ⟨_, _, before⟩ := reached.builtOver
    exact .accepted before rebuilt

theorem builtAt (made : MadeOver τ source slots tree) : tree.builtAt = source.modifications := by
  rcases made with built | ⟨old, _, rebuilt⟩
  · unfold build at built
    split at built
    next => exact nomatch built
    next =>
      split at built
      next => exact nomatch built
      next rebuilt =>
        obtain rfl := Except.ok.inj built
        exact builtAt_rebuild rebuilt
  · exact builtAt_rebuild rebuilt

variable [LawfulStored (KdNode S N)] [LawfulSlotStore α]

theorem dataSlot_lt (made : MadeOver τ source slots tree) (sound : source.Sound) {node : Nat}
    (inside : node < tree.len) : (tree.view node).dataSlot < source.len := by
  obtain ⟨sites, spans, _, points⟩ := made.builtOver.spans
  have listed := getElem?_dataSlots spans.sound.nodes inside
  obtain ⟨site, member, same⟩ := List.mem_map.mp (List.mem_of_getElem? listed)
  have found := points site (spans.perm.mem_iff.mp member)
  rw [← same]
  rcases get_cases τ sound site.slot with ⟨within, _⟩ | ⟨_, missing⟩
  · exact within
  · rw [pointAt, missing] at found
    cases found

end MadeOver

/-! ### Trees beside their sources -/

/-- What trees say of a source, in whatever state they were made over it, and whatever is done to both of
them later: they are stale exactly if something has upset the records since, and if not, every node names
a slot in use, of which this is kept. -/
def Vouches {ξ κ η α σ : Type} (γ S : Type) (N : Nat) (τ : Type) [Scalar S] [Cell γ]
    [Stored (KdNode S N) γ] [SlotStore α σ] [Stored τ σ] [Located τ S N]
    (step : κ → Step PoolFailure ξ (List η)) (pool : ξ → RecordPool α σ) (upsets : η → Bool) (begun : ξ)
    (keeps : (before after : List κ) → Nat → Prop) : Prop :=
  ∀ (before : List κ) (source : ξ) (slots : List Nat) (tree : KdTree γ S N) (acts : List (Survey.Act κ))
    (last : Survey ξ γ S N), Step.leftAfter step before begun = source →
    MadeOver τ (pool source) slots tree → Step.leftAfter (Survey.perform step) acts ⟨source, tree⟩ = last →
    (last.tree.isStale (pool last.source) = true ↔
      ∃ event ∈ Step.reports (Survey.perform step) acts ⟨source, tree⟩, upsets event = true) ∧
    (last.tree.isStale (pool last.source) = false → last.tree.len = tree.len ∧
      ∀ node < tree.len, (last.tree.view node).dataSlot = (tree.view node).dataSlot ∧
        (tree.view node).dataSlot < (pool last.source).len ∧
        keeps before (Survey.onSource acts) (tree.view node).dataSlot)

variable {ξ κ η : Type} [LawfulSlotStore α] [LawfulStored (KdNode S N)]

theorem vouches_of {step : κ → Step PoolFailure ξ (List η)} {pool : ξ → RecordPool α σ} {upsets : η → Bool}
    {begun : ξ} {keeps : (before after : List κ) → Nat → Prop}
    (sound : ∀ before, (pool (Step.leftAfter step before begun)).Sound)
    (counts : ∀ before source, Step.leftAfter step before begun = source → ∀ after,
      (pool (Step.leftAfter step after source)).modifications =
        (pool source).modifications + (Step.reports step after source).countP upsets)
    (steady : ∀ before source, Step.leftAfter step before begun = source → ∀ after,
      (∀ event ∈ Step.reports step after source, upsets event = false) →
      ∀ slot < (pool source).len,
        slot < (pool (Step.leftAfter step after source)).len ∧ keeps before after slot) :
    Vouches γ S N τ step pool upsets begun keeps := by
  intro before source slots tree acts last earlier made ran
  -- The run on both falls apart into one on the source and marks on the tree.
  obtain ⟨_, spans, _⟩ := made.builtOver.spans
  have begins : Remarked tree (Survey.mk source tree).tree := ⟨spans.sound, rfl, rfl⟩
  obtain ⟨left, told, remarked⟩ := Survey.run_spec step (motive := Remarked tree)
    (fun _ slot valid remarked => remarked.setValid slot valid) acts begins
  rw [ran] at left remarked
  rw [left, told]
  have count := counts before source earlier (Survey.onSource acts)
  -- The two counts differ by the number of upsets, which is nothing exactly if there was none.
  have fresh : (Step.reports step (Survey.onSource acts) source).countP upsets = 0 ↔
      ∀ event ∈ Step.reports step (Survey.onSource acts) source, upsets event = false := by
    simp [List.countP_eq_zero]
  have stale : last.tree.isStale (pool (Step.leftAfter step (Survey.onSource acts) source)) = false ↔
      ∀ event ∈ Step.reports step (Survey.onSource acts) source, upsets event = false := by
    rw [← fresh, isStale, remarked.builtAt, made.builtAt, count]
    simp
  refine ⟨?_, ?_⟩
  · rw [← Bool.not_eq_false, stale]
    simp
  · intro current
    obtain ⟨len, same⟩ := remarked.dataSlot_eq spans.sound
    refine ⟨len, ?_⟩
    intro node inside
    have known := made.dataSlot_lt (earlier ▸ sound before) inside
    exact ⟨same node inside, steady before source earlier _ (stale.mp current) _ known⟩

end KdTree

/-! ### The sources -/

variable {α γ η S τ : Type} {N : Nat} [SlotStore α γ] [LawfulSlotStore α] [Cell γ] [Scalar S] [Cell η]
  [Stored (KdNode S N) η] [LawfulStored (KdNode S N)] [Stored τ γ] [Located τ S N] {poolId : Nat}
  {form : Form γ} {sizing : Sizing}

theorem Session.vouches (fits : form.fresh.length = form.width) {start : RecordPool α γ}
    (made : RecordPool.make poolId form sizing = .ok start) (held : List Handle) :
    KdTree.Vouches η S N τ (carryOut : Deed γ form.width → _) Session.pool Mark.upsets
      (⟨start, held⟩ : Session α γ) (Keeps ⟨start, held⟩) := by
  obtain ⟨soundStart, formed, _, empty, _, clearedAt, blank⟩ := RecordPool.sound_make fits made
  have begun := Tracks.start soundStart empty blank clearedAt held
  have runs (deeds : List (Deed γ form.width)) := run_carries deeds begun (congrArg Form.width formed)
  refine KdTree.vouches_of ?_ ?_ ?_
  · intro before
    exact (runs before).1.sound
  · rintro before _ rfl after
    obtain ⟨tracks, same, _⟩ := runs before
    exact (run_carries after tracks (congrArg Form.width (same.trans formed))).2.2.modifications
  · rintro before _ rfl after steady slot inside
    exact keeps_of_steady begun (congrArg Form.width formed) steady inside

theorem EntitySession.vouches (fits : form.fresh.length = form.width) {start : EntityStore α γ}
    (made : EntityStore.make poolId form sizing = .ok start) (held : List Handle) :
    KdTree.Vouches η S N τ (perform : Act γ form.width → _) (fun session => session.store.records)
      Event.upsets (⟨start, held⟩ : EntitySession α γ)
      (fun before after => Keeps (Step.leftAfter perform before ⟨start, held⟩) after) := by
  obtain ⟨sound, formed, _⟩ := EntityStore.sound_make fits made
  have begun : (EntitySession.mk start held).store.Sound := sound
  have runs (acts : List (Act γ form.width)) := run_sound acts begun (congrArg Form.width formed)
  refine KdTree.vouches_of ?_ ?_ ?_
  · intro before
    exact (runs before).1.records
  · rintro before _ rfl after
    obtain ⟨soundBefore, wide⟩ := runs before
    exact (run_retains after soundBefore wide).modifications
  · rintro before _ rfl after steady slot inside
    obtain ⟨soundBefore, wide⟩ := runs before
    exact keeps_of_steady soundBefore wide steady inside

theorem SpotStore.vouches {T : Type} [AnalyticScalar T] [Stored (Spot T) γ] [LawfulStored (Spot T)]
    [Stored (KdNode T 3) η] [LawfulStored (KdNode T 3)] {start : SpotStore α γ}
    (made : SpotStore.make T sizing = .ok start) :
    KdTree.Vouches η T 3 (Spot T) (perform : Act T → _) SpotStore.records EntitySession.Event.upsets start
      (fun before after => Keeps (Step.leftAfter perform before start) after) := by
  obtain ⟨begun, formed, _⟩ := SpotStore.sound_make made
  have runs (acts : List (Act T)) := run_sound acts begun (congrArg Form.width formed)
  refine KdTree.vouches_of ?_ ?_ ?_
  · intro before
    exact (runs before).1.records
  · rintro before _ rfl after
    obtain ⟨soundBefore, wide⟩ := runs before
    exact modifications_run after soundBefore wide
  · rintro before _ rfl after steady slot inside
    obtain ⟨soundBefore, wide⟩ := runs before
    exact keeps_of_steady soundBefore wide steady inside

namespace KdTree

variable (η τ) in
/-- Trees know whether they are still good for the records that they were made over, be it the records of
a pool, of entities or of spots: they are stale from the first one on that is freed or dropped, the last
one included, and as long as they are not, each of their nodes names the record that it was made of, and
with it the same entity. -/
theorem stale_iff_upset {T : Type} [AnalyticScalar T] [Stored (Spot T) γ] [LawfulStored (Spot T)]
    [Stored (KdNode T 3) η] [LawfulStored (KdNode T 3)] (fits : form.fresh.length = form.width)
    (held : List Handle) {records : RecordPool α γ}
    (madeRecords : RecordPool.make poolId form sizing = .ok records)
    {entities : EntityStore α γ} (madeEntities : EntityStore.make poolId form sizing = .ok entities)
    {spots : SpotStore α γ} (madeSpots : SpotStore.make T sizing = .ok spots) :
    Vouches η S N τ (Session.carryOut : Session.Deed γ form.width → _) Session.pool Mark.upsets
      (⟨records, held⟩ : Session α γ) (Session.Keeps ⟨records, held⟩) ∧
    Vouches η S N τ (EntitySession.perform : EntitySession.Act γ form.width → _)
      (fun session => session.store.records) EntitySession.Event.upsets
      (⟨entities, held⟩ : EntitySession α γ)
      (fun before after => EntitySession.Keeps
        (Step.leftAfter EntitySession.perform before ⟨entities, held⟩) after) ∧
    Vouches η T 3 (Spot T) (SpotStore.perform : SpotStore.Act T → _) SpotStore.records
      EntitySession.Event.upsets spots
      (fun before after => SpotStore.Keeps (Step.leftAfter SpotStore.perform before spots) after) :=
  ⟨Session.vouches fits madeRecords held, EntitySession.vouches fits madeEntities held,
    SpotStore.vouches madeSpots⟩

def joined : List (Survey.Act (Session.Deed UInt8 (Stored.form (Point Double 1)).width)) :=
  [.source (.act .allocate), .mark 0 false]

def parted : List (Survey.Act (Session.Deed UInt8 (Stored.form (Point Double 1)).width)) :=
  [.source (.act (.deleteAt 1))]

def couple : List (EntitySession.Act UInt8 (Stored.form (Point Double 1)).width) :=
  [.entities (.createWithId ⟨7⟩), .entities (.createWithId ⟨8⟩)]

def bereaved : List (Survey.Act (EntitySession.Act UInt8 (Stored.form (Point Double 1)).width)) :=
  [.source (.entities (.remove ⟨7⟩))]

/-- Trees over the second of two records, and over the second of two entities. -/
theorem pair_stale_iff_upset :
    ∃ (records : RecordPool (FlatSlots UInt8) UInt8) (entities : EntityStore (FlatSlots UInt8) UInt8)
      (spots : SpotStore (FlatSlots UInt8) UInt8) (source : Session (FlatSlots UInt8) UInt8)
      (population : EntitySession (FlatSlots UInt8) UInt8) (tree other : KdTree UInt8 Double 1),
      RecordPool.make 0 (Stored.form (Point Double 1)) {} = .ok records ∧
      EntityStore.make 0 (Stored.form (Point Double 1)) {} = .ok entities ∧
      SpotStore.make Double {} = .ok spots ∧
      Step.leftAfter Session.carryOut pair ⟨records, []⟩ = source ∧
      Step.leftAfter EntitySession.perform couple ⟨entities, []⟩ = population ∧
      build (Point Double 1) source.pool [1] = .ok tree ∧ tree.len = 1 ∧ (tree.view 0).dataSlot = 1 ∧
      build (Point Double 1) population.store.records [1] = .ok other ∧
      (∃ last, Step.leftAfter (Survey.perform Session.carryOut) joined ⟨source, tree⟩ = last ∧
        last.tree.isStale last.source.pool = false ∧ Session.Keeps ⟨records, []⟩ pair [.act .allocate] 1) ∧
      (∃ last, Step.leftAfter (Survey.perform Session.carryOut) parted ⟨source, tree⟩ = last ∧
        last.tree.isStale last.source.pool = true) ∧
      ∃ last, Step.leftAfter (Survey.perform EntitySession.perform) bereaved ⟨population, other⟩ = last ∧
        last.tree.isStale last.source.store.records = true := by
  obtain ⟨records, madeRecords, planted, added, freed⟩ : ∃ records : RecordPool (FlatSlots UInt8) UInt8,
      RecordPool.make 0 (Stored.form (Point Double 1)) {} = .ok records ∧
      ((build (Point Double 1) (Step.leftAfter Session.carryOut pair ⟨records, []⟩).pool [1] :
        Except _ (KdTree UInt8 Double 1)).toOption.map fun tree => (tree.len, (tree.view 0).dataSlot)) =
          some (1, 1) ∧
      Step.reports Session.carryOut (Survey.onSource joined)
        (Step.leftAfter Session.carryOut pair ⟨records, []⟩) = [.added 2] ∧
      Step.reports Session.carryOut (Survey.onSource parted)
        (Step.leftAfter Session.carryOut pair ⟨records, []⟩) = [.freed 1 none] := by
    refine ⟨_, rfl, ?_, ?_, ?_⟩
    · decide +kernel
    · decide +kernel
    · decide +kernel
  obtain ⟨entities, madeEntities, settled, removed⟩ : ∃ entities : EntityStore (FlatSlots UInt8) UInt8,
      EntityStore.make 0 (Stored.form (Point Double 1)) {} = .ok entities ∧
      (build (Point Double 1) (Step.leftAfter EntitySession.perform couple ⟨entities, []⟩).store.records [1] :
        Except _ (KdTree UInt8 Double 1)).toOption.isSome = true ∧
      Step.reports EntitySession.perform (Survey.onSource bereaved)
        (Step.leftAfter EntitySession.perform couple ⟨entities, []⟩) = [.removed ⟨7⟩ (some ⟨8⟩)] := by
    refine ⟨_, rfl, ?_, ?_⟩
    · decide +kernel
    · decide +kernel
  obtain ⟨spots, madeSpots⟩ : ∃ spots : SpotStore (FlatSlots UInt8) UInt8,
      SpotStore.make Double {} = .ok spots := ⟨_, rfl⟩
  have fits : (Stored.form (Point Double 1)).fresh.length = (Stored.form (Point Double 1)).width :=
    LawfulStored.length_encode _
  obtain ⟨ofRecords, ofEntities, _⟩ :=
    stale_iff_upset UInt8 (Point Double 1) fits [] madeRecords madeEntities madeSpots
  obtain ⟨source, earlier⟩ : ∃ source, Step.leftAfter Session.carryOut pair ⟨records, []⟩ = source := ⟨_, rfl⟩
  obtain ⟨population, grown⟩ : ∃ population,
      Step.leftAfter EntitySession.perform couple ⟨entities, []⟩ = population := ⟨_, rfl⟩
  rw [earlier] at planted added freed
  rw [grown] at settled removed
  cases built : (build (Point Double 1) source.pool [1] : Except _ (KdTree UInt8 Double 1)) with
  | error failure =>
    rw [built] at planted
    exact nomatch planted
  | ok tree =>
    rw [built] at planted
    obtain ⟨len, names⟩ := Prod.mk.inj (Option.some.inj planted)
    cases sown : (build (Point Double 1) population.store.records [1] : Except _ (KdTree UInt8 Double 1)) with
    | error failure =>
      rw [sown] at settled
      exact nomatch settled
    | ok other =>
      refine ⟨records, entities, spots, source, population, tree, other, madeRecords, madeEntities, madeSpots,
        earlier, grown, built, len, names, sown, ?_, ?_, ?_⟩
      · obtain ⟨stale, current⟩ := ofRecords pair source [1] tree joined _ earlier (.inl built) rfl
        rw [Survey.reports_eq, added] at stale
        have steady := Bool.eq_false_iff.mpr (fun upset => nomatch stale.mp upset)
        have inside : 0 < tree.len := by
          rw [len]
          exact Nat.one_pos
        have kept := (current steady).2 0 inside
        rw [names] at kept
        exact ⟨_, rfl, steady, kept.2.2⟩
      · obtain ⟨stale, _⟩ := ofRecords pair source [1] tree parted _ earlier (.inl built) rfl
        rw [Survey.reports_eq, freed] at stale
        exact ⟨_, rfl, stale.mpr ⟨_, List.mem_cons_self, rfl⟩⟩
      · obtain ⟨stale, _⟩ := ofEntities couple population [1] other bereaved _ grown (.inl sown) rfl
        rw [Survey.reports_eq, removed] at stale
        exact ⟨_, rfl, stale.mpr ⟨_, List.mem_cons_self, rfl⟩⟩

end KdTree

end SpatialStore
