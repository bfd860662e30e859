import SpatialStore.Proofs.Entities.Session

/-! Handles that are bound to entities. The stamps of the records and the directory are kept by different
operations; that a handle is good exactly as long as its entity has stayed in its slot, and that the
directory still has that entity there, takes both of them at once. -/

namespace SpatialStore

open EntitySession (Event)

def EntitySession.Event.disturbs (id : EntityId) : Event → Bool
  | .bound _ _ => false
  | .removed gone moved => id = gone || moved = some id
  | .cleared => true

structure Binding where
  id : EntityId
  stays : Bool

namespace Binding

def next (holder : Nat) (binding : Option Binding) : Event → Option Binding
  | .bound other id => if other = holder then some ⟨id, true⟩ else binding
  | event => binding.map fun now => { now with stays := now.stays && !event.disturbs now.id }

def after (holder : Nat) (told : List Event) : Option Binding := told.foldl (next holder) none

theorem after_append (holder : Nat) (told : List Event) (event : Event) :
    after holder (told ++ [event]) = next holder (after holder told) event := by
  rw [after, List.foldl_append]
  rfl

theorem next_unbound {holder : Nat} {event : Event} (unbound : ∀ id, event ≠ .bound holder id)
    (binding : Option Binding) :
    next holder binding event =
      binding.map fun now => { now with stays := now.stays && !event.disturbs now.id } := by
  cases event with
  | bound other id =>
    have different : other ≠ holder := by
      intro same
      exact unbound id (same ▸ rfl)
    rw [next, if_neg different]
    cases binding with
    | none => rfl
    | some now => simp [Event.disturbs]
  | removed gone moved => rfl
  | cleared => rfl

theorem foldl_unbound {holder : Nat} {rest : List Event} (latest : ∀ id, .bound holder id ∉ rest)
    (binding : Binding) :
    rest.foldl (next holder) (some binding) =
      some { binding with stays := binding.stays && rest.all fun event => !event.disturbs binding.id } := by
  induction rest generalizing binding with
  | nil => simp
  | cons event rest ih =>
    have latestRest : ∀ id, .bound holder id ∉ rest := by
      intro id member
      exact latest id (List.mem_cons_of_mem _ member)
    have unbound : ∀ id, event ≠ .bound holder id := by
      intro id same
      exact latest id (same ▸ List.mem_cons_self)
    rw [List.foldl_cons, next_unbound unbound, Option.map_some, ih latestRest]
    simp [Bool.and_assoc]

theorem after_bound {holder : Nat} {rest : List Event} (before : List Event) (id : EntityId)
    (latest : ∀ id, .bound holder id ∉ rest) :
    after holder (before ++ .bound holder id :: rest) =
      some ⟨id, rest.all fun event => !event.disturbs id⟩ := by
  rw [after, List.foldl_append, List.foldl_cons, next, if_pos rfl, foldl_unbound latest, Bool.true_and]

end Binding

namespace EntitySession

variable {α γ : Type} [SlotStore α γ] {width : Nat}

structure Agrees (store : EntityStore α γ) (standing : Standing) (binding : Binding) : Prop where
  stays : standing.stays = binding.stays
  here : binding.stays = true → store.idAt standing.slot = some binding.id

omit [SlotStore α γ] in
theorem Agrees.of_directory {store next : EntityStore α γ} {standing : Standing} {binding : Binding}
    (agrees : Agrees store standing binding) (same : next.directory = store.directory) :
    Agrees next standing binding := by
  refine ⟨agrees.stays, ?_⟩
  rw [EntityStore.idAt, same]
  exact agrees.here

omit [SlotStore α γ] in
theorem getElem?_ids {store : EntityStore α γ} {slot : Nat} {id : EntityId} :
    store.directory.ids.toList[slot]? = some id ↔ store.idAt slot = some id := by
  rw [Directory.getElem?_ids]
  rfl

omit [SlotStore α γ] in
theorem idOf_eq_ok {store : EntityStore α γ} {handle : Handle} {slot : Nat} {id : EntityId}
    (good : store.records.slotOf handle = .ok slot) (here : store.idAt slot = some id) :
    store.idOf handle = .ok id := by
  unfold EntityStore.idOf
  refine bind_eq_ok.mpr ⟨slot, good, ?_⟩
  rw [here]
  rfl

variable [LawfulSlotStore α]

theorem disturbs_removed {store : EntityStore α γ} (sound : store.Sound) {slot place : Nat}
    {gone id : EntityId} (there : store.idAt slot = some gone) (here : store.idAt place = some id) :
    (Event.removed gone (movedBy store (SlotPool.relocation store.len slot))).disturbs id =
      (Mark.freed slot (SlotPool.relocation store.len slot)).disturbs place := by
  have same : ∀ other, store.idAt other = some id ↔ place = other := by
    intro other
    constructor
    · intro found
      exact place_unique sound.paired.nodup (getElem?_ids.mpr here) (getElem?_ids.mpr found)
    · intro equal
      rw [← equal]
      exact here
  have isGone : id = gone ↔ place = slot := by
    rw [← same, there, Option.some.injEq]
    exact eq_comm
  rw [Mark.disturbs_freed, Event.disturbs, movedBy, SlotPool.relocation]
  by_cases last : slot + 1 = store.len
  · have lastSlot : store.len - 1 = slot := by omega
    rw [if_pos last, lastSlot]
    simp [isGone]
  · rw [if_neg last]
    simp [isGone, same]

theorem idAt_removed {store next : EntityStore α γ} (sound : store.Sound) {slot place : Nat} {id : EntityId}
    (removed : store.Removed slot next) (here : store.idAt place = some id)
    (undisturbed : (Mark.freed slot (SlotPool.relocation store.len slot)).disturbs place = false) :
    next.idAt place = some id := by
  rw [Mark.disturbs_freed, decide_eq_false_iff_not, not_or] at undisturbed
  have found := getElem?_ids.mpr here
  have inside := (List.getElem?_eq_some_iff.mp found).1
  have count : store.directory.ids.toList.length = store.len := by
    rw [Array.length_toList]
    exact sound.len_eq
  rw [← getElem?_ids, removed.ids, getElem?_closeGap, if_pos (by omega), if_neg undisturbed.1]
  exact found

theorem idAt_entered {store next : EntityStore α γ} {slot : Nat} {id entered : EntityId}
    (step : store.Entered entered next) (here : store.idAt slot = some id) : next.idAt slot = some id := by
  have found := getElem?_ids.mpr here
  have inside := (List.getElem?_eq_some_iff.mp found).1
  rw [← getElem?_ids, step.ids, Array.toList_push, List.getElem?_append_left inside]
  exact found

/-! ### What a history tells of a session -/

/-- A session whose records are as the marks have them and whose bindings are as the events have them. -/
structure Tells (session : EntitySession α γ) (told : List Event) (marks : List Mark) : Prop where
  sound : session.store.Sound
  tracks : Session.Tracks ⟨session.store.records, session.held⟩ marks
  bindings : ∀ holder binding, Binding.after holder told = some binding →
    ∃ standing, Standing.after holder marks = some standing ∧ Agrees session.store standing binding

namespace Tells

variable {session : EntitySession α γ} {store : EntityStore α γ} {held : List Handle} {told : List Event}
  {marks : List Mark}

theorem of_directory (tells : Tells session told marks) {next : EntitySession α γ}
    (same : next.store.directory = session.store.directory)
    (len_eq : next.store.records.len = session.store.records.len)
    (tracks : Session.Tracks ⟨next.store.records, next.held⟩ marks) : Tells next told marks := by
  refine ⟨⟨tracks.sound, ?_, ?_⟩, tracks, ?_⟩
  · rw [same]
    exact tells.sound.paired
  · rw [same, len_eq]
    exact tells.sound.len_eq
  · intro holder binding found
    obtain ⟨standing, known, agrees⟩ := tells.bindings holder binding found
    exact ⟨standing, known, agrees.of_directory same⟩

theorem lent (tells : Tells session told marks) (lending : Lending) {held : List Handle}
    (kept : session.held <+: held) :
    Tells ⟨{ session.store with records := { session.store.records with lending } }, held⟩ told marks := by
  obtain ⟨more, rfl⟩ := kept
  exact tells.of_directory rfl rfl (tells.tracks.lent lending more)

theorem entered (tells : Tells ⟨store, held⟩ told marks) {id : EntityId} {next : EntityStore α γ}
    (entered : store.Entered id next) : Tells ⟨next, held⟩ told (marks ++ [.added store.records.len]) := by
  obtain ⟨cells, shape⟩ := entered.shape
  refine ⟨entered.sound, tells.tracks.added shape entered.sound.records, ?_⟩
  intro holder binding found
  obtain ⟨standing, known, stays, here⟩ := tells.bindings holder binding found
  refine ⟨standing, ?_, stays, fun still => idAt_entered entered (here still)⟩
  rw [Standing.after_append, known, Standing.next_unbound (by intro slot; exact nofun)]
  simp [Mark.disturbs]

theorem removed (tells : Tells ⟨store, held⟩ told marks) {id : EntityId} {slot : Nat}
    {next : EntityStore α γ} (there : store.idAt slot = some id) (removed : store.Removed slot next) :
    Tells ⟨next, held⟩ (told ++ [.removed id (movedBy store (SlotPool.relocation store.len slot))])
      (marks ++ [.freed slot (SlotPool.relocation store.len slot)]) := by
  have sound : store.Sound := tells.sound
  obtain ⟨cells, shape⟩ := removed.shape
  have tracks : Session.Tracks ⟨next.records, held⟩
      (marks ++ [.freed slot (SlotPool.relocation store.len slot)]) := by
    rw [shape]
    exact tells.tracks.freed (shape ▸ removed.sound.records) fun _ handle kept => ⟨handle, kept, Or.inl rfl⟩
  refine ⟨removed.sound, tracks, ?_⟩
  intro holder binding found
  rw [Binding.after_append, Binding.next_unbound (by intro other; exact nofun)] at found
  obtain ⟨before, bound, rfl⟩ := Option.map_eq_some_iff.mp found
  obtain ⟨standing, known, stays, here⟩ := tells.bindings holder before bound
  have step := Standing.after_append holder marks (.freed slot (SlotPool.relocation store.len slot))
  rw [known, Standing.next_unbound (by intro other; exact nofun)] at step
  refine ⟨_, step, ?_, ?_⟩
  · change (standing.stays && _) = (before.stays && _)
    rw [stays]
    -- Only of a binding that still stands it is known which slot the entity is in.
    cases still : before.stays with
    | false => rfl
    | true => rw [disturbs_removed sound there (here still)]
  · intro both
    obtain ⟨still, undisturbed⟩ := (Bool.and_eq_true _ _).mp both
    rw [disturbs_removed sound there (here still), Bool.not_eq_true'] at undisturbed
    exact idAt_removed sound removed (here still) undisturbed

theorem cleared (tells : Tells ⟨store, held⟩ told marks) :
    Tells ⟨store.clear, held⟩ (told ++ [.cleared]) (marks ++ [.cleared]) := by
  refine ⟨(EntityStore.clear_spec tells.sound).1, tells.tracks.cleared, ?_⟩
  intro holder binding found
  rw [Binding.after_append, Binding.next_unbound (by intro other; exact nofun)] at found
  obtain ⟨before, bound, rfl⟩ := Option.map_eq_some_iff.mp found
  obtain ⟨standing, known, _⟩ := tells.bindings holder before bound
  have step := Standing.after_append holder marks .cleared
  rw [known, Standing.next_unbound (by intro other; exact nofun)] at step
  refine ⟨_, step, ?_, ?_⟩
  · simp [Mark.disturbs, Event.disturbs]
  · simp [Event.disturbs]

theorem bound (tells : Tells session told marks) {holder slot : Nat} {id : EntityId} {handle : Handle}
    (kept : session.held[holder]? = some handle) (own : handle.poolId = session.store.records.poolId)
    (inside : slot < session.store.records.len) (here : session.store.idAt slot = some id) :
    Tells { session with held := session.held.set holder (session.store.records.bound handle slot) }
      (told ++ [.bound holder id]) (marks ++ [.bound holder slot]) := by
  refine ⟨tells.sound, tells.tracks.bound kept own inside, ?_⟩
  intro other binding found
  rw [Binding.after_append] at found
  rw [Standing.after_append]
  by_cases same : holder = other
  · rw [Binding.next, if_pos same] at found
    obtain rfl := Option.some.inj found
    rw [Standing.next, if_pos same]
    exact ⟨_, rfl, rfl, fun _ => here⟩
  · rw [Binding.next, if_neg same] at found
    rw [Standing.next, if_neg same]
    exact tells.bindings other binding found

end Tells

theorem effect_tells {store next : EntityStore α γ} {act : EntityStore.Act γ width}
    {outcome : Except PoolFailure EntityStore.Answer} {held : List Handle} {told : List Event}
    {marks : List Mark} (effect : store.Effect (act, outcome) next) (tells : Tells ⟨store, held⟩ told marks) :
    ∃ more, Tells ⟨next, held⟩ (told ++ toldOf store act outcome) more := by
  cases effect with
  | failed raw =>
    rw [toldOf_error, List.append_nil]
    exact ⟨marks, tells.of_directory rfl rfl tells.tracks⟩
  | created vacant entered =>
    rw [toldOf_created, List.append_nil]
    exact ⟨_, tells.entered entered⟩
  | lastCreated _ _ entered =>
    rw [toldOf_error, List.append_nil]
    exact ⟨_, tells.entered entered⟩
  | removed here removed => exact ⟨_, tells.removed here removed⟩
  | written shape sound =>
    rw [toldOf_write, List.append_nil]
    subst shape
    exact ⟨marks, tells.of_directory rfl rfl (tells.tracks.stored rfl sound.records)⟩
  | cleared => exact ⟨_, tells.cleared⟩

theorem Turn.tells {session next : EntitySession α γ} {act : Act γ width}
    {outcome : Except PoolFailure (List Event)} {told : List Event} {marks : List Mark}
    (turn : Turn session act outcome next) (tells : Tells session told marks) :
    ∃ more, Tells next (told ++ Step.reported outcome) more := by
  cases turn with
  | idle =>
    rw [Step.reported, List.append_nil]
    exact ⟨marks, tells⟩
  | refused =>
    rw [Step.reported, List.append_nil]
    exact ⟨marks, tells⟩
  | done effect => exact effect_tells effect tells
  | failed effect => exact effect_tells effect tells
  | lent lending kept =>
    rw [Step.reported, List.append_nil]
    exact ⟨marks, tells.lent lending kept⟩
  | bound kept own inside here => exact ⟨_, tells.bound kept own inside here⟩

/-! ### Runs -/

theorem run_tells [Cell γ] (acts : List (Act γ width)) {session : EntitySession α γ} {told : List Event}
    {marks : List Mark} (tells : Tells session told marks)
    (wide : session.store.records.form.width = width) :
    ∃ more, Tells (Step.leftAfter perform acts session) (told ++ Step.reports perform acts session) more := by
  let Told : EntitySession α γ → List Event → Prop := fun session told =>
    (∃ marks, Tells session told marks) ∧ session.store.records.form.width = width
  have each : ∀ session told (act : Act γ width), Told session told →
      Told ((perform act).left session) (told ++ Step.reported ((perform act).outcome session)) := by
    rintro session told act ⟨⟨marks, tells⟩, wide⟩
    have turn := perform_turns tells.sound wide act
    exact ⟨turn.tells tells, (congrArg Form.width turn.form).trans wide⟩
  exact (Step.run_keeps (motive := Told) each acts ⟨⟨marks, tells⟩, wide⟩).1

theorem make_tells {poolId : Nat} {form : Form γ} {sizing : Sizing} {start : EntityStore α γ}
    (fits : form.fresh.length = form.width) (made : EntityStore.make poolId form sizing = .ok start)
    (held : List Handle) : Tells ⟨start, held⟩ [] [] := by
  obtain ⟨sound, _⟩ := EntityStore.sound_make fits made
  obtain ⟨_, _, _, empty, _, clearedAt, blank⟩ :=
    RecordPool.sound_make fits (EntityStore.make_cases made).1
  exact ⟨sound, .start sound.records empty blank clearedAt held, nofun⟩

/-- A handle that was last bound to an entity is good as long as that entity has been neither removed nor
moved nor dropped, and then reads the fields of that entity. It is not good for an entity that has come
to the same slot since, also if that has the same identifier. -/
theorem bound_good_iff_undisturbed {α : Type} [SlotStore α UInt8] [LawfulSlotStore α] {poolId : Nat}
    {form : Form UInt8} {sizing : Sizing} {start : EntityStore α UInt8}
    (fits : form.fresh.length = form.width) (made : EntityStore.make poolId form sizing = .ok start)
    (held : List Handle) (acts : List (Act UInt8 form.width)) {last : EntitySession α UInt8}
    (ran : Step.leftAfter perform acts ⟨start, held⟩ = last) {holder : Nat} {id : EntityId}
    {before rest : List Event}
    (told : Step.reports perform acts ⟨start, held⟩ = before ++ .bound holder id :: rest)
    (latest : ∀ other, .bound holder other ∉ rest) :
    ∃ handle, last.held[holder]? = some handle ∧
      last.store.idOf handle =
        (if ∀ event ∈ rest, event.disturbs id = false then .ok id
        else .error (.refused (.invalidHandle handle.slot last.store.len))) ∧
      ((∀ event ∈ rest, event.disturbs id = false) →
        ∀ field, last.store.records.getField handle field = last.store.getField id field) := by
  obtain ⟨_, formed, _⟩ := EntityStore.sound_make fits made
  obtain ⟨marks, tells⟩ := run_tells acts (make_tells fits made held) (congrArg Form.width formed)
  rw [ran, List.nil_append, told] at tells
  have bound := Binding.after_bound before id latest
  obtain ⟨standing, known, stays, here⟩ := tells.bindings holder _ bound
  obtain ⟨handle, kept, upheld⟩ := tells.tracks.upheld holder standing known
  have undisturbed : (rest.all fun event => !event.disturbs id) = true ↔
      ∀ event ∈ rest, event.disturbs id = false := by
    simp
  refine ⟨handle, kept, ?_, ?_⟩
  · by_cases still : ∀ event ∈ rest, event.disturbs id = false
    · have good := undisturbed.mpr still
      rw [if_pos still]
      exact idOf_eq_ok (upheld.slotOf_ok (stays.trans good)) (here good)
    · have gone := Bool.eq_false_iff.mpr (fun good => still (undisturbed.mp good))
      rw [if_neg still, EntityStore.idOf, upheld.slotOf_error (stays.trans gone)]
      rfl
  · intro still field
    have good := undisturbed.mpr still
    have found := (tells.sound.paired id standing.slot).mpr (here good)
    have there : last.store.require id = .ok standing.slot := by
      rw [EntityStore.require, EntityStore.slotOf, found]
    rw [RecordPool.getField, EntityStore.getField, upheld.slotOf_ok (stays.trans good), there]

/-- Two entities are bound, and one of them is removed and created again in the same slot. -/
def reissued : List (Act UInt8 1) :=
  [.entities (.createWithId ⟨7⟩), .entities (.createWithId ⟨8⟩), .lend, .lend, .bind ⟨8⟩ 0, .bind ⟨7⟩ 1,
    .entities (.remove ⟨8⟩), .entities (.createWithId ⟨8⟩)]

theorem reissued_handles :
    ∃ (start : EntityStore (FlatSlots UInt8) UInt8) (last : EntitySession (FlatSlots UInt8) UInt8),
      EntityStore.make 0 ⟨1, [0]⟩ { initialCapacity := 2 } = .ok start ∧
      Step.leftAfter perform reissued ⟨start, []⟩ = last ∧ last.store.slotOf ⟨8⟩ = some 1 ∧
      (∃ handle, last.held[0]? = some handle ∧
        last.store.idOf handle = .error (.refused (.invalidHandle handle.slot last.store.len))) ∧
      ∃ handle, last.held[1]? = some handle ∧ last.store.idOf handle = .ok ⟨7⟩ ∧
        ∀ field, last.store.records.getField handle field = last.store.getField ⟨7⟩ field := by
  obtain ⟨start, made, told, again⟩ : ∃ start : EntityStore (FlatSlots UInt8) UInt8,
      EntityStore.make 0 ⟨1, [0]⟩ { initialCapacity := 2 } = .ok start ∧
      Step.reports perform reissued ⟨start, []⟩ = [.bound 0 ⟨8⟩, .bound 1 ⟨7⟩, .removed ⟨8⟩ none] ∧
      (Step.leftAfter perform reissued ⟨start, []⟩).store.slotOf ⟨8⟩ = some 1 := by
    refine ⟨_, rfl, ?_, ?_⟩
    · decide +kernel
    · decide +kernel
  have fits : (Form.mk 1 [(0 : UInt8)]).fresh.length = 1 := rfl
  obtain ⟨last, ran⟩ : ∃ last, Step.leftAfter perform reissued ⟨start, []⟩ = last := ⟨_, rfl⟩
  rw [ran] at again
  refine ⟨start, last, made, ran, again, ?_, ?_⟩
  · have first : Step.reports perform reissued ⟨start, []⟩ =
        [] ++ .bound 0 ⟨8⟩ :: [.bound 1 ⟨7⟩, .removed ⟨8⟩ none] := told
    have latest : ∀ other, Event.bound 0 other ∉ [.bound 1 ⟨7⟩, .removed ⟨8⟩ none] := by simp
    obtain ⟨handle, held, good, _⟩ := bound_good_iff_undisturbed fits made [] reissued ran first latest
    exact ⟨handle, held, good.trans (if_neg (by decide))⟩
  · have second : Step.reports perform reissued ⟨start, []⟩ =
        [.bound 0 ⟨8⟩] ++ .bound 1 ⟨7⟩ :: [.removed ⟨8⟩ none] := told
    have latest : ∀ other, Event.bound 1 other ∉ [.removed ⟨8⟩ none] := by simp
    obtain ⟨handle, held, good, fields⟩ := bound_good_iff_undisturbed fits made [] reissued ran second latest
    exact ⟨handle, held, good.trans (if_pos (by decide)), fields (by decide)⟩

end EntitySession

end SpatialStore
