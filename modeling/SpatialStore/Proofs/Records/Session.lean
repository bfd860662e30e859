import SpatialStore.Proofs.Slots.Flat
import SpatialStore.Proofs.Records.History

/-! Sessions: a pool with the handles that its callers hold, each bound to one record or another. -/

namespace SpatialStore

structure Session (α γ : Type) where
  pool : RecordPool α γ
  held : List Handle := []

namespace Session

variable {α γ β : Type}

/-- What the callers can ask for. A holder is the place of a handle among those that are held. -/
inductive Act
  | lend
  | takeBack (holder : Nat)
  | create (holder : Nat)
  | allocate
  | bind (slot holder : Nat)
  | delete (holder : Nat)
  | deleteAt (slot : Nat)
  | clear

def onPool (step : Step PoolFailure (RecordPool α γ) β) : Step PoolFailure (Session α γ) β :=
  Step.within Session.pool (fun pool session => { session with pool }) id step

def withHeld (holder : Nat) (step : Handle → Step PoolFailure (Session α γ) (List Mark)) :
    Step PoolFailure (Session α γ) (List Mark) := fun session =>
  match session.held[holder]? with
  | none => .ok [] session
  | some handle => step handle session

def hold (holder : Nat) (handle : Handle) : Step PoolFailure (Session α γ) PUnit :=
  modify fun session => { session with held := session.held.set holder handle }

variable [SlotStore α γ]

def perform [Cell γ] : Act → Step PoolFailure (Session α γ) (List Mark)
  | .lend => do
    let handle ← onPool RecordPool.lend
    modify fun session => { session with held := session.held ++ [handle] }
    return []
  | .takeBack holder => withHeld holder fun handle => do
    onPool (RecordPool.takeBack handle)
    return []
  | .create holder => withHeld holder fun handle => do
    let (slot, handle) ← onPool (RecordPool.create handle)
    hold holder handle
    return [.added slot, .bound holder slot]
  | .allocate => do
    let slot ← onPool RecordPool.allocate
    return [.added slot]
  | .bind slot holder => withHeld holder fun handle => do
    let handle ← Step.read (fun session => session.pool.bind slot handle)
    hold holder handle
    return [.bound holder slot]
  | .delete holder => withHeld holder fun handle => do
    let (relocation, released) ← onPool (RecordPool.delete handle)
    hold holder released
    return handle.slot.toList.map fun slot => .freed slot relocation
  | .deleteAt slot => do
    let relocation ← onPool (RecordPool.deleteAt slot)
    return [.freed slot relocation]
  | .clear => do
    modify fun session => { session with pool := session.pool.clear }
    return [.cleared]

variable [LawfulSlotStore α]

/-- A pool whose records, stamps and handles are as its history has it. -/
structure Tracks (session : Session α γ) (history : List Mark) : Prop where
  sound : session.pool.Sound
  stamped : ∀ slot, session.pool.slots.stamp slot ≤ session.pool.modifications
  numbered : (Roll.after history).Sound
  inStep : (Roll.after history).residents.length = session.pool.len
  upheld : ∀ holder standing, Standing.after holder history = some standing →
    ∃ handle, session.held[holder]? = some handle ∧
      Upheld session.pool (Roll.after history) standing handle

namespace Tracks

variable {session : Session α γ} {history : List Mark}

theorem start {pool : RecordPool α γ} (sound : pool.Sound) (empty : pool.len = 0)
    (blank : pool.slots.stamps = #[]) (clearedAt : pool.slots.clearedAt = 0) (held : List Handle) :
    Tracks ⟨pool, held⟩ [] := by
  refine ⟨sound, ?_, Roll.sound_empty, empty.symm, ?_⟩
  · intro slot
    change pool.slots.stamp slot ≤ pool.modifications
    rw [SlotPool.stamp, blank, clearedAt]
    exact Nat.zero_le _
  · intro holder standing found
    exact nomatch found

theorem lent (tracks : Tracks session history) (lending : Lending) (more : List Handle) :
    Tracks ⟨{ session.pool with lending }, session.held ++ more⟩ history := by
  obtain ⟨sound, stamped, numbered, inStep, upheld⟩ := tracks
  refine ⟨⟨sound.slots, sound.width, sound.fresh⟩, stamped, numbered, inStep, ?_⟩
  intro holder standing found
  obtain ⟨handle, held, kept⟩ := upheld holder standing found
  have inside := (List.getElem?_eq_some_iff.mp held).1
  exact ⟨handle, (List.getElem?_append_left inside).trans held, kept.of_slots rfl rfl⟩

theorem stored (tracks : Tracks session history) {store : α} {next : RecordPool α γ}
    (shape : next = { session.pool with slots := { session.pool.slots with store } })
    (sound : next.Sound) : Tracks { session with pool := next } history := by
  obtain ⟨_, stamped, numbered, inStep, upheld⟩ := tracks
  subst shape
  refine ⟨sound, stamped, numbered, inStep, ?_⟩
  intro holder standing found
  obtain ⟨handle, held, kept⟩ := upheld holder standing found
  exact ⟨handle, held, kept.own, kept.earlier, kept.known, kept.stays, kept.gone⟩

theorem added (tracks : Tracks session history) {store : α} {next : RecordPool α γ}
    (shape : next = { session.pool with
      slots := { session.pool.slots with store, len := session.pool.len + 1 } }) (sound : next.Sound) :
    Tracks { session with pool := next } (history ++ [.added session.pool.len]) := by
  obtain ⟨_, stamped, numbered, inStep, upheld⟩ := tracks
  subst shape
  refine ⟨sound, stamped, ?_, ?_, ?_⟩
  · rw [Roll.after_append]
    exact numbered.next _
  · rw [Roll.after_append]
    change ((Roll.after history).residents ++ [_]).length = session.pool.len + 1
    rw [List.length_append, inStep, List.length_singleton]
  · intro holder standing found
    obtain ⟨before, known, rfl⟩ := Standing.after_unbound (by intro slot; exact nofun) found
    obtain ⟨handle, held, kept⟩ := upheld holder before known
    rw [Roll.after_append]
    refine ⟨handle, held, ?_⟩
    rw [Mark.disturbs, Bool.not_false, Bool.and_true]
    exact kept.added inStep store

theorem bound (tracks : Tracks session history) {holder slot : Nat} {handle : Handle}
    (held : session.held[holder]? = some handle) (own : handle.poolId = session.pool.poolId)
    (inside : slot < session.pool.len) :
    Tracks { session with held := session.held.set holder (session.pool.bound handle slot) }
      (history ++ [.bound holder slot]) := by
  obtain ⟨sound, stamped, numbered, inStep, upheld⟩ := tracks
  have within := (List.getElem?_eq_some_iff.mp held).1
  refine ⟨sound, stamped, ?_, ?_, ?_⟩
  · rw [Roll.after_append]
    exact numbered.next _
  · rw [Roll.after_append]
    exact inStep
  · intro other standing found
    rw [Roll.after_append]
    by_cases same : holder = other
    · subst other
      rw [Standing.after_append, Standing.next, if_pos rfl] at found
      obtain rfl := Option.some.inj found
      refine ⟨_, List.getElem?_set_self within, ?_⟩
      exact Upheld.fresh numbered own (inStep ▸ inside) inside (stamped slot)
    · have unbound : ∀ slot', Mark.bound holder slot ≠ .bound other slot' := by
        intro slot' equal
        exact same (Mark.bound.inj equal).1
      obtain ⟨before, known, rfl⟩ := Standing.after_unbound unbound found
      obtain ⟨handle, kept, upholds⟩ := upheld other before known
      refine ⟨handle, (List.getElem?_set_ne same).trans kept, ?_⟩
      rw [Mark.disturbs, Bool.not_false, Bool.and_true]
      exact upholds

/-- Freeing a slot. The handle by which it was done is released; all others are kept. -/
theorem freed (tracks : Tracks session history) {slot : Nat} {store : α}
    (sound : (session.pool.shrunk store slot).Sound) {held : List Handle}
    (released : ∀ (holder : Nat) (handle : Handle), session.held[holder]? = some handle →
      ∃ kept, held[holder]? = some kept ∧ handle.ReleasedFrom slot kept) :
    Tracks ⟨session.pool.shrunk store slot, held⟩
      (history ++ [.freed slot (SlotPool.relocation session.pool.len slot)]) := by
  obtain ⟨_, stamped, numbered, inStep, upheld⟩ := tracks
  refine ⟨sound, ?_, ?_, ?_, ?_⟩
  · intro other
    change _ ≤ session.pool.modifications + 1
    rw [RecordPool.stamp_shrunk]
    have clearedAt := Nat.le_trans (session.pool.slots.clearedAt_le_stamp other) (stamped other)
    split
    next => exact Nat.max_le.mpr ⟨Nat.le_refl _, Nat.le_succ_of_le clearedAt⟩
    next => exact Nat.le_succ_of_le (stamped other)
  · rw [Roll.after_append]
    exact numbered.next _
  · rw [Roll.after_append]
    change (closeGap (Roll.after history).residents slot).length = session.pool.len - 1
    rw [length_closeGap, inStep]
  · intro holder standing found
    obtain ⟨before, known, rfl⟩ := Standing.after_unbound (by intro slot; exact nofun) found
    obtain ⟨handle, kept, upholds⟩ := upheld holder before known
    rw [Roll.after_append, Mark.disturbs_freed]
    obtain ⟨after, still, release⟩ := released holder handle kept
    refine ⟨after, still, ?_⟩
    by_cases moves : before.slot = slot ∨ before.slot = session.pool.len - 1
    · rw [decide_eq_true moves, Bool.not_true, Bool.and_false]
      exact upholds.moved numbered.nodup inStep store moves release
    · rw [decide_eq_false moves, Bool.not_false, Bool.and_true]
      obtain ⟨apart, notLast⟩ := not_or.mp moves
      exact upholds.unmoved inStep store apart notLast release

theorem cleared (tracks : Tracks session history) :
    Tracks { session with pool := session.pool.clear } (history ++ [.cleared]) := by
  obtain ⟨sound, stamped, numbered, inStep, upheld⟩ := tracks
  refine ⟨(RecordPool.clear_spec sound).1, ?_, ?_, ?_, ?_⟩
  · intro slot
    change SlotPool.stamp session.pool.slots.clear slot ≤ session.pool.modifications + 1
    rw [SlotPool.stamp_clear]
    have earlier : session.pool.slots.stamps.getD slot 0 ≤ session.pool.modifications :=
      Nat.le_trans (Nat.le_max_left _ _) (stamped slot)
    exact Nat.max_le.mpr ⟨Nat.le_succ_of_le earlier, Nat.le_refl _⟩
  · rw [Roll.after_append]
    exact numbered.next _
  · rw [Roll.after_append]
    rfl
  · intro holder standing found
    obtain ⟨before, known, rfl⟩ := Standing.after_unbound (by intro slot; exact nofun) found
    obtain ⟨handle, kept, upholds⟩ := upheld holder before known
    rw [Roll.after_append, Mark.disturbs, Bool.not_true, Bool.and_false]
    exact ⟨handle, kept, upholds.cleared⟩

end Tracks

/-! ### One act -/

structure Grown (pool next : RecordPool α γ) : Prop where
  sound : next.Sound
  shape : ∃ store, next = { pool with slots := { pool.slots with store, len := pool.len + 1 } }
  rows : next.records = pool.records ++ [pool.form.fresh]

theorem Grown.modifications {pool next : RecordPool α γ} (grown : Grown pool next) :
    next.modifications = pool.modifications := by
  obtain ⟨store, shape⟩ := grown.shape
  rw [shape]
  rfl

theorem Grown.form {pool next : RecordPool α γ} (grown : Grown pool next) : next.form = pool.form := by
  obtain ⟨store, shape⟩ := grown.shape
  rw [shape]

/-- What there is of a session after an act, and the marks that tell of it. -/
inductive Turn (session : Session α γ) : Except PoolFailure (List Mark) → Session α γ → Prop
  | idle : Turn session (.ok []) session
  | refused {failure : PoolFailure} : Turn session (.error failure) session
  | lent (lending : Lending) {held : List Handle} (kept : session.held <+: held) :
      Turn session (.ok []) ⟨{ session.pool with lending }, held⟩
  | added {next : RecordPool α γ} (grown : Grown session.pool next) :
      Turn session (.ok [.added session.pool.len]) { session with pool := next }
  | created {next : RecordPool α γ} (grown : Grown session.pool next) {holder : Nat} {handle : Handle}
      (held : session.held[holder]? = some handle) (own : handle.poolId = session.pool.poolId) :
      Turn session (.ok [.added session.pool.len, .bound holder session.pool.len])
        ⟨next, session.held.set holder (next.bound handle session.pool.len)⟩
  | bound {holder slot : Nat} {handle : Handle} (held : session.held[holder]? = some handle)
      (own : handle.poolId = session.pool.poolId) (inside : slot < session.pool.len) :
      Turn session (.ok [.bound holder slot])
        { session with held := session.held.set holder (session.pool.bound handle slot) }
  | freed {slot : Nat} {store : α} (sound : (session.pool.shrunk store slot).Sound) {held : List Handle}
      (released : ∀ (holder : Nat) (handle : Handle), session.held[holder]? = some handle →
        ∃ kept, held[holder]? = some kept ∧ handle.ReleasedFrom slot kept) :
      Turn session (.ok [.freed slot (SlotPool.relocation session.pool.len slot)])
        ⟨session.pool.shrunk store slot, held⟩
  | cleared : Turn session (.ok [.cleared]) { session with pool := session.pool.clear }

def Turns (step : Step PoolFailure (Session α γ) (List Mark)) (session : Session α γ) : Prop :=
  step.Ends session (Turn session)

theorem turns_of_error {step : Step PoolFailure (Session α γ) (List Mark)} {session : Session α γ}
    {failure : PoolFailure} (run : step session = .error failure session) : Turns step session :=
  Step.ends_of_error run .refused

/-- A step for a holder goes by the handle that is held, and without one does nothing. -/
theorem turns_withHeld {session : Session α γ} {holder : Nat}
    {step : Handle → Step PoolFailure (Session α γ) (List Mark)}
    (each : ∀ handle, session.held[holder]? = some handle → Turns (step handle) session) :
    Turns (withHeld holder step) session := by
  cases held : session.held[holder]? with
  | none =>
    have run : withHeld holder step session = .ok [] session := by
      rw [withHeld, held]
    exact Step.ends_of_ok run .idle
  | some handle =>
    have run : withHeld holder step session = step handle session := by
      rw [withHeld, held]
    have turns := each handle held
    rw [Turns, Step.Ends, Step.left, Step.outcome] at turns ⊢
    rw [run]
    exact turns

omit [SlotStore α γ] [LawfulSlotStore α] in
theorem onPool_ok {step : Step PoolFailure (RecordPool α γ) β} {session : Session α γ} {answer : β}
    {next : RecordPool α γ} (run : step session.pool = .ok answer next) :
    onPool step session = .ok answer { session with pool := next } := by
  rw [onPool, Step.within_ok run]

omit [SlotStore α γ] [LawfulSlotStore α] in
theorem onPool_error {step : Step PoolFailure (RecordPool α γ) β} {session : Session α γ}
    {failure : PoolFailure} {next : RecordPool α γ} (run : step session.pool = .error failure next) :
    onPool step session = .error failure { session with pool := next } := by
  rw [onPool, Step.within_error run]
  rfl

theorem perform_turns [Cell γ] {session : Session α γ} (sound : session.pool.Sound) (act : Act) :
    Turns (perform act) session := by
  cases act with
  | lend =>
    rcases session.pool.lend_cases with ⟨failure, refused⟩ | ⟨handle, lending, lent⟩
    · exact turns_of_error (Step.bind_of_error (onPool_error refused))
    · exact Step.ends_of_bind (onPool_ok lent) (.lent lending (List.prefix_append _ _))
  | takeBack holder =>
    apply turns_withHeld
    intro handle _
    rcases session.pool.takeBack_cases handle with ⟨failure, refused⟩ | ⟨lending, taken⟩
    · exact turns_of_error (Step.bind_of_error (onPool_error refused))
    · exact Step.ends_of_bind (onPool_ok taken) (.lent lending List.prefix_rfl)
  | create holder =>
    apply turns_withHeld
    intro handle held
    rcases RecordPool.create_cases sound handle with
      ⟨failure, refused⟩ | ⟨store, next, shape, own, created, soundNext, rows⟩
    · exact turns_of_error (Step.bind_of_error (onPool_error refused))
    · exact Step.ends_of_bind (onPool_ok created) (.created ⟨soundNext, ⟨store, shape⟩, rows⟩ held own)
  | allocate =>
    rcases RecordPool.allocate_cases sound with
      ⟨failure, _, refused⟩ | ⟨store, next, shape, taken, soundNext, rows⟩
    · exact turns_of_error (Step.bind_of_error (onPool_error refused))
    · exact Step.ends_of_bind (onPool_ok taken) (.added ⟨soundNext, ⟨store, shape⟩, rows⟩)
  | bind slot holder =>
    apply turns_withHeld
    intro handle held
    cases bound : session.pool.bind slot handle with
    | error failure =>
      have refused := Step.read_of_error (fun session : Session α γ => session.pool.bind slot handle) bound
      exact turns_of_error (Step.bind_of_error refused)
    | ok next =>
      have looked := Step.read_of_ok (fun session : Session α γ => session.pool.bind slot handle) bound
      obtain ⟨own, inside, rfl⟩ := RecordPool.bind_ok_cases bound
      exact Step.ends_of_bind looked (.bound held own inside)
  | delete holder =>
    apply turns_withHeld
    intro handle held
    rcases RecordPool.delete_cases sound handle with
      ⟨failure, refused⟩ | ⟨slot, store, bound, inside, deleted, soundNext⟩
    · exact turns_of_error (Step.bind_of_error (onPool_error refused))
    · apply Step.ends_of_bind (onPool_ok deleted)
      have within := (List.getElem?_eq_some_iff.mp held).1
      have released : ∀ (other : Nat) (old : Handle), session.held[other]? = some old →
          ∃ kept, (session.held.set holder { handle with slot := none })[other]? = some kept ∧
            old.ReleasedFrom slot kept := by
        intro other old here
        by_cases same : holder = other
        · subst other
          obtain rfl := Option.some.inj (held.symm.trans here)
          exact ⟨_, List.getElem?_set_self within, Or.inr ⟨bound, rfl⟩⟩
        · exact ⟨old, (List.getElem?_set_ne same).trans here, Or.inl rfl⟩
      rw [bound]
      exact .freed soundNext released
  | deleteAt slot =>
    by_cases inside : slot < session.pool.len
    · obtain ⟨store, next, rfl, freed, soundNext, _⟩ := RecordPool.deleteAt_ok sound inside
      apply Step.ends_of_bind (onPool_ok freed)
      exact .freed soundNext fun holder handle held => ⟨handle, held, Or.inl rfl⟩
    · have refused := RecordPool.deleteAt_refused (Nat.le_of_not_lt inside)
      exact turns_of_error (Step.bind_of_error (onPool_error refused))
  | clear => exact Step.ends_of_ok rfl .cleared

theorem Turn.form {session next : Session α γ} {outcome : Except PoolFailure (List Mark)}
    (turn : Turn session outcome next) : next.pool.form = session.pool.form := by
  cases turn with
  | idle => rfl
  | refused => rfl
  | lent => rfl
  | added grown => exact grown.form
  | created grown => exact grown.form
  | bound => rfl
  | freed => rfl
  | cleared => rfl

theorem Turn.tracks {session next : Session α γ} {outcome : Except PoolFailure (List Mark)}
    {history : List Mark} (turn : Turn session outcome next) (tracks : Tracks session history) :
    Tracks next (history ++ Step.reported outcome) := by
  cases turn with
  | idle =>
    rw [Step.reported, List.append_nil]
    exact tracks
  | refused =>
    rw [Step.reported, List.append_nil]
    exact tracks
  | lent lending kept =>
    obtain ⟨more, rfl⟩ := kept
    rw [Step.reported, List.append_nil]
    exact tracks.lent lending more
  | added grown =>
    obtain ⟨store, shape⟩ := grown.shape
    exact tracks.added shape grown.sound
  | @created next grown holder handle held own =>
    obtain ⟨store, shape⟩ := grown.shape
    have inside : session.pool.len < next.len := by
      rw [shape]
      exact Nat.lt_succ_self _
    have owned : handle.poolId = next.poolId := by
      rw [shape]
      exact own
    have bound := (tracks.added shape grown.sound).bound held owned inside
    rw [List.append_assoc] at bound
    exact bound
  | bound held own inside => exact tracks.bound held own inside
  | freed sound released => exact tracks.freed sound released
  | cleared => exact tracks.cleared

/-! ### Runs -/

theorem run_tracks [Cell γ] (acts : List Act) {session : Session α γ} {before : List Mark}
    (tracks : Tracks session before) :
    Tracks (Step.leftAfter perform acts session) (before ++ Step.reports perform acts session) :=
  Step.run_keeps (fun _ _ act tracks => (perform_turns tracks.sound act).tracks tracks) acts tracks

/-- A handle that was last bound to a slot is good as long as the record that was there stays there, and
no longer: not for another record in that slot, nor for its own in another. -/
theorem held_good_iff_resident [Cell γ] {poolId : Nat} {form : Form γ} {sizing : Sizing}
    {pool : RecordPool α γ} (fits : form.fresh.length = form.width)
    (made : RecordPool.make poolId form sizing = .ok pool) (held : List Handle) (acts : List Act)
    {last : Session α γ} (ran : Step.leftAfter perform acts ⟨pool, held⟩ = last) {holder slot : Nat}
    {before rest : List Mark} (told : Step.reports perform acts ⟨pool, held⟩ = before ++ .bound holder slot :: rest)
    (latest : ∀ other, .bound holder other ∉ rest) :
    ∃ handle resident, last.held[holder]? = some handle ∧
      (Roll.after before).residents[slot]? = some resident ∧
      last.pool.slotOf handle =
        (if (Roll.after (Step.reports perform acts ⟨pool, held⟩)).residents[slot]? = some resident then .ok slot
        else .error (.refused (.invalidHandle handle.slot last.pool.len))) ∧
      ((Roll.after (Step.reports perform acts ⟨pool, held⟩)).residents[slot]? = some resident ↔
        ∀ mark ∈ rest, mark.disturbs slot = false) := by
  obtain ⟨sound, _, _, empty, _, clearedAt, blank⟩ := RecordPool.sound_make fits made
  have tracks := run_tracks acts (Tracks.start sound empty blank clearedAt held)
  rw [ran, List.nil_append] at tracks
  have standing := Standing.after_bound before slot latest
  rw [← told] at standing
  obtain ⟨handle, here, upheld⟩ := tracks.upheld holder _ standing
  obtain ⟨resident, known, _⟩ := upheld.known
  have resides := upheld.resident_iff
  rw [known] at resides
  refine ⟨handle, resident, here, known, ?_, ?_⟩
  · by_cases stays : (rest.all fun mark => !mark.disturbs slot) = true
    · rw [if_pos (resides.mpr stays), upheld.slotOf_ok stays]
    · rw [if_neg (fun still => stays (resides.mp still)), upheld.slotOf_error (Bool.eq_false_iff.mpr stays)]
  · rw [resides]
    simp

/-- A record is bound and deleted, and the last of two others moves to its slot. -/
def replaced : List Act := [.lend, .create 0, .allocate, .allocate, .deleteAt 0, .allocate]

theorem replaced_handle_refused :
    ∃ pool : RecordPool (FlatSlots UInt8) UInt8,
      RecordPool.make 7 ⟨1, [0]⟩ { initialCapacity := 1 } = .ok pool ∧
      Step.reports perform replaced ⟨pool, []⟩ =
        [.added 0] ++ .bound 0 0 :: [.added 1, .added 2, .freed 0 (some ⟨2, 0⟩), .added 2] ∧
      (∀ other, .bound 0 other ∉ [.added 1, .added 2, .freed 0 (some ⟨2, 0⟩), Mark.added 2]) ∧
      ∃ handle resident, (Step.leftAfter perform replaced ⟨pool, []⟩).held[0]? = some handle ∧
        (Roll.after [.added 0]).residents[0]? = some resident ∧
        (Step.leftAfter perform replaced ⟨pool, []⟩).pool.slotOf handle =
          (if (Roll.after (Step.reports perform replaced ⟨pool, []⟩)).residents[0]? = some resident then .ok 0
          else .error (.refused (.invalidHandle handle.slot
            (Step.leftAfter perform replaced ⟨pool, []⟩).pool.len))) ∧
        ((Roll.after (Step.reports perform replaced ⟨pool, []⟩)).residents[0]? = some resident ↔
          ∀ mark ∈ [.added 1, .added 2, .freed 0 (some ⟨2, 0⟩), .added 2], Mark.disturbs 0 mark = false) := by
  obtain ⟨pool, made, told⟩ : ∃ pool : RecordPool (FlatSlots UInt8) UInt8,
      RecordPool.make 7 ⟨1, [0]⟩ { initialCapacity := 1 } = .ok pool ∧
      Step.reports perform replaced ⟨pool, []⟩ =
        [.added 0] ++ .bound 0 0 :: [.added 1, .added 2, .freed 0 (some ⟨2, 0⟩), .added 2] := by
    refine ⟨_, rfl, ?_⟩
    decide +kernel
  have latest : ∀ other, .bound 0 other ∉ [.added 1, .added 2, .freed 0 (some ⟨2, 0⟩), Mark.added 2] := by
    intro other
    simp
  have fits : (Form.mk 1 [(0 : UInt8)]).fresh.length = 1 := rfl
  exact ⟨pool, made, told, latest, held_good_iff_resident fits made [] replaced rfl told latest⟩

end Session

end SpatialStore
