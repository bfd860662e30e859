import SpatialStore.Proofs.Records.Session

/-! Everything that is done with a pool: what its callers ask for, and writes to records. The count of
modifications tells whether any record was freed or dropped. As long as none was, every record is in its
slot and holds what was written to it. -/

namespace SpatialStore

def Mark.upsets : Mark → Bool
  | .added _ => false
  | .bound _ _ => false
  | .freed _ _ => true
  | .cleared => true

namespace Roll

theorem prefix_foldl {marks : List Mark} (steady : ∀ mark ∈ marks, mark.upsets = false) (roll : Roll) :
    roll.residents <+: (marks.foldl next roll).residents := by
  induction marks generalizing roll with
  | nil => exact List.prefix_rfl
  | cons mark rest ih =>
    have later := ih (fun other member => steady other (List.mem_cons_of_mem _ member)) (roll.next mark)
    have harmless := steady mark List.mem_cons_self
    cases mark with
    | added slot => exact (List.prefix_append _ _).trans later
    | bound holder slot => exact later
    | freed slot relocation => exact nomatch harmless
    | cleared => exact nomatch harmless

/-- Records that are neither freed nor dropped keep their places, and others come after them. -/
theorem prefix_after (before : List Mark) {marks : List Mark} (steady : ∀ mark ∈ marks, mark.upsets = false) :
    (after before).residents <+: (after (before ++ marks)).residents := by
  rw [after, after, List.foldl_append]
  exact prefix_foldl steady _

end Roll

namespace Session

variable {α γ : Type} {width : Nat}

inductive Deed (γ : Type) (width : Nat)
  | act (act : Act)
  | write (slot : Nat) (change : Overwrite γ width)
  | writeHeld (holder : Nat) (change : Overwrite γ width)

abbrev Writing (γ : Type) (width : Nat) := Nat × Overwrite γ width

def Deed.writing? (session : Session α γ) : Deed γ width → Option (Writing γ width)
  | .act _ => none
  | .write slot change => if slot < session.pool.len then some (slot, change) else none
  | .writeHeld holder change => do
    let handle ← session.held[holder]?
    let slot ← (session.pool.slotOf handle).toOption
    return (slot, change)

def rewrite (slot : Nat) (writings : List (Writing γ width)) (row : List γ) : List γ :=
  (writings.filter fun writing => writing.1 = slot).foldl (fun row writing => writing.2.step.left row) row

theorem rewrite_append (slot : Nat) (first second : List (Writing γ width)) (row : List γ) :
    rewrite slot (first ++ second) row = rewrite slot second (rewrite slot first row) := by
  rw [rewrite, List.filter_append, List.foldl_append]
  rfl

variable [SlotStore α γ]

def writeTo (slot : Nat) (change : Overwrite γ width) : Step PoolFailure (Session α γ) (List Mark) := do
  onPool (RecordPool.edit slot change.step)
  return []

def carryOut [Cell γ] : Deed γ width → Step PoolFailure (Session α γ) (List Mark)
  | .act act => perform act
  | .write slot change => writeTo slot change
  | .writeHeld holder change => withHeld holder fun handle => do
    let slot ← Step.read (fun session => session.pool.slotOf handle)
    writeTo slot change

def writings [Cell γ] : List (Deed γ width) → Session α γ → List (Writing γ width)
  | [], _ => []
  | deed :: rest, session => (deed.writing? session).toList ++ writings rest ((carryOut deed).left session)

/-! ### Steady records -/

/-- What there is of a session after it was done something to: with these marks, any record that was
neither freed nor dropped is what these writings make of it. -/
structure Carries (session : Session α γ) (told : List Mark) (written : List (Writing γ width))
    (next : Session α γ) : Prop where
  modifications : next.pool.modifications = session.pool.modifications + told.countP Mark.upsets
  rows : (∀ mark ∈ told, mark.upsets = false) → ∀ slot < session.pool.len,
    next.pool.records[slot]? = (session.pool.records[slot]?).map (rewrite slot written)

theorem Carries.trans {first second third : Session α γ} {told toldNext : List Mark}
    {written writtenNext : List (Writing γ width)} (before : Carries first told written second)
    (after : Carries second toldNext writtenNext third) :
    Carries first (told ++ toldNext) (written ++ writtenNext) third := by
  constructor
  · rw [after.modifications, before.modifications, List.countP_append, Nat.add_assoc]
  · intro steady slot inside
    have here := before.rows (fun mark member => steady mark (List.mem_append_left _ member)) slot inside
    have kept : slot < second.pool.len := by
      rw [← RecordPool.length_records] at inside ⊢
      rw [List.getElem?_eq_getElem inside, Option.map_some] at here
      exact (List.getElem?_eq_some_iff.mp here).1
    rw [after.rows (fun mark member => steady mark (List.mem_append_right _ member)) slot kept, here,
      Option.map_map]
    congr 1
    funext row
    exact (rewrite_append slot written writtenNext row).symm

/-- Without writings, records that stay in place stay the same. -/
theorem carries_of_prefix {session next : Session α γ} {told : List Mark}
    (modifications : next.pool.modifications = session.pool.modifications + told.countP Mark.upsets)
    (kept : (∀ mark ∈ told, mark.upsets = false) → session.pool.records <+: next.pool.records) :
    Carries session told ([] : List (Writing γ width)) next := by
  refine ⟨modifications, ?_⟩
  intro steady slot inside
  obtain ⟨more, same⟩ := kept steady
  rw [← same, List.getElem?_append_left (by simpa using inside)]
  cases session.pool.records[slot]? <;> rfl

variable [LawfulSlotStore α]

theorem Turn.carries {session next : Session α γ} {outcome : Except PoolFailure (List Mark)}
    (turn : Turn session outcome next) :
    Carries session (Step.reported outcome) ([] : List (Writing γ width)) next := by
  cases turn with
  | idle => exact carries_of_prefix rfl fun _ => List.prefix_rfl
  | refused => exact carries_of_prefix rfl fun _ => List.prefix_rfl
  | lent => exact carries_of_prefix rfl fun _ => List.prefix_rfl
  | bound => exact carries_of_prefix rfl fun _ => List.prefix_rfl
  | added grown =>
    apply carries_of_prefix grown.modifications
    intro _
    rw [grown.rows]
    exact List.prefix_append _ _
  | created grown =>
    apply carries_of_prefix grown.modifications
    intro _
    rw [grown.rows]
    exact List.prefix_append _ _
  | freed => exact carries_of_prefix rfl fun steady => nomatch steady _ List.mem_cons_self
  | cleared => exact carries_of_prefix rfl fun steady => nomatch steady _ List.mem_cons_self

/-- A write to a record that is there reaches it, whether it gets through or stops half-way. -/
theorem writeTo_spec {session : Session α γ} (sound : session.pool.Sound) {slot : Nat} {row : List γ}
    (found : session.pool.records[slot]? = some row) (change : Overwrite γ width) :
    Step.reported ((writeTo slot change).outcome session) = [] ∧
      (writeTo slot change).left session =
        { session with pool := session.pool.put slot (change.step.left row) } := by
  have edited := RecordPool.edit_eq sound found change.step
  cases run : change.step row with
  | ok answer next =>
    rw [run] at edited
    have wrote : writeTo slot change session = .ok [] { session with pool := session.pool.put slot next } :=
      Step.bind_of_ok (onPool_ok edited)
    rw [Step.outcome_of_ok wrote, Step.left_of_ok wrote, Step.left_of_ok run]
    exact ⟨rfl, rfl⟩
  | error fault next =>
    rw [run] at edited
    have stopped : writeTo slot change session =
        .error (.fault fault) { session with pool := session.pool.put slot next } :=
      Step.bind_of_error (onPool_error edited)
    rw [Step.outcome_of_error stopped, Step.left_of_error stopped, Step.left_of_error run]
    exact ⟨rfl, rfl⟩

theorem carryOut_cases [Cell γ] {session : Session α γ} (sound : session.pool.Sound) (deed : Deed γ width) :
    (deed.writing? session = none ∧ Turns (carryOut deed) session) ∨
    (∃ slot change row, deed.writing? session = some (slot, change) ∧
      session.pool.records[slot]? = some row ∧
      Step.reported ((carryOut deed).outcome session) = [] ∧
      (carryOut deed).left session =
        { session with pool := session.pool.put slot (change.step.left row) }) := by
  have found : ∀ slot < session.pool.len, ∃ row, session.pool.records[slot]? = some row := by
    intro slot inside
    rw [← RecordPool.length_records] at inside
    exact ⟨_, List.getElem?_eq_getElem inside⟩
  cases deed with
  | act act => exact Or.inl ⟨rfl, perform_turns sound act⟩
  | write slot change =>
    by_cases inside : slot < session.pool.len
    · obtain ⟨row, here⟩ := found slot inside
      exact Or.inr ⟨slot, change, row, if_pos inside, here, writeTo_spec sound here change⟩
    · have refused := RecordPool.edit_refused (Nat.le_of_not_lt inside) change.step
      exact Or.inl ⟨if_neg inside, turns_of_error (Step.bind_of_error (onPool_error refused))⟩
  | writeHeld holder change =>
    cases held : session.held[holder]? with
    | none =>
      refine Or.inl ⟨by simp [Deed.writing?, held], turns_withHeld ?_⟩
      intro handle here
      exact nomatch held.symm.trans here
    | some handle =>
      cases good : session.pool.slotOf handle with
      | error failure =>
        refine Or.inl ⟨by simp [Deed.writing?, held, good, Except.toOption], turns_withHeld ?_⟩
        intro other here
        obtain rfl := Option.some.inj (held.symm.trans here)
        exact turns_of_error (Step.bind_of_error
          (Step.read_of_error (fun session : Session α γ => session.pool.slotOf handle) good))
      | ok slot =>
        obtain ⟨row, here⟩ := found slot (RecordPool.slotOf_eq_ok good).2
        have looked := Step.read_of_ok (fun session : Session α γ => session.pool.slotOf handle) good
        have run : carryOut (.writeHeld holder change) session = writeTo slot change session := by
          rw [carryOut, withHeld, held]
          exact Step.bind_of_ok looked
        refine Or.inr ⟨slot, change, row, by simp [Deed.writing?, held, good, Except.toOption], here, ?_⟩
        rw [Step.outcome, Step.left, run]
        exact writeTo_spec sound here change

theorem carryOut_carries [Cell γ] {session : Session α γ} {history : List Mark}
    (tracks : Tracks session history) (wide : session.pool.form.width = width) (deed : Deed γ width) :
    let next := (carryOut deed).left session
    let told := Step.reported ((carryOut deed).outcome session)
    Tracks next (history ++ told) ∧ next.pool.form = session.pool.form ∧
      Carries session told (deed.writing? session).toList next := by
  subst wide
  rcases carryOut_cases tracks.sound deed with
    ⟨nothing, turn⟩ | ⟨slot, change, row, written, here, silent, left⟩
  · rw [nothing]
    exact ⟨turn.tracks tracks, turn.form, turn.carries⟩
  · obtain ⟨sound, rows⟩ := RecordPool.overwrite_spec tracks.sound here change
    rw [written, silent, left]
    refine ⟨?_, rfl, rfl, ?_⟩
    · rw [List.append_nil]
      exact tracks.stored rfl sound
    · intro _ place _
      -- A writing changes the record in its own slot and no other one.
      change (session.pool.put slot (change.step.left row)).records[place]? = _
      rw [rows]
      by_cases same : slot = place
      · subst place
        rw [List.getElem?_set_self (List.getElem?_eq_some_iff.mp here).1, here]
        simp [rewrite]
      · rw [List.getElem?_set_ne same]
        cases session.pool.records[place]? with
        | none => rfl
        | some kept => simp [rewrite, same]

/-! ### Runs -/

theorem run_carries [Cell γ] (deeds : List (Deed γ width)) {session : Session α γ} {history : List Mark}
    (tracks : Tracks session history) (wide : session.pool.form.width = width) :
    let last := Step.leftAfter carryOut deeds session
    let told := Step.reports carryOut deeds session
    Tracks last (history ++ told) ∧ last.pool.form = session.pool.form ∧
      Carries session told (writings deeds session) last := by
  induction deeds generalizing session history with
  | nil =>
    refine ⟨?_, rfl, ?_⟩
    · change Tracks session (history ++ [])
      rw [List.append_nil]
      exact tracks
    · exact carries_of_prefix rfl fun _ => List.prefix_rfl
  | cons deed rest ih =>
    obtain ⟨tracksNext, formed, carries⟩ := carryOut_carries tracks wide deed
    obtain ⟨tracksLast, formedLast, carriesLast⟩ := ih tracksNext ((congrArg Form.width formed).trans wide)
    rw [List.append_assoc] at tracksLast
    exact ⟨tracksLast, formedLast.trans formed, carries.trans carriesLast⟩

def Keeps [Cell γ] (begun : Session α γ) (before after : List (Deed γ width)) (slot : Nat) : Prop :=
  let earlier := Step.leftAfter carryOut before begun
  ∃ resident row,
    (Roll.after (Step.reports carryOut before begun)).residents[slot]? = some resident ∧
    (Roll.after (Step.reports carryOut (before ++ after) begun)).residents[slot]? = some resident ∧
    earlier.pool.read slot = .ok row ∧
    (Step.leftAfter carryOut after earlier).pool.read slot = .ok (rewrite slot (writings after earlier) row)

/-- As long as none is freed or dropped, every record is kept. -/
theorem keeps_of_steady [Cell γ] {begun : Session α γ} (tracks : Tracks begun [])
    (wide : begun.pool.form.width = width) {before after : List (Deed γ width)}
    (steady : ∀ mark ∈ Step.reports carryOut after (Step.leftAfter carryOut before begun), mark.upsets = false)
    {slot : Nat} (inside : slot < (Step.leftAfter carryOut before begun).pool.len) :
    slot < (Step.leftAfter carryOut after (Step.leftAfter carryOut before begun)).pool.len ∧
      Keeps begun before after slot := by
  obtain ⟨tracksEarlier, formed, _⟩ := run_carries before tracks wide
  obtain ⟨tracksLater, _, carries⟩ := run_carries after tracksEarlier ((congrArg Form.width formed).trans wide)
  rw [List.nil_append] at tracksEarlier
  obtain ⟨resident, known⟩ : ∃ resident,
      (Roll.after (Step.reports carryOut before begun)).residents[slot]? = some resident := by
    rw [← tracksEarlier.inStep] at inside
    exact ⟨_, List.getElem?_eq_getElem inside⟩
  obtain ⟨row, here⟩ : ∃ row, (Step.leftAfter carryOut before begun).pool.records[slot]? = some row := by
    rw [← RecordPool.length_records] at inside
    exact ⟨_, List.getElem?_eq_getElem inside⟩
  have there := carries.rows steady slot inside
  rw [here, Option.map_some] at there
  refine ⟨?_, resident, row, known, ?_, ?_, ?_⟩
  · rw [← RecordPool.length_records]
    exact (List.getElem?_eq_some_iff.mp there).1
  · obtain ⟨more, longer⟩ := Roll.prefix_after (Step.reports carryOut before begun) steady
    rw [Step.reports_append, ← longer,
      List.getElem?_append_left (List.getElem?_eq_some_iff.mp known).1, known]
  · rw [RecordPool.read_eq tracksEarlier.sound, here]
  · rw [RecordPool.read_eq tracksLater.sound, there]

end Session

end SpatialStore
