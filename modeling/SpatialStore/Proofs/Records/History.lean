import SpatialStore.Proofs.Records.Pool

/-! What a pool has done, mark by mark, and which record is in which slot by that. The pool itself knows
no records, only stamps; a handle that is good by the stamps is one whose record has stayed where it was
bound, and that is an invariant of every history. -/

namespace SpatialStore

inductive Mark
  | added (slot : Nat)
  | bound (holder slot : Nat)
  | freed (slot : Nat) (relocation : Option Relocation)
  | cleared
  deriving DecidableEq

/-- Whether the record in a slot was freed, moved away from it, or dropped with all others. -/
def Mark.disturbs (slot : Nat) : Mark → Bool
  | .added _ => false
  | .bound _ _ => false
  | .freed gone relocation => slot = gone || relocation.any fun move => move.source = slot
  | .cleared => true

theorem Mark.disturbs_freed (len gone slot : Nat) :
    (Mark.freed gone (SlotPool.relocation len gone)).disturbs slot =
      decide (slot = gone ∨ slot = len - 1) := by
  unfold SlotPool.relocation
  by_cases last : gone + 1 = len
  · have place : len - 1 = gone := by omega
    rw [if_pos last, place]
    simp [disturbs]
  · rw [if_neg last]
    simp [disturbs, eq_comm]

/-- The records of a pool by the numbers they were given when they were added, which are never given
again. -/
structure Roll where
  residents : List Nat := []
  issued : Nat := 0

namespace Roll

def next (roll : Roll) : Mark → Roll
  | .added _ => ⟨roll.residents ++ [roll.issued], roll.issued + 1⟩
  | .bound _ _ => roll
  | .freed slot _ => { roll with residents := closeGap roll.residents slot }
  | .cleared => { roll with residents := [] }

def after (history : List Mark) : Roll := history.foldl next {}

theorem after_append (history : List Mark) (mark : Mark) :
    after (history ++ [mark]) = (after history).next mark := by
  rw [after, List.foldl_append]
  rfl

structure Sound (roll : Roll) : Prop where
  nodup : roll.residents.Nodup
  issued : ∀ resident ∈ roll.residents, resident < roll.issued

theorem sound_empty : Sound {} := ⟨List.nodup_nil, by simp⟩

theorem Sound.next {roll : Roll} (sound : roll.Sound) (mark : Mark) : (roll.next mark).Sound := by
  obtain ⟨nodup, issued⟩ := sound
  cases mark with
  | added slot =>
    refine ⟨?_, ?_⟩
    · rw [Roll.next, List.nodup_append]
      refine ⟨nodup, List.nodup_singleton _, ?_⟩
      intro resident member last here
      rw [List.mem_singleton] at here
      have earlier := issued resident member
      omega
    · intro resident member
      rcases List.mem_append.mp member with old | last
      · exact Nat.lt_succ_of_lt (issued resident old)
      · rw [List.mem_singleton.mp last]
        exact Nat.lt_succ_self _
  | bound holder slot => exact ⟨nodup, issued⟩
  | freed slot relocation =>
    exact ⟨nodup_closeGap nodup slot, fun resident member => issued resident (mem_of_mem_closeGap member)⟩
  | cleared => exact ⟨List.nodup_nil, nofun⟩

end Roll

/-- The last binding of a handle, the record that was there, and whether it has stayed there. -/
structure Standing where
  slot : Nat
  resident : Option Nat
  stays : Bool

namespace Standing

def next (holder : Nat) (roll : Roll) (standing : Option Standing) : Mark → Option Standing
  | .bound other slot => if other = holder then some ⟨slot, roll.residents[slot]?, true⟩ else standing
  | mark => standing.map fun now => { now with stays := now.stays && !mark.disturbs now.slot }

/-- How a handle stands after a history that goes on from `roll` and `standing`. -/
def follow (holder : Nat) : Roll → Option Standing → List Mark → Option Standing
  | _, standing, [] => standing
  | roll, standing, mark :: rest => follow holder (roll.next mark) (next holder roll standing mark) rest

def after (holder : Nat) (history : List Mark) : Option Standing := follow holder {} none history

theorem follow_append (holder : Nat) (roll : Roll) (standing : Option Standing)
    (first second : List Mark) :
    follow holder roll standing (first ++ second) =
      follow holder (first.foldl Roll.next roll) (follow holder roll standing first) second := by
  induction first generalizing roll standing with
  | nil => rfl
  | cons mark rest ih => exact ih (roll.next mark) (next holder roll standing mark)

theorem after_append (holder : Nat) (history : List Mark) (mark : Mark) :
    after holder (history ++ [mark]) = next holder (Roll.after history) (after holder history) mark :=
  follow_append holder {} none history [mark]

theorem next_unbound {holder : Nat} {mark : Mark} (unbound : ∀ slot, mark ≠ .bound holder slot)
    (roll : Roll) (standing : Option Standing) :
    next holder roll standing mark =
      standing.map fun now => { now with stays := now.stays && !mark.disturbs now.slot } := by
  cases mark with
  | bound other slot =>
    have different : other ≠ holder := by
      intro same
      exact unbound slot (same ▸ rfl)
    rw [next, if_neg different]
    cases standing with
    | none => rfl
    | some now => simp [Mark.disturbs]
  | added slot => rfl
  | freed slot relocation => rfl
  | cleared => rfl

theorem after_unbound {holder : Nat} {history : List Mark} {mark : Mark}
    (unbound : ∀ slot, mark ≠ .bound holder slot) {standing : Standing}
    (found : after holder (history ++ [mark]) = some standing) :
    ∃ before, after holder history = some before ∧
      standing = { before with stays := before.stays && !mark.disturbs before.slot } := by
  rw [after_append, next_unbound unbound] at found
  obtain ⟨before, known, rfl⟩ := Option.map_eq_some_iff.mp found
  exact ⟨before, known, rfl⟩

theorem follow_unbound {holder : Nat} {marks : List Mark}
    (latest : ∀ slot, Mark.bound holder slot ∉ marks) (roll : Roll) (standing : Standing) :
    follow holder roll (some standing) marks =
      some { standing with stays := standing.stays && marks.all fun mark => !mark.disturbs standing.slot } := by
  induction marks generalizing roll standing with
  | nil => simp [follow]
  | cons mark rest ih =>
    have latestRest : ∀ slot, Mark.bound holder slot ∉ rest := by
      intro slot member
      exact latest slot (List.mem_cons_of_mem _ member)
    have unbound : ∀ slot, mark ≠ .bound holder slot := by
      intro slot same
      exact latest slot (same ▸ List.mem_cons_self)
    rw [follow, next_unbound unbound, Option.map_some, ih latestRest]
    simp [Bool.and_assoc]

theorem after_bound {holder : Nat} {rest : List Mark} (before : List Mark) (slot : Nat)
    (latest : ∀ slot, Mark.bound holder slot ∉ rest) :
    after holder (before ++ .bound holder slot :: rest) =
      some ⟨slot, (Roll.after before).residents[slot]?, rest.all fun mark => !mark.disturbs slot⟩ := by
  rw [after, follow_append, follow]
  have step : next holder (before.foldl Roll.next {}) (follow holder {} none before) (.bound holder slot) =
      some ⟨slot, (Roll.after before).residents[slot]?, true⟩ := if_pos rfl
  rw [step, follow_unbound latest, Bool.true_and]

end Standing

/-- A handle is kept as it was, or, if it is the one by which a slot was freed, without its slot. -/
def Handle.ReleasedFrom (slot : Nat) (handle kept : Handle) : Prop :=
  kept = handle ∨ (handle.slot = some slot ∧ kept = { handle with slot := none })

structure Upheld {α γ : Type} (pool : RecordPool α γ) (roll : Roll) (standing : Standing)
    (handle : Handle) : Prop where
  own : handle.poolId = pool.poolId
  earlier : handle.boundAt ≤ pool.modifications
  known : ∃ resident, standing.resident = some resident ∧ resident < roll.issued
  stays : standing.stays = true → handle.slot = some standing.slot ∧ standing.slot < pool.len ∧
    pool.slots.stamp standing.slot ≤ handle.boundAt ∧ roll.residents[standing.slot]? = standing.resident
  /-- A record that did not stay may have moved, but only downwards, so that it never comes back. -/
  gone : standing.stays = false →
    (handle.slot = none ∨
      (handle.slot = some standing.slot ∧ handle.boundAt < pool.slots.stamp standing.slot)) ∧
    ∀ place, roll.residents[place]? = standing.resident → place < standing.slot

namespace Upheld

variable {α γ : Type} {pool : RecordPool α γ} {roll : Roll} {standing : Standing}
  {handle : Handle}

theorem fresh (sound : roll.Sound) (own : handle.poolId = pool.poolId) {slot : Nat}
    (resides : slot < roll.residents.length) (inside : slot < pool.len)
    (stamped : pool.slots.stamp slot ≤ pool.modifications) :
    Upheld pool roll ⟨slot, roll.residents[slot]?, true⟩ (pool.bound handle slot) := by
  have here := List.getElem?_eq_getElem resides
  refine ⟨own, Nat.le_refl _, ⟨_, here, sound.issued _ (List.getElem_mem resides)⟩, ?_, nofun⟩
  intro _
  exact ⟨rfl, inside, stamped, rfl⟩

theorem slotOf_ok (upheld : Upheld pool roll standing handle) (stays : standing.stays = true) :
    pool.slotOf handle = .ok standing.slot := by
  obtain ⟨bound, inside, stamped, _⟩ := upheld.stays stays
  rw [RecordPool.slotOf, RecordPool.checkOwner_own upheld.own, bound]
  exact if_pos ⟨inside, stamped⟩

theorem slotOf_error (upheld : Upheld pool roll standing handle) (gone : standing.stays = false) :
    pool.slotOf handle = .error (.refused (.invalidHandle handle.slot pool.len)) := by
  rw [RecordPool.slotOf, RecordPool.checkOwner_own upheld.own]
  obtain ⟨unbound | ⟨bound, stamped⟩, _⟩ := upheld.gone gone
  · rw [unbound]
    rfl
  · rw [bound]
    refine if_neg ?_
    intro accepted
    exact Nat.not_le.mpr stamped accepted.2

/-- A record is in its slot exactly as long as it stays there. -/
theorem resident_iff (upheld : Upheld pool roll standing handle) :
    roll.residents[standing.slot]? = standing.resident ↔ standing.stays = true := by
  constructor
  · intro here
    cases stays : standing.stays with
    | true => rfl
    | false => exact absurd ((upheld.gone stays).2 _ here) (Nat.lt_irrefl _)
  · intro stays
    exact (upheld.stays stays).2.2.2

/-- What happens to the other parts of a pool does not matter. -/
theorem of_slots (upheld : Upheld pool roll standing handle) {next : RecordPool α γ}
    (slots : next.slots = pool.slots) (poolId : next.poolId = pool.poolId) :
    Upheld next roll standing handle := by
  obtain ⟨own, earlier, known, stays, gone⟩ := upheld
  refine ⟨own.trans poolId.symm, ?_, known, ?_, ?_⟩
  · rw [RecordPool.modifications, slots]
    exact earlier
  · rw [RecordPool.len, slots]
    exact stays
  · rw [slots]
    exact gone

theorem added (upheld : Upheld pool roll standing handle) (inStep : roll.residents.length = pool.len)
    (store : α) :
    Upheld { pool with slots := { pool.slots with store, len := pool.len + 1 } }
      (roll.next (.added pool.len)) standing handle := by
  obtain ⟨resident, known, issued⟩ := upheld.known
  refine ⟨upheld.own, upheld.earlier, ⟨resident, known, Nat.lt_succ_of_lt issued⟩, ?_, ?_⟩
  · intro stays
    obtain ⟨bound, inside, stamped, here⟩ := upheld.stays stays
    refine ⟨bound, Nat.lt_succ_of_lt inside, stamped, ?_⟩
    change (roll.residents ++ [roll.issued])[standing.slot]? = _
    rw [List.getElem?_append_left (by omega), here]
  · intro gone
    obtain ⟨rejected, below⟩ := upheld.gone gone
    refine ⟨rejected, ?_⟩
    intro place here
    change (roll.residents ++ [roll.issued])[place]? = _ at here
    by_cases inside : place < roll.residents.length
    · rw [List.getElem?_append_left inside] at here
      exact below place here
    · rw [List.getElem?_append_right (by omega), known] at here
      have last := List.mem_of_getElem? here
      rw [List.mem_singleton] at last
      omega

theorem cleared (upheld : Upheld pool roll standing handle) :
    Upheld pool.clear (roll.next .cleared) { standing with stays := false } handle := by
  refine ⟨upheld.own, Nat.le_succ_of_le upheld.earlier, upheld.known, ?_, ?_⟩
  · intro stays
    exact nomatch stays
  · intro _
    have late : handle.boundAt < pool.clear.slots.stamp standing.slot := by
      change _ < pool.slots.clear.stamp standing.slot
      rw [SlotPool.stamp_clear]
      exact Nat.lt_of_lt_of_le (Nat.lt_succ_of_le upheld.earlier) (Nat.le_max_right _ _)
    refine ⟨?_, ?_⟩
    · cases stays : standing.stays with
      | true => exact Or.inr ⟨(upheld.stays stays).1, late⟩
      | false =>
        rcases (upheld.gone stays).1 with unbound | ⟨bound, _⟩
        · exact Or.inl unbound
        · exact Or.inr ⟨bound, late⟩
    · intro place here
      obtain ⟨resident, known, _⟩ := upheld.known
      rw [known] at here
      exact nomatch here

/-- Freeing takes a record out of its slot if it was the one freed or the last one. -/
theorem moved (upheld : Upheld pool roll standing handle) (distinct : roll.residents.Nodup)
    (inStep : roll.residents.length = pool.len) {slot : Nat} (store : α)
    (moves : standing.slot = slot ∨ standing.slot = pool.len - 1) {kept : Handle}
    (released : handle.ReleasedFrom slot kept) :
    Upheld (pool.shrunk store slot) (roll.next (.freed slot (SlotPool.relocation pool.len slot)))
      { standing with stays := false } kept := by
  have late : handle.boundAt < (pool.shrunk store slot).slots.stamp standing.slot := by
    rw [RecordPool.stamp_shrunk, if_pos moves]
    exact Nat.lt_of_lt_of_le (Nat.lt_succ_of_le upheld.earlier) (Nat.le_max_left _ _)
  have rejected : handle.slot = none ∨
      (handle.slot = some standing.slot ∧
        handle.boundAt < (pool.shrunk store slot).slots.stamp standing.slot) := by
    cases stays : standing.stays with
    | true => exact Or.inr ⟨(upheld.stays stays).1, late⟩
    | false =>
      rcases (upheld.gone stays).1 with unbound | ⟨bound, _⟩
      · exact Or.inl unbound
      · exact Or.inr ⟨bound, late⟩
  have below : ∀ place, (closeGap roll.residents slot)[place]? = standing.resident →
      place < standing.slot := by
    obtain ⟨resident, known, _⟩ := upheld.known
    rw [known]
    cases stays : standing.stays with
    | true =>
      have here := (upheld.stays stays).2.2.2
      rw [known] at here
      rw [← inStep] at moves
      exact moved_closeGap distinct here moves
    | false =>
      have lower := (upheld.gone stays).2
      rw [known] at lower
      exact below_closeGap lower slot
  rcases released with rfl | ⟨_, rfl⟩
  · exact ⟨upheld.own, Nat.le_succ_of_le upheld.earlier, upheld.known, nofun, fun _ => ⟨rejected, below⟩⟩
  · exact ⟨upheld.own, Nat.le_succ_of_le upheld.earlier, upheld.known, nofun, fun _ => ⟨Or.inl rfl, below⟩⟩

theorem unmoved (upheld : Upheld pool roll standing handle) (inStep : roll.residents.length = pool.len)
    {slot : Nat} (store : α) (apart : standing.slot ≠ slot) (notLast : standing.slot ≠ pool.len - 1)
    {kept : Handle} (released : handle.ReleasedFrom slot kept) :
    Upheld (pool.shrunk store slot) (roll.next (.freed slot (SlotPool.relocation pool.len slot)))
      standing kept := by
  have stamp : (pool.shrunk store slot).slots.stamp standing.slot = pool.slots.stamp standing.slot := by
    rw [RecordPool.stamp_shrunk, if_neg (not_or.mpr ⟨apart, notLast⟩)]
  obtain ⟨resident, known, issued⟩ := upheld.known
  have lower : standing.stays = false → ∀ place,
      (closeGap roll.residents slot)[place]? = standing.resident → place < standing.slot := by
    intro gone
    have below := (upheld.gone gone).2
    rw [known] at below ⊢
    exact below_closeGap below slot
  rcases released with rfl | ⟨elsewhere, rfl⟩
  · refine ⟨upheld.own, Nat.le_succ_of_le upheld.earlier, ⟨resident, known, issued⟩, ?_, ?_⟩
    · intro stays
      obtain ⟨bound, inside, fresh, here⟩ := upheld.stays stays
      rw [RecordPool.len_shrunk, stamp]
      refine ⟨bound, by omega, fresh, ?_⟩
      change (closeGap roll.residents slot)[standing.slot]? = _
      rw [getElem?_closeGap, if_pos (by omega), if_neg apart, here]
    · intro gone
      rw [stamp]
      exact ⟨(upheld.gone gone).1, lower gone⟩
  · refine ⟨upheld.own, Nat.le_succ_of_le upheld.earlier, ⟨resident, known, issued⟩, ?_, ?_⟩
    · intro stays
      have bound := (upheld.stays stays).1
      exact absurd (Option.some.inj (bound.symm.trans elsewhere)) apart
    · intro gone
      exact ⟨Or.inl rfl, lower gone⟩

end Upheld

end SpatialStore
