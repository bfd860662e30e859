import SpatialStore.Proofs.Records.Deeds
import SpatialStore.Proofs.Tree.Reached

/-! Rebuilding, all or nothing. The listed slots are judged one after the other before the old nodes are
given up, and once all are accepted nothing can go wrong any more: there are no more of them than links
can name, and there is room for so many nodes. -/

namespace SpatialStore.KdTree

variable {S : Type} {N : Nat} {α σ τ : Type}

/-- Why a slot is turned down that is listed after these others, if it is. -/
def offence? (source : RecordPool α σ) (earlier : List Nat) (slot : Nat) : Option TreeRefusal :=
  if slot ∈ earlier then some (.duplicateSlot slot)
  else if Link.largest < slot then some (.pool (.indexOverflow slot))
  else if source.len ≤ slot then some (.pool (.invalidHandle (some slot) source.len))
  else none

theorem offence?_eq_none {source : RecordPool α σ} {earlier : List Nat} {slot : Nat} :
    offence? source earlier slot = none ↔ slot ∉ earlier ∧ slot ≤ Link.largest ∧ slot < source.len := by
  unfold offence?
  split
  next => simp_all
  next =>
    split
    next => simp_all
    next =>
      split
      next => simp_all
      next => simp_all

/-- The reason for which the first slot of a list is turned down that is, each being judged by those
before it. -/
def FirstOffence (source : RecordPool α σ) (earlier slots : List Nat) (reason : TreeRefusal) : Prop :=
  ∃ before slot after, slots = before ++ slot :: after ∧ offence? source (earlier ++ before) slot = some reason ∧
    ∀ first other second, before = first ++ other :: second → offence? source (earlier ++ first) other = none

theorem FirstOffence.here {source : RecordPool α σ} {earlier rest : List Nat} {slot : Nat}
    {reason : TreeRefusal} (found : offence? source earlier slot = some reason) :
    FirstOffence source earlier (slot :: rest) reason := by
  refine ⟨[], slot, rest, rfl, ?_, ?_⟩
  · rw [List.append_nil]
    exact found
  · intro first other second same
    exact absurd same.symm (by simp)

theorem FirstOffence.later {source : RecordPool α σ} {earlier rest : List Nat} {slot : Nat}
    {reason : TreeRefusal} (fine : offence? source earlier slot = none)
    (further : FirstOffence source (earlier ++ [slot]) rest reason) :
    FirstOffence source earlier (slot :: rest) reason := by
  obtain ⟨before, bad, after, rfl, found, none⟩ := further
  refine ⟨slot :: before, bad, after, rfl, ?_, ?_⟩
  · rw [List.append_cons]
    exact found
  · intro first other second same
    cases first with
    | nil =>
      obtain ⟨rfl, _⟩ := List.cons.inj same
      rw [List.append_nil]
      exact fine
    | cons head first =>
      rw [List.cons_append] at same
      obtain ⟨rfl, rest⟩ := List.cons.inj same
      rw [List.append_cons]
      exact none first other second rest

variable [SlotStore α σ] [LawfulSlotStore α] [Stored τ σ]

theorem get_cases (τ : Type) [Stored τ σ] {source : RecordPool α σ} (sound : source.Sound) (slot : Nat) :
    (slot < source.len ∧ ∃ record, source.get τ slot = .ok record) ∨
    (source.len ≤ slot ∧
      source.get τ slot = .error (.refused (.invalidHandle (some slot) source.len))) := by
  rw [RecordPool.get, RecordPool.read_eq sound]
  by_cases inside : slot < source.len
  · have kept := inside
    rw [← RecordPool.length_records] at kept
    rw [List.getElem?_eq_getElem kept]
    exact Or.inl ⟨inside, _, rfl⟩
  · have outside := Nat.le_of_not_lt inside
    have none : source.records[slot]? = none := by
      apply List.getElem?_eq_none
      rw [RecordPool.length_records]
      exact outside
    rw [none]
    exact Or.inr ⟨outside, rfl⟩

variable [Located τ S N]

theorem gather_error {source : RecordPool α σ} (sound : source.Sound) {seen : Std.TreeSet Nat}
    {earlier slots : List Nat} (listed : ∀ slot, slot ∈ seen ↔ slot ∈ earlier) {failure : TreeFailure}
    (stopped : (gather τ source seen slots : Except TreeFailure (List (Site S N))) = .error failure) :
    ∃ reason, failure = .refused reason ∧ FirstOffence source earlier slots reason := by
  induction slots generalizing seen earlier with
  | nil => cases stopped
  | cons slot rest ih =>
    rw [gather] at stopped
    split at stopped
    next again =>
      obtain rfl := Except.error.inj stopped
      refine ⟨_, rfl, .here ?_⟩
      rw [offence?, if_pos ((listed slot).mp again)]
    next new =>
      have fresh : slot ∉ earlier := fun before => new ((listed slot).mpr before)
      split at stopped
      next large =>
        obtain rfl := Except.error.inj stopped
        refine ⟨_, rfl, .here ?_⟩
        rw [offence?, if_neg fresh, if_pos large]
      next small =>
        rcases get_cases τ sound slot with ⟨inside, record, found⟩ | ⟨outside, missing⟩
        · rw [found] at stopped
          have fine : offence? source earlier slot = none :=
            offence?_eq_none.mpr ⟨fresh, Nat.le_of_not_lt small, inside⟩
          have listedNext : ∀ other, other ∈ seen.insert slot ↔ other ∈ earlier ++ [slot] := by
            intro other
            rw [Std.TreeSet.mem_insert, Nat.compare_eq_eq, listed, List.mem_append, List.mem_singleton]
            tauto
          cases further : (gather τ source (seen.insert slot) rest : Except TreeFailure (List (Site S N))) with
          | ok sites =>
            rw [further] at stopped
            cases stopped
          | error reason =>
            rw [further] at stopped
            obtain rfl := Except.error.inj stopped
            obtain ⟨reason, same, offends⟩ := ih listedNext further
            exact ⟨reason, same, .later fine offends⟩
        · rw [missing] at stopped
          obtain rfl := Except.error.inj stopped
          refine ⟨_, rfl, .here ?_⟩
          rw [offence?, if_neg fresh, if_neg small, if_pos outside]

theorem acceptable_of_gather {source : RecordPool α σ} (sound : source.Sound) {slots : List Nat}
    {sites : List (Site S N)} (gathered : gather τ source {} slots = .ok sites) :
    slots.Nodup ∧ ∀ slot ∈ slots, slot ≤ Link.largest ∧ slot < source.len := by
  obtain ⟨listed, distinct, small, points⟩ := gather_ok gathered
  refine ⟨distinct, ?_⟩
  intro slot member
  refine ⟨(small slot member).2, ?_⟩
  rw [← listed] at member
  obtain ⟨site, inside, rfl⟩ := List.mem_map.mp member
  rcases get_cases τ sound site.slot with ⟨within, _⟩ | ⟨_, missing⟩
  · exact within
  · have found := points site inside
    rw [pointAt, missing] at found
    cases found

omit [SlotStore α σ] [LawfulSlotStore α] in
/-- Of slots that are different, have a link and are in use none is turned down. -/
theorem not_firstOffence {source : RecordPool α σ} {slots : List Nat} (distinct : slots.Nodup)
    (each : ∀ slot ∈ slots, slot ≤ Link.largest ∧ slot < source.len) {reason : TreeRefusal} :
    ¬FirstOffence source [] slots reason := by
  intro offends
  obtain ⟨before, slot, after, rfl, found, _⟩ := offends
  have fresh : slot ∉ before := by
    intro earlier
    exact (List.nodup_append.mp distinct).2.2 slot earlier slot List.mem_cons_self rfl
  obtain ⟨small, inside⟩ := each slot (List.mem_append_right _ List.mem_cons_self)
  rw [List.nil_append, offence?_eq_none.mpr ⟨fresh, small, inside⟩] at found
  exact nomatch found

/-! ### Room for the nodes -/

/-- With fewer than `2 ^ 28` dimensions, there is a buffer for as many nodes as links can name. -/
theorem nodes_fit (narrow : N < 0x10000000) {sites : List (Site Double N)} (gathered : Gathered sites) :
    sites.length * Stored.width (KdNode Double N) ≤ Size.largestBuffer := by
  have wide : Stored.width (KdNode Double N) = N * 8 + 16 := rfl
  have few : sites.length ≤ 0x80000000 := gathered.length_le
  calc
    sites.length * Stored.width (KdNode Double N) ≤ 0x80000000 * (0xfffffff * 8 + 16) := by
      rw [wide]
      apply Nat.mul_le_mul few
      omega
    _ ≤ Size.largestBuffer := by decide

/-- Filling a tree that was reset succeeds. -/
theorem fill_reset_ok (narrow : N < 0x10000000) {tree : KdTree UInt8 Double N} (sound : tree.Sound)
    {sites : List (Site Double N)} (gathered : Gathered sites) :
    ∃ built, fill sites tree.reset = .ok () built := by
  have cleared := RecordPool.clear_spec sound.nodes
  have fallow : Fallow (S := Double) (N := N) tree.reset.nodes := ⟨cleared.1, sound.form, sound.unlimited, rfl⟩
  rcases fill_cases fallow gathered with ⟨beyond, _⟩ | ⟨_, built, filled, _⟩
  · exact absurd (nodes_fit narrow gathered) (Nat.not_le.mpr beyond)
  · exact ⟨built, filled⟩

variable (τ) in
/-- Rebuilding succeeds exactly for slots that are different, have a link and are in use. Otherwise it
names what is wrong with the first one that is not so, and leaves the tree as it was: once the old nodes
are given up the new ones are always filled in. -/
theorem rebuild_all_or_nothing {poolId : Nat} {form : Form σ} {sizing : Sizing} [Cell σ] [Located τ Double N]
    {start : RecordPool α σ} (fits : form.fresh.length = form.width)
    (made : RecordPool.make poolId form sizing = .ok start) (held : List Handle)
    (deeds : List (Session.Deed σ form.width)) {session : Session α σ}
    (ran : Step.leftAfter Session.carryOut deeds ⟨start, held⟩ = session) (narrow : N < 0x10000000)
    {tree : KdTree UInt8 Double N} (reached : tree.Reached) (slots : List Nat) :
    ((rebuild τ session.pool slots).outcome tree = .ok () ↔
      slots.Nodup ∧ ∀ slot ∈ slots, slot ≤ Link.largest ∧ slot < session.pool.len) ∧
    (∀ failure next, rebuild τ session.pool slots tree = .error failure next →
      next = tree ∧ ∃ reason, failure = .refused reason ∧ FirstOffence session.pool [] slots reason) ∧
    (∀ sites, gather τ session.pool {} slots = .ok sites → ∃ built, fill sites tree.reset = .ok () built) := by
  obtain ⟨soundStart, formed, _, empty, _, clearedAt, blank⟩ := RecordPool.sound_make fits made
  have begun := Session.Tracks.start soundStart empty blank clearedAt held
  obtain ⟨tracks, _⟩ := Session.run_carries deeds begun (congrArg Form.width formed)
  have sound : session.pool.Sound := ran ▸ tracks.sound
  -- Only gathering can fail, and that is done before the tree is touched.
  cases gathering : (gather τ session.pool {} slots : Except TreeFailure (List (Site Double N))) with
  | error failure =>
    have refused : rebuild τ session.pool slots tree = .error failure tree := by
      simp only [rebuild, gathering]
    have known : ∀ slot, slot ∈ ({} : Std.TreeSet Nat) ↔ slot ∈ ([] : List Nat) := by simp
    obtain ⟨reason, rfl, offends⟩ := gather_error sound known gathering
    refine ⟨?_, ?_, fun sites gathered => nomatch gathered⟩
    · rw [Step.outcome_of_error refused]
      constructor
      · intro done
        exact nomatch done
      · intro acceptable
        exact absurd offends (not_firstOffence acceptable.1 acceptable.2)
    · intro failure next run
      obtain ⟨rfl, rfl⟩ := EStateM.Result.error.inj (refused.symm.trans run)
      exact ⟨rfl, reason, rfl, offends⟩
  | ok sites =>
    obtain ⟨built, filled⟩ := fill_reset_ok narrow reached.tended.sound (Gathered.of_gather gathering)
    have done : rebuild τ session.pool slots tree =
        .ok () { built with builtAt := session.pool.modifications } := by
      simp only [rebuild, gathering, filled]
    refine ⟨?_, ?_, ?_⟩
    · rw [Step.outcome_of_ok done]
      exact ⟨fun _ => acceptable_of_gather sound gathering, fun _ => rfl⟩
    · intro failure next run
      exact nomatch done.symm.trans run
    · intro others same
      obtain rfl := Except.ok.inj same
      exact ⟨built, filled⟩

def pair : List (Session.Deed UInt8 (Stored.form (Point Double 1)).width) := [.act .allocate, .act .allocate]

theorem pair_accepted_or_unchanged :
    ∃ (start : RecordPool (FlatSlots UInt8) UInt8) (session : Session (FlatSlots UInt8) UInt8)
      (tree : KdTree UInt8 Double 1),
      RecordPool.make 0 (Stored.form (Point Double 1)) {} = .ok start ∧
      Step.leftAfter Session.carryOut pair ⟨start, []⟩ = session ∧ tree.Reached ∧
      (rebuild (Point Double 1) session.pool [1, 0]).outcome tree = .ok () ∧
      ∃ reason, rebuild (Point Double 1) session.pool [0, 2, 0] tree = .error (.refused reason) tree ∧
        FirstOffence session.pool [] [0, 2, 0] reason := by
  obtain ⟨start, made, count, planted⟩ : ∃ start : RecordPool (FlatSlots UInt8) UInt8,
      RecordPool.make 0 (Stored.form (Point Double 1)) {} = .ok start ∧
      (Step.leftAfter Session.carryOut pair ⟨start, []⟩).pool.len = 2 ∧
      (build (Point Double 1) start [] : Except _ (KdTree UInt8 Double 1)).toOption.isSome = true := by
    refine ⟨_, rfl, ?_, ?_⟩
    · decide +kernel
    · decide +kernel
  obtain ⟨session, ran⟩ : ∃ session, Step.leftAfter Session.carryOut pair ⟨start, []⟩ = session := ⟨_, rfl⟩
  cases built : (build (Point Double 1) start [] : Except _ (KdTree UInt8 Double 1)) with
  | error failure =>
    rw [built] at planted
    exact nomatch planted
  | ok tree =>
    have fits : (Stored.form (Point Double 1)).fresh.length = (Stored.form (Point Double 1)).width :=
      LawfulStored.length_encode _
    obtain ⟨accepts, _⟩ := rebuild_all_or_nothing (Point Double 1) fits made [] pair ran (by decide)
      (.built built) [1, 0]
    obtain ⟨rejects, unchanged, _⟩ := rebuild_all_or_nothing (Point Double 1) fits made [] pair ran (by decide)
      (.built built) [0, 2, 0]
    rw [ran] at count
    refine ⟨start, session, tree, made, ran, .built built, ?_, ?_⟩
    · apply accepts.mpr
      rw [count]
      decide
    · cases run : rebuild (Point Double 1) session.pool [0, 2, 0] tree with
      | ok answer next =>
        have distinct := (rejects.mp (Step.outcome_of_ok run)).1
        exact absurd distinct (by decide)
      | error failure next =>
        obtain ⟨rfl, reason, rfl, offends⟩ := unchanged failure next run
        exact ⟨reason, rfl, offends⟩

end SpatialStore.KdTree
