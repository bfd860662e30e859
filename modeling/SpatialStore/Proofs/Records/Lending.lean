import SpatialStore.Proofs.Records.Pool
import SpatialStore.Slots.Flat

/-! Handles lent and taken back. A pool issues numbers one after the other and lends a returned one first, so at any
time the numbers that are out and the ones that were returned are all those issued, each of them once. A scope takes
back the handle it was lent, and for the rest leaves what its body has lent and taken back. -/

namespace SpatialStore

namespace Lending

/-- The numbers out and the numbers returned are the issued ones, and no more were issued than can be out. -/
structure Balanced (limit : Nat) (out : List Nat) (lending : Lending) : Prop where
  limit_eq : lending.limit = limit
  outstanding_eq : lending.outstanding = out.length
  each_once : (out ++ lending.returned).Perm (List.range lending.issued)
  issued_le : lending.issued ≤ limit

namespace Balanced

variable {limit : Nat} {out : List Nat} {lending : Lending}

theorem start (limit : Nat) : Balanced limit [] { limit } :=
  ⟨rfl, rfl, List.Perm.refl _, Nat.zero_le limit⟩

theorem length_add (balanced : Balanced limit out lending) :
    out.length + lending.returned.length = lending.issued := by
  have counted := balanced.each_once.length_eq
  rwa [List.length_append, List.length_range] at counted

theorem length_le (balanced : Balanced limit out lending) : out.length ≤ limit := by
  have counted := balanced.length_add
  have issued := balanced.issued_le
  omega

theorem nodup (balanced : Balanced limit out lending) : (out ++ lending.returned).Nodup :=
  balanced.each_once.nodup_iff.mpr List.nodup_range

theorem lt_limit (balanced : Balanced limit out lending) {number : Nat}
    (member : number ∈ out ++ lending.returned) : number < limit :=
  Nat.lt_of_lt_of_le (List.mem_range.mp (balanced.each_once.mem_iff.mp member)) balanced.issued_le

/-- A number is to be had below the limit, unless it would be the last of all numbers. -/
theorem acquire (balanced : Balanced limit out lending) :
    (out.length = limit ∧ acquire lending = .error (.refused (.handlesExhausted limit)) lending) ∨
    (out.length < limit ∧ ∃ number next, acquire lending = .ok number next ∧ number ∉ out ∧
      Balanced limit (number :: out) next) ∨
    (out.length < limit ∧ lending.returned = [] ∧ numbers ≤ out.length + 1 ∧
      acquire lending = .error (.fault .overflow) lending) := by
  have below := balanced.length_le
  have counted := balanced.length_add
  have distinct := balanced.nodup
  obtain ⟨rfl, outstanding, issued, bound⟩ := balanced
  unfold Lending.acquire
  by_cases exhausted : lending.limit ≤ lending.outstanding
  · rw [if_pos exhausted]
    exact Or.inl ⟨by omega, rfl⟩
  · have free : out.length < lending.limit := by omega
    rw [if_neg exhausted]
    cases kept : lending.returned with
    | cons number rest =>
      rw [kept] at issued distinct
      have fresh : number ∉ out := fun member =>
        List.disjoint_of_nodup_append distinct member List.mem_cons_self
      refine Or.inr (Or.inl ⟨free, number, _, rfl, fresh, rfl, congrArg (· + 1) outstanding, ?_, bound⟩)
      exact List.perm_middle.symm.trans issued
    | nil =>
      rw [kept, List.length_nil] at counted
      rw [kept, List.append_nil] at issued
      by_cases more : lending.issued + 1 < numbers
      · have fresh : lending.issued ∉ out := fun member =>
          Nat.lt_irrefl _ (List.mem_range.mp (issued.mem_iff.mp member))
        rw [if_pos more]
        refine Or.inr (Or.inl ⟨free, lending.issued, _, rfl, fresh, rfl, congrArg (· + 1) outstanding, ?_, ?_⟩)
        · change (lending.issued :: out ++ []).Perm (List.range (lending.issued + 1))
          rw [List.append_nil, List.range_succ]
          exact (issued.cons _).trans (List.perm_append_singleton _ _).symm
        · change lending.issued + 1 ≤ lending.limit
          omega
      · rw [if_neg more]
        exact Or.inr (Or.inr ⟨free, rfl, by omega, rfl⟩)

theorem release (balanced : Balanced limit out lending) {number : Nat} (member : number ∈ out) :
    Balanced limit (out.erase number) (lending.release number) where
  limit_eq := balanced.limit_eq
  outstanding_eq := by
    rw [List.length_erase_of_mem member, ← balanced.outstanding_eq]
    rfl
  each_once := by
    change (out.erase number ++ number :: lending.returned).Perm (List.range lending.issued)
    have back : (number :: out.erase number).Perm out := (List.perm_cons_erase member).symm
    exact List.perm_middle.trans ((back.append_right lending.returned).trans balanced.each_once)
  issued_le := balanced.issued_le

end Balanced

end Lending

inductive Deal
  | lent (number : Nat)
  | takenBack (number : Nat)
  deriving DecidableEq

namespace Deal

def isLent : Deal → Bool
  | .lent _ => true
  | .takenBack _ => false

/-- The numbers that are out after these deals; a number is in it as often as it was lent and not taken back. -/
def outAfter (out : List Nat) : List Deal → List Nat
  | [] => out
  | .lent number :: rest => outAfter (number :: out) rest
  | .takenBack number :: rest => outAfter (out.erase number) rest

theorem outAfter_append (out : List Nat) (first second : List Deal) :
    outAfter out (first ++ second) = outAfter (outAfter out first) second := by
  induction first generalizing out with
  | nil => rfl
  | cons deal rest ih =>
    cases deal with
    | lent number => exact ih (number :: out)
    | takenBack number => exact ih (out.erase number)

def lentIn (deals : List Deal) : Nat := deals.countP isLent

def takenBackIn (deals : List Deal) : Nat := deals.countP fun deal => !deal.isLent

@[simp] theorem lentIn_lent (number : Nat) (rest : List Deal) :
    lentIn (.lent number :: rest) = lentIn rest + 1 := List.countP_cons_of_pos rfl

@[simp] theorem lentIn_takenBack (number : Nat) (rest : List Deal) :
    lentIn (.takenBack number :: rest) = lentIn rest := List.countP_cons_of_neg nofun

@[simp] theorem takenBackIn_lent (number : Nat) (rest : List Deal) :
    takenBackIn (.lent number :: rest) = takenBackIn rest := List.countP_cons_of_neg nofun

@[simp] theorem takenBackIn_takenBack (number : Nat) (rest : List Deal) :
    takenBackIn (.takenBack number :: rest) = takenBackIn rest + 1 := List.countP_cons_of_pos rfl

/-- A number that is out stays out until it is taken back. -/
theorem mem_outAfter {out : List Nat} {deals : List Deal} {number : Nat} (member : number ∈ out)
    (kept : .takenBack number ∉ deals) : number ∈ outAfter out deals := by
  induction deals generalizing out with
  | nil => exact member
  | cons deal rest ih =>
    have later := fun taken => kept (List.mem_cons_of_mem deal taken)
    cases deal with
    | lent other => exact ih (List.mem_cons_of_mem other member) later
    | takenBack other =>
      have different : number ≠ other := by
        rintro rfl
        exact kept List.mem_cons_self
      exact ih ((List.mem_erase_of_ne different).mpr member) later

end Deal

namespace RecordPool

open Deal (outAfter lentIn takenBackIn)

variable {α γ β : Type}

/-- How a run goes from pool to pool: handles are lent and taken back, each at most once, and requests are turned
down, in any order and with any work on the records in between. `out` are the numbers that are out before. -/
inductive Run : List Nat → RecordPool α γ → List Deal → RecordPool α γ → Prop
  | done {out : List Nat} {pool : RecordPool α γ} : Run out pool [] pool
  | lent {out : List Nat} {pool next last : RecordPool α γ} {handle : Handle} {rest : List Deal} :
      lend pool = .ok handle next → Run (handle.number :: out) next rest last →
      Run out pool (.lent handle.number :: rest) last
  | notLent {out : List Nat} {pool next last : RecordPool α γ} {failure : PoolFailure} {rest : List Deal} :
      lend pool = .error failure next → Run out next rest last → Run out pool rest last
  | takenBack {out : List Nat} {pool next last : RecordPool α γ} {handle : Handle} {rest : List Deal} :
      handle.number ∈ out → takeBack handle pool = .ok () next → Run (out.erase handle.number) next rest last →
      Run out pool (.takenBack handle.number :: rest) last
  | notTakenBack {out : List Nat} {pool next last : RecordPool α γ} {handle : Handle} {failure : PoolFailure}
      {rest : List Deal} :
      takeBack handle pool = .error failure next → Run out next rest last → Run out pool rest last
  | other {out : List Nat} {pool last : RecordPool α γ} (slots : SlotPool α) {rest : List Deal} :
      Run out { pool with slots } rest last → Run out pool rest last

/-- A pool lends a number that is not out, or has lent its limit and refuses, or has come to the last number. -/
theorem lend_spec {pool : RecordPool α γ} {limit : Nat} {out : List Nat}
    (balanced : pool.lending.Balanced limit out) :
    (out.length = limit ∧ lend pool = .error (.refused (.handlesExhausted limit)) pool) ∨
    (out.length < limit ∧ ∃ number lending, number ∉ out ∧ lending.Balanced limit (number :: out) ∧
      lend pool = .ok { poolId := pool.poolId, number } { pool with lending }) ∨
    (out.length < limit ∧ pool.lending.returned = [] ∧ Lending.numbers ≤ out.length + 1 ∧
      lend pool = .error (.fault .overflow) pool) := by
  have lent := lend_eq pool
  rcases balanced.acquire with ⟨full, refused⟩ | ⟨free, number, lending, taken, fresh, next⟩ |
    ⟨free, none, last, stopped⟩
  · rw [refused] at lent
    exact Or.inl ⟨full, lent⟩
  · rw [taken] at lent
    exact Or.inr (Or.inl ⟨free, number, lending, fresh, next, lent⟩)
  · rw [stopped] at lent
    exact Or.inr (Or.inr ⟨free, none, last, lent⟩)

namespace Run

variable {limit : Nat} {out : List Nat} {pool middle last : RecordPool α γ} {deals later : List Deal}

theorem append (run : Run out pool deals middle) (rest : Run (outAfter out deals) middle later last) :
    Run out pool (deals ++ later) last := by
  induction run with
  | done => exact rest
  | lent taken _ ih => exact .lent taken (ih rest)
  | notLent refused _ ih => exact .notLent refused (ih rest)
  | takenBack member done _ ih => exact .takenBack member done (ih rest)
  | notTakenBack refused _ ih => exact .notTakenBack refused (ih rest)
  | other slots _ ih => exact .other slots (ih rest)

theorem balanced (run : Run out pool deals last) (start : pool.lending.Balanced limit out) :
    last.lending.Balanced limit (outAfter out deals) ∧ last.poolId = pool.poolId := by
  induction run with
  | done => exact ⟨start, rfl⟩
  | @lent out pool next last handle rest taken _ ih =>
    rcases lend_spec start with ⟨_, refused⟩ | ⟨_, number, lending, _, after, lent⟩ | ⟨_, _, _, stopped⟩
    · exact nomatch taken.symm.trans refused
    · obtain ⟨rfl, rfl⟩ := EStateM.Result.ok.inj (taken.symm.trans lent)
      exact ih after
    · exact nomatch taken.symm.trans stopped
  | @notLent out pool next last failure rest refused _ ih =>
    rcases lend_cases pool with ⟨_, same⟩ | ⟨_, _, lent⟩
    · obtain ⟨_, rfl⟩ := EStateM.Result.error.inj (refused.symm.trans same)
      exact ih start
    · exact nomatch refused.symm.trans lent
  | @takenBack out pool next last handle rest member done _ ih =>
    by_cases own : handle.poolId = pool.poolId
    · obtain ⟨_, rfl⟩ := EStateM.Result.ok.inj (done.symm.trans (takeBack_own own))
      exact ih (start.release member)
    · exact nomatch done.symm.trans (takeBack_foreign own)
  | @notTakenBack out pool next last handle failure rest refused _ ih =>
    by_cases own : handle.poolId = pool.poolId
    · exact nomatch refused.symm.trans (takeBack_own own)
    · obtain ⟨_, rfl⟩ := EStateM.Result.error.inj (refused.symm.trans (takeBack_foreign own))
      exact ih start
  | other _ _ ih => exact ih start

/-- The handles out are those lent that were not taken back. -/
theorem counted (run : Run out pool deals last) :
    (outAfter out deals).length + takenBackIn deals = out.length + lentIn deals := by
  induction run with
  | done => rfl
  | lent _ _ ih =>
    rw [List.length_cons] at ih
    rw [outAfter, Deal.takenBackIn_lent, Deal.lentIn_lent]
    omega
  | notLent _ _ ih => exact ih
  | takenBack member _ _ ih =>
    have some := List.length_pos_of_mem member
    rw [List.length_erase_of_mem member] at ih
    rw [outAfter, Deal.takenBackIn_takenBack, Deal.lentIn_takenBack]
    omega
  | notTakenBack _ _ ih => exact ih
  | other _ _ ih => exact ih

end Run

/-! ### Scopes -/

section

variable {pool start : RecordPool α γ} {handle : Handle} {body : Handle → Step PoolFailure (RecordPool α γ) β}

theorem withHandle_refused {failure : PoolFailure} (refused : lend pool = .error failure start) :
    withHandle body pool = .error failure start := by
  rw [withHandle, refused]

/-- A body that answers or is refused has its handle taken back, and the scope comes to what the body does. -/
theorem withHandle_returns (lent : lend pool = .ok handle start)
    (own : handle.poolId = ((body handle).left start).poolId)
    (goes : ∀ fault, (body handle).outcome start ≠ .error (.fault fault)) :
    (withHandle body).outcome pool = (body handle).outcome start ∧
      takeBack handle ((body handle).left start) = .ok () ((withHandle body).left pool) := by
  cases ran : body handle start with
  | ok answer next =>
    rw [Step.left_of_ok ran] at own ⊢
    have ended : withHandle body pool =
        .ok answer { next with lending := next.lending.release handle.number } := by
      simp only [withHandle, lent, ran]
      exact Step.bind_of_ok (takeBack_own own)
    rw [Step.outcome_of_ok ended, Step.left_of_ok ended, Step.outcome_of_ok ran]
    exact ⟨rfl, takeBack_own own⟩
  | error failure next =>
    rw [Step.left_of_error ran] at own ⊢
    rw [Step.outcome_of_error ran] at goes ⊢
    cases failure with
    | refused reason =>
      have ended : withHandle body pool =
          .error (.refused reason) { next with lending := next.lending.release handle.number } := by
        simp only [withHandle, lent, ran]
        exact Step.bind_of_ok (takeBack_own own)
      rw [Step.outcome_of_error ended, Step.left_of_error ended]
      exact ⟨rfl, takeBack_own own⟩
    | fault fault => exact absurd rfl (goes fault)

theorem withHandle_stops {fault : Fault} (lent : lend pool = .ok handle start)
    (stopped : (body handle).outcome start = .error (.fault fault)) :
    withHandle body pool = .error (.fault fault) ((body handle).left start) := by
  rw [withHandle, lent]
  simp only [Step.of_outcome_error stopped]

end

/-- A scope in a pool with these numbers out. -/
structure Scoped (out : List Nat) (pool : RecordPool α γ)
    (body : Handle → Step PoolFailure (RecordPool α γ) β) : Prop where
  refused : ∀ failure next, lend pool = .error failure next → withHandle body pool = .error failure next
  /-- The scope is one more run, in which its own handle does not count. -/
  ends : ∀ handle start deals, lend pool = .ok handle start →
    Run (handle.number :: out) start deals ((body handle).left start) → .takenBack handle.number ∉ deals →
    (∀ fault, (body handle).outcome start ≠ .error (.fault fault)) →
    (withHandle body).outcome pool = (body handle).outcome start ∧
      ((withHandle body).left pool).outstanding + takenBackIn deals = pool.outstanding + lentIn deals ∧
      Run out pool (.lent handle.number :: (deals ++ [.takenBack handle.number])) ((withHandle body).left pool)
  stops : ∀ handle start deals fault, lend pool = .ok handle start →
    Run (handle.number :: out) start deals ((body handle).left start) →
    (body handle).outcome start = .error (.fault fault) →
    (withHandle body).outcome pool = .error (.fault fault) ∧
      Run out pool (.lent handle.number :: deals) ((withHandle body).left pool)

/-- What there is of the handles of a pool after these deals. -/
structure Lends (limit : Nat) (deals : List Deal) (pool : RecordPool α γ) : Prop where
  outstanding_eq : pool.outstanding = (outAfter [] deals).length
  counted : pool.outstanding + takenBackIn deals = lentIn deals
  outstanding_le : pool.outstanding ≤ limit
  distinct : (outAfter [] deals ++ pool.lending.returned).Nodup
  below : ∀ number ∈ outAfter [] deals ++ pool.lending.returned, number < limit
  lends : pool.outstanding < limit →
    (∃ handle lending, lend pool = .ok handle { pool with lending } ∧ handle.poolId = pool.poolId ∧
      handle.number ∉ outAfter [] deals) ∨
    (limit = Lending.numbers ∧ pool.outstanding + 1 = limit ∧ lend pool = .error (.fault .overflow) pool)
  exhausted : pool.outstanding = limit → lend pool = .error (.refused (.handlesExhausted limit)) pool
  exhausted_only : ∀ count next, lend pool = .error (.refused (.handlesExhausted count)) next →
    pool.outstanding = limit
  foreign : ∀ handle : Handle, handle.poolId ≠ pool.poolId →
    takeBack handle pool = .error (.refused .foreignHandle) pool

theorem outstanding_eq (pool : RecordPool α γ) : pool.outstanding = pool.lending.outstanding := rfl

theorem balanced_make [SlotStore α γ] {poolId : Nat} {form : Form γ} {sizing : Sizing} {pool : RecordPool α γ}
    (made : make poolId form sizing = .ok pool) : pool.lending.Balanced sizing.maxHandles [] := by
  unfold make at made
  cases slotsMade : (SlotPool.make form.width sizing : Except PoolFailure (SlotPool α)) with
  | error failure =>
    rw [slotsMade] at made
    exact nomatch made
  | ok slots =>
    rw [slotsMade] at made
    obtain rfl := Except.ok.inj made
    exact .start sizing.maxHandles

theorem scoped_of_balanced {limit : Nat} {out : List Nat} {pool : RecordPool α γ}
    (balanced : pool.lending.Balanced limit out)
    (body : Handle → Step PoolFailure (RecordPool α γ) β) : Scoped out pool body where
  refused _ _ refused := withHandle_refused refused
  ends handle start deals lent inner kept goes := by
    have opened : Run out pool (.lent handle.number :: deals) ((body handle).left start) := .lent lent inner
    have own : handle.poolId = ((body handle).left start).poolId := by
      rw [(opened.balanced balanced).2]
      rcases lend_spec balanced with ⟨_, refused⟩ | ⟨_, number, lending, _, _, taken⟩ | ⟨_, _, _, stopped⟩
      · exact nomatch lent.symm.trans refused
      · rw [(EStateM.Result.ok.inj (lent.symm.trans taken)).1]
      · exact nomatch lent.symm.trans stopped
    obtain ⟨answered, returned⟩ := withHandle_returns lent own goes
    have held : handle.number ∈ outAfter (handle.number :: out) deals :=
      Deal.mem_outAfter List.mem_cons_self kept
    have closed : Run out pool ((.lent handle.number :: deals) ++ [.takenBack handle.number])
        ((withHandle body).left pool) := opened.append (.takenBack held returned .done)
    refine ⟨answered, ?_, closed⟩
    have counted := opened.counted
    have shorter := List.length_erase_of_mem held
    have some := List.length_pos_of_mem held
    have outstanding := (closed.balanced balanced).1.outstanding_eq
    change _ = (outAfter (handle.number :: out) (deals ++ [.takenBack handle.number])).length at outstanding
    rw [Deal.outAfter_append, outAfter, outAfter, shorter] at outstanding
    rw [outAfter, Deal.takenBackIn_lent, Deal.lentIn_lent, ← balanced.outstanding_eq] at counted
    rw [outstanding_eq, outstanding_eq]
    omega
  stops handle start deals fault lent inner stopped := by
    have run := withHandle_stops lent stopped
    rw [Step.outcome_of_error run, Step.left_of_error run]
    exact ⟨rfl, .lent lent inner⟩

theorem Run.lends {limit : Nat} (few : limit ≤ Lending.numbers) {start last : RecordPool α γ} {deals : List Deal}
    (balanced : start.lending.Balanced limit []) (run : Run [] start deals last) : Lends limit deals last := by
  have counted := run.counted
  obtain ⟨after, _⟩ := run.balanced balanced
  have outstanding : last.outstanding = (outAfter [] deals).length := after.outstanding_eq
  rw [List.length_nil, Nat.zero_add, ← outstanding] at counted
  have next := lend_spec after
  rw [← outstanding] at next
  refine ⟨outstanding, counted, outstanding ▸ after.length_le, after.nodup, fun _ => after.lt_limit, ?_, ?_, ?_,
    fun _ => takeBack_foreign⟩
  · intro free
    rcases next with ⟨full, _⟩ | ⟨_, number, lending, fresh, _, lent⟩ | ⟨_, _, final, stopped⟩
    · omega
    · exact Or.inl ⟨_, lending, lent, rfl, fresh⟩
    · exact Or.inr ⟨by omega, by omega, stopped⟩
  · intro full
    rcases next with ⟨_, refused⟩ | ⟨free, _⟩ | ⟨free, _⟩
    · exact refused
    · omega
    · omega
  · intro count left failed
    rcases next with ⟨full, _⟩ | ⟨_, number, lending, _, _, lent⟩ | ⟨_, _, _, stopped⟩
    · exact full
    · exact nomatch failed.symm.trans lent
    · exact nomatch failed.symm.trans stopped

/-- After every run of a pool, the handles out are those lent and not taken back, each with a number of its own below
the limit, and another one is lent up to the limit. Scopes add to this what their bodies do. -/
theorem run_lends [SlotStore α γ] {poolId : Nat} {form : Form γ} {sizing : Sizing} {start last : RecordPool α γ}
    {deals : List Deal} (made : make poolId form sizing = .ok start)
    (few : sizing.maxHandles ≤ Lending.numbers) (run : Run [] start deals last) :
    Lends sizing.maxHandles deals last ∧
      ∀ {β : Type} (body : Handle → Step PoolFailure (RecordPool α γ) β),
        Scoped (outAfter [] deals) last body := by
  have balanced := balanced_make made
  exact ⟨run.lends few balanced, scoped_of_balanced (run.balanced balanced).1⟩

def oneByte : Form UInt8 := { width := 1, fresh := [0] }

def vacant (lending : Lending) : RecordPool (FlatSlots UInt8) UInt8 where
  slots := { store := { cells := #[], width := 1, width_pos := Nat.one_pos }, maximum := none }
  form := oneByte
  lending := lending
  poolId := 7

def nested : Step PoolFailure (RecordPool (FlatSlots UInt8) UInt8) Unit :=
  withHandle fun _ => withHandle fun _ => pure ()

/-- With one of two handles out, the outer scope is lent the one that was returned, and the inner scope is refused.
The outer one fails with that and has given its handle back. -/
theorem nested_lends :
    make 7 oneByte { initialCapacity := 0, maxHandles := 2 } = .ok (vacant { limit := 2 }) ∧
      2 ≤ Lending.numbers ∧
      Run [] (vacant { limit := 2 }) [.lent 0, .lent 1, .takenBack 0]
        (vacant { returned := [0], issued := 2, outstanding := 1, limit := 2 }) ∧
      Lends 2 [.lent 0, .lent 1, .takenBack 0]
        (vacant { returned := [0], issued := 2, outstanding := 1, limit := 2 }) ∧
      nested.outcome (vacant { returned := [0], issued := 2, outstanding := 1, limit := 2 }) =
        .error (.refused (.handlesExhausted 2)) ∧
      (nested.left (vacant { returned := [0], issued := 2, outstanding := 1, limit := 2 })).outstanding = 1 := by
  have made : make 7 oneByte { initialCapacity := 0, maxHandles := 2 } =
      .ok (vacant { limit := 2 }) := rfl
  have few : 2 ≤ Lending.numbers := by decide
  have first : lend (vacant { limit := 2 }) =
      .ok { poolId := 7, number := 0 } (vacant { issued := 1, outstanding := 1, limit := 2 }) := rfl
  have second : lend (vacant { issued := 1, outstanding := 1, limit := 2 }) =
      .ok { poolId := 7, number := 1 } (vacant { issued := 2, outstanding := 2, limit := 2 }) := rfl
  have back : takeBack { poolId := 7, number := 0 } (vacant { issued := 2, outstanding := 2, limit := 2 }) =
      .ok () (vacant { returned := [0], issued := 2, outstanding := 1, limit := 2 }) := rfl
  have again : lend (vacant { returned := [0], issued := 2, outstanding := 1, limit := 2 }) =
      .ok { poolId := 7, number := 0 } (vacant { issued := 2, outstanding := 2, limit := 2 }) := rfl
  have full : lend (vacant { issued := 2, outstanding := 2, limit := 2 }) =
      .error (.refused (.handlesExhausted 2)) (vacant { issued := 2, outstanding := 2, limit := 2 }) := rfl
  have run : Run [] (vacant { limit := 2 }) [.lent 0, .lent 1, .takenBack 0]
      (vacant { returned := [0], issued := 2, outstanding := 1, limit := 2 }) :=
    .lent first (.lent second (.takenBack (by decide) back .done))
  obtain ⟨lends, scopes⟩ := run_lends made few run
  obtain ⟨answered, kept, _⟩ := (scopes fun _ => withHandle fun _ => pure ()).ends _ _ [] again
    (.notLent full .done) List.not_mem_nil nofun
  exact ⟨made, few, run, lends, answered, kept⟩

end RecordPool

end SpatialStore
