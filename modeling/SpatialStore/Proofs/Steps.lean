import SpatialStore.Step

/-! How steps run one after another: a step that answers hands its state on, and a step that fails ends
the run with the state it has left. -/

namespace SpatialStore

theorem bind_eq_ok {ε β β' : Type} {first : Except ε β} {next : β → Except ε β'} {answer : β'} :
    (first >>= next) = .ok answer ↔ ∃ middle, first = .ok middle ∧ next middle = .ok answer := by
  cases first with
  | error reason =>
    constructor
    · intro same
      exact nomatch same
    · intro split
      obtain ⟨_, same, _⟩ := split
      exact nomatch same
  | ok middle =>
    constructor
    · intro same
      exact ⟨middle, rfl, same⟩
    · intro split
      obtain ⟨_, same, rest⟩ := split
      obtain rfl := Except.ok.inj same
      exact rest

namespace Step

variable {ε ε' σ τ β β' : Type}

/-- The state that a step leaves, whether it answers or fails. -/
def left (step : Step ε σ β) (state : σ) : σ :=
  match step state with
  | .ok _ next => next
  | .error _ next => next

def outcome (step : Step ε σ β) (state : σ) : Except ε β :=
  match step state with
  | .ok answer _ => .ok answer
  | .error reason _ => .error reason

/-- The state after one step for each act, whether or not the steps before it failed. -/
def leftAfter {κ : Type} (perform : κ → Step ε σ β) : List κ → σ → σ
  | [], state => state
  | act :: rest, state => leftAfter perform rest ((perform act).left state)

def outcomes {κ : Type} (perform : κ → Step ε σ β) : List κ → σ → List (κ × Except ε β)
  | [], _ => []
  | act :: rest, state =>
    (act, (perform act).outcome state) :: outcomes perform rest ((perform act).left state)

/-- What is reported by a step; one that fails reports nothing. -/
def reported {η : Type} : Except ε (List η) → List η
  | .ok told => told
  | .error _ => []

def reports {κ η : Type} (perform : κ → Step ε σ (List η)) : List κ → σ → List η
  | [], _ => []
  | act :: rest, state =>
    reported ((perform act).outcome state) ++ reports perform rest ((perform act).left state)

theorem left_of_ok {step : Step ε σ β} {state next : σ} {answer : β}
    (run : step state = .ok answer next) : step.left state = next := by
  rw [left, run]

theorem left_of_error {step : Step ε σ β} {state next : σ} {reason : ε}
    (run : step state = .error reason next) : step.left state = next := by
  rw [left, run]

theorem outcome_of_ok {step : Step ε σ β} {state next : σ} {answer : β}
    (run : step state = .ok answer next) : step.outcome state = .ok answer := by
  rw [outcome, run]

theorem outcome_of_error {step : Step ε σ β} {state next : σ} {reason : ε}
    (run : step state = .error reason next) : step.outcome state = .error reason := by
  rw [outcome, run]

theorem of_outcome_error {step : Step ε σ β} {state : σ} {reason : ε}
    (stopped : step.outcome state = .error reason) : step state = .error reason (step.left state) := by
  unfold outcome at stopped
  unfold left
  split at stopped
  next => exact nomatch stopped
  next failure next run =>
    obtain rfl := Except.error.inj stopped
    rw [run]

/-- What each act keeps true of the state and of all that was reported, a run keeps true. -/
theorem run_keeps {κ η : Type} {perform : κ → Step ε σ (List η)} {motive : σ → List η → Prop}
    (each : ∀ state told act, motive state told →
      motive ((perform act).left state) (told ++ reported ((perform act).outcome state)))
    (acts : List κ) {state : σ} {told : List η} (start : motive state told) :
    motive (leftAfter perform acts state) (told ++ reports perform acts state) := by
  induction acts generalizing state told with
  | nil =>
    rw [reports, List.append_nil]
    exact start
  | cons act rest ih =>
    rw [reports, ← List.append_assoc]
    exact ih (each state told act start)

theorem bind_of_ok {step : Step ε σ β} {rest : β → Step ε σ β'} {state next : σ} {answer : β}
    (run : step state = .ok answer next) : (step >>= rest) state = rest answer next := by
  change EStateM.bind step rest state = _
  rw [EStateM.bind, run]

theorem bind_of_error {step : Step ε σ β} {rest : β → Step ε σ β'} {state next : σ} {reason : ε}
    (run : step state = .error reason next) : (step >>= rest) state = .error reason next := by
  change EStateM.bind step rest state = _
  rw [EStateM.bind, run]

theorem bind_congr {first second : Step ε σ β} {rest other : β → Step ε σ β'} {state : σ}
    (same : first state = second state)
    (each : ∀ answer next, second state = .ok answer next → rest answer next = other answer next) :
    (first >>= rest) state = (second >>= other) state := by
  cases run : second state with
  | ok answer next => rw [bind_of_ok (same.trans run), bind_of_ok run, each answer next run]
  | error reason next => rw [bind_of_error (same.trans run), bind_of_error run]

theorem leftAfter_append {κ : Type} (perform : κ → Step ε σ β) (first second : List κ) (state : σ) :
    leftAfter perform (first ++ second) state = leftAfter perform second (leftAfter perform first state) := by
  induction first generalizing state with
  | nil => rfl
  | cons act rest ih => exact ih ((perform act).left state)

theorem outcomes_append {κ : Type} (perform : κ → Step ε σ β) (first second : List κ) (state : σ) :
    outcomes perform (first ++ second) state =
      outcomes perform first state ++ outcomes perform second (leftAfter perform first state) := by
  induction first generalizing state with
  | nil => rfl
  | cons act rest ih =>
    rw [List.cons_append, outcomes, outcomes, ih, List.cons_append]
    rfl

theorem reports_append {κ η : Type} (perform : κ → Step ε σ (List η)) (first second : List κ) (state : σ) :
    reports perform (first ++ second) state =
      reports perform first state ++ reports perform second (leftAfter perform first state) := by
  induction first generalizing state with
  | nil => rfl
  | cons act rest ih =>
    rw [List.cons_append, reports, reports, ih, List.append_assoc]
    rfl

/-! ### What a step comes to -/

def Ends (step : Step ε σ β) (state : σ) (kind : Except ε β → σ → Prop) : Prop :=
  kind (step.outcome state) (step.left state)

theorem ends_of_ok {step : Step ε σ β} {state next : σ} {answer : β} {kind : Except ε β → σ → Prop}
    (run : step state = .ok answer next) (holds : kind (.ok answer) next) : step.Ends state kind := by
  rw [Ends, outcome_of_ok run, left_of_ok run]
  exact holds

theorem ends_of_error {step : Step ε σ β} {state next : σ} {reason : ε} {kind : Except ε β → σ → Prop}
    (run : step state = .error reason next) (holds : kind (.error reason) next) : step.Ends state kind := by
  rw [Ends, outcome_of_error run, left_of_error run]
  exact holds

/-- A step that goes on from a first one comes to what it comes to in the state that the first one leaves. -/
theorem ends_of_bind {first : Step ε σ β} {rest : β → Step ε σ β'} {state middle : σ} {answer : β}
    {kind : Except ε β' → σ → Prop} (run : first state = .ok answer middle)
    (holds : (rest answer).Ends middle kind) : (first >>= rest).Ends state kind := by
  rw [Ends, outcome, left, bind_of_ok run]
  exact holds

/-! ### Parts of steps -/

theorem left_bind_pure (step : Step ε σ β) (finish : β → β') (state : σ) :
    (step >>= fun answer => (pure (finish answer) : Step ε σ β')).left state = step.left state := by
  cases run : step state with
  | ok answer next =>
    rw [left_of_ok run, left, bind_of_ok run]
    rfl
  | error reason next => rw [left_of_error run, left_of_error (bind_of_error run)]

theorem outcome_bind_pure (step : Step ε σ β) (finish : β → β') (state : σ) :
    (step >>= fun answer => (pure (finish answer) : Step ε σ β')).outcome state =
      (step.outcome state).map finish := by
  cases run : step state with
  | ok answer next =>
    rw [outcome_of_ok run, outcome, bind_of_ok run]
    rfl
  | error reason next =>
    rw [outcome_of_error run, outcome_of_error (bind_of_error run)]
    rfl

theorem left_within {part : σ → τ} {replace : τ → σ → σ} {failure : ε → ε'} (step : Step ε τ β)
    (state : σ) : (within part replace failure step).left state = replace (step.left (part state)) state := by
  cases run : step (part state) with
  | ok answer next => rw [left_of_ok run, left_of_ok (within_ok run)]
  | error reason next => rw [left_of_error run, left_of_error (within_error run)]

theorem outcome_within {part : σ → τ} {replace : τ → σ → σ} {failure : ε → ε'} (step : Step ε τ β)
    (state : σ) :
    (within part replace failure step).outcome state = (step.outcome (part state)).mapError failure := by
  cases run : step (part state) with
  | ok answer next =>
    rw [outcome_of_ok run, outcome_of_ok (within_ok run)]
    rfl
  | error reason next =>
    rw [outcome_of_error run, outcome_of_error (within_error run)]
    rfl

theorem left_read (look : σ → Except ε β) (state : σ) : (read look).left state = state := by
  unfold left read
  cases look state <;> rfl

theorem map_mapError (outcome : Except ε β) (failure : ε → ε') (finish : β → β') :
    (outcome.mapError failure).map finish = (outcome.map finish).mapError failure := by
  cases outcome <;> rfl

theorem reported_mapError {η : Type} (outcome : Except ε (List η)) (failure : ε → ε') :
    reported (outcome.mapError failure) = reported outcome := by
  cases outcome <;> rfl

theorem reported_map_nil {η : Type} (outcome : Except ε β) :
    reported (outcome.map fun _ => ([] : List η)) = [] := by
  cases outcome <;> rfl

theorem bind_get (rest : σ → Step ε σ β) (state : σ) : (get >>= rest) state = rest state state := rfl

theorem read_of_ok (look : σ → Except ε β) {state : σ} {answer : β} (found : look state = .ok answer) :
    read look state = .ok answer state := by
  rw [read, found]

theorem read_of_error (look : σ → Except ε β) {state : σ} {reason : ε}
    (missing : look state = .error reason) : read look state = .error reason state := by
  rw [read, missing]

end Step

end SpatialStore
