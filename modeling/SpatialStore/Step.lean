/-! Operations on a state. A step answers or fails, and either way says which state it leaves, so what
an early end has already changed stays visible. -/

namespace SpatialStore

/-- An operation on a state `σ` that answers a `β` or fails with an `ε`. -/
abbrev Step (ε σ β : Type) := EStateM ε σ β

namespace Step

variable {ε ε' σ τ β : Type}

@[inline] def ofExcept : Except ε β → Step ε σ β
  | .ok answer => pure answer
  | .error failure => throw failure

@[inline] def read (look : σ → Except ε β) : Step ε σ β := fun state =>
  match look state with
  | .ok answer => .ok answer state
  | .error failure => .error failure state

/-- A step on one part of the state, the rest being kept. -/
@[inline] def within (part : σ → τ) (replace : τ → σ → σ) (failure : ε → ε') (step : Step ε τ β) :
    Step ε' σ β := fun state =>
  match step (part state) with
  | .ok answer next => .ok answer (replace next state)
  | .error reason next => .error (failure reason) (replace next state)

theorem within_ok {part : σ → τ} {replace : τ → σ → σ} {failure : ε → ε'} {step : Step ε τ β}
    {state : σ} {answer : β} {next : τ} (run : step (part state) = .ok answer next) :
    within part replace failure step state = .ok answer (replace next state) := by
  simp [within, run]

theorem within_error {part : σ → τ} {replace : τ → σ → σ} {failure : ε → ε'} {step : Step ε τ β}
    {state : σ} {reason : ε} {next : τ} (run : step (part state) = .error reason next) :
    within part replace failure step state = .error (failure reason) (replace next state) := by
  simp [within, run]

end Step

end SpatialStore
