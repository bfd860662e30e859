import SpatialStore.Proofs.Tree.Reached

/-! Surveys: a tree beside the records that it was made over. Both go on being used, in any order. What is
done to the records does not reach the tree, and of the tree only the validity of nodes changes. -/

namespace SpatialStore

structure Survey (ξ γ S : Type) (N : Nat) where
  source : ξ
  tree : KdTree γ S N

namespace Survey

variable {ξ κ η γ S : Type} {N : Nat} [Scalar S] [Cell γ] [Stored (KdNode S N) γ]

inductive Act (κ : Type)
  | source (act : κ)
  | mark (node : Nat) (valid : Bool)
  | markData (data : Nat) (valid : Bool)
  | validateAll

def onSource : List (Act κ) → List κ
  | [] => []
  | .source act :: rest => act :: onSource rest
  | _ :: rest => onSource rest

def onTree (step : Step TreeFailure (KdTree γ S N) Unit) : Step TreeFailure (Survey ξ γ S N) (List η) :=
  Step.within Survey.tree (fun tree survey => { survey with tree }) id do
    step
    return []

def perform (step : κ → Step PoolFailure ξ (List η)) : Act κ → Step TreeFailure (Survey ξ γ S N) (List η)
  | .source act =>
    Step.within Survey.source (fun source survey => { survey with source }) PoolFailure.inTree (step act)
  | .mark node valid => onTree (KdTree.setValid node valid)
  | .markData data valid => onTree (KdTree.setValidData data valid)
  | .validateAll => onTree KdTree.validateAll

omit [Scalar S] [Cell γ] [Stored (KdNode S N) γ] in
theorem onTree_spec (step : Step TreeFailure (KdTree γ S N) Unit) (survey : Survey ξ γ S N) :
    (onTree step : Step _ _ (List η)).left survey = { survey with tree := step.left survey.tree } ∧
      Step.reported ((onTree step : Step _ _ (List η)).outcome survey) = [] := by
  constructor
  · rw [onTree, Step.left_within, Step.left_bind_pure]
  · rw [onTree, Step.outcome_within, Step.reported_mapError, Step.outcome_bind_pure, Step.reported_map_nil]

theorem act_spec (step : κ → Step PoolFailure ξ (List η)) {motive : KdTree γ S N → Prop}
    (kept : ∀ tree slot valid, motive tree → motive ((KdTree.setValid slot valid).left tree))
    (act : Act κ) {survey : Survey ξ γ S N} (holds : motive survey.tree) :
    ((perform step act).left survey).source = Step.leftAfter step (onSource [act]) survey.source ∧
      Step.reported ((perform step act).outcome survey) = Step.reports step (onSource [act]) survey.source ∧
      motive ((perform step act).left survey).tree := by
  cases act with
  | source act =>
    rw [perform, Step.left_within, Step.outcome_within, Step.reported_mapError]
    exact ⟨rfl, (List.append_nil _).symm, holds⟩
  | mark node valid =>
    obtain ⟨left, silent⟩ := onTree_spec (KdTree.setValid node valid) survey
    rw [perform, left, silent]
    exact ⟨rfl, rfl, kept survey.tree node valid holds⟩
  | markData data valid =>
    obtain ⟨left, silent⟩ := onTree_spec (KdTree.setValidData data valid) survey
    rw [perform, left, silent]
    refine ⟨rfl, rfl, KdTree.left_setValidData holds ?_ data valid⟩
    intro node valid
    exact kept survey.tree node valid holds
  | validateAll =>
    obtain ⟨left, silent⟩ := onTree_spec KdTree.validateAll survey
    rw [perform, left, silent]
    refine ⟨rfl, rfl, KdTree.left_validateSlots ?_ holds (List.range survey.tree.len)⟩
    intro tree node
    exact kept tree node true

/-- The source is left as it would be by itself, and the tree with what marking its nodes keeps. -/
theorem run_spec (step : κ → Step PoolFailure ξ (List η)) {motive : KdTree γ S N → Prop}
    (kept : ∀ tree slot valid, motive tree → motive ((KdTree.setValid slot valid).left tree))
    (acts : List (Act κ)) {survey : Survey ξ γ S N} (holds : motive survey.tree) :
    (Step.leftAfter (perform step) acts survey).source = Step.leftAfter step (onSource acts) survey.source ∧
      Step.reports (perform step) acts survey = Step.reports step (onSource acts) survey.source ∧
      motive (Step.leftAfter (perform step) acts survey).tree := by
  induction acts generalizing survey with
  | nil => exact ⟨rfl, rfl, holds⟩
  | cons act rest ih =>
    obtain ⟨source, told, holdsNext⟩ := act_spec step kept act holds
    obtain ⟨sourceRest, toldRest, holdsLast⟩ := ih holdsNext
    have split : onSource (act :: rest) = onSource [act] ++ onSource rest := by
      cases act <;> rfl
    refine ⟨?_, ?_, holdsLast⟩
    · rw [split, Step.leftAfter_append, ← source]
      exact sourceRest
    · rw [split, Step.reports_append, ← source, ← told, ← toldRest]
      rfl

theorem reports_eq (step : κ → Step PoolFailure ξ (List η)) (acts : List (Act κ)) (survey : Survey ξ γ S N) :
    Step.reports (perform step) acts survey = Step.reports step (onSource acts) survey.source :=
  (run_spec step (motive := fun _ => True) (fun _ _ _ _ => trivial) acts trivial).2.1

end Survey

end SpatialStore
