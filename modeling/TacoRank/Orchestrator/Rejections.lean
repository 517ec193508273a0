import TacoRank.Orchestrator.Lifecycle
import TacoRank.Orchestrator.BestEvidence
import TacoRank.Orchestrator.RunStep

/-!
# Rejections

`validateTransition` is meant to reject a payload with a `TransitionError` and with nothing else. Its
branches index dictionaries and take the last event of a kind, so this rests on the checks before each
lookup and on what a valid ledger has recorded by then: an experiment is proposed after the baseline,
and the baseline is verified against a contract. One lookup is not covered: the table behind the
promotion rule has no entry for the final fidelity.
-/

namespace TacoRank
open Lib Lib.Result

/-- A `TransitionError`. -/
def PyError.IsTransition (err : PyError) : Prop := ∃ message, err = .transitionError message

/-- Every error is a `TransitionError`. -/
abbrev Guarded {α : Type} (x : Except PyError α) : Prop := Raises PyError.IsTransition x

/-! ### Guards and lookups -/

lemma require_guarded {condition : Prop} [Decidable condition] {message} :
    Guarded (require condition message) := by
  unfold require
  split
  · exact .ok ()
  · exact .error ⟨message, rfl⟩

lemma requireSome_guarded {α} {x : Option α} {condition : α → Prop} [DecidablePred condition]
    {message} : Guarded (requireSome x condition message) := by
  unfold requireSome
  cases x with
  | none => exact .error ⟨message, rfl⟩
  | some a =>
    dsimp only
    split
    · exact .ok a
    · exact .error ⟨message, rfl⟩

/-- The last event of a type that has been recorded. -/
lemma lastOf_guarded {β} {read : EventPayload → Option β} {es : List Event}
    (recorded : eventsOf read es ≠ []) : Guarded (lastOf read es) := by
  unfold lastOf
  cases h : (eventsOf read es).getLast? with
  | none => exact absurd (List.getLast?_eq_none_iff.mp h) recorded
  | some found => exact .ok found

lemma evaluationRequest_guarded {es res} : Guarded (evaluationRequest es res) := by
  unfold evaluationRequest
  refine .bind requireSome_guarded fun _ _ => ?_
  refine .bind require_guarded fun _ _ => ?_
  refine .bind requireSome_guarded fun _ _ => ?_
  refine .bind requireSome_guarded fun _ _ => ?_
  exact .bind require_guarded fun _ _ => .pure _

/-- The contract is verified before the first experiment. -/
lemma ValidLedger.contract_of_node {es r x n} (v : ValidLedger es) (hr : TacoRank.replay es = .ok r)
    (node : r.state.experiments.get? x = some n) :
    eventsOf EventPayload.contract es ≠ [] ∧ eventsOf EventPayload.baseline es ≠ [] := by
  obtain ⟨k, passed⟩ := v.passed hr
  have baseline : eventsOf EventPayload.baseline es ≠ [] := by
    intro absent
    have unproposed := ((v.incumbent hr).early absent).2.2 x
    rw [node] at unproposed
    cases unproposed
  have late := passed.baseline.mp baseline
  exact ⟨passed.contract.mpr (by omega), baseline⟩

/-- The baseline is verified before the run accepts proposals. -/
lemma ValidLedger.baseline_of_open {es r} (v : ValidLedger es) (hr : TacoRank.replay es = .ok r)
    (status : r.state.status ∈ [RunStatus.ready, .running]) :
    eventsOf EventPayload.baseline es ≠ [] := by
  intro absent
  have early := ((v.incumbent hr).early absent).1
  rw [early] at status
  simp at status

/-! ### Branches -/

section Branches
variable {es : List Event} {r : Reducer} {s : RunState}

lemma validateBaselineVerified_guarded {payload} : Guarded (validateBaselineVerified es payload) := by
  unfold validateBaselineVerified
  refine .bind require_guarded fun _ contract => ?_
  refine .bind require_guarded fun _ _ => ?_
  exact .bind (lastOf_guarded (require_ok.mp contract)) fun _ _ => require_guarded

lemma validatePlanningFailed_guarded {result} : Guarded (validatePlanningFailed es s result) := by
  unfold validatePlanningFailed
  refine .bind require_guarded fun _ _ => ?_
  refine .bind requireSome_guarded fun _ _ => ?_
  refine .bind require_guarded fun _ _ => ?_
  exact .bind require_guarded fun _ _ => require_guarded

/-- The parent of a proposal has a commit to compare with. -/
lemma expectedParentCommit_guarded {spec : ExperimentSpec}
    (baseline : eventsOf EventPayload.baseline es ≠ [])
    (named : spec.parentExperimentId ≠ some "")
    (known : ∀ parentId ∈ spec.parentExperimentId, parentId ≠ "" →
      (s.experiments.get? parentId).isSome ∨ parentId = "baseline") :
    Guarded (expectedParentCommit es s spec) := by
  unfold expectedParentCommit
  cases parent : spec.parentExperimentId with
  | none => exact .bind (lastOf_guarded baseline) fun _ _ => .pure _
  | some parentId =>
    dsimp only
    split
    · exact .bind (lastOf_guarded baseline) fun _ _ => .pure _
    · rename_i other
      have nonempty : parentId ≠ "" := by
        rintro rfl
        exact named parent
      cases node : s.experiments.get? parentId with
      | none =>
        rcases known parentId (by simp [parent]) nonempty with found | same
        · simp [node] at found
        · exact absurd same other
      | some m => exact .bind require_guarded fun _ _ => .pure _

lemma validateExperimentProposed_guarded {spec : ExperimentSpec} (v : ValidLedger es)
    (hr : replay es = .ok r) (named : spec.parentExperimentId ≠ some "") :
    Guarded (validateExperimentProposed es (r.state.aggregate es) spec) := by
  unfold validateExperimentProposed
  refine .bind require_guarded fun _ status => ?_
  have baseline := v.baseline_of_open hr (by simpa using require_ok.mp status)
  refine .bind require_guarded fun _ _ => ?_
  refine .bind require_guarded fun _ _ => ?_
  refine .bind require_guarded fun _ known => ?_
  refine .bind (expectedParentCommit_guarded baseline named (require_ok.mp known)) fun _ _ => ?_
  refine .bind require_guarded fun _ _ => ?_
  exact .bind requireSome_guarded fun _ _ => require_guarded

lemma validatePatchCreated_guarded {candidate} : Guarded (validatePatchCreated es s candidate) := by
  unfold validatePatchCreated
  refine .bind requireSome_guarded fun _ _ => ?_
  refine .bind require_guarded fun _ _ => ?_
  exact .bind requireSome_guarded fun _ _ => require_guarded

lemma cleanReproduction_guarded {x e} : Guarded (cleanReproduction es x e) := by
  unfold cleanReproduction
  split
  · split
    · exact .bind evaluationRequest_guarded fun _ _ => .pure _
    · exact .pure false
  · exact .pure false

lemma validateExecutionStarted_guarded {request} :
    Guarded (validateExecutionStarted es s request) := by
  have check : Guarded (validateSubmissionCheckRequest es request) :=
    .bind requireSome_guarded fun _ _ => .bind requireSome_guarded fun _ _ => .pure ()
  have site : Guarded (validateExecutionSite es s request) := by
    unfold validateExecutionSite
    split
    · refine .bind requireSome_guarded fun _ _ => ?_
      split
      · exact .bind (.anyM fun _ _ => cleanReproduction_guarded) fun _ _ => require_guarded
      · split
        · exact check
        · exact .pure ()
    · exact .bind requireSome_guarded fun _ _ => .pure ()
  exact .bind site fun _ _ => .bind requireSome_guarded fun _ _ => require_guarded

/-- A successful result has a prediction to compare with. -/
lemma validateOutputChecked_guarded {result} : Guarded (validateOutputChecked es s result) := by
  unfold validateOutputChecked
  refine .bind requireSome_guarded fun _ _ => .bind requireSome_guarded fun found success => ?_
  obtain ⟨_, success⟩ := requireSome_ok.mp success
  have artifact := found.2.validateOutcomeArtifacts success
  dsimp only
  split
  · rename_i absent
    simp [absent] at artifact
  · exact .bind require_guarded fun _ _ => require_guarded

lemma validateEvaluationCompleted_guarded {result} (v : ValidLedger es) (hr : replay es = .ok r) :
    Guarded (validateEvaluationCompleted es (r.state.aggregate es) result) := by
  have site : Guarded (validateEvaluationNode (r.state.aggregate es) result) := by
    unfold validateEvaluationNode
    split
    · exact requireSome_guarded
    · exact requireSome_guarded
  have population : ∀ request,
      Guarded (validateEvaluationPopulation (r.state.aggregate es) request result) := by
    intro request
    unfold validateEvaluationPopulation
    split
    · exact .bind require_guarded fun _ _ => require_guarded
    · exact .bind require_guarded fun _ _ => .bind require_guarded fun _ _ => require_guarded
  have seed : ∀ request eventId, Guarded (seedEvidence es result request eventId) := by
    intro request eventId
    refine .bind requireSome_guarded fun found _ => .bind evaluationRequest_guarded fun _ _ => ?_
    exact .bind require_guarded fun _ _ => .pure _
  unfold validateEvaluationCompleted
  refine .bind require_guarded fun _ _ => ?_
  refine .bind site fun n found => ?_
  have node : r.state.experiments.get? result.experimentId = some n := by
    unfold validateEvaluationNode at found
    split at found
    · simpa using (requireSome_ok.mp found).1
    · simpa using (requireSome_ok.mp found).1
  refine .bind evaluationRequest_guarded fun request _ => ?_
  refine .bind require_guarded fun _ _ => ?_
  refine .bind (lastOf_guarded (v.contract_of_node hr node).1) fun _ _ => ?_
  refine .bind require_guarded fun _ _ => ?_
  refine .bind (population request) fun _ _ => ?_
  refine .bind require_guarded fun _ _ => ?_
  exact .bind (.mapM fun _ _ => seed _ _) fun _ _ => require_guarded

lemma validateDecisionEvidence_guarded {n decision} :
    Guarded (validateDecisionEvidence es n decision) := by
  have best : ∀ result, Guarded (validateBestEligible decision result) := by
    intro result
    unfold validateBestEligible
    split
    · exact .bind require_guarded fun _ _ => .bind require_guarded fun _ _ => require_guarded
    · exact .pure ()
  unfold validateDecisionEvidence
  split
  · exact .bind require_guarded fun _ _ => require_guarded
  · refine .bind require_guarded fun _ _ => .bind requireSome_guarded fun _ _ => ?_
    exact .bind require_guarded fun _ _ => best _

lemma validateLessonRecorded_guarded {lessonId candidate} :
    Guarded (validateLessonRecorded es s lessonId candidate) := by
  have research : Guarded (validateResearchLesson es candidate) := by
    refine .bind requireSome_guarded fun _ _ => .bind require_guarded fun _ _ => .bind require_guarded fun _ _ => ?_
    exact .bind require_guarded fun _ _ => require_guarded
  unfold validateLessonRecorded
  refine .bind require_guarded fun _ _ => .bind require_guarded fun _ _ => ?_
  split
  · exact research
  · exact .pure ()

lemma validateFinalSelected_guarded {payload} : Guarded (validateFinalSelected es s payload) := by
  have origin : ∀ e result, Guarded (validateReproductionOrigin es payload e result) := by
    intro e result
    unfold validateReproductionOrigin
    split
    · exact require_guarded
    · exact .bind evaluationRequest_guarded fun _ _ => require_guarded
  unfold validateFinalSelected
  refine .bind require_guarded fun _ _ => .bind require_guarded fun _ _ => .bind require_guarded fun _ _ => ?_
  exact .bind requireSome_guarded fun _ _ => .bind require_guarded fun _ _ => origin _ _

/-- The promotion rule compares fidelities of its table unless it meets the final one. -/
lemma validatePromotion_guarded {n d} (evidence : DecisionEvidence es n d)
    (fidelity : ∀ found, lastForExperiment .evaluationCompleted es d.experimentId = some found →
      found.2.fidelity ≠ .final)
    (listed : ¬ (d.decision = .promote ∧ d.fidelityCompleted ≠ .full ∧
      d.nextFidelity = some .final)) : Guarded (validatePromotion s n d) := by
  have completed : d.fidelityCompleted ≠ .final := by
    cases evidence with
    | smoke smoke => simp [smoke]
    | evaluated _ _ found _ same =>
      rw [same]
      exact fidelity _ found
  have order : ∀ f : Fidelity, f ≠ .final → Guarded (fidelityOrder f) := by
    intro f other
    cases f with
    | final => exact absurd rfl other
    | _ => exact .ok _
  unfold validatePromotion
  split
  · rename_i promote
    refine .bind requireSome_guarded fun next found => ?_
    obtain ⟨found, _⟩ := requireSome_ok.mp found
    split
    · exact .bind require_guarded fun _ _ => require_guarded
    · rename_i partly
      have other : next ≠ .final := by
        rintro rfl
        exact listed ⟨promote, partly, found⟩
      exact .bind (order next other) fun _ _ => .bind (order _ completed) fun _ _ => require_guarded
  · exact .pure ()

end Branches

/-! ### The validator -/

/-- A decision that promotes smoke or proxy evidence to the final fidelity. It is taken while the run
is open, and the evidence it cites is in order. -/
def PromotesToFinal (es : List Event) (p : EventPayload) : Prop :=
  ∃ d r n, p = .experimentDecided d ∧ replay es = .ok r ∧ StatusLegal r.state.status p.type ∧
    r.state.experiments.get? d.experimentId = some n ∧ DecisionEvidence es n d ∧
    d.decision = .promote ∧ d.fidelityCompleted ≠ .full ∧ d.nextFidelity = some .final

/-- What the schema checks beyond the fields that the structures carry: a parent has a name. -/
def EventPayload.SchemaValid (p : EventPayload) : Prop :=
  ∀ spec, p = .experimentProposed spec → spec.parentExperimentId ≠ some ""

/-- The evaluations of a valid ledger are partial or full ones. -/
lemma ValidLedger.evaluation_fidelity {es x found} (v : ValidLedger es)
    (h : lastForExperiment .evaluationCompleted es x = some found) : found.2.fidelity ≠ .final := by
  obtain ⟨pre, post, rfl, read, _⟩ := lastForExperiment_split h
  obtain ⟨r, n, q, _, _, legal⟩ := v.evaluation_inv (EventKind.evaluationCompleted.read_eq read)
  have route := found.2.validateEvaluationRoute
  have population := legal.population
  intro final
  by_cases proxy : q.fidelity = .proxy
  · rw [if_pos proxy] at population
    simp [route.2.2.1 population] at final
  · rw [if_neg proxy] at population
    simp [(route.1 population).1] at final

/-- The branches reject with a `TransitionError`. -/
lemma validateBranch_guarded {es r p} (v : ValidLedger es) (hr : replay es = .ok r)
    (status : StatusLegal r.state.status p.type) (schema : p.SchemaValid)
    (listed : ¬ PromotesToFinal es p) : Guarded (validateBranch es (r.state.aggregate es) p) := by
  cases p with
  | runStarted | manualIntervention => exact .pure ()
  | contractVerified | lessonStatusChanged | submissionChecked => exact require_guarded
  | contextCreated | runStopped => exact .bind require_guarded fun _ _ => require_guarded
  | plannerRecommended => exact .bind requireSome_guarded fun _ _ => require_guarded
  | baselineVerified => exact validateBaselineVerified_guarded
  | planningFailed => exact validatePlanningFailed_guarded
  | experimentProposed spec => exact validateExperimentProposed_guarded v hr (schema spec rfl)
  | patchCreated => exact validatePatchCreated_guarded
  | patchChecked | executionFinished =>
    exact .bind requireSome_guarded fun _ _ => .bind requireSome_guarded fun _ _ => require_guarded
  | executionStarted => exact validateExecutionStarted_guarded
  | adapterFailed =>
    exact .bind requireSome_guarded fun _ _ => .bind require_guarded fun _ _ => require_guarded
  | recoveryDecided =>
    refine .bind requireSome_guarded fun _ _ => .bind require_guarded fun _ _ => ?_
    refine .bind requireSome_guarded fun _ _ => .bind require_guarded fun _ _ => ?_
    exact require_guarded
  | outputChecked => exact validateOutputChecked_guarded
  | evaluationCompleted => exact validateEvaluationCompleted_guarded v hr
  | experimentDecided d =>
    refine .bind requireSome_guarded fun n found => ?_
    obtain ⟨node, _⟩ := requireSome_ok.mp found
    rw [RunState.aggregate_experiments] at node
    refine .bind validateDecisionEvidence_guarded fun _ evidence => ?_
    have evidence := validateDecisionEvidence_ok.mp evidence
    refine validatePromotion_guarded evidence (fun _ => v.evaluation_fidelity) ?_
    rintro ⟨promote, partly, next⟩
    exact listed ⟨d, r, n, rfl, hr, status, node, evidence, promote, partly, next⟩
  | bestUpdated =>
    refine .bind requireSome_guarded fun _ _ => .bind requireSome_guarded fun _ _ => ?_
    refine .bind require_guarded fun _ _ => .bind requireSome_guarded fun _ _ => ?_
    exact require_guarded
  | lessonRecorded => exact validateLessonRecorded_guarded
  | finalSelected => exact validateFinalSelected_guarded

/-- The validator rejects with a `TransitionError`. -/
lemma validateTransition_guarded {es p} (v : ValidLedger es) (schema : p.SchemaValid)
    (listed : ¬ PromotesToFinal es p) : Guarded (validateTransition es p) := by
  obtain ⟨r, hr⟩ := v.replay
  have projected : project es = .ok (r.state.aggregate es) := project_ok.mpr ⟨r, hr, rfl⟩
  have runStatus : Guarded (validateRunStatus r.state.status p.type) :=
    .bind require_guarded fun _ _ => .bind require_guarded fun _ _ => require_guarded
  unfold validateTransition
  cases es with
  | nil => exact require_guarded
  | cons e0 es =>
    rw [projected]
    refine .bind require_guarded fun _ _ => .bind (.ok _) fun s same => ?_
    cases same
    rw [RunState.aggregate_status]
    refine .bind runStatus fun _ status => ?_
    exact validateBranch_guarded v hr (validateRunStatus_ok.mp status) schema listed

/-- A promotion to the final fidelity looks its target up in vain. -/
lemma PromotesToFinal.keyError {es p} (h : PromotesToFinal es p) :
    validateTransition es p = .error (.keyError "final") := by
  obtain ⟨d, r, n, rfl, hr, status, node, evidence, promote, partly, next⟩ := h
  have projected : project es = .ok (r.state.aggregate es) := project_ok.mpr ⟨r, hr, rfl⟩
  have evidence := validateDecisionEvidence_ok.mpr evidence
  have status := validateRunStatus_ok.mpr status
  have branch : validateExperimentDecided es (r.state.aggregate es) d =
      .error (.keyError "final") := by
    simp only [validateExperimentDecided, RunState.aggregate_experiments, node, requireSome,
      if_true, ok_bind, evidence, validatePromotion, promote, next, if_neg partly]
    rfl
  cases es with
  | nil =>
    cases hr
    cases node
  | cons e0 es =>
    have later : EventPayload.type (.experimentDecided d) ≠ .runStarted := by
      simp [EventPayload.type]
    simp only [validateTransition, require, if_pos later, projected, RunState.aggregate_status,
      status, validateBranch, branch, ok_bind]

/-- The validator fails only with `TransitionError`, the reducer does not fail, and every event finds
the experiment and the lesson it refers to. -/
structure FailsCleanly (es : List Event) (p : EventPayload) : Prop where
  rejects : ∀ err, validateTransition es p = .error err → err.IsTransition
  projects : ∃ s, project es = .ok s
  experiments : ∀ pre e post x, es = pre ++ e :: post → e.payload.experiment = some x →
    (∀ spec, e.payload ≠ .experimentProposed spec) → ∃ n, nodeOf pre x = some n
  lessons : ∀ pre e post lessonId status reason, es = pre ++ e :: post →
    e.payload = .lessonStatusChanged lessonId status reason →
    ∃ s lesson, project pre = .ok s ∧ s.lessons.get? lessonId = some lesson

/-- The validator fails cleanly on a schema-valid payload if and only if the payload does not promote
partial evidence to the final fidelity; the reducer never fails. -/
theorem fails_cleanly {es p} (v : ValidLedger es) (schema : p.SchemaValid) :
    FailsCleanly es p ↔ ¬ PromotesToFinal es p := by
  constructor
  · intro clean promotes
    obtain ⟨message, other⟩ := clean.rejects _ promotes.keyError
    cases other
  · intro listed
    refine ⟨validateTransition_guarded v schema listed, v.project, ?_, ?_⟩
    · rintro pre e post x rfl owner old
      obtain ⟨r, hr⟩ := v.front.replay
      obtain ⟨r', step⟩ := v.accepted.step hr
      rw [nodeOf_replay hr]
      have write := (Reducer.step_inv step).nodes x
      generalize r.state.experiments.get? x = n at write ⊢
      generalize r'.state.experiments.get? x = n' at write
      cases write with
      | frame other => exact absurd owner other
      | proposed payload => exact absurd payload (old _)
      | update => exact ⟨_, rfl⟩
    · rintro pre e post lessonId status reason rfl payload
      obtain ⟨r, hr⟩ := v.front.replay
      have later : e.payload.type ≠ .runStarted := by simp [payload, EventPayload.type]
      obtain ⟨_, branch⟩ := v.accepted.branch hr later
      rw [payload] at branch
      obtain ⟨lesson, found⟩ := Option.isSome_iff_exists.mp (require_ok.mp branch)
      exact ⟨_, lesson, project_ok.mpr ⟨r, hr, rfl⟩, found⟩

open Scenario in
/-- A run whose smoke output is verified. -/
def smokeRun : List Event := record (proposal 2 "exp" ++
  [ (some 6, patch "exp" 1 "a"), (some 7, gatePassed "exp" 1 "a"),
    (some 8, .executionStarted { request "exp" 1 "a" 0 with fidelity := .smoke }),
    (some 9, .executionFinished
      { experimentId := "exp", attempt := 1, fidelity := .smoke, patchCommitSha := "a"
        outcome := .success, predictionArtifact := some (prediction 1)
        validateOutcomeArtifacts := fun _ => rfl }),
    (some 10, outputPassed "exp" 1) ])

/-- The promotion of the smoke output to a fidelity. -/
def smokePromotion (next : Fidelity) : EventPayload :=
  .experimentDecided
    { experimentId := "exp", evaluationEventId := none, decision := .promote
      reasonCode := "SMOKE_PASSED", fidelityCompleted := .smoke, parentEligible := false
      bestEligible := false, nextFidelity := some next
      validatePromotion := by simp }

lemma smokePromotion_schema {next} : (smokePromotion next).SchemaValid := by
  intro spec payload
  cases payload

/-- A smoke output promoted to the final fidelity. -/
theorem promotion_key_error : ValidLedger smokeRun ∧ (smokePromotion .final).SchemaValid ∧
    validateTransition smokeRun (smokePromotion .final) = .error (.keyError "final") ∧
    ¬ FailsCleanly smokeRun (smokePromotion .final) := by
  have key : validateTransition smokeRun (smokePromotion .final) = .error (.keyError "final") := by
    decide +kernel
  refine ⟨.of_check (by decide +kernel), smokePromotion_schema, key, ?_⟩
  intro clean
  obtain ⟨message, other⟩ := clean.rejects _ key
  cases other

theorem fails_cleanly_run : FailsCleanly smokeRun (smokePromotion .full) := by
  have v : ValidLedger smokeRun := .of_check (by decide +kernel)
  apply (fails_cleanly v smokePromotion_schema).mpr
  rintro ⟨d, r, n, payload, _, _, _, _, _, _, next⟩
  cases payload
  cases next

end TacoRank
