import TacoRank.Config
import TacoRank.Evaluation.Decisions
import TacoRank.Lib.Dict
import TacoRank.Orchestrator.Ports

/-!
# The live evaluation bridge

`ProtectedEvaluationBridge` of `orchestrator/live.py` turns the requests of the harness into inputs of
the evaluation layer and its results into canonical ones. It finds the execution behind an evaluation
along causation ids, collects the earlier evaluations of a commit as seed evidence, and asks
`Evaluation.decide` for the decision on a result. The scores themselves are computed outside the
development.
-/

namespace TacoRank
open Lib Lib.Result
open Evaluation (EvaluationError DecisionContext)

/-- The result of an `output.checked` event. -/
def EventPayload.output : EventPayload → Option OutputCheckResult
  | .outputChecked result => some result
  | _ => none

/-- The result of an `execution.finished` event. -/
def EventPayload.execution : EventPayload → Option RunResult
  | .executionFinished result => some result
  | _ => none

/-- The request of an `execution.started` event. -/
def EventPayload.request : EventPayload → Option RunRequest
  | .executionStarted request => some request
  | _ => none

/-- The first event with an id and a payload of one type. -/
def causeOf {β : Type} (read : EventPayload → Option β) (events : List Event)
    (eventId : Option EventId) : Option (Event × β) :=
  eventId.bind (eventWithId read events)

/-- `_execution_request`. -/
def executionRequestOf (events : List Event) (outputEventId : Option EventId) :
    Except EvaluationError RunRequest :=
  match causeOf EventPayload.output events outputEventId with
  | none => .error (.contractError "evaluation output evidence is missing")
  | some (output, _) =>
    match causeOf EventPayload.execution events output.causationEventId with
    | none => .error (.contractError "evaluation execution evidence is missing")
    | some (finished, _) =>
      match causeOf EventPayload.request events finished.causationEventId with
      | none => .error (.contractError "evaluation request evidence is missing")
      | some (_, request) => .ok request

/-- `_experiment_spec`. -/
def experimentSpecOf (events : List Event) (experimentId : String) :
    Except EvaluationError ExperimentSpec :=
  match (eventsOf EventPayload.spec events).find? fun found =>
    found.2.experimentId = experimentId with
  | some (_, spec) => .ok spec
  | none => .error (.contractError "evaluation cannot resolve its experiment proposal")

/-- The seed evidence that `evaluate` collects: the earlier evaluations of the commit. -/
def seedEvents (events : List Event) (request : EvaluationRequest) :
    Except EvaluationError (List EventId) := do
  let execution ← executionRequestOf events (some request.outputCheckedEventId)
  if execution.commandId = "clean_reproduce" then
    return []
  else
    let found ← (eventsOf EventPayload.evaluation events).filterM fun found =>
      if found.2.experimentId = request.experimentId ∧ found.2.population = request.population ∧
          found.2.fidelity = request.fidelity ∧ found.2.attempt < request.attempt then do
        let earlier ← executionRequestOf events found.1.causationEventId
        return earlier.patchCommitSha = execution.patchCommitSha
      else
        return false
    return found.map fun found => found.1.eventId

/-- `ProtectedEvaluationBridge`: its configuration, the domain results it has returned, and
`build_research_lesson` with the texts of the proposal and its research frame. -/
structure ProtectedEvaluationBridge where
  config : RunConfig
  domainResults : Dict (String × Nat × Fidelity) Evaluation.EvaluationResult
  buildResearchLesson : List Event → Evaluation.EvaluationResult → List EventId → String →
    ExperimentSpec → ExperimentDecisionKind → Option LessonCandidate

namespace ProtectedEvaluationBridge
variable (bridge : ProtectedEvaluationBridge)

/-- `key`. -/
def key (result : EvaluationResult) : String × Nat × Fidelity :=
  (result.experimentId, result.attempt, result.fidelity)

/-- `evaluation_event`: the last evaluation with the key of a result. -/
def evaluationEvent (events : List Event) (result : EvaluationResult) : Option Event :=
  Log.lastSome (fun event => match event.payload with
    | .evaluationCompleted found => if key found = key result then some event else none
    | _ => none) events

/-- The context that the bridge hands to `decide`. -/
def decisionContext (domain : Evaluation.EvaluationResult) (evaluationEvent : Event) :
    DecisionContext :=
  { evaluationEventId := evaluationEvent.eventId
    supportingEventIds := [evaluationEvent.causationEventId, some evaluationEvent.eventId]
    seedEvidenceEventIds := domain.seedEvidenceEventIds
    confirmationsRemaining := max 0
      ((bridge.config.maxConfirmationAttempts : Int) - domain.seedEvidenceEventIds.length) }

/-- The canonical form of the decision on a domain result. -/
def decision (domain : Evaluation.EvaluationResult) (evaluationEvent : Event) :
    Except EvaluationError ExperimentDecision := do
  let decision ← Evaluation.decide domain (bridge.decisionContext domain evaluationEvent)
  decision.toCanonical

/-- `ProtectedEvaluationBridge.decide`. -/
def decide (events : List Event) (result : EvaluationResult) :
    Except EvaluationError ExperimentDecision :=
  match bridge.domainResults.get? (key result) with
  | none => .error (.contractError "decision requires the exact protected evaluation result")
  | some domain =>
    match evaluationEvent events result with
    | none => .error (.contractError "decision requires a persisted evaluation event")
    | some evaluationEvent => do
      let canonical ← bridge.decision domain evaluationEvent
      let spec ← experimentSpecOf events result.experimentId
      let execution ← executionRequestOf events evaluationEvent.causationEventId
      match bridge.buildResearchLesson events domain
        (domain.seedEvidenceEventIds ++ [evaluationEvent.eventId]) execution.patchCommitSha spec
        canonical.decision with
      | none => return canonical
      | some lesson => return { canonical with lessonCandidate := some lesson }

/-- The bridge has returned a result: it keeps the domain result behind it. The reference to the
diagnostics artifact is added to the canonical result afterwards. -/
structure Returned (domain : Evaluation.EvaluationResult) (result : EvaluationResult) : Prop where
  kept : bridge.domainResults.get? (key result) = some domain
  canonical : ∃ c details, domain.toCanonical = .ok c ∧
    result.toEvaluationFields = { c.toEvaluationFields with details }

end ProtectedEvaluationBridge
end TacoRank
