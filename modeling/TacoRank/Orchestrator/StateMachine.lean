import TacoRank.Memory.Projections
import TacoRank.Lib.Log
import Mathlib.Data.List.Dedup

/-!
# Legal transitions

Port of `orchestrator/state_machine.py`: `validateTransition` rejects a payload that cannot legally
follow the existing event prefix. Every `elif` branch of the Python function is one definition
`validate*`, and its `_require` messages are kept.

`_require(x is not None and P(x), message)` is `requireSome x P message`, which also hands on `x`.
The event type arguments of `_events_of` and `_last_for_experiment` are readers of payloads, so the
payloads they find come with their types.
-/

namespace TacoRank
open Lib.Log (lastSome)

/-- `_require`. -/
def require (condition : Prop) [Decidable condition] (message : String) : Except PyError Unit :=
  if condition then .ok () else .error (.transitionError message)

/-- `_require(x is not None and condition, message)`, returning `x`. -/
def requireSome {α : Type} (x : Option α) (condition : α → Prop) [DecidablePred condition]
    (message : String) : Except PyError α :=
  match x with
  | some a => if condition a then .ok a else .error (.transitionError message)
  | none => .error (.transitionError message)

/-- The payloads of one event type that belong to an experiment. -/
structure EventKind (β : Type) where
  read : EventPayload → Option β
  write : β → EventPayload
  experimentId : β → String
  read_eq {payload data} : read payload = some data → payload = write data
  owned data : (write data).experiment = some (experimentId data)

namespace EventKind

/-- `EventType.EXPERIMENT_PROPOSED`. -/
def experimentProposed : EventKind ExperimentSpec where
  read | .experimentProposed spec => some spec | _ => none
  write := .experimentProposed
  experimentId spec := spec.experimentId
  read_eq {payload _} h := by cases payload <;> cases h; rfl
  owned _ := rfl

/-- `EventType.PATCH_CREATED`. -/
def patchCreated : EventKind PatchCandidate where
  read | .patchCreated candidate => some candidate | _ => none
  write := .patchCreated
  experimentId candidate := candidate.experimentId
  read_eq {payload _} h := by cases payload <;> cases h; rfl
  owned _ := rfl

/-- `EventType.PATCH_CHECKED`. -/
def patchChecked : EventKind PatchCheckResult where
  read | .patchChecked result => some result | _ => none
  write := .patchChecked
  experimentId result := result.experimentId
  read_eq {payload _} h := by cases payload <;> cases h; rfl
  owned _ := rfl

/-- `EventType.EXECUTION_STARTED`. -/
def executionStarted : EventKind RunRequest where
  read | .executionStarted request => some request | _ => none
  write := .executionStarted
  experimentId request := request.experimentId
  read_eq {payload _} h := by cases payload <;> cases h; rfl
  owned _ := rfl

/-- `EventType.EXECUTION_FINISHED`. -/
def executionFinished : EventKind RunResult where
  read | .executionFinished result => some result | _ => none
  write := .executionFinished
  experimentId result := result.experimentId
  read_eq {payload _} h := by cases payload <;> cases h; rfl
  owned _ := rfl

/-- `EventType.RECOVERY_DECIDED`. -/
def recoveryDecided : EventKind RecoveryDecision where
  read | .recoveryDecided decision => some decision | _ => none
  write := .recoveryDecided
  experimentId decision := decision.experimentId
  read_eq {payload _} h := by cases payload <;> cases h; rfl
  owned _ := rfl

/-- `EventType.OUTPUT_CHECKED`. -/
def outputChecked : EventKind OutputCheckResult where
  read | .outputChecked result => some result | _ => none
  write := .outputChecked
  experimentId result := result.experimentId
  read_eq {payload _} h := by cases payload <;> cases h; rfl
  owned _ := rfl

/-- `EventType.EVALUATION_COMPLETED`. -/
def evaluationCompleted : EventKind EvaluationResult where
  read | .evaluationCompleted result => some result | _ => none
  write := .evaluationCompleted
  experimentId result := result.experimentId
  read_eq {payload _} h := by cases payload <;> cases h; rfl
  owned _ := rfl

/-- `EventType.EXPERIMENT_DECIDED`. -/
def experimentDecided : EventKind ExperimentDecision where
  read | .experimentDecided decision => some decision | _ => none
  write := .experimentDecided
  experimentId decision := decision.experimentId
  read_eq {payload _} h := by cases payload <;> cases h; rfl
  owned _ := rfl

/-- An event of this type that belongs to an experiment, with its payload. -/
def ofExperiment {β : Type} (kind : EventKind β) (experimentId : String) (event : Event) :
    Option (Event × β) :=
  match kind.read event.payload with
  | some data => if kind.experimentId data = experimentId then some (event, data) else none
  | none => none

end EventKind

/-- The payload of a `contract.verified` event. -/
def EventPayload.contract : EventPayload → Option ContractVerified
  | .contractVerified payload => some payload
  | _ => none

/-- The payload of a `baseline.verified` event. -/
def EventPayload.baseline : EventPayload → Option BaselineVerified
  | .baselineVerified payload => some payload
  | _ => none

/-- The payload of a `context.created` event. -/
def EventPayload.context : EventPayload → Option ContextDocument
  | .contextCreated context => some context
  | _ => none

/-- The spec of an `experiment.proposed` event. -/
def EventPayload.spec : EventPayload → Option ExperimentSpec
  | .experimentProposed spec => some spec
  | _ => none

/-- The payload of an `evaluation.completed` event. -/
def EventPayload.evaluation : EventPayload → Option EvaluationResult
  | .evaluationCompleted result => some result
  | _ => none

/-- The payload of an `experiment.decided` event. -/
def EventPayload.decision : EventPayload → Option ExperimentDecision
  | .experimentDecided decision => some decision
  | _ => none

/-- `_events_of`. -/
def eventsOf {β : Type} (read : EventPayload → Option β) (events : List Event) :
    List (Event × β) :=
  events.filterMap fun event => (read event.payload).map (event, ·)

/-- `_events_of(events, event_type)[-1]`. -/
def lastOf {β : Type} (read : EventPayload → Option β) (events : List Event) :
    Except PyError (Event × β) :=
  match (eventsOf read events).getLast? with
  | some found => .ok found
  | none => .error (.indexError "list index out of range")

/-- `_last_for_experiment`. -/
def lastForExperiment {β : Type} (kind : EventKind β) (events : List Event)
    (experimentId : String) : Option (Event × β) :=
  lastSome (kind.ofExperiment experimentId) events

/-- `next((event for event in events if event.event_id == event_id and ...), None)`. -/
def eventWithId {β : Type} (read : EventPayload → Option β) (events : List Event)
    (eventId : EventId) : Option (Event × β) :=
  (eventsOf read events).find? fun found => found.1.eventId = eventId

/-- `events[: events.index(event)]`. -/
def eventsBefore (events : List Event) (event : Event) : List Event :=
  events.takeWhile (· ≠ event)

/-- `_authorized_no_op_reimplementation`. -/
def authorizedNoOpReimplementation (events : List Event) (state : RunState)
    (spec : ExperimentSpec) : Bool :=
  match state.experiments.values.filter (·.duplicateKey = spec.duplicateKey) with
  | [node] =>
    match lastForExperiment .recoveryDecided events node.experimentId,
        lastForExperiment .evaluationCompleted events node.experimentId with
    | some (_, recovery), some (_, evaluation) =>
      node.status = .noOp ∧
      recovery.action = .returnToPlanner ∧
      recovery.reasonCode ∈ ["NO_OP_RECOVERY_EXHAUSTED", "NO_OP_REPAIR_WORKER_EXHAUSTED"] ∧
      evaluation.trust.verdict = .noOp ∧
      spec.parentExperimentId = node.parentExperimentId ∧
      spec.family = node.family
    | _, _ => false
  | _ => false

/-- `_authorized_failed_attempt_reexploration`. -/
def authorizedFailedAttemptReexploration (state : RunState) (spec : ExperimentSpec) : Bool :=
  let prior := state.experiments.values.filter (·.duplicateKey = spec.duplicateKey)
  prior ≠ [] ∧ prior.length < 3 ∧ prior.all fun node => node.status ∈ [.invalid, .noOp]

/-- The experiment whose failure an event reports, if it is recoverable. -/
def EventPayload.recoverableFailure : EventPayload → Option String
  | .patchChecked result => if result.accepted then none else some result.experimentId
  | .executionFinished result => if result.outcome = .success then none else some result.experimentId
  | .adapterFailed result => some result.experimentId
  | .outputChecked result => if result.accepted then none else some result.experimentId
  | .evaluationCompleted result =>
    if result.trust.verdict = .noOp then some result.experimentId else none
  | _ => none

/-- `_latest_recoverable_failure`. -/
def latestRecoverableFailure (events : List Event) (experimentId : String) : Option Event :=
  lastSome (fun event =>
    if event.payload.recoverableFailure = some experimentId then some event else none) events

/-- `_retrying_initial_coder`. -/
def retryingInitialCoder (events : List Event) (experimentId : String) : Bool :=
  match lastForExperiment .recoveryDecided events experimentId,
      latestRecoverableFailure events experimentId with
  | some (_, recovery), some failure =>
    recovery.action = .retrySameCommit ∧ failure.payload.failureStage = some .coding
  | _, _ => false

/-- `_evaluation_request`. -/
def evaluationRequest (events : List Event) (result : EvaluationResult) :
    Except PyError RunRequest := do
  let (_, output) ← requireSome (lastForExperiment .outputChecked events result.experimentId)
    (fun found => found.2.accepted = true) "evaluation requires accepted output"
  require (output.attempt = result.attempt) "evaluation attempt does not match output"
  let (_, finished) ← requireSome
    (lastForExperiment .executionFinished events result.experimentId)
    (fun found => found.2.outcome = .success) "evaluation requires a successful execution"
  let (_, request) ← requireSome
    (lastForExperiment .executionStarted events result.experimentId)
    (fun _ => True) "evaluation has no execution request"
  require
    (finished.attempt = request.attempt ∧ request.attempt = result.attempt ∧
      finished.fidelity = request.fidelity ∧ finished.patchCommitSha = request.patchCommitSha)
    "evaluation source execution identity mismatch"
  return request

/-- The `CONTRACT_VERIFIED` branch. -/
def validateContractVerified (events : List Event) : Except PyError Unit :=
  require (events.map (·.payload.type) = [.runStarted])
    "contract.verified must immediately follow run.started"

/-- The `BASELINE_VERIFIED` branch. -/
def validateBaselineVerified (events : List Event) (payload : BaselineVerified) :
    Except PyError Unit := do
  require (eventsOf EventPayload.contract events ≠ []) "baseline requires a verified contract"
  require (eventsOf EventPayload.baseline events = []) "baseline may be verified only once"
  let (_, contract) ← lastOf EventPayload.contract events
  require
    (payload.evaluation.contractSha256 = contract.contractSha256 ∧
      payload.evaluation.evaluatorSha256 = contract.evaluatorSha256)
    "baseline evaluation hashes do not match the frozen contract"

/-- The `CONTEXT_CREATED` branch. -/
def validateContextCreated (events : List Event) (state : RunState) : Except PyError Unit := do
  require (eventsOf EventPayload.baseline events ≠ [])
    "context cannot be created before baseline parity"
  require (state.status ∉ [.stopped, .finalizing]) "run is stopped"

/-- The `PLANNER_RECOMMENDED` branch. -/
def validatePlannerRecommended (events : List Event) : Except PyError Unit := do
  let (_, context) ← requireSome (eventsOf EventPayload.context events).getLast?
    (fun _ => True) "planner recommendation requires context"
  require (context.role = .planner) "latest context must be planner"

/-- The `PLANNING_FAILED` branch. -/
def validatePlanningFailed (events : List Event) (state : RunState)
    (result : PlanningFailureResult) : Except PyError Unit := do
  require (state.status ∈ [.ready, .running] ∧ state.phase = .context .planner)
    "planning failure requires an active planner checkpoint"
  let (contextEvent, context) ← requireSome (eventsOf EventPayload.context events).getLast?
    (fun _ => True) "planning failure requires context"
  require (context.role = .planner ∧ context.contextId = result.contextId)
    "planning failure context mismatch"
  require (events.getLast?.map Event.eventId = some contextEvent.eventId)
    "planning failure must immediately follow its planner context"
  require (state.activeExperimentId = none)
    "planning failure cannot be attached to an active experiment"

/-- `expected_parent_commit` of a proposal. -/
def expectedParentCommit (events : List Event) (state : RunState) (spec : ExperimentSpec) :
    Except PyError (Option String) :=
  match spec.parentExperimentId with
  | none => do
    let (_, baseline) ← lastOf EventPayload.baseline events
    return some baseline.commitSha
  | some parentId =>
    if parentId = "baseline" then do
      let (_, baseline) ← lastOf EventPayload.baseline events
      return some baseline.commitSha
    else
      match state.experiments.get? parentId with
      | none => .error (.keyError parentId)
      | some parent => do
        require (parent.latestCommitSha ≠ none) "selected parent experiment has no patch commit"
        return parent.latestCommitSha

/-- The `EXPERIMENT_PROPOSED` branch. -/
def validateExperimentProposed (events : List Event) (state : RunState) (spec : ExperimentSpec) :
    Except PyError Unit := do
  require (state.status ∈ [.ready, .running]) "run is not accepting proposals"
  require (state.experiments.get? spec.experimentId = none) "duplicate experiment_id"
  require
    (¬ (state.experiments.values.any fun node => node.duplicateKey = spec.duplicateKey) ∨
      authorizedNoOpReimplementation events state spec ∨
      authorizedFailedAttemptReexploration state spec)
    "duplicate experiment proposal"
  require
    (∀ parentId ∈ spec.parentExperimentId, parentId ≠ "" →
      (state.experiments.get? parentId).isSome ∨ parentId = "baseline")
    "unknown parent experiment"
  let expected ← expectedParentCommit events state spec
  require (some spec.parentCommitSha = expected)
    "parent_commit_sha does not match the selected parent"
  let (_, context) ← requireSome (eventsOf EventPayload.context events).getLast?
    (fun _ => True) "proposal requires planner context"
  require (context.role = .planner ∧ context.contextId = spec.contextId)
    "proposal context mismatch"

/-- The `PATCH_CREATED` branch. -/
def validatePatchCreated (events : List Event) (state : RunState) (candidate : PatchCandidate) :
    Except PyError Unit := do
  let node ← requireSome (state.experiments.get? candidate.experimentId)
    (fun _ => True) "patch has unknown experiment"
  require
    (node.status ∈ [.proposed, .recovering] ∨
      (node.status = .readyToRun ∧ retryingInitialCoder events candidate.experimentId))
    "patch is not legal in the current experiment state"
  let _ ← requireSome (lastForExperiment .experimentProposed events candidate.experimentId)
    (fun proposed => proposed.1.eventId = candidate.experimentSpecEventId)
    "patch references the wrong experiment proposal"
  require
    ((eventsOf EventPayload.context events).any fun found =>
      found.2.contextId = candidate.contextId ∧ found.2.role ∈ [.coder, .recovery])
    "patch context does not exist"

/-- The `PATCH_CHECKED` branch. -/
def validatePatchChecked (events : List Event) (state : RunState) (result : PatchCheckResult) :
    Except PyError Unit := do
  let _ ← requireSome (state.experiments.get? result.experimentId)
    (fun node => node.status = .patchReady) "no patch is ready"
  let (_, patch) ← requireSome (lastForExperiment .patchCreated events result.experimentId)
    (fun _ => True) "patch check requires patch.created"
  require (patch.patchCommitSha = result.patchCommitSha ∧ patch.diffSha256 = result.diffSha256)
    "patch check identity mismatch"

/-- Whether an evaluation is trusted clean evidence on the public population at full fidelity. -/
def EvaluationResult.trustedPublicFull (result : EvaluationResult) : Bool :=
  result.population = .publicValidation ∧ result.fidelity = .full ∧
    result.trust.verdict = .accepted ∧ result.trust.integrity = .clean

/-- Whether an event is a trusted clean reproduction of the experiment. -/
def cleanReproduction (events : List Event) (experimentId : String) (event : Event) :
    Except PyError Bool :=
  match event.payload with
  | .evaluationCompleted result =>
    if result.experimentId = experimentId ∧ result.trustedPublicFull = true then do
      let request ← evaluationRequest (eventsBefore events event) result
      return request.commandId = "clean_reproduce"
    else
      return false
  | _ => return false

/-- The accepted `output.checked` payloads of an experiment. -/
def acceptedOutputs (events : List Event) (experimentId : String) : List (Event × OutputCheckResult) :=
  events.filterMap fun event =>
    (EventKind.outputChecked.ofExperiment experimentId event).filter (·.2.accepted)

/-- The extra condition on `submission_check` requests after the stop. -/
def validateSubmissionCheckRequest (events : List Event) (request : RunRequest) :
    Except PyError Unit := do
  let (_, output) ← requireSome (acceptedOutputs events request.experimentId).getLast?
    (fun _ => True) "submission check requires accepted final output"
  let finalRequest := lastSome (fun event =>
    (EventKind.executionStarted.ofExperiment request.experimentId event).filter
      (·.2.attempt = output.attempt)) events
  let _ ← requireSome finalRequest (fun found => found.2.commandId = "candidate_final_infer")
    "submission check requires accepted final-inference output"

/-- The post-stop part of the `EXECUTION_STARTED` branch. -/
def validatePostStopExecution (events : List Event) (state : RunState) (request : RunRequest) :
    Except PyError Unit := do
  let _ ← requireSome (state.experiments.get? request.experimentId)
    (fun _ =>
      some request.experimentId = state.bestExperimentId ∧
      some request.patchCommitSha = state.bestCommitSha ∧ request.fidelity = .full ∧
      request.commandId ∈ ["clean_reproduce", "candidate_final_infer", "submission_check"])
    "post-stop execution must target the selected sealed commit"
  if request.commandId = "candidate_final_infer" then
    let reproduced ← events.anyM (cleanReproduction events request.experimentId)
    require (reproduced = true) "final inference requires trusted clean reproduction"
  else if request.commandId = "submission_check" then
    validateSubmissionCheckRequest events request
  else
    return ()

/-- The part of the `EXECUTION_STARTED` branch that depends on the run status. -/
def validateExecutionSite (events : List Event) (state : RunState) (request : RunRequest) :
    Except PyError Unit :=
  if state.status = .stopped then
    validatePostStopExecution events state request
  else do
    let _ ← requireSome (state.experiments.get? request.experimentId)
      (fun node => node.status = .readyToRun) "patch is not runnable"

/-- The `EXECUTION_STARTED` branch. -/
def validateExecutionStarted (events : List Event) (state : RunState) (request : RunRequest) :
    Except PyError Unit := do
  validateExecutionSite events state request
  let (_, check) ← requireSome (lastForExperiment .patchChecked events request.experimentId)
    (fun found => found.2.accepted = true) "execution requires Gate A receipt"
  require
    (check.receiptId = some request.patchReceiptId ∧
      check.patchCommitSha = request.patchCommitSha)
    "execution request does not match receipt"

/-- The `EXECUTION_FINISHED` branch. -/
def validateExecutionFinished (events : List Event) (state : RunState) (result : RunResult) :
    Except PyError Unit := do
  let _ ← requireSome (state.experiments.get? result.experimentId)
    (fun node => node.status = .running) "no execution is running"
  let (_, request) ← requireSome (lastForExperiment .executionStarted events result.experimentId)
    (fun _ => True) "execution result has no request"
  require
    ((request.attempt, request.fidelity, request.patchCommitSha) =
      (result.attempt, result.fidelity, result.patchCommitSha))
    "execution result identity mismatch"

/-- `expected_states` of the `ADAPTER_FAILED` branch. -/
def FailureStage.expectedStates : FailureStage → List ExperimentStatus
  | .coding => [.proposed, .recovering]
  | .patchGate => [.patchReady]
  | .execution => [.running]
  | .outputGate => [.outputReady]
  | .evaluation => [.outputVerified, .evaluated]
  | .recovery => [.recovering]

/-- `allowed_states` of the `ADAPTER_FAILED` branch. -/
def allowedFailureStates (events : List Event) (result : AdapterFailureResult) :
    List ExperimentStatus :=
  if result.failureStage = .coding ∧ retryingInitialCoder events result.experimentId then
    result.failureStage.expectedStates ++ [.readyToRun]
  else
    result.failureStage.expectedStates

/-- The `ADAPTER_FAILED` branch. -/
def validateAdapterFailed (events : List Event) (state : RunState) (result : AdapterFailureResult) :
    Except PyError Unit := do
  let node ← requireSome (state.experiments.get? result.experimentId)
    (fun _ => True) "adapter failure has unknown experiment"
  require
    (node.status ∈ [.proposed, .patchReady, .readyToRun, .running, .outputReady, .outputVerified,
      .evaluated, .recovering])
    "adapter failure is not legal in the current experiment state"
  require (node.status ∈ allowedFailureStates events result)
    "adapter failure stage does not match experiment state"

/-- Whether an action consumes a repair slot (`consumes_repair`). -/
def RecoveryAction.consumesRepair : RecoveryAction → Bool
  | .traeRepair | .restartFromTrustedParent => true
  | _ => false

/-- `recovery.policy.MAX_SAME_COMMIT_RETRIES`. -/
def maxSameCommitRetries : Nat := 2

/-- The `RECOVERY_DECIDED` branch. -/
def validateRecoveryDecided (events : List Event) (state : RunState) (decision : RecoveryDecision) :
    Except PyError Unit := do
  let node ← requireSome (state.experiments.get? decision.experimentId)
    (fun node => node.status = .recovering) "nothing is recoverable"
  require
    (decision.repairAttempt =
      min (max 1 (node.repairCount + 1)) (max 1 state.maxRepairsPerExperiment))
    "repair attempt is inconsistent; no next available budget slot"
  let _ ← requireSome (latestRecoverableFailure events decision.experimentId)
    (fun failure => decision.failureEventId = failure.eventId)
    "recovery decision must reference the latest failure"
  require
    ((decision.remainingRepairBudget : Int) =
      (state.maxRepairsPerExperiment : Int) - node.repairCount -
        decision.action.consumesRepair.toNat)
    "remaining repair budget is inconsistent"
  require
    (decision.action = .retrySameCommit → node.sameCommitRetryCount < maxSameCommitRetries)
    "same-commit retries have already been used"

/-- The `OUTPUT_CHECKED` branch. -/
def validateOutputChecked (events : List Event) (state : RunState) (result : OutputCheckResult) :
    Except PyError Unit := do
  let _ ← requireSome (state.experiments.get? result.experimentId)
    (fun node => node.status = .outputReady) "no output is ready"
  let (_, finished) ← requireSome
    (lastForExperiment .executionFinished events result.experimentId)
    (fun found => found.2.outcome = .success) "Gate B requires a successful execution"
  match finished.predictionArtifact with
  | none => throw (.attributeError "'NoneType' object has no attribute 'artifact_id'")
  | some artifact =>
    require (artifact.artifactId = result.predictionArtifact.artifactId)
      "Gate B checked a different prediction"
    require (finished.attempt = result.attempt) "Gate B attempt does not match execution"

/-- The node condition of the `EVALUATION_COMPLETED` branch. -/
def validateEvaluationNode (state : RunState) (result : EvaluationResult) :
    Except PyError ExperimentNode :=
  if result.population = .hiddenFinal then
    requireSome (state.experiments.get? result.experimentId)
      (fun node =>
        some result.experimentId = state.bestExperimentId ∧
        node.status ∈ [.accepted, .outputVerified])
      "hidden-final evaluation requires the selected development best"
  else
    requireSome (state.experiments.get? result.experimentId)
      (fun node => node.status = .outputVerified) "evaluation requires Gate B"

/-- The population condition of the `EVALUATION_COMPLETED` branch. -/
def validateEvaluationPopulation (state : RunState) (request : RunRequest)
    (result : EvaluationResult) : Except PyError Unit :=
  if result.population = .hiddenFinal then do
    require (state.status = .stopped) "hidden-final is available only after stop"
    require (result.fidelity = .full) "hidden-final requires full fidelity"
  else do
    require
      (state.status = .stopped →
        request.commandId = "clean_reproduce" ∧ result.population = .publicValidation ∧
        result.fidelity = .full)
      "post-stop evaluation is restricted to clean public reproduction"
    require (request.fidelity ≠ .smoke) "smoke output cannot be evaluated"
    require
      (result.population =
        if request.fidelity = .proxy then .internalProxy else .publicValidation)
      "evaluation population does not match requested fidelity"

/-- `expected_query_index`. -/
def expectedQueryIndex (state : RunState) (result : EvaluationResult) : Option Nat :=
  if result.population = .publicValidation then some (state.publicValidationQueries + 1) else none

/-- One cited seed evaluation of the `EVALUATION_COMPLETED` branch. -/
def seedEvidence (events : List Event) (result : EvaluationResult) (request : RunRequest)
    (eventId : EventId) : Except PyError EvaluationResult := do
  let (seedEvent, seedResult) ← requireSome (eventWithId EventPayload.evaluation events eventId)
    (fun _ => True) "evaluation cites unknown seed evidence"
  let seedRequest ← evaluationRequest (eventsBefore events seedEvent) seedResult
  require
    (seedResult.experimentId = result.experimentId ∧
      seedResult.population = result.population ∧
      seedResult.fidelity = result.fidelity ∧
      seedResult.evaluatorSha256 = result.evaluatorSha256 ∧
      seedResult.contractSha256 = result.contractSha256 ∧
      seedResult.attempt < result.attempt ∧
      seedRequest.patchCommitSha = request.patchCommitSha)
    "evaluation seed evidence is incompatible"
  return seedResult

/-- The `EVALUATION_COMPLETED` branch. -/
def validateEvaluationCompleted (events : List Event) (state : RunState)
    (result : EvaluationResult) : Except PyError Unit := do
  require (result.experimentId ≠ "baseline")
    "baseline evaluation is recorded only inside baseline.verified"
  let _ ← validateEvaluationNode state result
  let request ← evaluationRequest events result
  require
    ((result.attempt, result.fidelity, result.seed) =
      (request.attempt, request.fidelity, request.seed))
    "evaluation result does not match its execution request"
  let (_, contract) ← lastOf EventPayload.contract events
  require
    (result.contractSha256 = contract.contractSha256 ∧
      result.evaluatorSha256 = contract.evaluatorSha256)
    "evaluation hashes do not match the frozen contract"
  validateEvaluationPopulation state request result
  require (result.publicQueryIndex = expectedQueryIndex state result)
    "evaluation public query index is not the next frozen index"
  let seedResults ← result.seedEvidenceEventIds.mapM (seedEvidence events result request)
  require
    (((result.seed :: seedResults.map fun item => item.seed).dedup).length =
      seedResults.length + 1)
    "evaluation seed evidence must use distinct seeds"

/-- The best-eligibility conditions of the `EXPERIMENT_DECIDED` branch. -/
def validateBestEligible (decision : ExperimentDecision) (result : EvaluationResult) :
    Except PyError Unit :=
  if decision.bestEligible then do
    require
      (result.fidelity = .full ∧ result.population = .publicValidation ∧
        result.trust.verdict = .accepted)
      "best eligibility requires trusted public full evaluation"
    require (result.trust.stability = .confirmed ∧ result.trust.integrity = .clean)
      "best eligibility requires confirmed clean evaluation"
    require (decision.decision = .accept) "only an accepted experiment can be best eligible"
  else
    return ()

/-- The evidence conditions of the `EXPERIMENT_DECIDED` branch. -/
def validateDecisionEvidence (events : List Event) (node : ExperimentNode)
    (decision : ExperimentDecision) : Except PyError Unit :=
  if decision.fidelityCompleted = .smoke then do
    require (node.status = .outputVerified) "smoke decision requires Gate B"
    require (decision.evaluationEventId = none) "smoke decision cannot cite evaluation"
  else do
    require (node.status = .evaluated) "decision requires evaluation"
    let (_, result) ← requireSome
      (lastForExperiment .evaluationCompleted events decision.experimentId)
      (fun found => some found.1.eventId = decision.evaluationEventId)
      "decision cites the wrong evaluation"
    require (decision.fidelityCompleted = result.fidelity)
      "decision fidelity does not match evaluation"
    validateBestEligible decision result

/-- `fidelity_order[fidelity]`. -/
def fidelityOrder (fidelity : Fidelity) : Except PyError Nat :=
  match fidelity.order with
  | some order => .ok order
  | none => .error (.keyError "final")

/-- The promotion conditions of the `EXPERIMENT_DECIDED` branch. -/
def validatePromotion (state : RunState) (node : ExperimentNode) (decision : ExperimentDecision) :
    Except PyError Unit :=
  if decision.decision = .promote then do
    let next ← requireSome decision.nextFidelity (fun _ => True) "promotion requires next fidelity"
    if decision.fidelityCompleted = .full then
      require (next = .full) "full can only promote to confirmation"
      require (node.confirmationCount < state.maxConfirmationAttempts)
        "confirmation budget exceeded"
    else
      let nextOrder ← fidelityOrder next
      let completedOrder ← fidelityOrder decision.fidelityCompleted
      require (completedOrder < nextOrder) "promotion must move to a higher fidelity"
  else
    return ()

/-- The `EXPERIMENT_DECIDED` branch. -/
def validateExperimentDecided (events : List Event) (state : RunState)
    (decision : ExperimentDecision) : Except PyError Unit := do
  let node ← requireSome (state.experiments.get? decision.experimentId)
    (fun _ => True) "decision has unknown experiment"
  validateDecisionEvidence events node decision
  validatePromotion state node decision

/-- The `BEST_UPDATED` branch. -/
def validateBestUpdated (events : List Event) (state : RunState) (payload : BestUpdated) :
    Except PyError Unit := do
  let node ← requireSome (state.experiments.get? payload.experimentId)
    (fun node => node.status = .accepted ∧ node.bestEligible = true)
    "experiment is not an accepted best-eligible candidate"
  let _ ← requireSome (eventWithId EventPayload.decision events payload.decisionEventId)
    (fun found =>
      some found.1.eventId = node.terminalEventId ∧
      found.2.experimentId = payload.experimentId ∧ found.2.decision = .accept ∧
      found.2.bestEligible = true)
    "invalid decision reference"
  require (some payload.commitSha = node.latestCommitSha)
    "best commit does not match the accepted patch"
  let _ ← requireSome node.metricSet
    (fun metricSet =>
      metricSet.primaryMetricName = payload.primaryMetricName ∧
      metricSet.primaryScore = payload.primaryScore)
    "best score does not match evaluation"
  require (∀ best ∈ state.bestPrimaryScore, best < payload.primaryScore)
    "best update must strictly improve the incumbent"

/-- `eligible` of the `LESSON_RECORDED` branch. -/
def EvaluationResult.lessonEligible (evidence : EvaluationResult) : Bool :=
  evidence.population ≠ .hiddenFinal ∧ evidence.fidelity ≠ .final ∧
  evidence.trust.verdict ∉ [.noOp, .inconclusive] ∧
  (evidence.trust.verdict ≠ .negative ∨
    (evidence.fidelity = .full ∧ evidence.population = .publicValidation)) ∧
  (evidence.trust.verdict ≠ .accepted ∨ evidence.trust.stability = .confirmed)

/-- `expected_category` of the `LESSON_RECORDED` branch. -/
def EvaluationResult.lessonCategory (evidence : EvaluationResult) : LessonCategory :=
  if evidence.trust.verdict = .suspicious then .integrityWarning else .researchResult

/-- The conditions on a research lesson of the `LESSON_RECORDED` branch. -/
def validateResearchLesson (events : List Event) (candidate : LessonCandidate) :
    Except PyError Unit := do
  let sources := (eventsOf EventPayload.evaluation events).filter
    fun found => found.1.eventId ∈ candidate.sourceEventIds
  let (_, evidence) ← requireSome sources.getLast? (fun _ => True)
    "research lesson requires evaluation evidence"
  require (evidence.lessonEligible = true) "research lesson is not supported by eligible evidence"
  require (candidate.category = evidence.lessonCategory)
    "research lesson category does not match evaluation trust"
  require (∀ eventId ∈ evidence.seedEvidenceEventIds, eventId ∈ candidate.sourceEventIds)
    "research lesson omits seed evidence"
  require (candidate.sourceCommitShas ≠ []) "research lesson requires candidate commit evidence"

/-- The `LESSON_RECORDED` branch. -/
def validateLessonRecorded (events : List Event) (state : RunState) (lessonId : String)
    (candidate : LessonCandidate) : Except PyError Unit := do
  require (state.lessons.get? lessonId = none) "duplicate lesson_id"
  require (∀ eventId ∈ candidate.sourceEventIds, eventId ∈ events.map Event.eventId)
    "lesson cites unknown evidence"
  if candidate.origin = .research then
    validateResearchLesson events candidate
  else
    return ()

/-- The `RUN_STOPPED` branch. -/
def validateRunStopped (events : List Event) (state : RunState) : Except PyError Unit := do
  require (eventsOf EventPayload.baseline events ≠ []) "cannot stop before baseline"
  require (state.status ∉ [.stopped, .finalizing]) "run already stopped"

/-- The evaluation in a `baseline.verified` or `evaluation.completed` event. -/
def EventPayload.reproduction : EventPayload → Option EvaluationResult
  | .baselineVerified payload => some payload.evaluation
  | .evaluationCompleted result => some result
  | _ => none

/-- The origin condition of the `FINAL_SELECTED` branch. -/
def validateReproductionOrigin (events : List Event) (payload : FinalSelected)
    (reproduction : Event) (result : EvaluationResult) : Except PyError Unit :=
  match reproduction.payload with
  | .baselineVerified baseline =>
    require (payload.experimentId = "baseline" ∧ baseline.commitSha = payload.commitSha)
      "baseline finalization does not match frozen parity evidence"
  | _ => do
    let request ← evaluationRequest (eventsBefore events reproduction) result
    require (request.patchCommitSha = payload.commitSha ∧ request.commandId = "clean_reproduce")
      "final reproduction did not cleanly evaluate the selected commit"

/-- The `FINAL_SELECTED` branch. -/
def validateFinalSelected (events : List Event) (state : RunState) (payload : FinalSelected) :
    Except PyError Unit := do
  require (state.status = .stopped) "final selection requires stopped run"
  require (some payload.experimentId = state.bestExperimentId) "must select latest verified best"
  require (some payload.commitSha = state.bestCommitSha) "final commit must match verified best"
  let (reproduction, result) ← requireSome
    (eventWithId EventPayload.reproduction events payload.reproductionEvaluationEventId)
    (fun _ => True) "final selection cites unknown reproduction evidence"
  require
    (result.experimentId = payload.experimentId ∧ result.trustedPublicFull = true ∧
      some result.metricSet.primaryScore = state.bestPrimaryScore)
    "final reproduction is not trusted evidence for the verified best"
  validateReproductionOrigin events payload reproduction result

/-- The event types that may follow a finalizable stop. -/
def EventType.mayFollowStop : EventType → Bool
  | .executionStarted | .executionFinished | .outputChecked | .evaluationCompleted
  | .finalSelected => true
  | _ => false

/-- The conditions of `validate_transition` on the run status, before its branches. -/
def validateRunStatus (status : RunStatus) (eventType : EventType) : Except PyError Unit := do
  require (status ∉ [.finalized, .failed]) "no events may follow a finalized run"
  require (status = .stopped → eventType.mayFollowStop = true)
    "only sealed finalization evidence may follow run.stopped"
  require (status = .finalizing → eventType = .submissionChecked)
    "only submission checking may follow final selection"

/-- The branches of `validate_transition`. -/
def validateBranch (events : List Event) (state : RunState) :
    EventPayload → Except PyError Unit
  | .runStarted _ => return ()
  | .contractVerified _ => validateContractVerified events
  | .baselineVerified payload => validateBaselineVerified events payload
  | .contextCreated _ => validateContextCreated events state
  | .plannerRecommended _ => validatePlannerRecommended events
  | .planningFailed result => validatePlanningFailed events state result
  | .experimentProposed spec => validateExperimentProposed events state spec
  | .patchCreated candidate => validatePatchCreated events state candidate
  | .patchChecked result => validatePatchChecked events state result
  | .executionStarted request => validateExecutionStarted events state request
  | .executionFinished result => validateExecutionFinished events state result
  | .adapterFailed result => validateAdapterFailed events state result
  | .recoveryDecided decision => validateRecoveryDecided events state decision
  | .outputChecked result => validateOutputChecked events state result
  | .evaluationCompleted result => validateEvaluationCompleted events state result
  | .experimentDecided decision => validateExperimentDecided events state decision
  | .bestUpdated payload => validateBestUpdated events state payload
  | .lessonRecorded lessonId candidate => validateLessonRecorded events state lessonId candidate
  | .lessonStatusChanged lessonId _ _ =>
    require ((state.lessons.get? lessonId).isSome) "unknown lesson_id"
  | .manualIntervention _ _ => return ()
  | .runStopped _ _ => validateRunStopped events state
  | .finalSelected payload => validateFinalSelected events state payload
  | .submissionChecked _ =>
    require (state.status = .finalizing) "submission check requires final selection"

/-- `validate_transition`. -/
def validateTransition (events : List Event) (payload : EventPayload) : Except PyError Unit :=
  match events with
  | [] => require (payload.type = .runStarted) "the first event must be run.started"
  | _ :: _ => do
    require (payload.type ≠ .runStarted) "run.started may occur only once"
    let state ← project events
    validateRunStatus state.status payload.type
    validateBranch events state payload

end TacoRank
