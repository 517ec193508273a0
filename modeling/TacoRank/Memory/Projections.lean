import TacoRank.Orchestrator.State

/-!
# Event reducers

Port of `memory/projections.py`: the reducer that derives the run state, the experiment graph and
the lessons from the event list. `project` threads the local variables of the Python loop in a
`Reducer`; every branch of the loop is one definition, and the part of a branch that writes to an
experiment node is a definition on `ExperimentNode`.
-/

namespace TacoRank

/-- The exceptions raised by the reducer, the state machine, the event store and the views. -/
inductive PyError where
  | transitionError (message : String)
  | valueError (message : String)
  | keyError (key : String)
  | indexError (message : String)
  | attributeError (message : String)
  | ledgerError (message : String)
  | overflowError (message : String)
deriving DecidableEq, Repr

/-- `FINALIZABLE_STOP_REASON_CODES`. -/
def finalizableStopReasonCodes : List String :=
  ["experiment_budget", "wall_time_budget", "token_budget", "gpu_budget", "converged",
    "no_legal_proposal"]

/-- `is_finalizable_stop_reason`. -/
def isFinalizableStopReason (reasonCode : String) : Bool :=
  finalizableStopReasonCodes.contains reasonCode

/-- The local variables of `project`; `eventsById` lists the events newest first. -/
structure Reducer where
  state : RunState := {}
  eventsById : List Event := []
  convergenceIncumbent : Option ℚ := none

/-- `events_by_id.get`. -/
def Reducer.eventById (r : Reducer) (eventId : EventId) : Option Event :=
  r.eventsById.find? fun event => event.eventId = eventId

/-- The node written by `experiment.proposed`. -/
def ExperimentNode.ofSpec (spec : ExperimentSpec) : ExperimentNode :=
  { experimentId := spec.experimentId
    parentExperimentId := spec.parentExperimentId
    hypothesis := spec.hypothesis
    family := spec.family
    baseCommitSha := spec.parentCommitSha
    duplicateKey := spec.duplicateKey
    evidenceEventIds := spec.evidenceEventIds }

/-- The node update of `patch.created`. -/
def ExperimentNode.patchCreated (node : ExperimentNode) (candidate : PatchCandidate) :
    ExperimentNode :=
  { node with
    latestCommitSha := some candidate.patchCommitSha
    sameCommitRetryCount := 0
    attemptCount := max node.attemptCount candidate.attempt
    status := .patchReady }

/-- The node update of `patch.checked`. -/
def ExperimentNode.patchChecked (node : ExperimentNode) (result : PatchCheckResult) :
    ExperimentNode :=
  { node with status := if result.accepted then .readyToRun else .recovering }

/-- The node update of `execution.started`. -/
def ExperimentNode.executionStarted (node : ExperimentNode) (request : RunRequest) :
    ExperimentNode :=
  { node with status := .running, attemptCount := max node.attemptCount request.attempt }

/-- The node update of `execution.finished`. -/
def ExperimentNode.executionFinished (node : ExperimentNode) (result : RunResult) :
    ExperimentNode :=
  if result.outcome = .success then
    { node with status := .outputReady }
  else
    { node with status := .recovering, lastErrorFingerprint := result.errorFingerprint }

/-- The node update of `adapter.failed`. -/
def ExperimentNode.adapterFailed (node : ExperimentNode) (result : AdapterFailureResult) :
    ExperimentNode :=
  { node with status := .recovering, lastErrorFingerprint := some result.errorFingerprint }

/-- `failure_event.payload.result.failure_stage`, read with `getattr` and default `None`. -/
def EventPayload.failureStage : EventPayload → Option FailureStage
  | .adapterFailed result => some result.failureStage
  | _ => none

/-- `cause is not None and cause.event_type == EVALUATION_COMPLETED` for the cause of a failure. -/
def Reducer.causedByEvaluation (r : Reducer) (failure : Option Event) : Bool :=
  match (failure.bind (·.causationEventId)).bind r.eventById with
  | some cause => cause.payload.type = .evaluationCompleted
  | none => false

/-- The status and phase in which `RETRY_SAME_COMMIT` resumes after a failure. -/
def Reducer.retryTarget (r : Reducer) (failure : Option Event) : ExperimentStatus × Phase :=
  match failure.bind (·.payload.failureStage) with
  | some .coding => (.proposed, .coding)
  | some .patchGate => (.patchReady, .patchGate)
  | some .outputGate => (.outputReady, .outputGate)
  | some .evaluation =>
    if r.causedByEvaluation failure then (.evaluated, .decision) else (.outputVerified, .evaluation)
  | _ => (.readyToRun, .execution)

/-- The counters moved by `recovery.decided`, before its status is written. -/
def ExperimentNode.recoveryCounted (node : ExperimentNode) (decision : RecoveryDecision) :
    ExperimentNode :=
  match decision.action with
  | .traeRepair | .restartFromTrustedParent =>
    { node with repairCount := max node.repairCount decision.repairAttempt }
  | .retrySameCommit => { node with sameCommitRetryCount := node.sameCommitRetryCount + 1 }
  | _ => node

/-- The node update of `recovery.decided`. -/
def Reducer.recoveryNode (r : Reducer) (eventId : EventId) (decision : RecoveryDecision)
    (node : ExperimentNode) : ExperimentNode :=
  let node := node.recoveryCounted decision
  match decision.action with
  | .abandon | .rollback => { node with status := .invalid, terminalEventId := some eventId }
  | .adjustApprovedRuntimeSetting => { node with status := .readyToRun }
  | .retrySameCommit =>
    { node with status := (r.retryTarget (r.eventById decision.failureEventId)).1 }
  | .returnToPlanner => { node with status := .noOp, terminalEventId := some eventId }
  | .traeRepair | .restartFromTrustedParent => { node with status := .recovering }

/-- The run-level part of `recovery.decided`. -/
def Reducer.recoveryRun (r : Reducer) (decision : RecoveryDecision) (state : RunState) : RunState :=
  match decision.action with
  | .abandon | .rollback =>
    { state with
      activeExperimentId := none, activeAttempt := none, activeFidelity := none
      phase := .planning }
  | .adjustApprovedRuntimeSetting => { state with phase := .execution }
  | .retrySameCommit =>
    { state with phase := (r.retryTarget (r.eventById decision.failureEventId)).2 }
  | .returnToPlanner => { state with phase := .planning }
  | .traeRepair | .restartFromTrustedParent => { state with phase := .recovery }

/-- The node update of `output.checked`. -/
def ExperimentNode.outputChecked (node : ExperimentNode) (result : OutputCheckResult) :
    ExperimentNode :=
  { node with status := if result.accepted then .outputVerified else .recovering }

/-- The node update of `evaluation.completed`. -/
def ExperimentNode.evaluationCompleted (node : ExperimentNode) (result : EvaluationResult) :
    ExperimentNode :=
  { node with
    status := if result.trust.verdict = .noOp then .recovering else .evaluated
    metricSet := some result.metricSet
    trust := some result.trust
    highestFidelity := some result.fidelity }

/-- `status_by_decision`. -/
def ExperimentDecisionKind.status : ExperimentDecisionKind → ExperimentStatus
  | .accept => .accepted
  | .reject => .rejected
  | .prune => .pruned
  | .invalid => .invalid
  | .promote => .readyToRun

/-- The node update of `experiment.decided`. -/
def ExperimentNode.decided (node : ExperimentNode) (eventId : EventId)
    (decision : ExperimentDecision) : ExperimentNode :=
  let node := { node with
    status := decision.decision.status, bestEligible := decision.bestEligible }
  if decision.decision = .promote then
    if decision.nextFidelity = some .full ∧ decision.fidelityCompleted = .full then
      { node with confirmationCount := node.confirmationCount + 1 }
    else
      node
  else
    { node with terminalEventId := some eventId }

/-- The score that a terminal decision hands to the convergence counter. -/
def convergenceScore (node : ExperimentNode) (decision : ExperimentDecision) : Option ℚ :=
  match node.metricSet, node.trust with
  | some metricSet, some trust =>
    if decision.fidelityCompleted = .full ∧ trust.verdict = .accepted then
      some metricSet.primaryScore
    else
      none
  | _, _ => none

/-- `convergence_incumbent is None or score > convergence_incumbent + state.convergence_epsilon`. -/
def Reducer.improves (r : Reducer) (score : ℚ) : Bool :=
  match r.convergenceIncumbent with
  | none => true
  | some incumbent => incumbent + r.state.convergenceEpsilon < score

/-- The run-level part of `experiment.decided`. -/
def Reducer.decidedRun (r : Reducer) (node : ExperimentNode) (decision : ExperimentDecision) :
    Reducer :=
  if decision.decision = .promote then
    { r with state := { r.state with
        activeFidelity := decision.nextFidelity, phase := .execution } }
  else
    let state := { r.state with
      activeExperimentId := none, activeAttempt := none, activeFidelity := none
      phase := .planning }
    match convergenceScore node decision with
    | none => { r with state }
    | some score =>
      if r.improves score then
        { r with
          convergenceIncumbent := some score
          state := { state with consecutiveNonImprovingFullEvaluations := 0 } }
      else
        { r with state := { state with
            consecutiveNonImprovingFullEvaluations :=
              state.consecutiveNonImprovingFullEvaluations + 1 } }

/-- The experiment whose node an event writes. -/
def EventPayload.experiment : EventPayload → Option String
  | .experimentProposed spec => some spec.experimentId
  | .patchCreated candidate => some candidate.experimentId
  | .patchChecked result => some result.experimentId
  | .executionStarted request => some request.experimentId
  | .executionFinished result => some result.experimentId
  | .adapterFailed result => some result.experimentId
  | .recoveryDecided decision => some decision.experimentId
  | .outputChecked result => some result.experimentId
  | .evaluationCompleted result => some result.experimentId
  | .experimentDecided decision => some decision.experimentId
  | _ => none

/-- `_node`. -/
def RunState.node (state : RunState) (experimentId : String) : Except PyError ExperimentNode :=
  match state.experiments.get? experimentId with
  | some node => .ok node
  | none => .error (.valueError ("unknown experiment " ++ experimentId))

/-- Write to the node of an experiment in place. -/
def RunState.updateNode (state : RunState) (experimentId : String)
    (f : ExperimentNode → ExperimentNode) : Except PyError RunState := do
  let node ← state.node experimentId
  return { state with experiments := state.experiments.set experimentId (f node) }

/-- The `run.started` branch. -/
def RunState.runStarted (state : RunState) (timestamp : Int) (payload : RunStarted) : RunState :=
  { state with
    status := .initializing
    phase := .contractVerification
    startedAt := some timestamp
    maxExperiments := payload.maxExperiments
    parallelDirections := payload.parallelDirections
    synthesizeParallelImprovements := payload.synthesizeParallelImprovements
    wallTimeLimitSeconds := payload.wallTimeLimitSeconds
    tokenLimit := payload.tokenLimit
    gpuSecondsLimit := payload.gpuSecondsLimit
    maxRepairsPerExperiment := payload.maxRepairsPerExperiment
    maxConfirmationAttempts := payload.maxConfirmationAttempts
    seedSchedule := payload.seedSchedule
    convergenceEpsilon := payload.convergenceEpsilon
    convergencePatience := payload.convergencePatience }

/-- The `baseline.verified` branch. -/
def RunState.baselineVerified (state : RunState) (payload : BaselineVerified) : RunState :=
  let state := { state with
    status := .ready, phase := .planning
    baselinePrimaryScore := some payload.metricSet.primaryScore }
  if state.bestPrimaryScore = none then
    { state with
      bestExperimentId := some payload.experimentId
      bestCommitSha := some payload.commitSha
      bestPrimaryScore := some payload.metricSet.primaryScore }
  else
    state

/-- The `experiment.proposed` branch. -/
def RunState.experimentProposed (state : RunState) (spec : ExperimentSpec) : RunState :=
  { state with
    experiments := state.experiments.set spec.experimentId (.ofSpec spec)
    experimentsProposed := state.experimentsProposed + 1
    activeExperimentId := some spec.experimentId
    activeAttempt := some 1
    status := .running
    phase := .coding }

/-- The run-level part of `evaluation.completed`. -/
def RunState.evaluationCompleted (state : RunState) (result : EvaluationResult) : RunState :=
  { state with
    phase := if result.trust.verdict = .noOp then .recovery else .decision
    publicValidationQueries :=
      state.publicValidationQueries + if result.population = .publicValidation then 1 else 0
    fullEvaluationsCompleted :=
      state.fullEvaluationsCompleted + if result.fidelity = .full then 1 else 0 }

/-- The `run.stopped` branch. -/
def RunState.runStopped (state : RunState) (reasonCode : String) : RunState :=
  let finalizable := isFinalizableStopReason reasonCode
  { state with
    status := if finalizable then .stopped else .failed
    phase := if finalizable then .stopped else .failed
    stopReasonCode := some reasonCode
    activeExperimentId := none, activeAttempt := none, activeFidelity := none }

/-- The assignments made for every event before its branch. -/
def Reducer.observe (r : Reducer) (event : Event) : Reducer :=
  { r with
    eventsById := event :: r.eventsById
    state := { r.state with
      runId := some event.runId
      lastEventId := some event.eventId
      lastEventAt := some event.timestamp } }

/-- The branches of the loop of `project`, on the observed event. -/
def Reducer.branch (r : Reducer) (event : Event) : Except PyError Reducer :=
  match event.payload with
  | .runStarted payload =>
    return { r with state := r.state.runStarted event.timestamp payload }
  | .contractVerified _ => return { r with state := { r.state with phase := .baseline } }
  | .baselineVerified payload =>
    return { r with
      state := r.state.baselineVerified payload
      convergenceIncumbent := some payload.metricSet.primaryScore }
  | .contextCreated context =>
    return { r with state := { r.state with phase := .context context.role } }
  | .plannerRecommended _ => return r
  | .planningFailed _ =>
    return { r with state := { r.state with
        activeExperimentId := none, activeAttempt := none, activeFidelity := none
        phase := .planningFailure } }
  | .experimentProposed spec => return { r with state := r.state.experimentProposed spec }
  | .patchCreated candidate => do
    let state ← r.state.updateNode candidate.experimentId (·.patchCreated candidate)
    return { r with state := { state with
        activeAttempt := some candidate.attempt, phase := .patchGate } }
  | .patchChecked result => do
    let state ← r.state.updateNode result.experimentId (·.patchChecked result)
    return { r with state := { state with
        phase := if result.accepted then .execution else .recovery } }
  | .executionStarted request => do
    let state ← r.state.updateNode request.experimentId (·.executionStarted request)
    return { r with state := { state with
        activeAttempt := some request.attempt, activeFidelity := some request.fidelity
        phase := .running } }
  | .executionFinished result => do
    let state ← r.state.updateNode result.experimentId (·.executionFinished result)
    return { r with state := { state with
        phase := if result.outcome = .success then .outputGate else .recovery } }
  | .adapterFailed result => do
    let state ← r.state.updateNode result.experimentId (·.adapterFailed result)
    return { r with state := { state with phase := .recovery } }
  | .recoveryDecided decision => do
    let state ← r.state.updateNode decision.experimentId (r.recoveryNode event.eventId decision)
    return { r with state := r.recoveryRun decision state }
  | .outputChecked result => do
    let state ← r.state.updateNode result.experimentId (·.outputChecked result)
    return { r with state := { state with
        phase := if result.accepted then .evaluation else .recovery } }
  | .evaluationCompleted result => do
    let state ← r.state.updateNode result.experimentId (·.evaluationCompleted result)
    return { r with state := state.evaluationCompleted result }
  | .experimentDecided decision => do
    let node ← r.state.node decision.experimentId
    let state ← r.state.updateNode decision.experimentId (·.decided event.eventId decision)
    return { r with state }.decidedRun node decision
  | .bestUpdated payload =>
    return { r with state := { r.state with
        bestExperimentId := some payload.experimentId
        bestCommitSha := some payload.commitSha
        bestPrimaryScore := some payload.primaryScore } }
  | .lessonRecorded lessonId candidate =>
    return { r with state := { r.state with
        lessons := r.state.lessons.set lessonId
          { lessonId, status := .active, summary := candidate.summary, tags := candidate.tags
            sourceEventId := event.eventId } } }
  | .lessonStatusChanged lessonId status _ =>
    match r.state.lessons.get? lessonId with
    | none => throw (.keyError lessonId)
    | some lesson =>
      return { r with state := { r.state with
          lessons := r.state.lessons.set lessonId { lesson with status } } }
  | .manualIntervention _ _ =>
    return { r with state := { r.state with
        manualInterventionCount := r.state.manualInterventionCount + 1 } }
  | .runStopped reasonCode _ => return { r with state := r.state.runStopped reasonCode }
  | .finalSelected payload =>
    return { r with state := { r.state with
        status := .finalizing, phase := .submission
        finalExperimentId := some payload.experimentId } }
  | .submissionChecked payload =>
    return { r with state := { r.state with
        status := if payload.accepted then .finalized else .failed
        phase := if payload.accepted then .finalized else .failed } }

/-- One iteration of the loop of `project`. -/
def Reducer.step (r : Reducer) (event : Event) : Except PyError Reducer :=
  (r.observe event).branch event

/-- The aggregates computed after the loop of `project`. -/
def RunState.aggregate (state : RunState) (events : List Event) : RunState :=
  let state := { state with resourceTotals := aggregateResources (events.map Event.resourceDelta) }
  match state.startedAt, state.lastEventAt with
  | some started, some last => { state with elapsedWallTime := max 0 (last - started) }
  | _, _ => state

/-- The loop of `project`. -/
def replay (events : List Event) : Except PyError Reducer := events.foldlM Reducer.step {}

/-- `project`. -/
def project (events : List Event) : Except PyError RunState := do
  let r ← replay events
  return r.state.aggregate events

end TacoRank
