import TacoRank.Context.Builder
import TacoRank.Orchestrator.Convergence

/-!
# The harness

Port of the experiment lane of `orchestrator/router.py`: `Harness._run_one_experiment` after its
proposal, with the recovery, repair and fidelity loops, and the handlers around it. A Python loop is
a `Program.loop` with a bound on its rounds, and the branches of the fidelity loop are definitions
that end with its next state (`continue`) or with the `return` that leaves it.

Planning stays outside: a lane begins with the event of its proposal. Views, artifacts and texts
that no event records are left out.
-/

namespace TacoRank
open Lib

/-- `Harness`, with the pure functions of its context builder and its failure fingerprints. -/
structure Harness where
  config : RunConfig
  contractSha256 : String
  buildCoder : List Event → ExperimentSpec → Except AdapterError ContextDocument
  writeRecovery : RecoveryWriter
  normalizeText : String → String
  fingerprintFailure : String → String → String
  parallelRoundActive : Bool := false

/-- `RecoveryAction.value`. -/
def RecoveryAction.value : RecoveryAction → String
  | .traeRepair => "trae_repair"
  | .restartFromTrustedParent => "restart_from_trusted_parent"
  | .retrySameCommit => "retry_same_commit"
  | .adjustApprovedRuntimeSetting => "adjust_approved_runtime_setting"
  | .returnToPlanner => "return_to_planner"
  | .rollback => "rollback"
  | .abandon => "abandon"

/-- The `failure_stage` literal of a stage. -/
def FailureStage.value : FailureStage → String
  | .coding => "coding"
  | .patchGate => "patch_gate"
  | .execution => "execution"
  | .outputGate => "output_gate"
  | .evaluation => "evaluation"
  | .recovery => "recovery"

/-- `action in _CODE_RECOVERY_ACTIONS`. -/
def RecoveryAction.isCodeRecovery : RecoveryAction → Bool
  | .traeRepair | .restartFromTrustedParent => true
  | _ => false

/-- The outcome that `_record_adapter_failure` records for a stage. -/
def FailureStage.outcome : FailureStage → RunOutcome
  | .coding | .patchGate => .codeError
  | .outputGate => .interfaceError
  | .execution | .evaluation | .recovery => .infrastructureError

lemma FailureStage.outcome_failed (stage : FailureStage) :
    stage.outcome ≠ .success ∧ stage.outcome ≠ .cancelled := by
  cases stage <;> exact ⟨RunOutcome.noConfusion, RunOutcome.noConfusion⟩

/-! ### Reading the ledger -/

/-- `event_by_id.get`. -/
def eventById (events : List Event) (eventId : Option EventId) : Option Event :=
  eventId.bind fun eventId => events.find? (·.eventId = eventId)

/-- The execution that `_execution_seed` reaches from an evaluation along the causation ids. -/
def executionIdentity (events : List Event) (evaluation : Event) : Option (Event × RunRequest) := do
  let output ← eventById events evaluation.causationEventId
  let finished ← eventById events output.causationEventId
  let started ← eventById events finished.causationEventId
  match started.payload with
  | .executionStarted request => some (started, request)
  | _ => none

/-- The metrics of a metric set with its primary score. -/
def MetricSet.summary (metricSet : MetricSet) : List (String × ℚ) :=
  if (metricSet.metrics.map Prod.fst).contains metricSet.primaryMetricName then
    metricSet.metrics
  else
    metricSet.metrics ++ [(metricSet.primaryMetricName, metricSet.primaryScore)]

/-- `_baseline_metrics`. -/
def baselineMetrics (events : List Event) : Except RouterError (List (String × ℚ)) :=
  match (eventsOf EventPayload.baseline events).head? with
  | some (_, baseline) => .ok baseline.metricSet.summary
  | none => .error (.internal ⟨"StopIteration", "", {}, ""⟩)

/-- `_reference_metrics`. -/
def referenceMetrics (events : List Event) (experimentId : Option String) (fidelity : Fidelity) :
    Except RouterError (List (String × ℚ)) :=
  match experimentId with
  | none | some "" | some "baseline" => baselineMetrics events
  | some x =>
    match (eventsOf EventPayload.evaluation events).reverse.find? fun found =>
      found.2.experimentId = x ∧ found.2.fidelity = fidelity with
    | some (_, result) => .ok result.metricSet.summary
    | none => .error (.orchestrationError ("reference experiment " ++ x ++ " has no evaluation"))

/-- `summary[name]`. -/
def metricOf (summary : List (String × ℚ)) (name : String) : Except RouterError ℚ :=
  match summary.lookup name with
  | some score => .ok score
  | none => .error (.python (.keyError name))

/-- `_adapter_failure_stage`. -/
def adapterFailureStage (events : List Event) (experimentId : String) : FailureStage :=
  let stageOf (event : Event) : Option FailureStage :=
    match event.payload with
    | .recoveryDecided decision => if decision.experimentId = experimentId then some .coding else none
    | .patchCreated candidate => if candidate.experimentId = experimentId then some .patchGate else none
    | .executionStarted request => if request.experimentId = experimentId then some .execution else none
    | .executionFinished result => if result.experimentId = experimentId then some .outputGate else none
    | .outputChecked result => if result.experimentId = experimentId then some .evaluation else none
    | .evaluationCompleted result =>
      if result.experimentId = experimentId then some .evaluation else none
    | .contextCreated context =>
      if context.experimentId = some experimentId then
        match context.role with
        | .recovery => some .recovery
        | .coder => some .coding
        | .planner => none
      else
        none
    | _ => none
  (Log.lastSome stageOf events).getD .recovery

/-- `_event_experiment_id`. -/
def EventPayload.owner (payload : EventPayload) : Option String :=
  match payload with
  | .contextCreated context => context.experimentId
  | _ => payload.experiment

/-- A decision kind in `_TERMINAL_DECISIONS`. -/
def ExperimentDecisionKind.terminal : ExperimentDecisionKind → Bool
  | .accept | .reject | .prune | .invalid => true
  | .promote => false

/-- `_has_terminal_decision`. -/
def hasTerminalDecision (events : List Event) (experimentId : String) : Bool :=
  events.any fun event => match event.payload with
    | .experimentDecided decision =>
      decision.experimentId = experimentId && decision.decision.terminal
    | _ => false

/-- `"lesson_%03d" % (1 + sum(event.payload.type == "lesson.recorded" for event in events))`. -/
def nextLessonId (events : List Event) : String :=
  let number := toString (1 + (events.filter (·.payload.type = .lessonRecorded)).length)
  "lesson_" ++ String.ofList (List.replicate (3 - number.length) '0') ++ number

/-- `_SAFE_TERMINAL_STATUSES`. -/
def ExperimentStatus.safeTerminal : ExperimentStatus → Bool
  | .invalid | .noOp | .accepted | .rejected | .pruned => true
  | _ => false

namespace Harness
variable (h : Harness) (fuel : Nat)

/-- `_execution_seed`. -/
def executionSeed (events : List Event) (experimentId : String) (fidelity : Fidelity)
    (patchCommitSha : String) : Except RouterError Int := do
  if fidelity ≠ .full then
    match h.config.seedSchedule.head? with
    | some seed => return seed
    | none => throw (.python (.indexError "list index out of range"))
  else
    let completed ← (eventsOf EventPayload.evaluation events).foldlM (fun completed found => do
      if found.2.experimentId = experimentId ∧ found.2.fidelity = .full ∧
          found.2.population = .publicValidation then
        match executionIdentity events found.1 with
        | none =>
          throw (.orchestrationError "full evaluation cannot resolve its execution identity")
        | some (_, request) =>
          return completed + if request.patchCommitSha = patchCommitSha then 1 else 0
      else
        return completed) 0
    match h.config.seedSchedule[completed]? with
    | some seed => return seed
    | none =>
      throw (.orchestrationError
        ("distinct full-fidelity seed schedule exhausted for " ++ experimentId))

/-- `Fidelity.value`. -/
def fidelityValue : Fidelity → String
  | .smoke => "smoke"
  | .proxy => "proxy"
  | .full => "full"
  | .final => "final"

/-- `_command_for`. -/
def commandFor (fidelity : Fidelity) : String :=
  match ["candidate_" ++ fidelityValue fidelity, "run_" ++ fidelityValue fidelity].find?
    (h.config.commandIds.contains ·) with
  | some command => command
  | none => h.config.commandIds.headD ""

/-- `_validate_runtime_adjustments`. -/
def validateRuntimeAdjustments (adjustments : List (String × RuntimeValue)) :
    Except RouterError Unit :=
  adjustments.forM fun (name, value) =>
    match h.config.allowedRuntimeAdjustments.lookup name with
    | none => throw (.orchestrationError "runtime adjustment is not frozen")
    | some approved => do
      if approved.approved ≠ some value then
        throw (.orchestrationError "runtime adjustment value is not frozen")
      if name = "timeout_profile" ∧
          ¬ (h.config.timeoutProfiles.any fun profile => RuntimeValue.str profile.1 = value) then
        throw (.orchestrationError "timeout profile is not frozen")

/-- `self.events()`. -/
def events : Lane (List Event) := Program.inspect id

/-- `self.state()`. -/
def state : Lane RunState := do
  match project (← events) with
  | .ok state => return state
  | .error error => Program.raise (.python error)

/-- `_append`. -/
def append (payload : EventPayload) (key : EventKey) (causationEventId : Option EventId)
    (resourceDelta : ResourceDelta) : Lane Event :=
  Program.transact fun timestamp events =>
    (EventStore.append events
      { runId := h.config.runId, key, payload, causationEventId, resourceDelta, timestamp }).mapError
      .python

/-- `stop`. -/
def stop (decision : StopDecision) : Lane Unit := do
  let cause := (← events).getLast?.map Event.eventId
  let _ ← h.append (.runStopped decision.reasonCode decision.reason) ⟨"run", .stopped, 0⟩ cause {}

/-- `_stop_if_runtime_budget_exhausted`. -/
def stopIfRuntimeBudgetExhausted : Lane Bool := do
  match runtimeBudgetDecision (← state) h.config with
  | none => return false
  | some decision =>
    unless h.parallelRoundActive do
      h.stop decision
    return true

/-! ### Failures, recovery and repair -/

/-- The result that `_record_adapter_failure` records for an exception. -/
def adapterFailure (experimentId : String) (attempt : Nat) (stage : FailureStage)
    (error : RouterError) : AdapterFailureResult :=
  let described := error.describe
  let normalized := h.normalizeText described.errorSummary
  let summary := if normalized = "" then described.errorClass else normalized
  { experimentId
    attempt := max 1 attempt
    failureStage := stage
    outcome := stage.outcome
    errorClass := described.errorClass
    errorFingerprint := h.fingerprintFailure described.errorClass summary
    errorSummary := summary
    resourceDelta := described.resourceDelta
    details := described.details
    validateFailure := stage.outcome_failed }

/-- `_record_adapter_failure`. -/
def recordAdapterFailure (experimentId : String) (attempt : Nat) (stage : FailureStage)
    (error : RouterError) (causationEventId : Option EventId) : Lane Event :=
  let result := h.adapterFailure experimentId attempt stage error
  h.append (.adapterFailed result) ⟨experimentId, .adapterFailed stage, result.attempt⟩
    causationEventId result.resourceDelta

/-- The call of `build_recovery`. -/
def recoveryContext (experimentId : String) (remaining : Nat) : Lane RecoveryContext := do
  Program.ofExcept (buildRecovery h.writeRecovery (← events) experimentId remaining)

/-- What `_recover` returns. -/
structure Recovery where
  decision : RecoveryDecision
  context : RecoveryContext
  event : Event

/-- `_recover`. -/
def recover (failure : Event) (experimentId : String) : Lane Recovery := do
  let state ← state
  match state.experiments.get? experimentId with
  | none => Program.raise (.python (.keyError experimentId))
  | some node =>
    let remaining := state.maxRepairsPerExperiment - node.repairCount
    let context ← h.recoveryContext experimentId remaining
    let contextEvent ← h.append (.contextCreated context.toContextDocument)
      ⟨experimentId, .recoveryContext, node.repairCount + 1⟩ (some failure.eventId) {}
    let decision ← recoveryManager experimentId failure.eventId state.maxRepairsPerExperiment
      node.repairCount remaining
    let decisionEvent ← h.append (.recoveryDecided decision)
      ⟨experimentId, .recoveryDecided, decision.repairAttempt⟩ (some contextEvent.eventId)
      decision.resourceDelta
    match decision.lessonCandidate with
    | none => pure ()
    | some candidate =>
      let lessonId := nextLessonId (← events)
      let _ ← h.append (.lessonRecorded lessonId candidate)
        ⟨experimentId, .recoveryLessonRecorded, decision.repairAttempt⟩
        (some decisionEvent.eventId) {}
    if decision.reasonCode = "INTEGRITY_VIOLATION" ∧ h.parallelRoundActive = false then
      h.stop fatalIntegrityDecision
    return { decision, context, event := decisionEvent }

/-- A patch with its gate check and the event of that check. -/
structure CheckedPatch where
  patch : PatchCandidate
  check : PatchCheckResult
  event : Event

/-- Record and check the candidate of a repair, at the end of `_execute_code_repair`. -/
def sealRepair (decision : RecoveryDecision) (contextId : String) (decisionEventId proposal : EventId)
    (candidate : PatchCandidate) : Lane CheckedPatch := do
  let patch := { candidate with
    attempt := decision.repairAttempt + 1, experimentSpecEventId := proposal, contextId }
  let stage := if decision.action = .restartFromTrustedParent then
    Stage.trustedParentRestartPatchCreated else .repairPatchCreated
  let patchEvent ← h.append (.patchCreated patch) ⟨patch.experimentId, stage, patch.attempt⟩
    (some decisionEventId) patch.resourceDelta
  let check ← patchGate patch
  let event ← h.append (.patchChecked check)
    ⟨patch.experimentId, .repairPatchChecked, patch.attempt⟩ (some patchEvent.eventId)
    check.resourceDelta
  return { patch, check, event }

/-- `_execute_code_repair`. -/
def executeCodeRepair (recovery : Recovery) (proposal : EventId) : Lane CheckedPatch := do
  let decision := recovery.decision
  if decision.action.isCodeRecovery = false then
    Program.raise (.orchestrationError
      "only Trae repair or a trusted-parent restart can create a replacement patch")
  else
    match ← Program.attempt (codingWorker decision.experimentId) with
    | .ok candidate =>
      h.sealRepair decision recovery.context.contextId recovery.event.eventId proposal candidate
    | .error error =>
      let failure ← h.recordAdapterFailure decision.experimentId (decision.repairAttempt + 1)
        .coding error (some recovery.event.eventId)
      let retry ← h.recover failure decision.experimentId
      if retry.decision.action ≠ .retrySameCommit then
        Program.raise (.repairWorkerUnavailable retry.decision.action error.describe.errorSummary)
      else
        let reissued := { decision with repairAttempt := retry.context.repairAttempt }
        let candidate ← codingWorker decision.experimentId
        h.sealRepair reissued recovery.context.contextId retry.event.eventId proposal candidate

/-! ### The fidelity loop -/

/-- The local variables of the fidelity loop. -/
structure LoopState where
  checked : CheckedPatch
  stageQueue : List Fidelity
  executionAttempt : Nat := 0
  runtimeSettings : List (String × RuntimeValue) := []
  nextRequestTemplate : Option RunRequest := none
  nextExecutionCause : Option EventId := none

/-- How the fidelity loop is left: with `return self.state()`, or with
`return self._abandon_experiment(...)`. -/
inductive Exit where
  | state
  | abandon (attempt : Nat) (fidelity : Fidelity) (causationEventId : EventId) (reasonCode : String)
deriving DecidableEq

/-- The next round of the loop, or its exit. -/
abbrev Flow := LoopState ⊕ Exit

/-- The lane of one proposal, with the round it is in: the request that runs at a fidelity. -/
structure Round where
  state : LoopState
  request : RunRequest
  fidelity : Fidelity

/-- Run the request of a round again on a repaired patch. -/
def Round.repaired (round : Round) (checked : CheckedPatch) : LoopState :=
  { round.state with
    checked
    nextRequestTemplate := some round.request
    nextExecutionCause := some checked.event.eventId
    stageQueue := round.fidelity :: round.state.stageQueue }

/-- `runtime_settings.update(adjustments)`. -/
def updateSettings (settings adjustments : List (String × RuntimeValue)) :
    List (String × RuntimeValue) :=
  adjustments.foldl (fun settings item =>
    if (settings.map Prod.fst).contains item.1 then
      settings.map fun setting => if setting.1 = item.1 then item else setting
    else
      settings ++ [item]) settings

/-- The template of a retried request, with the duration of an adjusted timeout profile. -/
def retryTemplate (request : RunRequest) (adjustments : List (String × RuntimeValue)) : RunRequest :=
  match adjustments.lookup "timeout_profile" with
  | some (.str profile) =>
    { request with timeoutSeconds := (h.config.timeoutProfiles.lookup profile).getD 0 }
  | _ => request

/-- Run the request of a round again on the same patch. -/
def resume (round : Round) (recovery : Recovery) : Lane Flow := do
  let adjustments := recovery.decision.runtimeAdjustments
  Program.ofExcept (h.validateRuntimeAdjustments adjustments)
  return .inl { round.state with
    runtimeSettings := updateSettings round.state.runtimeSettings adjustments
    nextRequestTemplate := some (h.retryTemplate round.request adjustments)
    nextExecutionCause := some recovery.event.eventId
    stageQueue := round.fidelity :: round.state.stageQueue }

/-- How a repair loop ends. -/
inductive RepairOutcome where
  | accepted (checked : CheckedPatch)
  | exhausted
  | gaveUp

/-- `while action in _CODE_RECOVERY_ACTIONS`: repair until the gate accepts a patch. -/
def repairLoop (checkBudget : Bool) (experimentId : String) (proposal : EventId) :
    Recovery → Lane RepairOutcome :=
  Program.loop (fun recovery => do
    if recovery.decision.action.isCodeRecovery = false then
      return .inr .gaveUp
    else
      let checked ← h.executeCodeRepair recovery proposal
      let exhausted ← if checkBudget then h.stopIfRuntimeBudgetExhausted else pure false
      if exhausted then
        return .inr .exhausted
      else if checked.check.accepted then
        return .inr (.accepted checked)
      else
        return .inl (← h.recover checked.event experimentId)) fuel

/-- One repair: continue with an accepted patch, leave the loop otherwise. -/
def repairOnce (round : Round) (proposal : EventId) (recovery : Recovery) (rejected other : Exit) :
    Lane Flow := do
  if recovery.decision.action.isCodeRecovery then
    let checked ← h.executeCodeRepair recovery proposal
    return if checked.check.accepted then .inl (round.repaired checked) else .inr rejected
  else
    return .inr other

section Loop
variable (spec : ExperimentSpec) (proposal : EventId)

/-- The request at the head of the loop; an accepted check has a receipt. -/
def nextRequest (s : LoopState) (fidelity : Fidelity) : Lane RunRequest := do
  let check := s.checked.check
  match s.nextRequestTemplate with
  | some template =>
    return { template with
      attempt := s.executionAttempt
      fidelity
      patchCommitSha := check.patchCommitSha
      patchReceiptId := check.receiptId.getD ""
      runtimeSettings := s.runtimeSettings }
  | none =>
    let seed ← Program.ofExcept
      (h.executionSeed (← events) spec.experimentId fidelity check.patchCommitSha)
    return {
      experimentId := spec.experimentId
      attempt := s.executionAttempt
      fidelity
      commandId := h.commandFor fidelity
      patchCommitSha := check.patchCommitSha
      patchReceiptId := check.receiptId.getD ""
      seed
      dataManifestSha256 := h.config.dataManifestSha256
      timeoutSeconds := (h.config.timeoutProfiles.lookup "standard").getD 600
      runtimeSettings := s.runtimeSettings }

/-- The failure of the runner. -/
def executionFailed (round : Round) (started : Event) (error : RouterError) : Lane Flow := do
  let failure ← h.recordAdapterFailure spec.experimentId round.request.attempt .execution error
    (some started.eventId)
  let recovery ← h.recover failure spec.experimentId
  match recovery.decision.action with
  | .retrySameCommit | .adjustApprovedRuntimeSetting => h.resume round recovery
  | _ =>
    match ← h.repairLoop fuel false spec.experimentId proposal recovery with
    | .accepted checked => return .inl (round.repaired checked)
    | .exhausted | .gaveUp => return .inr .state

/-- The recovery of an execution that did not succeed. -/
def executionUnsuccessful (round : Round) (finished : Event) : Lane Flow := do
  let recovery ← h.recover finished spec.experimentId
  match recovery.decision.action with
  | .retrySameCommit | .adjustApprovedRuntimeSetting => h.resume round recovery
  | _ =>
    match ← h.repairLoop fuel true spec.experimentId proposal recovery with
    | .accepted checked => return .inl (round.repaired checked)
    | .exhausted | .gaveUp => return .inr .state

/-- The decision that a verified smoke output is promoted. -/
def smokeDecision (queue : List Fidelity) : ExperimentDecision :=
  { experimentId := spec.experimentId
    evaluationEventId := none
    decision := .promote
    reasonCode := "smoke_output_verified"
    fidelityCompleted := .smoke
    parentEligible := true
    bestEligible := false
    nextFidelity := some (queue.headD .proxy)
    validatePromotion := ⟨by simp, by simp⟩ }

/-- `if not stage_queue or stage_queue[0] != next_fidelity: stage_queue.appendleft(next_fidelity)`. -/
def promoteTo (next : Fidelity) (queue : List Fidelity) : List Fidelity :=
  if queue.head? = some next then queue else next :: queue

/-- Record the decision on an evaluation and follow it. -/
def decided (round : Round) (evaluation : EvaluationResult) (evaluationEvent : Event)
    (decision : ExperimentDecision) (causationEventId : EventId) : Lane Flow := do
  let decision := { decision with evaluationEventId := some evaluationEvent.eventId }
  let key stage : EventKey := ⟨spec.experimentId, stage, round.request.attempt⟩
  let decisionEvent ← h.append (.experimentDecided decision) (key (.decision round.fidelity))
    (some causationEventId) decision.resourceDelta
  match decision.lessonCandidate with
  | none => pure ()
  | some candidate =>
    let lessonId := nextLessonId (← events)
    let _ ← h.append (.lessonRecorded lessonId candidate) (key .lessonRecorded)
      (some decisionEvent.eventId) {}
  match decision.decision, decision.nextFidelity with
  | .promote, some next =>
    return .inl { round.state with stageQueue := promoteTo next round.state.stageQueue }
  | _, _ =>
    if decision.bestEligible then
      let current ← state
      let score := evaluation.metricSet.primaryScore
      if current.bestPrimaryScore.all (· < score) then
        let _ ← h.append
          (.bestUpdated
            { experimentId := spec.experimentId
              commitSha := round.state.checked.patch.patchCommitSha
              primaryMetricName := evaluation.metricSet.primaryMetricName
              primaryScore := score
              decisionEventId := decisionEvent.eventId })
          (key .bestUpdated) (some decisionEvent.eventId) {}
    return .inr .state

/-- The failure of the decision on an evaluation. -/
def decisionFailed (round : Round) (evaluation : EvaluationResult) (evaluationEvent : Event)
    (error : RouterError) : Lane Flow := do
  let failure ← h.recordAdapterFailure spec.experimentId round.request.attempt .evaluation error
    (some evaluationEvent.eventId)
  let recovery ← h.recover failure spec.experimentId
  match recovery.decision.action with
  | .retrySameCommit =>
    match ← Program.attempt (decider evaluation) with
    | .ok decision =>
      h.decided spec round evaluation evaluationEvent decision recovery.event.eventId
    | .error retryError =>
      let retryFailure ← h.recordAdapterFailure spec.experimentId round.request.attempt .evaluation
        retryError (some recovery.event.eventId)
      let _ ← h.recover retryFailure spec.experimentId
      return .inr .state
  | .adjustApprovedRuntimeSetting => h.resume round recovery
  | _ => h.repairOnce round proposal recovery .state .state

/-- The recovery of a verified no-op: one bounded wiring repair. A repair worker that gave up returns
ownership to planning. -/
def noOpRecovery (round : Round) (evaluationEvent : Event) : Lane Flow := do
  let recovery ← h.recover evaluationEvent spec.experimentId
  match ← Program.attempt (h.repairLoop fuel true spec.experimentId proposal recovery) with
  | .ok (.accepted checked) => return .inl (round.repaired checked)
  | .ok .exhausted | .ok .gaveUp => return .inr .state
  | .error (.repairWorkerUnavailable .returnToPlanner _) => return .inr .state
  | .error error => Program.raise error

/-- `self.config.validate_metric_set`. -/
def validateMetricSet (metricSet : MetricSet) : Except RouterError Unit :=
  if h.config.metricSetValid metricSet then
    .ok ()
  else
    .error (.internal
      ⟨"ContractError", "metric set does not exactly match frozen metric names", {}, ""⟩)

/-- `_append` of an evaluation. -/
def appendEvaluation (round : Round) (evaluation : EvaluationResult) (causationEventId : EventId) :
    Lane Event :=
  h.append (.evaluationCompleted evaluation)
    ⟨spec.experimentId, .evaluation round.fidelity, round.request.attempt⟩ (some causationEventId)
    evaluation.resourceDelta

/-- Acknowledge an evaluation, and decide on it unless it is a no-op. -/
def evaluated (round : Round) (request : EvaluationRequest) (evaluation : EvaluationResult)
    (causationEventId : EventId) : Lane Flow := do
  Program.ofExcept (h.validateMetricSet evaluation.metricSet)
  let evaluationEvent ← h.appendEvaluation spec round evaluation causationEventId
  if ← h.stopIfRuntimeBudgetExhausted then
    return .inr .state
  else if evaluation.trust.verdict = .noOp then
    h.noOpRecovery fuel spec proposal round evaluationEvent
  else
    let primary := h.config.primaryMetricName
    let _ ← Program.ofExcept (metricOf request.baselineSummary primary)
    let _ ← Program.ofExcept (metricOf request.parentSummary primary)
    let _ ← Program.ofExcept (metricOf request.previousBestSummary primary)
    match ← Program.attempt (decider evaluation) with
    | .ok decision =>
      h.decided spec round evaluation evaluationEvent decision evaluationEvent.eventId
    | .error error => h.decisionFailed spec proposal round evaluation evaluationEvent error

/-- The request to the evaluator; its query index and its best reference are those of the ledger. -/
def evaluationRequestFor (round : Round) (output : OutputCheckResult) (outputEvent : Event)
    (baseline parent : List (String × ℚ)) : Lane EvaluationRequest := do
  let state ← state
  let best ← Program.ofExcept
    (referenceMetrics (← events) state.bestExperimentId round.fidelity)
  let population : Population :=
    if round.fidelity = .proxy then .internalProxy else .publicValidation
  return {
    experimentId := spec.experimentId
    attempt := round.request.attempt
    outputCheckedEventId := outputEvent.eventId
    predictionArtifact := output.predictionArtifact
    population
    fidelity := round.fidelity
    seed := round.request.seed
    contractSha256 := h.contractSha256
    evaluatorSha256 := h.config.evaluatorSha256
    baselineSummary := baseline
    parentSummary := parent
    previousBestSummary := best
    publicQueryIndex :=
      if population = .publicValidation then some (state.publicValidationQueries + 1) else none }

/-- One call of the evaluator, with the event of its evaluation. -/
def evaluate (round : Round) (request : EvaluationRequest) (causationEventId : EventId) :
    Lane EvaluationResult := do
  let evaluation ← evaluator request
  Program.ofExcept (h.validateMetricSet evaluation.metricSet)
  let _ ← h.appendEvaluation spec round evaluation causationEventId
  return evaluation

/-- The failure of an evaluation; `request` is missing when it could not be built. -/
def evaluationFailed (round : Round) (request : Option EvaluationRequest) (outputEvent : Event)
    (error : RouterError) : Lane Flow := do
  let failure ← h.recordAdapterFailure spec.experimentId round.request.attempt .evaluation error
    (some outputEvent.eventId)
  let recovery ← h.recover failure spec.experimentId
  let abandon cause reason := Exit.abandon round.request.attempt round.fidelity cause reason
  match recovery.decision.action with
  | .retrySameCommit =>
    match request with
    | none => return .inr .state
    | some request =>
      match ← Program.attempt (h.evaluate spec round request recovery.event.eventId) with
      | .ok evaluation =>
        h.evaluated fuel spec proposal round request evaluation recovery.event.eventId
      | .error retryError =>
        let retryFailure ← h.recordAdapterFailure spec.experimentId round.request.attempt
          .evaluation retryError (some recovery.event.eventId)
        let retry ← h.recover retryFailure spec.experimentId
        let exit := abandon retryFailure.eventId "EVALUATION_ABANDONED"
        h.repairOnce round proposal retry exit exit
  | .adjustApprovedRuntimeSetting => h.resume round recovery
  | _ =>
    h.repairOnce round proposal recovery (abandon failure.eventId "EVALUATION_REPAIR_REJECTED")
      (abandon failure.eventId "EVALUATION_ABANDONED")

/-- The evaluation of a verified output. -/
def evaluationStage (round : Round) (output : OutputCheckResult) (outputEvent : Event) :
    Lane Flow := do
  let baseline ← Program.ofExcept (baselineMetrics (← events))
  let parent ← Program.ofExcept
    (referenceMetrics (← events) spec.parentExperimentId round.fidelity)
  match ← Program.attempt (h.evaluationRequestFor spec round output outputEvent baseline parent) with
  | .error error => h.evaluationFailed fuel spec proposal round none outputEvent error
  | .ok request =>
    match ← Program.attempt (h.evaluate spec round request outputEvent.eventId) with
    | .error error => h.evaluationFailed fuel spec proposal round (some request) outputEvent error
    | .ok evaluation =>
      h.evaluated fuel spec proposal round request evaluation outputEvent.eventId

/-- `return self._abandon_experiment(spec, attempt, fidelity, proposal_event.event_id,
"STAGE_ABANDONED")`. -/
def stageAbandoned (round : Round) : Exit :=
  .abandon round.request.attempt round.fidelity proposal "STAGE_ABANDONED"

/-- Record an output check and go on with its verdict. -/
def outputChecked (round : Round) (output : OutputCheckResult) (causationEventId : EventId) :
    Lane Flow := do
  let outputEvent ← h.append (.outputChecked output)
    ⟨spec.experimentId, .outputChecked round.fidelity, round.request.attempt⟩
    (some causationEventId) output.resourceDelta
  if output.accepted = false then
    let recovery ← h.recover outputEvent spec.experimentId
    match ← h.repairLoop fuel true spec.experimentId proposal recovery with
    | .accepted checked => return .inl (round.repaired checked)
    | .exhausted => return .inr .state
    | .gaveUp => return .inr (stageAbandoned proposal round)
  else if round.fidelity = .smoke then
    let _ ← h.append (.experimentDecided (smokeDecision spec round.state.stageQueue))
      ⟨spec.experimentId, .decisionSmoke, round.request.attempt⟩ (some outputEvent.eventId) {}
    return .inl round.state
  else
    h.evaluationStage fuel spec proposal round output outputEvent

/-- The output gate of a successful execution, retried once after a failure of the gate itself. -/
def outputStage (round : Round) (finished : Event) (result : RunResult) : Lane Flow := do
  let exit := stageAbandoned proposal round
  match ← Program.attempt (outputGate result) with
  | .ok output => h.outputChecked fuel spec proposal round output finished.eventId
  | .error error =>
    let failure ← h.recordAdapterFailure spec.experimentId round.request.attempt .outputGate error
      (some finished.eventId)
    let recovery ← h.recover failure spec.experimentId
    if recovery.decision.action = .retrySameCommit then
      match ← Program.attempt (outputGate result) with
      | .ok output => h.outputChecked fuel spec proposal round output recovery.event.eventId
      | .error retryError =>
        let retryFailure ← h.recordAdapterFailure spec.experimentId round.request.attempt
          .outputGate retryError (some recovery.event.eventId)
        let retry ← h.recover retryFailure spec.experimentId
        h.repairOnce round proposal retry exit exit
    else
      h.repairOnce round proposal recovery exit exit

/-- One round of the fidelity loop. -/
def fidelityRound (s : LoopState) : Lane Flow := do
  match s.stageQueue with
  | [] => return .inr .state
  | fidelity :: queue =>
    let s := { s with stageQueue := queue, executionAttempt := s.executionAttempt + 1 }
    let request ← h.nextRequest spec s fidelity
    let key stage : EventKey := ⟨spec.experimentId, stage, s.executionAttempt⟩
    let started ← h.append (.executionStarted request) (key (.executionStarted fidelity))
      (some (s.nextExecutionCause.getD s.checked.event.eventId)) {}
    let round : Round :=
      { state := { s with nextRequestTemplate := none, nextExecutionCause := none }
        request
        fidelity }
    match ← Program.attempt (runner request) with
    | .error error => h.executionFailed fuel spec proposal round started error
    | .ok result =>
      let finished ← h.append (.executionFinished result) (key (.executionFinished fidelity))
        (some started.eventId) result.resourceDelta
      if ← h.stopIfRuntimeBudgetExhausted then
        return .inr .state
      else if result.outcome ≠ .success then
        h.executionUnsuccessful fuel spec proposal round finished
      else
        h.outputStage fuel spec proposal round finished result

/-! ### The lane of a proposal -/

/-- `ContextBuilder.build_coder`, with the role and the experiment that it writes down. -/
def coderContext : Lane ContextDocument := do
  let context ← Program.ofExcept ((h.buildCoder (← events) spec).mapError .internal)
  return { context with role := .coder, experimentId := some spec.experimentId }

/-- The first patch of an experiment with the event that caused it; the coder is retried once. -/
def initialPatch : Lane (Option (PatchCandidate × EventId)) := do
  let x := spec.experimentId
  let context ← h.coderContext spec
  let contextEvent ← h.append (.contextCreated context) ⟨x, .coderContext, 1⟩ (some proposal) {}
  match ← Program.attempt (codingWorker x) with
  | .ok patch => return some (patch, contextEvent.eventId)
  | .error error =>
    let failure ← h.recordAdapterFailure x 1 .coding error (some contextEvent.eventId)
    let recovery ← h.recover failure x
    if recovery.decision.action ≠ .retrySameCommit then
      return none
    else
      match ← Program.attempt (codingWorker x) with
      | .ok patch => return some (patch, recovery.event.eventId)
      | .error retryError =>
        let retryFailure ← h.recordAdapterFailure x 2 .coding retryError
          (some recovery.event.eventId)
        let _ ← h.recover retryFailure x
        return none

/-- Record the first gate check of a patch. -/
def appendCheck (patch : PatchCandidate) (check : PatchCheckResult) (causationEventId : EventId) :
    Lane (Option CheckedPatch) := do
  let event ← h.append (.patchChecked check) ⟨spec.experimentId, .patchChecked, patch.attempt⟩
    (some causationEventId) check.resourceDelta
  return some { patch, check, event }

/-- The first gate check, retried once after a failure of the gate itself. -/
def initialCheck (patch : PatchCandidate) (patchEvent : Event) : Lane (Option CheckedPatch) := do
  let x := spec.experimentId
  match ← Program.attempt (patchGate patch) with
  | .ok check => h.appendCheck spec patch check patchEvent.eventId
  | .error error =>
    let failure ← h.recordAdapterFailure x patch.attempt .patchGate error (some patchEvent.eventId)
    let recovery ← h.recover failure x
    if recovery.decision.action = .retrySameCommit then
      match ← Program.attempt (patchGate patch) with
      | .ok check => h.appendCheck spec patch check recovery.event.eventId
      | .error retryError =>
        let retryFailure ← h.recordAdapterFailure x patch.attempt .patchGate retryError
          (some recovery.event.eventId)
        let retry ← h.recover retryFailure x
        if retry.decision.action.isCodeRecovery then
          return some (← h.executeCodeRepair retry proposal)
        else
          return none
    else if recovery.decision.action.isCodeRecovery then
      return some (← h.executeCodeRepair recovery proposal)
    else
      h.stop ⟨"PATCH_GATE_FAILURE",
        "The patch gate adapter failed; recovery recorded " ++ recovery.decision.action.value ++
          " and the run was stopped safely."⟩
      return none

/-- `while not patch_check.accepted`. -/
def gateLoop : CheckedPatch → Lane (Option CheckedPatch) :=
  Program.loop (fun checked => do
    if checked.check.accepted then
      return .inr (some checked)
    else
      let recovery ← h.recover checked.event spec.experimentId
      if recovery.decision.action.isCodeRecovery = false then
        return .inr none
      else
        let repaired ← h.executeCodeRepair recovery proposal
        if ← h.stopIfRuntimeBudgetExhausted then
          return .inr none
        else
          return .inl repaired) fuel

/-- `_run_one_experiment` up to the point where it returns. -/
def developExperiment : Lane Exit := do
  match ← h.initialPatch spec proposal with
  | none => return .state
  | some (candidate, causationEventId) =>
    let patch := { candidate with experimentSpecEventId := proposal }
    let patchEvent ← h.append (.patchCreated patch)
      ⟨spec.experimentId, .patchCreated, patch.attempt⟩ (some causationEventId) patch.resourceDelta
    if ← h.stopIfRuntimeBudgetExhausted then
      return .state
    else
      match ← h.initialCheck spec proposal patch patchEvent with
      | none => return .state
      | some checked =>
        match ← h.gateLoop fuel spec proposal checked with
        | none => return .state
        | some checked =>
          Program.loop (h.fidelityRound fuel spec proposal) fuel
            { checked, stageQueue := spec.fidelityPlan }

/-- The terminal decision of `_abandon_experiment`. -/
def abandonDecision (fidelity : Fidelity) (reasonCode : String) : ExperimentDecision :=
  { experimentId := spec.experimentId
    evaluationEventId := none
    decision := .invalid
    reasonCode
    fidelityCompleted := fidelity
    parentEligible := false
    bestEligible := false
    nextFidelity := none
    validatePromotion := ⟨by simp, by simp⟩ }

/-- `_abandon_experiment`. -/
def abandonExperiment (attempt : Nat) (fidelity : Fidelity) (causationEventId : EventId)
    (reasonCode : String) : Lane Unit := do
  if hasTerminalDecision (← events) spec.experimentId then
    return ()
  else
    let _ ← h.append (.experimentDecided (abandonDecision spec fidelity reasonCode))
      ⟨spec.experimentId, .decisionAbandoned, attempt⟩ (some causationEventId) {}

/-- `_run_one_experiment` of a prepared proposal. -/
def runExperiment : Lane Unit := do
  match ← h.developExperiment fuel spec proposal with
  | .state => return ()
  | .abandon attempt fidelity causationEventId reasonCode =>
    h.abandonExperiment spec attempt fidelity causationEventId reasonCode

/-- The stop of a broken control plane. -/
def controlPlaneFailure (reason : String) : StopDecision :=
  ⟨"RECOVERY_CONTROL_PLANE_FAILURE", reason⟩

/-- `_lane_closed_safely`. -/
def laneClosedSafely (experimentId : String) : Lane Bool := do
  return ((← state).experiments.get? experimentId).any (·.status.safeTerminal)

/-- `_handle_unexpected_adapter_failure`. -/
def handleUnexpectedAdapterFailure (error : RouterError) : Lane Unit := do
  if error.controlPlane then
    h.stop (controlPlaneFailure
      "The recovery control plane failed; the run was stopped fail-closed.")
  else
    let current ← state
    match current.activeExperimentId.filter fun x => (current.experiments.get? x).isSome with
    | none =>
      h.stop ⟨"ORCHESTRATOR_ADAPTER_FAILURE",
        "The orchestration adapter failed before an experiment could be recovered."⟩
    | some x =>
      let ledger ← events
      let stage := adapterFailureStage ledger x
      let failure ← h.recordAdapterFailure x (current.activeAttempt.getD 1) stage error
        (ledger.getLast?.map Event.eventId)
      let recovery ← h.recover failure x
      unless ← laneClosedSafely x do
        h.stop ⟨"ADAPTER_FAILURE_" ++ recovery.decision.action.value.toUpper,
          "The " ++ stage.value ++ " adapter failed; recovery recorded " ++
            recovery.decision.action.value ++ " and the run was stopped safely."⟩

/-- `run_one_experiment` of a prepared proposal: the lane with the handlers of a sequential run. -/
def runOneExperiment : Lane Unit := do
  match ← Program.attempt (h.runExperiment fuel spec proposal) with
  | .ok () => return ()
  | .error (.repairWorkerUnavailable action _) =>
    if action = .returnToPlanner then
      return ()
    else
      let active := (← state).activeExperimentId
      let closed ← match active with
        | some x => laneClosedSafely x
        | none => pure false
      unless closed do
        h.stop ⟨"ADAPTER_FAILURE_" ++ action.value.toUpper,
          "The coding repair adapter failed; recovery recorded " ++ action.value ++
            " and the run was stopped safely."⟩
  | .error error =>
    match ← Program.attempt (h.handleUnexpectedAdapterFailure error) with
    | .ok () => return ()
    | .error _ => h.stop (controlPlaneFailure
        "Recovery could not safely record an adapter failure; the run was stopped.")

/-- `_run_parallel_lane`: the lane with the handler of a parallel round. The round stops the run
after all its lanes have ended. -/
def runParallelLane : Lane Unit := do
  let x := spec.experimentId
  match ← Program.attempt (h.runExperiment fuel spec proposal) with
  | .ok () => return ()
  | .error error =>
    if error.controlPlane then
      Program.raise error
    else
      match (← state).experiments.get? x with
      | none => Program.raise (.python (.keyError x))
      | some node =>
        let ledger ← events
        let cause := Log.lastSome (fun event =>
          if event.payload.owner = some x then some event.eventId else none) ledger
        let failure ← h.recordAdapterFailure x node.attemptCount (adapterFailureStage ledger x) error
          cause
        let _ ← h.recover failure x
        let _ ← laneClosedSafely x
        return ()

end Loop
end Harness
end TacoRank
