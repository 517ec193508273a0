import TacoRank.Orchestrator.Ledger

/-!
# Scenarios

Builders for concrete ledgers: `record` numbers a list of payloads the way `EventStore.append` does,
and the remaining definitions fill in the payloads of one experiment. The development uses them to
run the state machine on the event orders in which its guards fall short.
-/

namespace TacoRank.Scenario

/-- Number payloads, given with their causes, the way `EventStore.append` does. -/
def record (entries : List (Option EventId × EventPayload)) : List Event :=
  entries.mapIdx fun i (cause, payload) =>
    { eventId := i + 1
      key := { experimentId := payload.experiment.getD "", stage := .started, attempt := i }
      causationEventId := cause
      payload }

/-- The contract of the scenarios. -/
def contract (maxConfirmationAttempts : Nat) : RunStarted :=
  { maxExperiments := 10
    wallTimeLimitSeconds := 3600
    maxConfirmationAttempts
    seedSchedule := [0, 1, 2, 3] }

/-- A metric set with one metric. -/
def metrics (score : ℚ) : MetricSet :=
  { metrics := [("auc", score)], primaryMetricName := "auc", primaryScore := score }

/-- Trust in a single seed. -/
def singleSeed : TrustAssessment where
  verdict := .accepted
  stability := .singleSeed
  integrity := .clean
  validateConsistency := by decide

/-- Trust in two seeds. -/
def confirmed : TrustAssessment where
  verdict := .accepted
  stability := .confirmed
  integrity := .clean
  seedMean := some 0
  seedStderr := some 0
  seedCount := 2
  validateConsistency := by decide

/-- The baseline evaluation. -/
def baselineEvaluation : EvaluationResult where
  experimentId := "baseline"
  attempt := 1
  population := .publicValidation
  fidelity := .full
  seed := 0
  publicQueryIndex := some 1
  evaluatorSha256 := "evaluator"
  contractSha256 := "contract"
  metricSet := metrics (1 / 2)
  trust := singleSeed
  validateEvaluationRoute := by decide

/-- The proposal of an experiment. -/
def spec (x : String) : ExperimentSpec where
  experimentId := x
  parentExperimentId := none
  parentCommitSha := "trusted"
  contextId := "planner"
  hypothesis := "hypothesis"
  family := "family"
  evidenceEventIds := []
  duplicateKey := x
  fidelityPlan := [.full]
  validateFidelityPlan := rfl

/-- The first six events of a run with one proposal. -/
def proposal (maxConfirmationAttempts : Nat) (x : String) : List (Option EventId × EventPayload) :=
  [ (none, .runStarted (contract maxConfirmationAttempts)),
    (some 1, .contractVerified { contractSha256 := "contract", evaluatorSha256 := "evaluator" }),
    (some 2, .baselineVerified
      { commitSha := "trusted", metricSet := metrics (1 / 2), evaluation := baselineEvaluation }),
    (some 3, .contextCreated { contextId := "planner", role := .planner, experimentId := none }),
    (some 4, .experimentProposed (spec x)),
    (some 5, .contextCreated { contextId := "coder", role := .coder, experimentId := some x }) ]

/-- `patch.created`. -/
def patch (x : String) (attempt : Nat) (commit : String) : EventPayload :=
  .patchCreated
    { experimentId := x, attempt, experimentSpecEventId := 5, contextId := "coder"
      patchCommitSha := commit, diffSha256 := commit }

/-- `patch.checked` with a receipt for the commit. -/
def gatePassed (x : String) (attempt : Nat) (commit : String) : EventPayload :=
  .patchChecked
    { experimentId := x, attempt, patchCommitSha := commit, diffSha256 := commit
      accepted := true, receiptId := some ("receipt-" ++ commit)
      validateReceipt := by
        simp only [Option.getD_some, true_iff]
        intro h
        have length := congrArg String.length h
        rw [String.length_append] at length
        have : "receipt-".length = 8 := rfl
        have : "".length = 0 := rfl
        omega }

/-- `patch.checked` without a receipt. -/
def gateRejected (x : String) (attempt : Nat) (commit : String) : EventPayload :=
  .patchChecked
    { experimentId := x, attempt, patchCommitSha := commit, diffSha256 := commit
      accepted := false, receiptId := none, validateReceipt := by decide }

/-- The request that runs a commit at full fidelity. -/
def request (x : String) (attempt : Nat) (commit : String) (seed : Int) : RunRequest :=
  { experimentId := x, attempt, fidelity := .full, commandId := "train", patchCommitSha := commit
    patchReceiptId := "receipt-" ++ commit, seed }

/-- The prediction of an attempt. -/
def prediction (attempt : Nat) : ArtifactRef :=
  { artifactId := "prediction-" ++ toString attempt, path := "prediction", sha256 := "prediction"
    sizeBytes := 1 }

/-- `execution.finished` with success. -/
def finished (x : String) (attempt : Nat) (commit : String) : EventPayload :=
  .executionFinished
    { experimentId := x, attempt, fidelity := .full, patchCommitSha := commit, outcome := .success
      predictionArtifact := some (prediction attempt), validateOutcomeArtifacts := fun _ => rfl }

/-- `execution.finished` with a code error. -/
def crashed (x : String) (attempt : Nat) (commit : String) : EventPayload :=
  .executionFinished
    { experimentId := x, attempt, fidelity := .full, patchCommitSha := commit
      outcome := .codeError, predictionArtifact := none, validateOutcomeArtifacts := by decide }

/-- `adapter.failed`. -/
def failed (x : String) (attempt : Nat) (stage : FailureStage) : EventPayload :=
  .adapterFailed
    { experimentId := x, attempt, failureStage := stage, outcome := .infrastructureError
      errorClass := "RuntimeError", errorFingerprint := "fingerprint", errorSummary := "failed"
      validateFailure := by decide }

/-- `recovery.decided`. -/
def recovery (x : String) (failure : EventId) (repairAttempt remaining : Nat)
    (action : RecoveryAction) : EventPayload :=
  .recoveryDecided
    { experimentId := x, failureEventId := failure, repairAttempt, action
      reasonCode := "POLICY", instructions := "", sameErrorCount := 1
      remainingRepairBudget := remaining
      runtimeAdjustments :=
        if action = .adjustApprovedRuntimeSetting then [("batch_size", .int 256)] else []
      validateActionAdjustment := by split <;> rfl }

/-- `output.checked` that accepts the prediction of the attempt. -/
def outputPassed (x : String) (attempt : Nat) : EventPayload :=
  .outputChecked
    { experimentId := x, attempt, predictionArtifact := prediction attempt, accepted := true }

/-- A public full evaluation on a single seed. -/
def evaluation (x : String) (attempt : Nat) (seed : Int) (queryIndex : Nat) (score : ℚ) :
    EventPayload :=
  .evaluationCompleted
    { experimentId := x, attempt, population := .publicValidation, fidelity := .full, seed
      publicQueryIndex := some queryIndex, evaluatorSha256 := "evaluator"
      contractSha256 := "contract", metricSet := metrics score, trust := singleSeed
      validateEvaluationRoute := by simp [EvaluationFields.RouteValid, singleSeed] }

/-- Trust in an evaluation whose predictions are those of the parent. -/
def noOp : TrustAssessment where
  verdict := .noOp
  stability := .notApplicable
  integrity := .clean
  validateConsistency := by decide

/-- A public full evaluation of unchanged predictions. -/
def noOpEvaluation (x : String) (attempt : Nat) (seed : Int) (queryIndex : Nat) (score : ℚ) :
    EventPayload :=
  .evaluationCompleted
    { experimentId := x, attempt, population := .publicValidation, fidelity := .full, seed
      publicQueryIndex := some queryIndex, evaluatorSha256 := "evaluator"
      contractSha256 := "contract", metricSet := metrics score, trust := noOp
      validateEvaluationRoute := by simp [EvaluationFields.RouteValid, noOp] }

/-- A public full evaluation confirmed by one earlier evaluation. -/
def confirmation (x : String) (attempt : Nat) (seed : Int) (queryIndex : Nat) (score : ℚ)
    (evidence : EventId) : EventPayload :=
  .evaluationCompleted
    { experimentId := x, attempt, population := .publicValidation, fidelity := .full, seed
      publicQueryIndex := some queryIndex, evaluatorSha256 := "evaluator"
      contractSha256 := "contract", metricSet := metrics score, trust := confirmed
      seedEvidenceEventIds := [evidence]
      validateEvaluationRoute := by simp [EvaluationFields.RouteValid, confirmed] }

/-- The decision that asks for another seed. -/
def confirm (x : String) (evaluationEventId : EventId) : EventPayload :=
  .experimentDecided
    { experimentId := x, evaluationEventId := some evaluationEventId, decision := .promote
      reasonCode := "CONFIRMATION_REQUIRED", fidelityCompleted := .full, parentEligible := false
      bestEligible := false, nextFidelity := some .full, validatePromotion := by decide }

/-- The best-eligible acceptance. -/
def accept (x : String) (evaluationEventId : EventId) : EventPayload :=
  .experimentDecided
    { experimentId := x, evaluationEventId := some evaluationEventId, decision := .accept
      reasonCode := "ACCEPTED", fidelityCompleted := .full, parentEligible := true
      bestEligible := true, nextFidelity := none, validatePromotion := by decide }

/-- `best.updated`. -/
def best (x : String) (commit : String) (score : ℚ) (decisionEventId : EventId) : EventPayload :=
  .bestUpdated
    { experimentId := x, commitSha := commit, primaryMetricName := "auc", primaryScore := score
      decisionEventId }

end TacoRank.Scenario
