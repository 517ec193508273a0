import Mathlib.Algebra.Order.Ring.Rat

/-!
# Event schemas

The part of `schemas.py` that the orchestration layer reads: the closed vocabularies, the results
that cross an adapter boundary, the 23 event payloads and the event envelope. A pydantic model with
a validator is a structure whose last fields state what the validator checked, so an ill-formed
value cannot be built.

Opaque strings (commit hashes, digests, receipts, experiment ids) stay strings. `Event.validate_envelope`
ties `event_id` to `evt_%06d` of `seq`, so an event id is its sequence number. Finite floats are
rationals. A field `details` stands for the canonical JSON of the fields that no function of the
development reads; it only takes part in comparisons of whole payloads.
-/

namespace TacoRank

/-- Event ids `evt_%06d` are identified with their sequence number. -/
abbrev EventId := Nat

/-- `TokenMeasurement`. -/
inductive TokenMeasurement where
  | provider | estimated | none
deriving DecidableEq, Repr

/-- `Fidelity`. -/
inductive Fidelity where
  | smoke | proxy | full | final
deriving DecidableEq, Repr

/-- The order `{SMOKE: 0, PROXY: 1, FULL: 2}` used by the fidelity checks; `final` has no key. -/
def Fidelity.order : Fidelity → Option Nat
  | .smoke => some 0
  | .proxy => some 1
  | .full => some 2
  | .final => none

/-- `PlannerAction`. -/
inductive PlannerAction where
  | propose | recommendStop | blocked
deriving DecidableEq, Repr

/-- `RunOutcome`. -/
inductive RunOutcome where
  | success | codeError | interfaceError | contractError | numericalError | oom | timeout | hang
  | infrastructureError | cancelled
deriving DecidableEq, Repr

/-- `RecoveryAction`. -/
inductive RecoveryAction where
  | traeRepair | restartFromTrustedParent | retrySameCommit | adjustApprovedRuntimeSetting
  | returnToPlanner | rollback | abandon
deriving DecidableEq, Repr

/-- `Population`. -/
inductive Population where
  | internalProxy | publicValidation | unbiasedAudit | hiddenFinal
deriving DecidableEq, Repr

/-- `TrustVerdict`. -/
inductive TrustVerdict where
  | accepted | inconclusive | negative | noOp | suspicious | redundant
deriving DecidableEq, Repr

/-- `Stability`. -/
inductive Stability where
  | singleSeed | confirmed | unstable | notApplicable
deriving DecidableEq, Repr

/-- `Integrity`. -/
inductive Integrity where
  | clean | compromised | inconclusive
deriving DecidableEq, Repr

/-- `ExperimentDecisionKind`. -/
inductive ExperimentDecisionKind where
  | promote | accept | reject | prune | invalid
deriving DecidableEq, Repr

/-- `LessonOrigin`. -/
inductive LessonOrigin where
  | operational | research
deriving DecidableEq, Repr

/-- `LessonCategory`. -/
inductive LessonCategory where
  | researchResult | resourceConstraint | implementationConstraint | integrityWarning | processRule
deriving DecidableEq, Repr

/-- `LessonStatus`. -/
inductive LessonStatus where
  | active | superseded | stale | rejected
deriving DecidableEq, Repr

/-- The roles of a `ContextDocument`. -/
inductive ContextRole where
  | planner | coder | recovery
deriving DecidableEq, Repr

/-- The `failure_stage` literals of `AdapterFailureResult`. -/
inductive FailureStage where
  | coding | patchGate | execution | outputGate | evaluation | recovery
deriving DecidableEq, Repr

/-- `ArtifactRef`. -/
structure ArtifactRef where
  artifactId : String
  path : String
  sha256 : String
  sizeBytes : Nat
deriving DecidableEq, Repr

/-- `ResourceDelta`. -/
structure ResourceDelta where
  llmInputTokens : Nat := 0
  llmOutputTokens : Nat := 0
  tokenMeasurement : TokenMeasurement := .none
  wallTimeMs : Nat := 0
  cpuTimeMs : Nat := 0
  gpuTimeMs : Nat := 0
  gpuCount : Nat := 0
  peakRssMb : Option Nat := none
  peakGpuMemoryMb : Option Nat := none
  manualInterventions : Nat := 0
deriving DecidableEq, Repr

/-- `MetricSet`. -/
structure MetricSet (R : Type := ℚ) where
  metrics : List (String × R)
  primaryMetricName : String
  primaryScore : R
deriving DecidableEq

/-- `LessonCandidate`. -/
structure LessonCandidate where
  origin : LessonOrigin
  category : LessonCategory
  tags : List String
  summary : String
  sourceEventIds : List EventId
  sourceCommitShas : List String
  details : String := ""
deriving DecidableEq, Repr

/-- `ContextDocument`; the context id is the digest of the document, and the limit is that of a coder context. -/
structure ContextDocument where
  contextId : String
  role : ContextRole
  experimentId : Option String
  wallTimeLimitSeconds : Nat := 1800
deriving DecidableEq, Repr

/-- `PlanningFailureResult`. -/
structure PlanningFailureResult where
  contextId : String
  errorClass : String
  errorFingerprint : String
  details : String := ""
deriving DecidableEq, Repr

/-- `ResearchProposal`. -/
structure ResearchProposal where
  experimentId : String
  parentExperimentId : Option String
  parentCommitSha : String
  contextId : String
  hypothesis : String
  family : String
  evidenceEventIds : List EventId
  duplicateKey : String
  details : String := ""
deriving DecidableEq, Repr

/-- The strictly increasing plans accepted by `ExperimentSpec.validate_fidelity_plan`. -/
def fidelityPlanValid : List Fidelity → Bool
  | [] => false
  | [_] => true
  | previous :: current :: rest =>
    (match previous.order, current.order with
      | some p, some c => decide (p < c)
      | _, _ => false) && fidelityPlanValid (current :: rest)

/-- `ExperimentSpec`. -/
structure ExperimentSpec extends ResearchProposal where
  fidelityPlan : List Fidelity
  validateFidelityPlan : fidelityPlanValid fidelityPlan = true
deriving DecidableEq, Repr

/-- `PlannerOutput`. -/
structure PlannerOutput where
  action : PlannerAction
  spec : Option ResearchProposal
  reasonCode : String
  validateActionSpec : action = .propose ↔ spec.isSome = true
deriving DecidableEq, Repr

/-- `PatchCandidate`. -/
structure PatchCandidate where
  experimentId : String
  attempt : Nat
  experimentSpecEventId : EventId
  contextId : String
  patchCommitSha : String
  diffSha256 : String
  resourceDelta : ResourceDelta := {}
  details : String := ""
deriving DecidableEq, Repr

/-- `PatchCheckResult`; a receipt is issued exactly for an accepted check. -/
structure PatchCheckResult where
  experimentId : String
  attempt : Nat
  patchCommitSha : String
  diffSha256 : String
  accepted : Bool
  receiptId : Option String
  resourceDelta : ResourceDelta := {}
  details : String := ""
  validateReceipt : accepted = true ↔ receiptId.getD "" ≠ ""
deriving DecidableEq, Repr

/-- A value of `runtime_settings` and `runtime_adjustments`. -/
inductive RuntimeValue where
  | int (value : Int)
  | bool (value : Bool)
  | str (value : String)
deriving DecidableEq, Repr

/-- `RunRequest`. -/
structure RunRequest where
  experimentId : String
  attempt : Nat
  fidelity : Fidelity
  commandId : String
  patchCommitSha : String
  patchReceiptId : String
  seed : Int
  dataManifestSha256 : String := ""
  timeoutSeconds : Nat := 600
  memoryLimitMb : Nat := 10240
  gpuMemoryLimitMb : Nat := 0
  networkEnabled : Bool := false
  runtimeSettings : List (String × RuntimeValue) := []
deriving DecidableEq, Repr

/-- `RunResult`; a successful run has a prediction artifact. -/
structure RunResult where
  experimentId : String
  attempt : Nat
  fidelity : Fidelity
  patchCommitSha : String
  outcome : RunOutcome
  errorFingerprint : Option String := none
  predictionArtifact : Option ArtifactRef
  resourceDelta : ResourceDelta := {}
  details : String := ""
  validateOutcomeArtifacts : outcome = .success → predictionArtifact.isSome = true
deriving DecidableEq, Repr

/-- `AdapterFailureResult`. -/
structure AdapterFailureResult where
  experimentId : String
  attempt : Nat
  failureStage : FailureStage
  outcome : RunOutcome
  errorClass : String
  errorFingerprint : String
  errorSummary : String
  resourceDelta : ResourceDelta := {}
  details : String := ""
  validateFailure : outcome ≠ .success ∧ outcome ≠ .cancelled
deriving DecidableEq, Repr

/-- `OutputCheckResult`. -/
structure OutputCheckResult where
  experimentId : String
  attempt : Nat
  predictionArtifact : ArtifactRef
  accepted : Bool
  resourceDelta : ResourceDelta := {}
  details : String := ""
deriving DecidableEq, Repr

/-- `RecoveryDecision`; the adjustments are the one setting of an adjustment decision. -/
structure RecoveryDecision where
  experimentId : String
  failureEventId : EventId
  repairAttempt : Nat
  action : RecoveryAction
  reasonCode : String
  instructions : String
  sameErrorCount : Nat
  remainingRepairBudget : Nat
  runtimeAdjustments : List (String × RuntimeValue) := []
  lessonCandidate : Option LessonCandidate := none
  resourceDelta : ResourceDelta := {}
  validateActionAdjustment :
    runtimeAdjustments.length = if action = .adjustApprovedRuntimeSetting then 1 else 0
deriving DecidableEq, Repr

/-- `TrustAssessment`. -/
structure TrustAssessment where
  verdict : TrustVerdict
  stability : Stability
  integrity : Integrity
  flags : List String := []
  etaApplied : Option ℚ := none
  seedMean : Option ℚ := none
  seedStderr : Option ℚ := none
  seedCount : Nat := 1
  validateConsistency :
    (integrity = .compromised → verdict = .suspicious) ∧
    (verdict = .noOp → stability = .notApplicable) ∧
    seedMean.isSome = seedStderr.isSome ∧
    (seedMean.isSome = true → 2 ≤ seedCount)
deriving DecidableEq

/-- The fields of `EvaluationResult`. -/
structure EvaluationFields where
  experimentId : String
  attempt : Nat
  population : Population
  fidelity : Fidelity
  seed : Int
  publicQueryIndex : Option Nat
  evaluatorSha256 : String
  contractSha256 : String
  metricSet : MetricSet
  parentDelta : Option ℚ := none
  previousBestDelta : Option ℚ := none
  trust : TrustAssessment
  seedEvidenceEventIds : List EventId := []
  resourceDelta : ResourceDelta := {}
  details : String := ""
deriving DecidableEq

/-- `EvaluationResult.validate_evaluation_route` and `validate_seed_events`. -/
def EvaluationFields.RouteValid (r : EvaluationFields) : Prop :=
  (r.population = .publicValidation → r.fidelity = .full ∧ r.publicQueryIndex.isSome = true) ∧
  (r.population ≠ .publicValidation → r.publicQueryIndex = none) ∧
  (r.population = .internalProxy → r.fidelity = .proxy) ∧
  (r.population = .unbiasedAudit → r.fidelity = .full) ∧
  (r.population = .hiddenFinal → r.fidelity = .final) ∧
  (r.experimentId ≠ "baseline" →
    r.trust.seedCount = r.seedEvidenceEventIds.length + 1 ∧
    (r.trust.stability = .confirmed ∨ r.trust.stability = .unstable →
      2 ≤ r.trust.seedCount ∧ r.trust.seedMean.isSome = true ∧ r.trust.seedStderr.isSome = true)) ∧
  r.seedEvidenceEventIds.Nodup

instance (r : EvaluationFields) : Decidable r.RouteValid :=
  inferInstanceAs (Decidable (_ ∧ _))

/-- `EvaluationResult`. -/
structure EvaluationResult extends EvaluationFields where
  validateEvaluationRoute : toEvaluationFields.RouteValid
deriving DecidableEq

/-- `ExperimentDecision`. -/
structure ExperimentDecision where
  experimentId : String
  evaluationEventId : Option EventId
  decision : ExperimentDecisionKind
  reasonCode : String
  fidelityCompleted : Fidelity
  parentEligible : Bool
  bestEligible : Bool
  nextFidelity : Option Fidelity
  supportingEventIds : List EventId := []
  lessonCandidate : Option LessonCandidate := none
  resourceDelta : ResourceDelta := {}
  validatePromotion :
    (decision = .promote ↔ nextFidelity.isSome = true) ∧
    (bestEligible = true → fidelityCompleted = .full)
deriving DecidableEq, Repr

/-- `RunStartedPayload`. -/
structure RunStarted where
  maxExperiments : Nat
  parallelDirections : Nat := 1
  synthesizeParallelImprovements : Bool := true
  wallTimeLimitSeconds : Nat
  tokenLimit : Option Nat := none
  gpuSecondsLimit : Option Nat := none
  maxRepairsPerExperiment : Nat := 2
  maxConfirmationAttempts : Nat := 2
  seedSchedule : List Int
  convergenceEpsilon : ℚ := 2 / 1000
  convergencePatience : Nat := 3
  details : String := ""
deriving DecidableEq

/-- `ContractVerifiedPayload`. -/
structure ContractVerified where
  contractSha256 : String
  evaluatorSha256 : String
  details : String := ""
deriving DecidableEq, Repr

/-- `BaselineVerifiedPayload`. -/
structure BaselineVerified where
  experimentId : String := "baseline"
  commitSha : String
  metricSet : MetricSet
  evaluation : EvaluationResult
deriving DecidableEq

/-- `BestUpdatedPayload`. -/
structure BestUpdated where
  experimentId : String
  commitSha : String
  primaryMetricName : String
  primaryScore : ℚ
  decisionEventId : EventId
deriving DecidableEq

/-- `FinalSelectedPayload`. -/
structure FinalSelected where
  experimentId : String
  commitSha : String
  reproductionEvaluationEventId : EventId
deriving DecidableEq, Repr

/-- `SubmissionCheckedPayload`. -/
structure SubmissionChecked where
  accepted : Bool
  submissionArtifact : ArtifactRef
  details : String := ""
deriving DecidableEq, Repr

/-- `PlannerRecommendedPayload`: a planner output without a proposal. -/
structure PlannerRecommended where
  output : PlannerOutput
  rejectProposal : output.action ≠ .propose
deriving DecidableEq, Repr

/-- `EventType`. -/
inductive EventType where
  | runStarted | contractVerified | baselineVerified | contextCreated | plannerRecommended
  | planningFailed | experimentProposed | patchCreated | patchChecked | executionStarted
  | executionFinished | adapterFailed | recoveryDecided | outputChecked | evaluationCompleted
  | experimentDecided | bestUpdated | lessonRecorded | lessonStatusChanged | manualIntervention
  | runStopped | finalSelected | submissionChecked
deriving DecidableEq, Repr

/-- `EventPayload`, discriminated by its event type. -/
inductive EventPayload where
  | runStarted (payload : RunStarted)
  | contractVerified (payload : ContractVerified)
  | baselineVerified (payload : BaselineVerified)
  | contextCreated (context : ContextDocument)
  | plannerRecommended (payload : PlannerRecommended)
  | planningFailed (result : PlanningFailureResult)
  | experimentProposed (spec : ExperimentSpec)
  | patchCreated (candidate : PatchCandidate)
  | patchChecked (result : PatchCheckResult)
  | executionStarted (request : RunRequest)
  | executionFinished (result : RunResult)
  | adapterFailed (result : AdapterFailureResult)
  | recoveryDecided (decision : RecoveryDecision)
  | outputChecked (result : OutputCheckResult)
  | evaluationCompleted (result : EvaluationResult)
  | experimentDecided (decision : ExperimentDecision)
  | bestUpdated (payload : BestUpdated)
  | lessonRecorded (lessonId : String) (candidate : LessonCandidate)
  | lessonStatusChanged (lessonId : String) (status : LessonStatus) (reason : String)
  | manualIntervention (reason : String) (actor : String)
  | runStopped (reasonCode : String) (reason : String)
  | finalSelected (payload : FinalSelected)
  | submissionChecked (payload : SubmissionChecked)
deriving DecidableEq

/-- The discriminator `payload.type`. -/
def EventPayload.type : EventPayload → EventType
  | .runStarted _ => .runStarted
  | .contractVerified _ => .contractVerified
  | .baselineVerified _ => .baselineVerified
  | .contextCreated _ => .contextCreated
  | .plannerRecommended _ => .plannerRecommended
  | .planningFailed _ => .planningFailed
  | .experimentProposed _ => .experimentProposed
  | .patchCreated _ => .patchCreated
  | .patchChecked _ => .patchChecked
  | .executionStarted _ => .executionStarted
  | .executionFinished _ => .executionFinished
  | .adapterFailed _ => .adapterFailed
  | .recoveryDecided _ => .recoveryDecided
  | .outputChecked _ => .outputChecked
  | .evaluationCompleted _ => .evaluationCompleted
  | .experimentDecided _ => .experimentDecided
  | .bestUpdated _ => .bestUpdated
  | .lessonRecorded _ _ => .lessonRecorded
  | .lessonStatusChanged _ _ _ => .lessonStatusChanged
  | .manualIntervention _ _ => .manualIntervention
  | .runStopped _ _ => .runStopped
  | .finalSelected _ => .finalSelected
  | .submissionChecked _ => .submissionChecked

/-- The `stage` texts of the router's idempotency keys; a text with a format argument is a constructor
with that argument. -/
inductive Stage where
  | started | contractVerified | baselineVerified | stopped
  | plannerContext | parallelPlannerContext | synthesisPlannerContext | plannerRecommended
  | planningFailed | proposed | parallelProposed | synthesisProposed
  | coderContext | patchCreated | patchChecked
  | adapterFailed (stage : FailureStage)
  | recoveryContext | recoveryDecided | recoveryLessonRecorded
  | repairPatchCreated | trustedParentRestartPatchCreated | repairPatchChecked
  | executionStarted (fidelity : Fidelity) | executionFinished (fidelity : Fidelity)
  | outputChecked (fidelity : Fidelity) | evaluation (fidelity : Fidelity)
  | decisionSmoke | decision (fidelity : Fidelity) | decisionAbandoned
  | lessonRecorded | bestUpdated
  | finalStarted (commandId : String) | finalFinished (commandId : String)
  | finalOutputChecked (commandId : String) | finalReproductionEvaluated
  | finalSelected | submissionChecked
deriving DecidableEq, Repr

/-- The part of an idempotency key `run:experiment:stage:attempt:sha256` before the payload digest. -/
structure EventKey where
  experimentId : String
  stage : Stage
  attempt : Nat
deriving DecidableEq, Repr

/-- `Event`: the envelope around a payload. Timestamps count microseconds. -/
structure Event where
  eventId : EventId
  timestamp : Int := 0
  runId : String := ""
  key : EventKey
  causationEventId : Option EventId
  payload : EventPayload
  resourceDelta : ResourceDelta := {}
deriving DecidableEq

end TacoRank
