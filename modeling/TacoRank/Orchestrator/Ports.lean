import TacoRank.Config
import TacoRank.Lib.Program
import TacoRank.Memory.EventStore

/-!
# Adapter ports

The calls of the harness to its adapters (`orchestrator/ports.py`). What an adapter answers is the
next turn of a script, and while the harness waits the other lanes append to the ledger. Every
adapter answers for the experiment it was asked about, so the answers are recorded under the
identity of the question; the rest of an answer is arbitrary.
-/

namespace TacoRank
open Lib

/-- What `_record_adapter_failure` reads off an exception. -/
structure AdapterError where
  errorClass : String
  errorSummary : String
  resourceDelta : ResourceDelta := {}
  details : String := ""
deriving DecidableEq, Repr

/-- The exceptions that travel through the harness. Those that no handler names are `adapter` when an
adapter raised them, and `internal` when the code of the harness or its context builder did. -/
inductive RouterError where
  | python (error : PyError)
  | orchestrationError (message : String)
  | internal (error : AdapterError)
  | adapter (error : AdapterError)
  | repairWorkerUnavailable (action : RecoveryAction) (cause : String)
deriving DecidableEq, Repr

/-- `isinstance(error, (LedgerError, TransitionError, OrchestrationError, AssertionError))`. -/
def RouterError.controlPlane : RouterError → Bool
  | .python (.transitionError _) | .python (.ledgerError _) | .orchestrationError _ => true
  | _ => false

/-- The class name and the text of an exception. -/
def RouterError.describe : RouterError → AdapterError
  | .python (.transitionError message) => ⟨"TransitionError", message, {}, ""⟩
  | .python (.valueError message) => ⟨"ValueError", message, {}, ""⟩
  | .python (.keyError key) => ⟨"KeyError", key, {}, ""⟩
  | .python (.indexError message) => ⟨"IndexError", message, {}, ""⟩
  | .python (.attributeError message) => ⟨"AttributeError", message, {}, ""⟩
  | .python (.ledgerError message) => ⟨"LedgerError", message, {}, ""⟩
  | .python (.overflowError message) => ⟨"OverflowError", message, {}, ""⟩
  | .orchestrationError message => ⟨"OrchestrationError", message, {}, ""⟩
  | .internal error | .adapter error => error
  | .repairWorkerUnavailable _ cause => ⟨"_RepairWorkerUnavailable", cause, {}, ""⟩

/-- `RecoveryContext`. -/
structure RecoveryContext extends ContextDocument where
  repairAttempt : Nat

/-- What `RecoveryManager._route` and the lesson builder contribute to a recovery decision. -/
structure RecoveryRuling where
  action : RecoveryAction
  reasonCode : String
  instructions : String := ""
  sameErrorCount : Nat := 1
  runtimeAdjustments : List (String × RuntimeValue) := []
  lessonCandidate : Option LessonCandidate := none
  resourceDelta : ResourceDelta := {}
  validateActionAdjustment :
    runtimeAdjustments.length = if action = .adjustApprovedRuntimeSetting then 1 else 0

/-- `EvaluationRequest`. -/
structure EvaluationRequest where
  experimentId : String
  attempt : Nat
  outputCheckedEventId : EventId
  predictionArtifact : ArtifactRef
  population : Population
  fidelity : Fidelity
  seed : Int
  contractSha256 : String
  evaluatorSha256 : String
  baselineSummary : List (String × ℚ)
  parentSummary : List (String × ℚ)
  previousBestSummary : List (String × ℚ)
  publicQueryIndex : Option Nat

/-- What the evaluator contributes to an evaluation result. -/
structure EvaluationReport where
  metricSet : MetricSet
  parentDelta : Option ℚ := none
  previousBestDelta : Option ℚ := none
  trust : TrustAssessment
  seedEvidenceEventIds : List EventId := []
  resourceDelta : ResourceDelta := {}
  details : String := ""

/-- The fields of the result of an evaluation request. -/
def EvaluationRequest.fields (request : EvaluationRequest) (report : EvaluationReport) :
    EvaluationFields :=
  { experimentId := request.experimentId
    attempt := request.attempt
    population := request.population
    fidelity := request.fidelity
    seed := request.seed
    publicQueryIndex := request.publicQueryIndex
    evaluatorSha256 := request.evaluatorSha256
    contractSha256 := request.contractSha256
    metricSet := report.metricSet
    parentDelta := report.parentDelta
    previousBestDelta := report.previousBestDelta
    trust := report.trust
    seedEvidenceEventIds := report.seedEvidenceEventIds
    resourceDelta := report.resourceDelta
    details := report.details }

/-- The answers of the adapters; any of them may raise instead. -/
inductive Answer where
  | raised (error : RouterError)
  | patch (candidate : PatchCandidate)
  | check (result : PatchCheckResult)
  | execution (result : RunResult)
  | output (result : OutputCheckResult)
  | evaluation (report : EvaluationReport)
  | decision (decision : ExperimentDecision)
  | recovery (ruling : RecoveryRuling)

/-- A part of the harness that runs on one lane. -/
abbrev Lane : Type → Type := Program Event Submission Answer RouterError

/-- What another lane appends while this one waits; a rejected submission appends nothing. -/
def interfere (events : List Event) (s : Submission) : List Event :=
  match EventStore.append events s with
  | .ok (_, events') => events'
  | .error _ => events

/-- Await an adapter. -/
def call {α : Type} (answer : Answer → Option (Except RouterError α)) : Lane α :=
  Program.await interfere answer

/-- `CodingWorker.create_patch`, `repair_patch` and `restart_from_trusted_parent`. -/
def codingWorker (experimentId : String) : Lane PatchCandidate :=
  call fun
    | .patch candidate => some (.ok { candidate with experimentId })
    | .raised error => some (.error error)
    | _ => none

/-- `PatchGate.check`. -/
def patchGate (candidate : PatchCandidate) : Lane PatchCheckResult :=
  call fun
    | .check result => some (.ok { result with experimentId := candidate.experimentId })
    | .raised error => some (.error error)
    | _ => none

/-- `ExecutionRunner.run`. -/
def runner (request : RunRequest) : Lane RunResult :=
  call fun
    | .execution result => some (.ok { result with experimentId := request.experimentId })
    | .raised error => some (.error error)
    | _ => none

/-- `OutputGate.check`. -/
def outputGate (result : RunResult) : Lane OutputCheckResult :=
  call fun
    | .output output => some (.ok { output with experimentId := result.experimentId })
    | .raised error => some (.error error)
    | _ => none

/-- `Evaluator.evaluate`; a result that violates its schema cannot be built. -/
def evaluator (request : EvaluationRequest) : Lane EvaluationResult :=
  call fun
    | .evaluation report =>
      if valid : (request.fields report).RouteValid then
        some (.ok { request.fields report with validateEvaluationRoute := valid })
      else
        some (.error (.adapter
          ⟨"ValidationError", "evaluation result is not schema-valid", {}, ""⟩))
    | .raised error => some (.error error)
    | _ => none

/-- `Evaluator.decide`. -/
def decider (evaluation : EvaluationResult) : Lane ExperimentDecision :=
  call fun
    | .decision decision => some (.ok { decision with experimentId := evaluation.experimentId })
    | .raised error => some (.error error)
    | _ => none

/-- `RecoveryManager.decide` on a failure event, with the ruling of its `_route`. -/
def recoveryManager (experimentId : String) (failureEventId : EventId)
    (maxRepairs repairCount remaining : Nat) : Lane RecoveryDecision :=
  call fun
    | .recovery ruling =>
      if ruling.action.consumesRepair ∧ remaining = 0 then
        some (.error (.adapter
          ⟨"ValidationError", "remaining_repair_budget must not be negative", {}, ""⟩))
      else
        some (.ok {
          experimentId
          failureEventId
          repairAttempt := min (max 1 (repairCount + 1)) (max 1 (min maxRepairAttempts maxRepairs))
          action := ruling.action
          reasonCode := ruling.reasonCode
          instructions := ruling.instructions
          sameErrorCount := ruling.sameErrorCount
          remainingRepairBudget := remaining - ruling.action.consumesRepair.toNat
          runtimeAdjustments := ruling.runtimeAdjustments
          lessonCandidate := ruling.lessonCandidate
          resourceDelta := ruling.resourceDelta
          validateActionAdjustment := ruling.validateActionAdjustment })
    | .raised error => some (.error error)
    | _ => none

end TacoRank
