import TacoRank.Accounting
import TacoRank.Lib.Dict

/-!
# Derived run state

Port of `orchestrator/state.py`: the records that the reducer of `memory/projections.py` derives
from the ledger. Durations derived from timestamps count microseconds.
-/

namespace TacoRank

/-- `RunStatus`. -/
inductive RunStatus where
  | initializing | ready | running | stopped | finalizing | finalized | failed
deriving DecidableEq, Repr

/-- `ExperimentStatus`. -/
inductive ExperimentStatus where
  | proposed | patchReady | readyToRun | running | outputReady | outputVerified | evaluated
  | recovering | noOp | accepted | rejected | pruned | invalid
deriving DecidableEq, Repr

/-- The values of `RunState.phase`; `context role` is the text `<role>_context`. -/
inductive Phase where
  | notStarted | contractVerification | baseline | planning | context (role : ContextRole)
  | coding | patchGate | execution | recovery | running | outputGate | evaluation | decision
  | planningFailure | stopped | failed | submission | finalized
deriving DecidableEq, Repr

/-- `ExperimentNode`. -/
structure ExperimentNode where
  experimentId : String
  parentExperimentId : Option String
  hypothesis : String
  family : String
  baseCommitSha : String
  latestCommitSha : Option String := none
  attemptCount : Nat := 0
  repairCount : Nat := 0
  sameCommitRetryCount : Nat := 0
  confirmationCount : Nat := 0
  highestFidelity : Option Fidelity := none
  status : ExperimentStatus := .proposed
  metricSet : Option MetricSet := none
  trust : Option TrustAssessment := none
  bestEligible : Bool := false
  terminalEventId : Option EventId := none
  duplicateKey : String := ""
  lastErrorFingerprint : Option String := none
  evidenceEventIds : List EventId := []
deriving DecidableEq

/-- `LessonView`. -/
structure LessonView where
  lessonId : String
  status : LessonStatus
  summary : String
  tags : List String
  sourceEventId : EventId
deriving DecidableEq, Repr

/-- `RunState`. -/
structure RunState where
  runId : Option String := none
  status : RunStatus := .initializing
  phase : Phase := .notStarted
  activeExperimentId : Option String := none
  activeAttempt : Option Nat := none
  activeFidelity : Option Fidelity := none
  bestExperimentId : Option String := none
  bestCommitSha : Option String := none
  bestPrimaryScore : Option ℚ := none
  baselinePrimaryScore : Option ℚ := none
  experimentsProposed : Nat := 0
  fullEvaluationsCompleted : Nat := 0
  publicValidationQueries : Nat := 0
  consecutiveNonImprovingFullEvaluations : Nat := 0
  convergenceEpsilon : ℚ := 2 / 1000
  convergencePatience : Nat := 3
  maxExperiments : Nat := 0
  parallelDirections : Nat := 1
  synthesizeParallelImprovements : Bool := true
  wallTimeLimitSeconds : Nat := 0
  tokenLimit : Option Nat := none
  gpuSecondsLimit : Option Nat := none
  maxRepairsPerExperiment : Nat := 2
  maxConfirmationAttempts : Nat := 2
  seedSchedule : List Int := []
  experiments : Lib.Dict String ExperimentNode := .empty
  lessons : Lib.Dict String LessonView := .empty
  resourceTotals : ResourceTotals := {}
  manualInterventionCount : Nat := 0
  startedAt : Option Int := none
  lastEventAt : Option Int := none
  elapsedWallTime : Int := 0
  lastEventId : Option EventId := none
  stopReasonCode : Option String := none
  finalExperimentId : Option String := none
deriving DecidableEq

end TacoRank
