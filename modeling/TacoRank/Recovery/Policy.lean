import TacoRank.Text
import TacoRank.Config
import TacoRank.Orchestrator.StateMachine

/-!
# The recovery policy

Port of `recovery/policy.py` with the parts of `classifier.py`, `runtime_adjustments.py`,
`self_debug.py` and `operational_reflection.py` that it uses. `RecoveryManager.decide` maps a
classified failure and the context the router built to one `RecoveryDecision`; the guarded returns of
`_route` are grouped into definitions that return nothing when none of their guards holds, tried in
the order of the source.

The policy reads no part of a failure but its classification, so the laws hold for every
classification, whatever the classifier computes.
-/

namespace TacoRank

/-- `failure_class` of a classification. -/
inductive FailureClass where
  | codeError | interfaceError | contractError | numericalError | oom | timeout | hang
  | infrastructureError | outputContract | noOp
deriving DecidableEq, Repr

/-- The text of a failure class. -/
def FailureClass.name : FailureClass → String
  | .codeError => "code_error"
  | .interfaceError => "interface_error"
  | .contractError => "contract_error"
  | .numericalError => "numerical_error"
  | .oom => "oom"
  | .timeout => "timeout"
  | .hang => "hang"
  | .infrastructureError => "infrastructure_error"
  | .outputContract => "output_contract"
  | .noOp => "no_op"

/-- `owner` of a classification. -/
inductive FailureOwner where
  | codingWorker | patchGate | executionRunner | outputGate | evaluator | recoveryControlPlane
  | solutionVerifier | operator
deriving DecidableEq, Repr

/-- The text of an owner. -/
def FailureOwner.name : FailureOwner → String
  | .codingWorker => "coding_worker"
  | .patchGate => "patch_gate"
  | .executionRunner => "execution_runner"
  | .outputGate => "output_gate"
  | .evaluator => "evaluator"
  | .recoveryControlPlane => "recovery_control_plane"
  | .solutionVerifier => "solution_verifier"
  | .operator => "operator"

/-- `FailureClassification`. -/
structure FailureClassification where
  failureClass : FailureClass
  reasonCode : String
  fingerprint : String
  evidence : String
  deliberateIntegrityViolation : Bool := false
  madeProgress : Bool := false
  transientCodingFailure : Bool := false
  diskQuotaFailure : Bool := false
  owner : FailureOwner := .codingWorker
  ownerRetryable : Bool := false
  traeRepairable : Bool := false
  controlPlaneFailure : Bool := false
  candidateIntegrityViolation : Bool := false
deriving DecidableEq, Repr

/-- An entry of `attempt_history`. -/
structure AttemptRecord where
  failureEventId : EventId
  action : RecoveryAction
  reasonCode : String
  repairAttempt : Nat
  remainingRepairBudget : Nat
  runtimeAdjustments : List (String × RuntimeValue) := []
deriving DecidableEq, Repr

/-- `_RUNTIME_ADJUSTMENT_KEYS` and `APPROVED_ADJUSTMENTS`. -/
def approvedAdjustments : List String :=
  ["batch_size", "num_workers", "mixed_precision", "timeout_profile"]

/-- `_valid_value`. -/
def validValue (name : String) : RuntimeValue → Bool
  | .int value => name = "batch_size" ∧ 0 < value ∨ name = "num_workers" ∧ 0 ≤ value
  | .bool _ => name = "mixed_precision"
  | .str value => name = "timeout_profile" ∧ stripChars isPythonSpace value.toList ≠ []

/-- `_validate_runtime_mapping`. -/
def validRuntimeMapping (values : List (String × RuntimeValue)) : Bool :=
  values.all fun (name, value) => name ∈ approvedAdjustments ∧ validValue name value = true

/-- `RecoveryPolicyContext`. The texts of the specification that only the instructions quote are
fields of their own. -/
structure RecoveryPolicyContext where
  experimentId : String
  originalExperimentSpec : ExperimentSpec
  expectedMechanism : String
  targetFiles : List String
  currentPatchCommitSha : String
  failureEventId : EventId
  failureStage : FailureStage
  attemptHistory : List AttemptRecord
  repairAttemptsUsed : Nat
  maxRepairAttempts : Nat
  sameCommitRetriesUsed : Nat
  remainingRepairBudget : Nat
  previousErrorFingerprints : List String
  remainingRunBudget : List (String × Int)
  allowedRuntimeAdjustments : List (String × ApprovedAdjustment)
  currentRuntimeSettings : List (String × RuntimeValue)
  validateCommit : NonEmpty currentPatchCommitSha
  validateLimits : maxRepairAttempts ≤ 2 ∧ sameCommitRetriesUsed ≤ 2
  validateRepairBudget : (remainingRepairBudget : Int) = maxRepairAttempts - repairAttemptsUsed

/-- The fields of a `LessonCandidate`. -/
structure LessonFields where
  origin : LessonOrigin
  category : LessonCategory
  tags : List String
  summary : String
  applicability : String
  avoidWhen : Option String
  confidence : ℚ
  sourceEventIds : List EventId
  sourceCommitShas : List String
deriving DecidableEq

/-- The schema of `LessonCandidate`. -/
def LessonFields.Valid (lesson : LessonFields) : Prop :=
  (∀ tag ∈ lesson.tags, NonEmpty tag) ∧ NonEmpty lesson.summary ∧ NonEmpty lesson.applicability ∧
    0 ≤ lesson.confidence ∧ lesson.confidence ≤ 1 ∧ ∀ sha ∈ lesson.sourceCommitShas, NonEmpty sha

instance (lesson : LessonFields) : Decidable lesson.Valid := inferInstanceAs (Decidable (_ ∧ _))

/-- The texts that Python renders: `repr` of a setting, and the canonical JSON that stands for the
fields of a lesson kept in `details`. -/
structure Rendering where
  repr : RuntimeValue → String
  details : LessonFields → String

/-- The `LessonCandidate` with these fields. -/
def LessonFields.candidate (render : Rendering) (lesson : LessonFields) : LessonCandidate :=
  { origin := lesson.origin
    category := lesson.category
    tags := lesson.tags
    summary := lesson.summary
    sourceEventIds := lesson.sourceEventIds
    sourceCommitShas := lesson.sourceCommitShas
    details := render.details lesson }

/-- The keyword arguments of `RecoveryDecision`. -/
structure RecoveryFields where
  experimentId : String
  failureEventId : EventId
  repairAttempt : Nat
  action : RecoveryAction
  reasonCode : String
  instructions : String
  sameErrorCount : Nat
  remainingRepairBudget : Int
  runtimeAdjustments : List (String × RuntimeValue)
  lessonCandidate : Option LessonFields

/-- The schema of `RecoveryDecision`. -/
def RecoveryFields.Valid (fields : RecoveryFields) : Prop :=
  1 ≤ fields.repairAttempt ∧ NonEmpty fields.reasonCode ∧ NonEmpty fields.instructions ∧
    0 ≤ fields.remainingRepairBudget ∧ validRuntimeMapping fields.runtimeAdjustments = true ∧
    fields.runtimeAdjustments.length =
      (if fields.action = .adjustApprovedRuntimeSetting then 1 else 0) ∧
    ∀ lesson ∈ fields.lessonCandidate, lesson.Valid

instance (fields : RecoveryFields) : Decidable fields.Valid := inferInstanceAs (Decidable (_ ∧ _))

/-- Construct a `RecoveryDecision`, or raise the validation error of the schema. -/
def RecoveryFields.decision (render : Rendering) (fields : RecoveryFields) :
    Except PyError RecoveryDecision :=
  if valid : fields.Valid then
    .ok
      { experimentId := fields.experimentId
        failureEventId := fields.failureEventId
        repairAttempt := fields.repairAttempt
        action := fields.action
        reasonCode := fields.reasonCode
        instructions := fields.instructions
        sameErrorCount := fields.sameErrorCount
        remainingRepairBudget := fields.remainingRepairBudget.toNat
        runtimeAdjustments := fields.runtimeAdjustments
        lessonCandidate := fields.lessonCandidate.map (LessonFields.candidate render)
        validateActionAdjustment := valid.2.2.2.2.2.1 }
  else
    .error (.valueError "recovery decision is not schema-valid")

/-! ### Instructions -/

/-- `_spec_summary`. -/
def specSummary (context : RecoveryPolicyContext) : String :=
  context.originalExperimentSpec.hypothesis ++
    if context.expectedMechanism = "" then "" else "; expected mechanism: " ++ context.expectedMechanism

/-- `evidence or default`. -/
def evidenceOr (failure : FailureClassification) (default : String) : String :=
  if failure.evidence = "" then default else failure.evidence

/-- `check` of `build_self_debug_instructions`. -/
def FailureClass.successCheck : FailureClass → String
  | .outputContract => "the existing Gate B output-contract checks"
  | .noOp => "the existing wiring smoke test and a non-identical prediction check"
  | .contractError => "Gate A"
  | _ => "the previously failing smoke or execution check"

/-- `targets` of `build_self_debug_instructions`. -/
def selfDebugTargets (context : RecoveryPolicyContext) : String :=
  if context.targetFiles = [] then "only the candidate files implicated by the failure"
  else String.intercalate ", " context.targetFiles

/-- `build_self_debug_instructions`. -/
def buildSelfDebugInstructions (failure : FailureClassification) (context : RecoveryPolicyContext)
    (repairAttempt : Nat) (remainingBudget : Int) : String :=
  let commit := context.currentPatchCommitSha
  let targets := selfDebugTargets context
  let check := failure.failureClass.successCheck
  let previous :=
    if context.attemptHistory = [] then ""
    else " Previous failed outcomes: " ++ toString context.attemptHistory.length ++ "."
  let attempts := toString repairAttempt ++ " of " ++ toString context.maxRepairAttempts ++ "; " ++
    toString remainingBudget ++ " repair attempt(s) remain after this decision."
  if failure.failureClass = .noOp then
    "The original hypothesis remains: " ++ specSummary context ++ ". Do not change " ++
    "that hypothesis or its expected mechanism. The accepted candidate is " ++
    "commit " ++ commit ++ ", and verified evaluation found unchanged predictions " ++
    "(" ++ evidenceOr failure "NO_PREDICTION_CHANGE" ++ "). Treat this as a " ++
    "bounded implementation/wiring check, not proof that the research " ++
    "hypothesis is false." ++ previous ++ " Inspect only " ++ targets ++ ", starting with the " ++
    "current diff and the path from the intended mechanism to the emitted " ++
    "score. Do not survey setup files, packaging, documentation, or unrelated " ++
    "modules. Before editing, emit `DIAGNOSIS:`, `REPAIR_PLAN:`, and " ++
    "`VERIFICATION:` lines. Make the smallest justified edit, then call " ++
    "task_done. You cannot execute code: your tools are the editor and " ++
    "task_done, and TacoRank runs " ++ check ++ " for you after you finish. State " ++
    "under `VERIFICATION:` what that run should show; do not keep editing " ++
    "in search of confirmation you have no way to obtain, and do not spend " ++
    "the step budget without calling task_done, which discards the attempt " ++
    "entirely. Preserve the supplied contract and protected paths. This is " ++
    "repair attempt " ++ attempts
  else
    "The original hypothesis remains: " ++ specSummary context ++
    ". Do not change that hypothesis or its " ++
    "expected mechanism. The exact accepted patch is commit " ++ commit ++ ". Failure class " ++
    failure.failureClass.name ++ " has fingerprint " ++ failure.fingerprint ++ "; evidence: " ++
    evidenceOr failure "no additional safe trace text" ++ "." ++ previous ++
    " First explain the fault " ++
    "briefly. Before invoking any edit tool, emit `DIAGNOSIS:`, `REPAIR_PLAN:`, and " ++
    "`VERIFICATION:` lines in the trajectory, then patch " ++ targets ++
    ". Preserve the supplied contract and protected paths; do not edit protected evaluators, data " ++
    "loaders, contracts, or command configuration, then call task_done. You " ++
    "cannot execute code: your tools are the editor and task_done, and TacoRank " ++
    "runs " ++ check ++ " for you after you finish, so make the smallest edit that should " ++
    "make it pass and stop. Spending the step budget without calling task_done " ++
    "discards the attempt entirely. This is repair attempt " ++ attempts

/-- `previous_error_fingerprints.count(fingerprint)`. -/
def priorErrors (failure : FailureClassification) (context : RecoveryPolicyContext) : Nat :=
  context.previousErrorFingerprints.count failure.fingerprint

/-- The lesson of `build_operational_lesson`, before the evidence is cited. -/
def operationalLesson (failure : FailureClassification) (repeated : Bool) : Option LessonFields :=
  let lesson category tags summary applicability avoidWhen confidence : LessonFields :=
    { origin := .operational, category, tags, summary, applicability, avoidWhen := some avoidWhen
      confidence, sourceEventIds := [], sourceCommitShas := [] }
  if failure.diskQuotaFailure then
    some <| lesson .resourceConstraint ["storage", "quota"]
      "The execution exhausted its reviewed output quota or available storage."
      "The current runtime, artifact filesystem, and output quota."
      "Do not retry until storage is reclaimed or a fresh runtime with sufficient quota is selected."
      (98 / 100)
  else if failure.failureClass = .oom ∧ repeated then
    some <| lesson .resourceConstraint ["memory", "oom"]
      "The configured execution profile exhausted memory on two attempts."
      "The current data, patch, and resource profile."
      "Avoid the same or larger memory footprint without an approved lower-memory setting."
      (95 / 100)
  else if failure.failureClass = .noOp ∧ repeated then
    some <| lesson .implementationConstraint ["wiring", "no_op"]
      "The accepted change produced unchanged predictions after focused wiring recovery."
      "This implementation path and configuration-consumption boundary."
      "Do not treat the underlying research hypothesis as falsified until wiring is verified."
      (9 / 10)
  else if failure.failureClass = .hang ∧ repeated then
    some <| lesson .processRule ["hang", "heartbeat"]
      "The same execution profile repeatedly stopped making observable progress."
      "The current command and heartbeat profile."
      "Do not reuse this profile until its progress signal or process behavior is corrected."
      (9 / 10)
  else if failure.deliberateIntegrityViolation then
    some <| lesson .integrityWarning ["contract", "protected_boundary"]
      "Execution attempted access forbidden by the protected contract."
      "All candidate patches under the frozen competition contract."
      "Never access hidden labels, secrets, credentials, or protected evaluator behavior."
      (99 / 100)
  else
    none

/-- `build_operational_lesson`. -/
def buildOperationalLesson (failure : FailureClassification) (context : RecoveryPolicyContext)
    (exhausted : Bool) (failureEventId : EventId) : Option LessonFields :=
  if ¬ exhausted ∧ ¬ failure.deliberateIntegrityViolation then
    none
  else
    (operationalLesson failure (1 ≤ priorErrors failure context)).map fun lesson =>
      { lesson with
        sourceEventIds := [failureEventId]
        sourceCommitShas :=
          if context.currentPatchCommitSha = "" then [] else [context.currentPatchCommitSha] }

/-! ### Routing -/

/-- `preference` of `select_runtime_adjustment`. -/
def FailureClass.preference : FailureClass → List String
  | .oom => ["batch_size", "num_workers", "mixed_precision"]
  | .numericalError => ["mixed_precision"]
  | .timeout => ["timeout_profile"]
  | _ => []

/-- `select_runtime_adjustment`. -/
def selectRuntimeAdjustment (failureClass : FailureClass) (context : RecoveryPolicyContext) :
    Option (String × RuntimeValue) :=
  failureClass.preference.findSome? fun name =>
    if name ∈ approvedAdjustments then
      match (context.allowedRuntimeAdjustments.lookup name).bind ApprovedAdjustment.approved with
      | some value =>
        if validValue name value = true ∧ context.currentRuntimeSettings.lookup name ≠ some value ∧
            ¬ context.attemptHistory.any fun item =>
              item.action = .adjustApprovedRuntimeSetting ∧
              item.runtimeAdjustments.lookup name = some value then
          some (name, value)
        else
          none
      | none => none
    else
      none

/-- The result of `_route`. -/
structure Route where
  action : RecoveryAction
  reason : String
  instructions : String
  adjustments : List (String × RuntimeValue) := []

section Route
variable (render : Rendering) (failure : FailureClassification) (context : RecoveryPolicyContext)
  (sameCount : Nat)

/-- The returns of `_route` for integrity violations and exhausted storage. -/
def routeIntegrity : Option Route :=
  if failure.candidateIntegrityViolation then
    if 2 ≤ sameCount ∨ context.remainingRepairBudget = 0 then
      some
        { action := .abandon
          reason := "CANDIDATE_INTEGRITY_RETRY_EXHAUSTED"
          instructions :=
            "Abandon only this experiment: the clean coding restart " ++
            "was exhausted. Preserve the violation evidence and return " ++
            "control to planning; do not weaken a safety gate." }
    else
      some
        { action := .restartFromTrustedParent
          reason := "CANDIDATE_INTEGRITY_CLEAN_RESTART"
          instructions :=
            buildSelfDebugInstructions failure context (context.repairAttemptsUsed + 1)
              (context.remainingRepairBudget - 1) ++
            "\nDiscard the rejected candidate completely and restart from " ++
            "the declared trusted parent commit. Treat the cited integrity " ++
            "finding as a hard constraint. Do not edit, bypass, or weaken " ++
            "Gate A, Gate B, protected paths, data policy, network policy, " ++
            "or contract checks." }
  else if failure.deliberateIntegrityViolation then
    some
      { action := .abandon
        reason := "INTEGRITY_VIOLATION"
        instructions := "Abandon: the failure crosses a protected integrity boundary." }
  else if failure.diskQuotaFailure then
    some
      { action := .abandon
        reason := "DISK_QUOTA_EXHAUSTED"
        instructions :=
          "Abandon: storage or the reviewed output quota is exhausted; " ++
          "free space or use a new runtime." }
  else
    none

/-- The return of `_route` for an exhausted run budget. -/
def routeBudget : Option Route :=
  match context.remainingRunBudget.find? fun (_, value) => value ≤ 0 with
  | some (dimension, _) =>
    some
      { action := .abandon
        reason := "RUN_" ++ dimension.toUpper ++ "_BUDGET_EXHAUSTED"
        instructions := "Abandon: the frozen " ++ dimension ++ " run budget is exhausted." }
  | none => none

/-- The returns of `_route` for failures that no repair of the candidate can address. -/
def routeControlPlane : Option Route :=
  if failure.controlPlaneFailure then
    some
      { action := .abandon
        reason := "CONTROL_PLANE_INVARIANT_FAILURE"
        instructions :=
          "Stop experiment recovery: the failure belongs to " ++ failure.owner.name ++ " and may " ++
          "indicate inconsistent safety or orchestration evidence. Preserve " ++
          "the artifacts for operator review; do not ask Trae to edit " ++
          "candidate code." }
  else if failure.owner = .solutionVerifier ∧ ¬ failure.ownerRetryable then
    some
      { action := .abandon
        reason := "SOLUTION_VERIFIER_RETRY_EXHAUSTED"
        instructions :=
          "Abandon this experiment: the solution verifier exhausted its " ++
          "own bounded protocol/provider retries. Preserve the candidate " ++
          "trajectory and verifier diagnostics; do not rerun Trae or ask " ++
          "it to change code without a valid verifier finding." }
  else
    none

/-- The returns of `_route` for unchanged predictions and for their repair. -/
def routeNoOp : Option Route :=
  if failure.failureClass = .noOp then
    if 2 ≤ sameCount ∨ context.remainingRepairBudget = 0 then
      some
        { action := .returnToPlanner
          reason := "NO_OP_RECOVERY_EXHAUSTED"
          instructions :=
            "The bounded no-op repair did not change predictions; return " ++
            "the recorded evidence to the research planner." }
    else
      some
        { action := .traeRepair
          reason := "REPAIRABLE_NO_OP_WIRING"
          instructions := buildSelfDebugInstructions failure context (context.repairAttemptsUsed + 1)
            (context.remainingRepairBudget - 1) }
  else if context.failureStage = .coding ∧ context.attemptHistory.any fun item =>
      item.action = .traeRepair ∧ item.reasonCode = "REPAIRABLE_NO_OP_WIRING" then
    some
      { action := .returnToPlanner
        reason := "NO_OP_REPAIR_WORKER_EXHAUSTED"
        instructions :=
          "The bounded no-op repair worker did not produce a valid " ++
          "replacement patch; preserve both records and return the " ++
          "unchanged-prediction evidence to the research planner." }
  else
    none

/-- The returns of `_route` for a retry by the owner of the failure. -/
def routeOwnerRetry : Option Route :=
  if failure.ownerRetryable then
    if 2 ≤ sameCount ∨ 1 ≤ context.sameCommitRetriesUsed then
      some
        { action := .abandon
          reason := failure.owner.name.toUpper ++ "_RETRY_EXHAUSTED"
          instructions :=
            "Abandon: the one bounded retry of " ++ failure.owner.name ++ " is exhausted; preserve " ++
            "the candidate and failure evidence without asking Trae to " ++
            "change code." }
    else
      some
        { action := .retrySameCommit
          reason := "TRANSIENT_" ++ failure.owner.name.toUpper ++ "_RETRY"
          instructions :=
            if failure.owner = .codingWorker then
              "Retry the same coding assignment once. Give Trae this exact " ++
              "diagnostic: " ++ evidenceOr failure failure.reasonCode ++
              ". Ask it to state DIAGNOSIS, REPAIR_PLAN, and " ++
              "VERIFICATION, then produce the smallest valid candidate " ++
              "patch without changing the accepted hypothesis or protected " ++
              "contract."
            else
              "Retry only the " ++ failure.owner.name ++ " stage once against the same immutable " ++
              "inputs. The owner must correct or reissue its response using " ++
              "this diagnostic: " ++ evidenceOr failure failure.reasonCode ++
              ". Preserve the candidate; do not ask Trae " ++
              "to edit code unless a later valid result identifies a " ++
              "candidate defect." }
  else
    none

/-- The two returns for a same-commit retry. -/
def sameCommitRetry : Route :=
  if context.sameCommitRetriesUsed < maxSameCommitRetries then
    { action := .retrySameCommit
      reason := "TRANSIENT_SAME_COMMIT_RETRY"
      instructions := "Retry the exact sealed commit once with identical settings." }
  else
    { action := .abandon
      reason := "SAME_COMMIT_RETRY_EXHAUSTED"
      instructions := "Abandon: the bounded same-commit retries are exhausted." }

/-- The returns of `_route` for transient, repeated and coding failures. -/
def routeRepeated : Option Route :=
  if failure.failureClass = .infrastructureError ∨ failure.failureClass = .hang then
    some (sameCommitRetry context)
  else if 2 ≤ sameCount then
    some
      { action := .abandon
        reason := "REPEATED_ERROR_FINGERPRINT"
        instructions := "Abandon: the same locally normalized failure occurred twice." }
  else if context.failureStage = .coding then
    some
      { action := .abandon
        reason := "CODING_WORKER_FAILURE"
        instructions := "Abandon: the coding worker did not produce a valid patch candidate." }
  else
    none

/-- The returns of `_route` for failures of the execution profile. -/
def routeRuntime : Option Route :=
  match selectRuntimeAdjustment failure.failureClass context with
  | some (name, value) =>
    some
      { action := .adjustApprovedRuntimeSetting
        reason := "APPROVED_" ++ name.toUpper ++ "_ADJUSTMENT"
        instructions :=
          "Apply approved runtime adjustment " ++ name ++ "=" ++ render.repr value ++
          "; do not alter command text."
        adjustments := [(name, value)] }
  | none =>
    if failure.failureClass = .oom then
      some
        { action := .rollback
          reason := "OOM_NO_APPROVED_ADJUSTMENT"
          instructions := "Rollback: no legal lower-memory setting is available." }
    else if failure.failureClass = .timeout ∧ failure.madeProgress then
      some (sameCommitRetry context)
    else if failure.failureClass = .timeout then
      some
        { action := .abandon
          reason := "TIMEOUT_WITHOUT_PROGRESS"
          instructions := "Abandon: timeout evidence does not show reliable progress." }
    else
      none

/-- The last returns of `_route`: a repair of the code, if there is budget for it. -/
def routeRepair : Route :=
  if context.remainingRepairBudget = 0 then
    { action := .abandon
      reason := "REPAIR_BUDGET_EXHAUSTED"
      instructions := "Abandon: the code-repair budget has been consumed." }
  else if ¬ failure.traeRepairable then
    { action := .abandon
      reason := "OWNER_REPAIR_UNAVAILABLE"
      instructions :=
        "Abandon: the failure belongs to " ++ failure.owner.name ++ " and contains no validated " ++
        "candidate-code defect for Trae to repair." }
  else
    { action := .traeRepair
      reason := "REPAIRABLE_" ++ failure.reasonCode
      instructions := buildSelfDebugInstructions failure context (context.repairAttemptsUsed + 1)
        (context.remainingRepairBudget - 1) }

/-- `RecoveryManager._route`. -/
def route : Route :=
  (routeIntegrity failure context sameCount).or (routeBudget context) |>.or
    (routeControlPlane failure) |>.or
    (routeNoOp failure context sameCount) |>.or
    (routeOwnerRetry failure context sameCount) |>.or
    (routeRepeated failure context sameCount) |>.or
    (routeRuntime render failure context) |>.getD
    (routeRepair failure context)

end Route

/-- The decision that `RecoveryManager.decide` writes down for a route. -/
def recoveryFields (failureEventId : EventId) (failure : FailureClassification)
    (context : RecoveryPolicyContext) (chosen : Route) : RecoveryFields :=
  { experimentId := context.experimentId
    failureEventId
    repairAttempt :=
      min (max 1 (context.repairAttemptsUsed + 1))
        (max 1 (min maxRepairAttempts context.maxRepairAttempts))
    action := chosen.action
    reasonCode := chosen.reason
    instructions := chosen.instructions
    sameErrorCount := priorErrors failure context + 1
    remainingRepairBudget :=
      context.remainingRepairBudget -
        if chosen.action = .traeRepair ∨ chosen.action = .restartFromTrustedParent then 1 else 0
    runtimeAdjustments := chosen.adjustments
    lessonCandidate :=
      buildOperationalLesson failure context (chosen.action = .abandon) failureEventId }

/-- `RecoveryManager.decide` on a classified failure. -/
def decideRecovery (render : Rendering) (failureEventId : EventId) (failure : FailureClassification)
    (context : RecoveryPolicyContext) : Except PyError RecoveryDecision :=
  if context.failureEventId ≠ failureEventId then
    .error (.valueError "recovery context cites a different failure event")
  else
    let chosen := route render failure context (priorErrors failure context + 1)
    (recoveryFields failureEventId failure context chosen).decision render

end TacoRank
