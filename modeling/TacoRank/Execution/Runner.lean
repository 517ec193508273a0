import TacoRank.Execution.Artifacts
import TacoRank.Lib.Transcript
import TacoRank.Sre.Observer
import TacoRank.Text
import Mathlib.Algebra.Order.Floor.Ring
import Mathlib.Data.Rat.Floor

/-!
# The execution runner

`execution/runner.py`: one execution of a reviewed command, from the lease of its worktree to its `RunResult`. The
runner is a dialogue with the seal verifier, the sandbox, the process, the observer and the artifact store, any of
which may raise any exception at any time. Times are rational numbers of seconds; texts that only end up in messages
are parameters.
-/

namespace TacoRank.Execution
open Lib Lib.Result

/-- The exceptions of an execution. Those that no handler names are `other`, with the name of their class; `noSpace`
says that the error is an `OSError` for a full disk. -/
inductive ExecutionError where
  | invalidRunRequest (message : String)
  | executionAuthorizationError (message : String)
  | commandPolicyError (message : String)
  | sandboxPolicyError (message : String)
  | processLaunchError (message : String)
  | outputQuotaExceeded (message : String)
  | diskSpaceExhausted (message : String)
  | other (name message : String) (noSpace : Bool)
deriving DecidableEq, Repr

namespace ExecutionError

/-- `type(error).__name__`. -/
def typeName : ExecutionError → String
  | invalidRunRequest _ => "InvalidRunRequest"
  | executionAuthorizationError _ => "ExecutionAuthorizationError"
  | commandPolicyError _ => "CommandPolicyError"
  | sandboxPolicyError _ => "SandboxPolicyError"
  | processLaunchError _ => "ProcessLaunchError"
  | outputQuotaExceeded _ => "OutputQuotaExceeded"
  | diskSpaceExhausted _ => "DiskSpaceExhausted"
  | other name _ _ => name

/-- `str(error)`. -/
def message : ExecutionError → String
  | invalidRunRequest message | executionAuthorizationError message | commandPolicyError message
  | sandboxPolicyError message | processLaunchError message | outputQuotaExceeded message
  | diskSpaceExhausted message | other _ message _ => message

/-- `isinstance(error, ProcessLaunchError)`. -/
def isProcessLaunchError : ExecutionError → Bool
  | processLaunchError _ | outputQuotaExceeded _ | diskSpaceExhausted _ => true
  | _ => false

/-- `isinstance(error, (ExecutionAuthorizationError, CommandPolicyError, SandboxPolicyError))`. -/
def isPolicyError : ExecutionError → Bool
  | executionAuthorizationError _ | commandPolicyError _ | sandboxPolicyError _ => true
  | _ => false

/-- `summary`, followed by the text of the error if it has one. -/
def detailed (error : ExecutionError) (summary middle : String) : String :=
  let detail := String.ofList (stripChars isPythonSpace error.message.toList)
  if detail = "" then summary else summary ++ middle ++ detail

end ExecutionError

/-- `RunnerPolicy`, with the checks of `__post_init__`. -/
structure RunnerPolicy where
  maxTimeoutSeconds : ℚ := 24 * 60 * 60
  maxMemoryLimitMb : Nat := 1024 * 1024
  maxGpuMemoryLimitMb : Nat := 1024 * 1024
  diskFreeFloorMb : Int := 128
  maxLogBytes : Int := 16 * 1024 * 1024
  maxOpenFiles : Int := 256
  maxProcesses : Int := 128
  terminationGraceSeconds : ℚ := 2
  telemetryIntervalSeconds : ℚ := 2
  worktreeLeaseTimeoutSeconds : ℚ := 30
  allowTrustedLocalBackend : Bool := false
  positiveTimeout : 0 < maxTimeoutSeconds
  positiveMemory : 0 < maxMemoryLimitMb
  positiveInterval : 0 < telemetryIntervalSeconds
  leaseTimeout : 0 < worktreeLeaseTimeoutSeconds ∧ worktreeLeaseTimeoutSeconds ≤ 300

/-- `ResourceLimits`. -/
structure ResourceLimits where
  wallTimeSeconds : ℚ
  memoryLimitMb : Int
  gpuMemoryLimitMb : Int
  diskFreeFloorMb : Int
  maxLogBytes : Int
  maxOpenFiles : Int
  maxProcesses : Int
  terminationGraceSeconds : ℚ
deriving DecidableEq

/-- `ResourceLimits.__post_init__`. -/
def ResourceLimits.postInit (limits : ResourceLimits) : Except ExecutionError ResourceLimits := do
  ensure (¬ limits.wallTimeSeconds ≤ 0) (.sandboxPolicyError "wall timeout must be positive")
  ensure (¬ limits.memoryLimitMb ≤ 0) (.sandboxPolicyError "memory limit must be positive")
  ensure (¬ limits.gpuMemoryLimitMb < 0) (.sandboxPolicyError "GPU memory limit must be non-negative")
  ensure (¬ limits.diskFreeFloorMb < 0) (.sandboxPolicyError "disk floor must be non-negative")
  ensure (¬ limits.maxLogBytes ≤ 0) (.sandboxPolicyError "maximum log size must be positive")
  ensure (¬ limits.maxOpenFiles < 16) (.sandboxPolicyError "open-file limit is too small")
  ensure (¬ limits.maxProcesses < 1) (.sandboxPolicyError "process limit must be positive")
  ensure (¬ limits.terminationGraceSeconds < 0) (.sandboxPolicyError "termination grace must be non-negative")
  return limits

/-- `_resource_limits`. -/
def resourceLimits (request : RunRequest) (policy : RunnerPolicy) : Except ExecutionError ResourceLimits :=
  ResourceLimits.postInit {
    wallTimeSeconds := request.timeoutSeconds
    memoryLimitMb := request.memoryLimitMb
    gpuMemoryLimitMb := request.gpuMemoryLimitMb
    diskFreeFloorMb := policy.diskFreeFloorMb
    maxLogBytes := policy.maxLogBytes
    maxOpenFiles := policy.maxOpenFiles
    maxProcesses := policy.maxProcesses
    terminationGraceSeconds := policy.terminationGraceSeconds }

/-- `_validate_request` of a request of a run. -/
def validateRequest (runId : String) (request : RunRequest) (policy : RunnerPolicy) :
    Except ExecutionError Unit := do
  ensure (matchesIdentifier runId = true) (.invalidRunRequest "invalid run_id")
  ensure (matchesIdentifier request.experimentId = true) (.invalidRunRequest "invalid experiment_id")
  ensure (matchesIdentifier request.commandId = true) (.invalidRunRequest "invalid command_id")
  ensure (¬ request.attempt < 1) (.invalidRunRequest "attempt must be at least one")
  ensure (matchesCommit request.patchCommitSha = true)
    (.invalidRunRequest "patch_commit_sha must be a lowercase Git hash")
  ensure (¬ (request.patchReceiptId = "" ∨ 256 < request.patchReceiptId.toList.length))
    (.invalidRunRequest "patch_receipt_id is required")
  ensure (Memory.matchesSha256 request.dataManifestSha256 = true)
    (.invalidRunRequest "data_manifest_sha256 must be a sha256 hash")
  ensure (¬ ((request.timeoutSeconds : ℚ) ≤ 0 ∨ policy.maxTimeoutSeconds < request.timeoutSeconds))
    (.invalidRunRequest "timeout is outside the approved range")
  ensure (¬ (request.memoryLimitMb = 0 ∨ policy.maxMemoryLimitMb < request.memoryLimitMb))
    (.invalidRunRequest "memory limit is outside the approved range")
  ensure (¬ policy.maxGpuMemoryLimitMb < request.gpuMemoryLimitMb)
    (.invalidRunRequest "GPU memory limit is outside the approved range")

/-! ### What the runner asks -/

/-- `CapturedOutputs`. -/
structure CapturedOutputs where
  predictionArtifact : Option ArtifactRef
  checkpointArtifact : Option ArtifactRef
  missingRequiredRoles : List String
deriving DecidableEq, Repr

/-- The entries of `runtime_state` that `_normalize_exit` reads. -/
structure RuntimeState where
  exitCode : Option Int := none
  oomKilled : Bool := false
deriving DecidableEq, Repr

/-- The questions of an execution. The request, the workspace and the attempt are those of the execution. -/
inductive Question where
  /-- `workspace_resolver` and `_canonical_workspace`. -/
  | resolveWorkspace
  /-- `RunArtifactManager(...)`. -/
  | attemptDirectory
  /-- `time.monotonic()`. -/
  | monotonic
  | acquireLease (timeoutSeconds : ℚ)
  | releaseLease
  /-- `seal_verifier.verify`, and the `receipt_sha256` of what it returns. -/
  | verifySeal
  | resolveSubmission
  | submissionIsRegular
  /-- `CommandContext(...)` and `commands.resolve`; the answer is the `gpu_count` of the command. -/
  | resolveCommand (submission : Option ArtifactRef)
  | writeResolvedConfiguration (limits : ResourceLimits)
  | writeEnvironmentIdentity
  | requireFreshExecutionPaths
  | prepareSandbox (limits : ResourceLimits)
  | validateLaunchSpec (allowTrustedLocal : Bool)
  | launch (limits : ResourceLimits)
  | startCollector (started deadline : ℚ)
  | openJournal
  | closeJournal
  | isAlive
  /-- `collector.sample()`, with `last_cpu_seconds` after it. -/
  | sample
  | appendSample
  | observe
  | runtimeOutputsReady
  | extractReadyRuntimeOutputs
  | wait (timeout : ℚ)
  | sleep (seconds : ℚ)
  | terminateGroup
  | closeAfterTermination
  | finish
  | returnCode
  /-- The class of `reader_error`, if there is one. -/
  | readerError
  | captureOutputs
  | writeExecutionSeal (predictionArtifact : ArtifactRef) (receiptSha256 : String)
  | recentOutputTail
  | runtimeState
  | logReference
  | telemetryReference
  | writeLaunchFailure (summary : String)
  | telemetryExists
deriving DecidableEq

/-- The type of the answers to a question. -/
@[reducible] def Question.Reply (F : Type) : Question → Type
  | monotonic => ℚ
  | verifySeal => Option String
  | resolveSubmission | logReference | telemetryReference | writeLaunchFailure _ => ArtifactRef
  | submissionIsRegular | isAlive | runtimeOutputsReady | telemetryExists => Bool
  | resolveCommand _ => Int
  | sample => Sre.TelemetrySample F × Option ℚ
  | observe => Sre.MonitorDirective
  | wait _ | returnCode => Option Int
  | terminateGroup | finish => Int
  | readerError => Option String
  | captureOutputs => CapturedOutputs
  | recentOutputTail => String
  | runtimeState => RuntimeState
  | _ => Unit

/-- A part of an execution. -/
abbrev Session (F α : Type) := Dialogue (Question.Reply F) ExecutionError α

/-- Ask a question of the surroundings. -/
abbrev ask {F : Type} (q : Question) : Session F (q.Reply F) := Dialogue.ask q

/-! ### Resources -/

/-- `ResourceTracker`. -/
structure ResourceTracker where
  started : ℚ
  gpuCount : Nat
  peakRssMb : Option Int := none
  peakGpuMemoryMb : Option Int := none
  latestCpuSeconds : Option ℚ := none
deriving DecidableEq

/-- `ResourceTracker.observe` of a sample. -/
def ResourceTracker.observe {F : Type} (tracker : ResourceTracker) (sample : Sre.TelemetrySample F)
    (cpuSeconds : Option ℚ) : ResourceTracker where
  started := tracker.started
  gpuCount := tracker.gpuCount
  peakRssMb := some (max (tracker.peakRssMb.getD 0) sample.rssMb)
  peakGpuMemoryMb := (sample.gpuMemoryMb.map (max (tracker.peakGpuMemoryMb.getD 0))).or tracker.peakGpuMemoryMb
  latestCpuSeconds := (cpuSeconds.map (max (tracker.latestCpuSeconds.getD 0))).or tracker.latestCpuSeconds

/-- `ResourceTracker.finish` at a time. -/
def ResourceTracker.finish (tracker : ResourceTracker) (now : ℚ) : ResourceDelta where
  wallTimeMs := ⌊(now - tracker.started) * 1000⌋.toNat
  cpuTimeMs := ⌊tracker.latestCpuSeconds.getD 0 * 1000⌋.toNat
  gpuTimeMs := if 0 < tracker.gpuCount then ⌊(now - tracker.started) * 1000⌋.toNat else 0
  gpuCount := tracker.gpuCount
  peakRssMb := tracker.peakRssMb.map Int.toNat
  peakGpuMemoryMb := tracker.peakGpuMemoryMb.map Int.toNat

/-- `observed_limit_pressure`. -/
def observedLimitPressure {F : Type} (sample : Sre.TelemetrySample F) (limits : ResourceLimits) : Option String :=
  if limits.memoryLimitMb < sample.rssMb then some "OBSERVED_CPU_MEMORY_LIMIT"
  else if 0 < limits.gpuMemoryLimitMb ∧ sample.gpuMemoryMb.any (limits.gpuMemoryLimitMb < ·) then
    some "OBSERVED_GPU_MEMORY_LIMIT"
  else if sample.diskFreeMb < limits.diskFreeFloorMb then some "OBSERVED_DISK_FREE_FLOOR"
  else none

/-- `_observed_limit_summary`. -/
def observedLimitSummary : String → String
  | "OBSERVED_CPU_MEMORY_LIMIT" => "telemetry observed memory above the hard backend limit"
  | "OBSERVED_GPU_MEMORY_LIMIT" => "telemetry observed GPU memory above the hard backend limit"
  | "OBSERVED_DISK_FREE_FLOOR" => "artifact filesystem reached its safe free-space floor"
  | _ => "telemetry observed an execution limit crossing"

/-! ### Results -/

/-- The value of `RunOutcome`. -/
def outcomeValue : RunOutcome → String
  | .success => "success"
  | .codeError => "code_error"
  | .interfaceError => "interface_error"
  | .contractError => "contract_error"
  | .numericalError => "numerical_error"
  | .oom => "oom"
  | .timeout => "timeout"
  | .hang => "hang"
  | .infrastructureError => "infrastructure_error"
  | .cancelled => "cancelled"

/-- The fields of the `RunResult` that the runner builds. -/
structure ReportFields where
  experimentId : String
  attempt : Nat
  fidelity : Fidelity
  patchCommitSha : String
  outcome : RunOutcome
  exitCode : Option Int
  errorClass : Option String
  errorFingerprint : Option String
  errorSummary : Option String
  logArtifact : ArtifactRef
  telemetryArtifact : ArtifactRef
  checkpointArtifact : Option ArtifactRef
  predictionArtifact : Option ArtifactRef
  resourceDelta : ResourceDelta
deriving DecidableEq, Repr

/-- `RunResult`, with `validate_outcome_artifacts`. -/
structure RunReport extends ReportFields where
  predicted : outcome = .success → predictionArtifact ≠ none
  classified : outcome ≠ .success → errorClass.getD "" ≠ ""
deriving DecidableEq, Repr

/-- `model_factory("RunResult", ...)`: the schema strips the texts. -/
def buildRunResult (fields : ReportFields) : Except ExecutionError RunReport :=
  let stored : ReportFields := { fields with
    errorClass := fields.errorClass.map strip
    errorFingerprint := fields.errorFingerprint.map strip
    errorSummary := fields.errorSummary.map strip }
  if predicted : stored.outcome = .success → stored.predictionArtifact ≠ none then
    if classified : stored.outcome ≠ .success → stored.errorClass.getD "" ≠ "" then
      .ok { stored with predicted, classified }
    else .error (.other "ValidationError" "failed runs require an error_class" false)
  else .error (.other "ValidationError" "successful runs require a prediction artifact" false)

/-- Why an execution failed: an outcome, a code and a summary. -/
structure Termination where
  outcome : RunOutcome
  reasonCode : String
  summary : String
  failed : outcome ≠ .success
deriving DecidableEq, Repr

/-- A failure. -/
def Termination.failure {outcome : RunOutcome} (failed : outcome ≠ .success) (reasonCode summary : String) :
    Termination :=
  ⟨outcome, reasonCode, summary, failed⟩

lemma infrastructureError_failed : RunOutcome.infrastructureError ≠ .success := by decide
lemma oom_failed : RunOutcome.oom ≠ .success := by decide
lemma timeout_failed : RunOutcome.timeout ≠ .success := by decide
lemma codeError_failed : RunOutcome.codeError ≠ .success := by decide
lemma interfaceError_failed : RunOutcome.interfaceError ≠ .success := by decide
lemma numericalError_failed : RunOutcome.numericalError ≠ .success := by decide
lemma contractError_failed : RunOutcome.contractError ≠ .success := by decide

/-- The runner of the requests of a run, with the functions that only make the texts of its results, and the numbers
of the signals. -/
structure Runner where
  runId : String
  policy : RunnerPolicy
  submissionResolver : Bool
  /-- `str.lower`. -/
  lower : String → String
  upper : String → String
  /-- `redact_runtime_output`. -/
  redactRuntimeOutput : String → String
  /-- `error_fingerprint`. -/
  errorFingerprint : String → String → String
  /-- `_tail_summary`. -/
  tailSummary : String → String → String
  sigxcpu : Int
  sigkill : Int
  sigterm : Int
  /-- The bound on the rounds of the telemetry loop. -/
  rounds : Nat

/-- Whether one of the markers stands in a text. -/
def mentions (text : String) (markers : List String) : Bool :=
  markers.any fun marker => decide (marker.toList <:+: text.toList)

/-- `_observer_outcome`. -/
def Runner.observerOutcome (r : Runner) (reasonCode : String) : RunOutcome :=
  let upper := r.upper reasonCode
  if mentions upper ["HANG", "HEARTBEAT"] then .hang
  else if mentions upper ["NUMERICAL", "LOSS", "GRADIENT", "NONFINITE"] then .numericalError
  else if mentions upper ["OOM", "MEMORY_LIMIT"] then .oom
  else if mentions upper ["DISK", "QUOTA", "STORAGE"] then .infrastructureError
  else if mentions upper ["CONTRACT", "POLICY"] then .contractError
  else .cancelled

lemma Runner.observerOutcome_failed (r : Runner) (reasonCode : String) :
    r.observerOutcome reasonCode ≠ .success := by
  unfold Runner.observerOutcome
  dsimp only
  split_ifs <;> decide

/-- `_safe_summary`. -/
def Runner.safeSummary (r : Runner) (summary : String) : String :=
  String.ofList (((r.redactRuntimeOutput summary).toList.filter (· ≠ '\x00')).take 512)

/-- `_normalize_exit`; success has no code. -/
def Runner.normalizeExit (r : Runner) (exitCode : Int) (logTail : String) (missingRoles : List String)
    (state : RuntimeState) : Option Termination :=
  let lower := r.lower logTail
  if state.exitCode.any (· ≠ exitCode) then
    some (.failure infrastructureError_failed "RUNTIME_EXIT_MISMATCH"
      "container state did not match the launcher exit code")
  else if state.oomKilled then some (.failure oom_failed "OUT_OF_MEMORY" "container runtime reported an OOM kill")
  else if exitCode = 0 ∧ missingRoles ≠ [] then
    some (.failure interfaceError_failed "MISSING_EXPECTED_ARTIFACT"
      ("missing required output roles: " ++ ", ".intercalate missingRoles))
  else if exitCode = 0 then none
  else if mentions lower ["no space left", "enospc", "disk quota exceeded", "storage is full"] then
    some (.failure infrastructureError_failed "DISK_QUOTA_EXHAUSTED"
      (r.tailSummary logTail "runtime storage quota was exhausted"))
  else if mentions lower ["out of memory", "memoryerror", "cuda error: out of memory", "cuda out of memory",
      "cannot allocate memory"] then
    some (.failure oom_failed "OUT_OF_MEMORY" (r.tailSummary logTail "process ran out of memory"))
  else if mentions lower ["nan", "inf loss", "non-finite"] then
    some (.failure numericalError_failed "NUMERICAL_ERROR" (r.tailSummary logTail "non-finite numerical state"))
  else if mentions lower ["missing interface", "attributeerror", "modulenotfounderror", "importerror"] then
    some (.failure interfaceError_failed "INTERFACE_ERROR" (r.tailSummary logTail "required interface was unavailable"))
  else if exitCode = -r.sigxcpu then some (.failure timeout_failed "CPU_TIMEOUT" "CPU-time limit exceeded")
  else if exitCode = -r.sigkill ∨ exitCode = -r.sigterm then
    some (.failure infrastructureError_failed "UNEXPECTED_PROCESS_SIGNAL" "process exited after an unexpected signal")
  else some (.failure codeError_failed "CANDIDATE_CODE_ERROR" (r.tailSummary logTail "candidate command exited nonzero"))

/-- `_receipt_sha256` of the text that a seal carries. -/
def receiptSha256 (sealed : Option String) : Option String := sealed.filter fun sha => Memory.matchesSha256 sha

/-! ### The telemetry loop -/

/-- `("timeout", "WALL_TIMEOUT", ...)`. -/
def wallTimeout : Termination := .failure timeout_failed "WALL_TIMEOUT" "hard wall-time limit exceeded"

/-- `_MAX_CONSECUTIVE_TELEMETRY_MISSES`. -/
def maxConsecutiveTelemetryMisses : Nat := 3

/-- The state of the telemetry loop. -/
structure Watch where
  sampleFailures : Nat := 0
  probeFailures : Nat := 0
  tracker : ResourceTracker

/-- How the telemetry loop ends by itself: with a termination, if there is one, and the error behind it. -/
structure WatchEnd where
  termination : Option Termination := none
  telemetryError : Option String := none

/-- The first part of a round, which takes a sample: the end of the loop, or the sample, if there is one. -/
abbrev Sampling (F : Type) := WatchEnd ⊕ Option (Sre.TelemetrySample F × Option ℚ)

/-- The times of an execution: when it started, how long it may take, and how often it is watched. -/
structure Schedule where
  started : ℚ
  limit : ℚ
  interval : ℚ

/-- The pause before the next round. -/
def Schedule.pause (t : Schedule) (now : ℚ) : ℚ := min t.interval (max (1 / 1000) (t.limit - (now - t.started)))

/-- How long the release of the outputs is waited for. -/
def Schedule.releaseWait (t : Schedule) (now : ℚ) : ℚ := min (1 / 10) (max (1 / 1000) (t.limit - (now - t.started)))

/-- Whether the wall time is over. -/
def Schedule.over (t : Schedule) (now : ℚ) : Bool := decide (t.limit ≤ now - t.started)

section Loop
variable {F : Type} (r : Runner) (limits : ResourceLimits) (t : Schedule)

/-- A sample could not be taken: the loss of telemetry is an error once it lasts. -/
def missSample (watch : Watch) (error : ExecutionError) : Session F (Sampling F) := do
  match ← ask .isAlive with
  -- a container may end between the first look and the sample
  | false => return .inl {}
  | true =>
    let now ← ask .monotonic
    if t.over now then return .inl { termination := some wallTimeout }
    else if maxConsecutiveTelemetryMisses ≤ watch.sampleFailures + 1 then Program.raise error
    else
      let later ← ask .monotonic
      ask (.sleep (t.pause later))
      return .inr none

/-- The round up to `journal.append`. -/
def takeSample (watch : Watch) : Session F (Sampling F) := do
  match ← ask .isAlive with
  | false => return .inl {}
  | true =>
    let now ← ask .monotonic
    if t.over now then return .inl { termination := some wallTimeout }
    else
      match ← Program.attempt (ask .sample) with
      | .error error => missSample t watch error
      | .ok taken =>
        ask .appendSample
        return .inr (some taken)

/-- The outcome of an observed limit. -/
def limitOutcome (observed : String) : RunOutcome :=
  if observed = "OBSERVED_CPU_MEMORY_LIMIT" ∨ observed = "OBSERVED_GPU_MEMORY_LIMIT" then .oom
  else .infrastructureError

lemma limitOutcome_failed (observed : String) : limitOutcome observed ≠ .success := by
  unfold limitOutcome
  split_ifs <;> decide

/-- What `directive_reason` makes of a directive to terminate. -/
def Runner.observerTermination (directive : Sre.MonitorDirective) : Termination :=
  let reasonCode := (directive.reasonCode.filter (· ≠ "")).getD "OBSERVER_TERMINATED"
  let summary := directive.summary.map fun text => String.ofList (text.toList.take 512)
  .failure (r.observerOutcome_failed reasonCode) reasonCode
    ((summary.filter (· ≠ "")).getD "health observer requested termination")

/-- The termination for an error of the extraction of the outputs, where it is caught. -/
def extractionTermination : ExecutionError → Option Termination
  | .outputQuotaExceeded _ => some (.failure infrastructureError_failed "DISK_QUOTA_EXHAUSTED"
      "allowlisted runtime output exceeded its hard disk quota")
  | .diskSpaceExhausted _ => some (.failure infrastructureError_failed "DISK_SPACE_EXHAUSTED"
      "runtime output could not be written because storage is full")
  | .processLaunchError message => some (.failure infrastructureError_failed "RUNTIME_OUTPUT_EXTRACTION_FAILURE"
      ((ExecutionError.processLaunchError message).detailed "bounded container output extraction failed" ": "))
  | _ => none

/-- The end of a round without outputs: the loop sleeps. The answer is the number of failed probes. -/
def rest (now : ℚ) (probeFailures : Nat) : Session F (WatchEnd ⊕ Nat) := do
  ask (.sleep (t.pause now))
  return .inr probeFailures

/-- The outputs are ready: they are extracted, and the release is waited for. -/
def extractOutputs (now : ℚ) : Session F (WatchEnd ⊕ Nat) := do
  match ← Program.attempt (ask .extractReadyRuntimeOutputs) with
  | .error error =>
    match extractionTermination error with
    | some termination => return .inl { termination := some termination }
    | none => Program.raise error
  | .ok _ =>
    let _ ← ask (.wait (t.releaseWait now))
    return .inr 0

/-- The probe for the outputs at the end of a round. -/
def probeOutputs (now : ℚ) (probeFailures : Nat) : Session F (WatchEnd ⊕ Nat) := do
  match ← Program.attempt (ask .runtimeOutputsReady) with
  | .error error =>
    if error.isProcessLaunchError then
      if maxConsecutiveTelemetryMisses ≤ probeFailures + 1 then
        return .inl { termination := some (.failure infrastructureError_failed "RUNTIME_OUTPUT_HANDSHAKE_FAILURE"
          (error.detailed "container output completion probe failed" ": ")) }
      else rest t now (probeFailures + 1)
    else Program.raise error
  | .ok true => extractOutputs t now
  | .ok false => rest t now 0

/-- The observer is asked about a sample. -/
def consultObserver (now : ℚ) (probeFailures : Nat) : Session F (WatchEnd ⊕ Nat) := do
  match ← Program.attempt (ask .observe) with
  | .error error => return .inl {
      termination := some (.failure infrastructureError_failed "HEALTH_OBSERVER_ERROR" "health observer failed")
      telemetryError := some error.typeName }
  | .ok directive =>
    match directive.action with
    | .terminate => return .inl { termination := some (r.observerTermination directive) }
    | .continue_ => probeOutputs t now probeFailures

/-- The round after `tracker.observe`: the end of the loop, or the number of failed probes. -/
def judgeSample (sample : Sre.TelemetrySample F) (probeFailures : Nat) : Session F (WatchEnd ⊕ Nat) := do
  match ← ask .isAlive with
  | false => return .inl {}
  | true =>
    let now ← ask .monotonic
    if t.over now then return .inl { termination := some wallTimeout }
    else
      match observedLimitPressure sample limits with
      | some observed => return .inl {
          termination := some (.failure (limitOutcome_failed observed) observed (observedLimitSummary observed)) }
      | none => consultObserver r t now probeFailures

/-- How the loop ends: by itself or with an exception, and with what the tracker has seen. -/
abbrev Watched := Except ExecutionError WatchEnd × ResourceTracker

/-- One round of the loop. -/
def watchRound (watch : Watch) : Session F (Watch ⊕ Watched) := do
  match ← Program.attempt (takeSample t watch) with
  | .error error => return .inr (.error error, watch.tracker)
  | .ok (.inl done) => return .inr (.ok done, watch.tracker)
  | .ok (.inr none) => return .inl { watch with sampleFailures := watch.sampleFailures + 1 }
  | .ok (.inr (some (sample, cpuSeconds))) =>
    let tracker := watch.tracker.observe sample cpuSeconds
    match ← Program.attempt (judgeSample r limits t sample watch.probeFailures) with
    | .error error => return .inr (.error error, tracker)
    | .ok (.inl done) => return .inr (.ok done, tracker)
    | .ok (.inr probeFailures) => return .inl { sampleFailures := 0, probeFailures, tracker }

/-- `with TelemetryJournal(...) as journal`: the journal is closed however the loop ends, and an error of that takes
the place of the end. -/
def watchProcess (tracker : ResourceTracker) : Session F Watched := do
  match ← Program.attempt (ask .openJournal) with
  | .error error => return (.error error, tracker)
  | .ok _ =>
    let watched ← Program.loop (watchRound r limits t) r.rounds { tracker }
    match ← Program.attempt (ask .closeJournal) with
    | .error error => return (.error error, watched.2)
    | .ok _ => return watched

end Loop

/-! ### One execution -/

/-- What the runner holds against an execution after its process, and the exit code of the process. -/
structure Ending where
  exitCode : Option Int
  termination : Option Termination
  telemetryError : Option String

section Run
variable {F : Type} (r : Runner) (request : RunRequest)

/-- A new `ResourceTracker`. -/
def newTracker (gpuCount : Int) : Session F ResourceTracker := do
  let started ← ask .monotonic
  return { started, gpuCount := gpuCount.toNat }

/-- `tracker.finish()`. -/
def finishTracker (tracker : ResourceTracker) : Session F ResourceDelta := do
  let now ← ask .monotonic
  return tracker.finish now

/-- An empty journal, unless there is one. -/
def emptyJournal : Bool → Session F Unit
  | true => pure ()
  | false => do
    ask .openJournal
    ask .closeJournal

/-- `_result_without_process`. -/
def resultWithoutProcess (tracker : ResourceTracker) (outcome : RunOutcome) (errorClass summary : String) :
    Session F RunReport := do
  let safeSummary := r.safeSummary summary
  let logArtifact ← ask (.writeLaunchFailure safeSummary)
  let present ← ask .telemetryExists
  emptyJournal present
  let telemetryArtifact ← ask .telemetryReference
  let resourceDelta ← finishTracker tracker
  Program.ofExcept <| buildRunResult {
    experimentId := request.experimentId
    attempt := request.attempt
    fidelity := request.fidelity
    patchCommitSha := request.patchCommitSha
    outcome
    exitCode := none
    errorClass := some errorClass
    errorFingerprint := some (r.errorFingerprint errorClass safeSummary)
    errorSummary := some safeSummary
    logArtifact, telemetryArtifact
    checkpointArtifact := none
    predictionArtifact := none
    resourceDelta }

/-- The resolved prediction of `_submission_artifact` must be a regular file. -/
def regularSubmission (artifact : ArtifactRef) : Bool → Session F (Option ArtifactRef)
  | true => pure (some artifact)
  | false => Program.raise
    (.executionAuthorizationError "submission_check prior prediction is not a regular artifact")

/-- `_submission_artifact`. -/
def submissionArtifact : Session F (Option ArtifactRef) :=
  if request.commandId ≠ "submission_check" then pure none
  else if r.submissionResolver = false then Program.raise
    (.executionAuthorizationError "submission_check requires a controller-owned prior prediction resolver")
  else do
    match ← Program.attempt (ask .resolveSubmission) with
    | .error _ =>
      Program.raise (.executionAuthorizationError "submission_check prior prediction failed artifact verification")
    | .ok artifact =>
      let regular ← ask .submissionIsRegular
      regularSubmission artifact regular

/-- What is known when a command is about to be launched. -/
structure Authorization where
  initialSeal : Option String
  submission : Option ArtifactRef
  tracker : ResourceTracker

/-- The seal is verified and the command is resolved. -/
def authorize : Session F Authorization := do
  let initialSeal ← ask .verifySeal
  let submission ← submissionArtifact r request
  let gpuCount ← ask (.resolveCommand submission)
  let tracker ← newTracker gpuCount
  return { initialSeal, submission, tracker }

/-- The resolved command is written down, and the sandbox is prepared and checked. -/
def prepareLaunch (limits : ResourceLimits) : Session F Unit := do
  ask (.writeResolvedConfiguration limits)
  ask .writeEnvironmentIdentity
  ask .requireFreshExecutionPaths
  ask (.prepareSandbox limits)
  ask (.validateLaunchSpec r.policy.allowTrustedLocalBackend)

/-- A policy refuses the execution; other exceptions go on. -/
def refuseLaunch (tracker : ResourceTracker) (error : ExecutionError) : Session F RunReport :=
  if error.isPolicyError then resultWithoutProcess r request tracker .contractError error.typeName error.message
  else Program.raise error

/-- The process is ended when its collector could not be made. -/
def abandonProcess (tracker : ResourceTracker) (error : ExecutionError) : Session F RunReport := do
  match ← Program.attempt (do let _ ← ask .terminateGroup; ask .closeAfterTermination) with
  | .ok _ =>
    resultWithoutProcess r request tracker .infrastructureError "TELEMETRY_INITIALIZATION_FAILURE"
      "telemetry collector initialization failed"
  | .error cleanup =>
    if cleanup.isProcessLaunchError then
      resultWithoutProcess r request tracker .infrastructureError "TELEMETRY_INITIALIZATION_FAILURE"
        (if cleanup.message = "" then error.typeName else cleanup.message)
    else Program.raise cleanup

/-- What the telemetry loop says about an execution: an exception is a failure of the telemetry. -/
def watchedEnd : Except ExecutionError WatchEnd → WatchEnd
  | .ok done => done
  | .error error => {
      termination := some (.failure infrastructureError_failed "TELEMETRY_FAILURE"
        (error.detailed "telemetry collection failed" (": " ++ error.typeName ++ ": ")))
      telemetryError := some error.typeName }

/-- The termination for a process that could not be cleaned up. -/
def cleanupTermination : ExecutionError → Termination
  | .outputQuotaExceeded _ => .failure infrastructureError_failed "DISK_QUOTA_EXHAUSTED"
      "allowlisted runtime output exceeded its hard disk quota"
  | .diskSpaceExhausted _ => .failure infrastructureError_failed "DISK_SPACE_EXHAUSTED"
      "runtime output could not be written because storage is full"
  | error => .failure infrastructureError_failed "RUNTIME_CLEANUP_FAILURE" error.message

/-- The process is terminated, or reaped when nothing is held against it. -/
def stopProcess : Option Termination → Session F Int
  | some _ => do
    let exitCode ← ask .terminateGroup
    ask .closeAfterTermination
    return exitCode
  | none => ask .finish

/-- The end of the process, whatever becomes of it. -/
def endProcess (watched : WatchEnd) : Session F Ending := do
  match ← Program.attempt (stopProcess watched.termination) with
  | .ok exitCode => return {
      exitCode := some exitCode
      termination := watched.termination
      telemetryError := watched.telemetryError }
  | .error error =>
    if error.isProcessLaunchError then
      -- the code is kept for the report, also when it is not known
      let exitCode ← ask .returnCode
      ask .closeAfterTermination
      return { exitCode, termination := some (cleanupTermination error), telemetryError := some error.typeName }
    else Program.raise error

/-- An error of the reader of the log, if nothing else is held against the execution. -/
def checkReader (ending : Ending) : Session F Ending := do
  let readerError ← ask .readerError
  match readerError, ending.termination with
  | some name, none => return { ending with
      termination := some (.failure infrastructureError_failed "LOG_CAPTURE_FAILURE" "runtime log capture failed")
      telemetryError := some name }
  | _, _ => return ending

/-- The seal is verified again; what it carries is returned if it still holds. -/
def recheckSeal (ending : Ending) : Session F (Ending × Option (Option String)) := do
  match ← Program.attempt (ask .verifySeal) with
  | .ok carried => return (ending, some carried)
  | .error (.executionAuthorizationError message) =>
    -- a changed seal takes the place of whatever was held against the execution before
    return ({ ending with termination := some (.failure contractError_failed "WORKSPACE_SEAL_CHANGED" message) }, none)
  | .error error => Program.raise error

/-- Whether an error is an `OSError` with `ENOSPC`. -/
def ExecutionError.isNoSpace : ExecutionError → Bool
  | other _ _ noSpace => noSpace
  | _ => false

/-- The termination for outputs that could not be captured. -/
def captureTermination (error : ExecutionError) : Termination :=
  if error.isNoSpace then
    .failure infrastructureError_failed "DISK_SPACE_EXHAUSTED" "artifact capture ran out of disk space"
  else .failure infrastructureError_failed "ARTIFACT_CAPTURE_FAILURE" "expected artifact capture failed"

/-- `capture_outputs`, with what a failure is held for. -/
def captureOutputs (ending : Ending) : Session F (Ending × CapturedOutputs) := do
  match ← Program.attempt (ask .captureOutputs) with
  | .ok outputs => return (ending, outputs)
  | .error error =>
    let none : CapturedOutputs := ⟨none, none, ["artifact_capture"]⟩
    -- outputs that are missing after a failure are not a failure of their own
    if ending.termination = Option.none then
      return ({ ending with
        termination := some (captureTermination error)
        telemetryError := some error.typeName }, none)
    else return (ending, none)

/-- The outputs of a process that ended well are sealed. -/
def writeSeal (ending : Ending) (predictionArtifact : ArtifactRef) (receipt : Option String) : Session F Ending := do
  let written : Session F Unit := match receipt with
    | some sha => ask (.writeExecutionSeal predictionArtifact sha)
    | none => Program.raise
      (.executionAuthorizationError "verified receipt hash is required for output sealing")
  match ← Program.attempt written with
  | .ok _ => return ending
  | .error error => return { ending with
      termination := some (.failure infrastructureError_failed "EXECUTION_SEAL_WRITE_FAILURE"
        "trusted execution seal could not be written")
      telemetryError := some error.typeName }

/-- The condition for sealing the outputs, and the seal. -/
def sealOutputs (authorization : Authorization) (carried : Option (Option String)) (ending : Ending)
    (outputs : CapturedOutputs) : Session F Ending :=
  match carried, ending.termination, outputs.predictionArtifact with
  | some later, none, some predictionArtifact =>
    if ending.exitCode = some 0 ∧ outputs.missingRequiredRoles = [] then
      writeSeal ending predictionArtifact
        ((receiptSha256 later).or (receiptSha256 authorization.initialSeal))
    else pure ending
  | _, _, _ => pure ending

/-- The verdict on the exit of the process, if nothing is held against the execution. -/
def judgeExit (logTail : String) (ending : Ending) (missingRoles : List String) : Session F (Option Termination) :=
  match ending.termination, ending.exitCode with
  | some termination, _ => pure (some termination)
  | none, none => Program.raise (.other "AssertionError" "finished process has no exit code" false)
  | none, some exitCode => do
    let state ← ask .runtimeState
    return r.normalizeExit exitCode logTail missingRoles state

/-- `a or b` of texts. -/
def orElse (a b : String) : String := if a = "" then b else a

/-- The `RunResult` of an execution whose process has ended. -/
def report (authorization : Authorization) (tracker : ResourceTracker) (ending : Ending) (outputs : CapturedOutputs)
    (logTail : String) (verdict : Option Termination) : Session F RunReport := do
  let logArtifact ← ask .logReference
  let telemetryArtifact ← ask .telemetryReference
  let resourceDelta ← finishTracker tracker
  let summary := verdict.map fun termination => orElse termination.summary (ending.telemetryError.getD "")
  Program.ofExcept <| buildRunResult {
    experimentId := request.experimentId
    attempt := request.attempt
    fidelity := request.fidelity
    patchCommitSha := request.patchCommitSha
    outcome := (verdict.map (·.outcome)).getD .success
    exitCode := ending.exitCode
    errorClass := verdict.map (·.reasonCode)
    errorFingerprint := verdict.map fun termination => r.errorFingerprint termination.reasonCode
      (orElse logTail (orElse (summary.getD "") (outcomeValue termination.outcome)))
    errorSummary := verdict.map fun termination =>
      r.safeSummary (orElse (summary.getD "") (orElse termination.reasonCode (outcomeValue termination.outcome)))
    logArtifact, telemetryArtifact
    checkpointArtifact := outputs.checkpointArtifact
    predictionArtifact := authorization.submission.or outputs.predictionArtifact
    resourceDelta }

/-- The part of `_run_locked` after the collector is made. -/
def supervise (authorization : Authorization) (limits : ResourceLimits) (started : ℚ) : Session F RunReport := do
  let watched ← watchProcess r limits ⟨started, limits.wallTimeSeconds, r.policy.telemetryIntervalSeconds⟩
    authorization.tracker
  let ended ← endProcess (watchedEnd watched.1)
  let read ← checkReader ended
  let rechecked ← recheckSeal read
  let captured ← captureOutputs rechecked.1
  let ending ← sealOutputs authorization rechecked.2 captured.1 captured.2
  let logTail ← ask .recentOutputTail
  let verdict ← judgeExit r logTail ending captured.2.missingRequiredRoles
  report r request authorization watched.2 ending captured.2 logTail verdict

/-- The process is launched. -/
def launchProcess (authorization : Authorization) (limits : ResourceLimits) : Session F RunReport := do
  let started ← ask .monotonic
  match ← Program.attempt (ask (.launch limits)) with
  | .error error =>
    if error.isProcessLaunchError then
      resultWithoutProcess r request authorization.tracker .infrastructureError error.typeName error.message
    else Program.raise error
  | .ok _ =>
    match ← Program.attempt (ask (.startCollector started (started + limits.wallTimeSeconds))) with
    | .error error => abandonProcess r request authorization.tracker error
    | .ok _ => supervise r request authorization limits started

/-- `_run_locked`. -/
def runLocked : Session F RunReport := do
  let limits ← Program.ofExcept (resourceLimits request r.policy)
  let tracker ← newTracker 0
  match ← Program.attempt (authorize r request) with
  -- the tracker of the command is not there yet
  | .error error => refuseLaunch r request tracker error
  | .ok authorization =>
    match ← Program.attempt (prepareLaunch r limits) with
    | .error error => refuseLaunch r request authorization.tracker error
    | .ok _ => launchProcess r request authorization limits

/-- `with lease`: the lease is released however the execution ends. -/
def runLeased : Session F RunReport := do
  ask (.acquireLease r.policy.worktreeLeaseTimeoutSeconds)
  match ← Program.attempt (runLocked r request) with
  | .ok result =>
    ask .releaseLease
    return result
  | .error error =>
    -- an exception of the release takes the place of this one
    ask .releaseLease
    Program.raise error

/-- `run_sync`. -/
def Runner.runSync : Session F RunReport := do
  Program.ofExcept (validateRequest r.runId request r.policy)
  ask .resolveWorkspace
  ask .attemptDirectory
  let tracker ← newTracker 0
  match ← Program.attempt (runLeased r request) with
  | .ok result => return result
  | .error (.executionAuthorizationError message) =>
    resultWithoutProcess r request tracker .contractError "ExecutionAuthorizationError" message
  | .error error => Program.raise error

end Run

end TacoRank.Execution
