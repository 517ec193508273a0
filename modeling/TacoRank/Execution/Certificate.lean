import TacoRank.Execution.Supervision

/-!
# What a success certifies

The runs of an execution from an empty transcript. The custody monitor accepts them all, and an execution that returns
or raises has no lease left. A report says `success` exactly when the monitor has released the execution with a
certificate, and a certificate stands for a part of the transcript: a process that was launched under a verified seal,
reaped with 0 and sealed with its outputs.
-/

namespace TacoRank.Execution
open Lib

section Evidence
variable {F : Type} {log : List (SessionEntry F)} {e : SessionEntry F} {c d : Custody}

/-- A question that was answered. -/
abbrev replied (q : Question) (answer : q.Reply F) : SessionEntry F := ⟨q, .ok answer⟩

/-- The answers of a process that was reaped with a code, and of the seal around it. -/
def reaped (initial : Option String) (limits : ResourceLimits) (exitCode : Int) (later : Option String) :
    List (SessionEntry F) :=
  [replied .verifySeal initial, replied (.launch limits) (), replied .finish exitCode, replied .verifySeal later]

/-- A part of the transcript that certifies the outputs of an execution: its seal is verified, it is launched and
reaped with 0, its seal is verified again, no output is missing when they are captured, and the captured prediction is
sealed with the digest that the seal carries. -/
def Certifies (log : List (SessionEntry F)) (outputs : CapturedOutputs) : Prop :=
  outputs.missingRequiredRoles = [] ∧ ∃ initial limits later,
    List.Sublist (reaped initial limits 0 later ++ [replied .captureOutputs outputs]) log ∧
      ∀ predictionArtifact, outputs.predictionArtifact = some predictionArtifact →
        ∃ sha, sealReceipt later initial = some sha ∧
          List.Sublist (reaped initial limits 0 later ++ [replied .captureOutputs outputs] ++
            [replied (.writeExecutionSeal predictionArtifact sha) ()]) log

/-- What stands in the transcript of an execution that may still be certified. -/
def Custody.Attested (log : List (SessionEntry F)) : Custody → Prop
  | .preparing initial _ => List.Sublist [replied .verifySeal initial] log
  | .running initial _ _ => ∃ limits, List.Sublist [replied .verifySeal initial, replied (.launch limits) ()] log
  | .ended initial (some exitCode) => ∃ limits, List.Sublist
      [replied .verifySeal initial, replied (.launch limits) (), replied .finish exitCode] log
  | .rechecked receipt (some exitCode) => ∃ initial limits later, receipt = sealReceipt later initial ∧
      List.Sublist (reaped initial limits exitCode later) log
  | .unsealed outputs receipt => outputs.missingRequiredRoles = [] ∧
      ∃ initial limits later, receipt = sealReceipt later initial ∧
        List.Sublist (reaped initial limits 0 later ++ [replied .captureOutputs outputs]) log
  | .closing (some outputs) | .released (some outputs) => Certifies log outputs
  | _ => True

lemma later_sublist {entries : List (SessionEntry F)} (h : List.Sublist entries log) :
    List.Sublist entries (log ++ [e]) :=
  h.trans (List.sublist_append_left _ _)

lemma next_sublist {entries : List (SessionEntry F)} (h : List.Sublist entries log) :
    List.Sublist (entries ++ [e]) (log ++ [e]) :=
  h.append (List.Sublist.refl _)

lemma Certifies.later {outputs : CapturedOutputs} (h : Certifies log outputs) : Certifies (log ++ [e]) outputs := by
  obtain ⟨complete, initial, limits, later, captured, sealed⟩ := h
  refine ⟨complete, initial, limits, later, later_sublist captured, fun predictionArtifact isPrediction => ?_⟩
  obtain ⟨sha, receipt, written⟩ := sealed predictionArtifact isPrediction
  exact ⟨sha, receipt, later_sublist written⟩

lemma attested_closing_none : (Custody.closing none).Attested log := trivial

lemma attested_stepIdle (step : Custody.stepIdle e = some d) : d.Attested (log ++ [e]) := by
  unfold Custody.stepIdle at step
  split at step <;> cases step <;> trivial

lemma attested_stepLeased (step : Custody.stepLeased e = some d) : d.Attested (log ++ [e]) := by
  unfold Custody.stepLeased at step
  split at step <;> cases step
  · exact List.sublist_append_right _ _
  all_goals trivial

lemma attested_stepPreparing {initial : Option String} {checks : Nat}
    (held : (Custody.preparing initial checks).Attested log) (step : Custody.stepPreparing initial checks e = some d) :
    d.Attested (log ++ [e]) := by
  have still : List.Sublist [replied .verifySeal initial] (log ++ [e]) := later_sublist held
  unfold Custody.stepPreparing at step
  split at step
  · rename_i limits _
    split at step
    · cases step
      exact ⟨limits, next_sublist held⟩
    · cases step
  · split at step <;> cases step
    exact attested_closing_none
  · split_ifs at step <;> cases step
    all_goals first | exact still | exact attested_closing_none

lemma attested_stepUnwatched {initial : Option String} {wall : ℚ} {vigil : Option Vigil}
    (held : (Custody.running initial wall vigil).Attested log) (step : Custody.stepUnwatched initial wall e = some d) :
    d.Attested (log ++ [e]) := by
  obtain ⟨limits, held⟩ := held
  unfold Custody.stepUnwatched at step
  split at step
  · split at step <;> cases step
    exact ⟨limits, later_sublist held⟩
  · cases step
    exact ⟨limits, later_sublist held⟩
  · cases step

lemma attested_stepRunning {initial : Option String} {wall : ℚ} {vigil : Option Vigil}
    (held : (Custody.running initial wall vigil).Attested log)
    (step : Custody.stepRunning initial wall vigil e = some d) : d.Attested (log ++ [e]) := by
  unfold Custody.stepRunning at step
  split at step
  · cases step
    obtain ⟨limits, held⟩ := held
    exact ⟨limits, next_sublist held⟩
  · cases step
    trivial
  · cases step
    trivial
  · cases step
    trivial
  · cases vigil with
    | none => exact attested_stepUnwatched held step
    | some v =>
      obtain ⟨v', _, rfl⟩ := Option.map_eq_some_iff.mp step
      obtain ⟨limits, held⟩ := held
      exact ⟨limits, later_sublist held⟩

lemma attested_stepStopping {initial : Option String} (step : Custody.stepStopping initial e = some d) :
    d.Attested (log ++ [e]) := by
  unfold Custody.stepStopping at step
  split at step
  · cases step
    trivial
  · cases step
    trivial
  · split_ifs at step <;> cases step <;> trivial

lemma attested_stepEnded {initial : Option String} {exit : Option Int} (held : (Custody.ended initial exit).Attested log)
    (step : Custody.stepEnded initial exit e = some d) : d.Attested (log ++ [e]) := by
  have still : (Custody.ended initial exit).Attested (log ++ [e]) := by
    cases exit with
    | none => trivial
    | some exitCode =>
      obtain ⟨limits, held⟩ := held
      exact ⟨limits, later_sublist held⟩
  unfold Custody.stepEnded at step
  split at step
  · cases step
    cases exit with
    | none => trivial
    | some exitCode =>
      obtain ⟨limits, held⟩ := held
      exact ⟨initial, limits, _, rfl, next_sublist held⟩
  · cases step
    trivial
  · cases step
    exact still
  · cases step
    trivial
  · cases step
    exact still
  · cases step
    trivial
  · cases step
    trivial
  · split at step <;> cases step
    exact attested_closing_none

lemma attested_withOutputs {receipt : Option String} {exit : Option Int} {outputs : CapturedOutputs}
    (held : (Custody.rechecked receipt exit).Attested log) :
    (Custody.withOutputs receipt exit outputs).Attested (log ++ [replied .captureOutputs outputs]) := by
  unfold Custody.withOutputs
  split
  -- a certificate needs an exit with 0, which the transcript of a rechecked execution holds
  · rename_i clean
    obtain ⟨rfl, complete⟩ := clean
    obtain ⟨initial, limits, later, rfl, held⟩ := held
    cases prediction : outputs.predictionArtifact with
    | none =>
      refine ⟨complete, initial, limits, later, next_sublist held, fun predictionArtifact isPrediction => ?_⟩
      rw [prediction] at isPrediction
      cases isPrediction
    | some predictionArtifact => exact ⟨complete, initial, limits, later, rfl, next_sublist held⟩
  · exact attested_closing_none

lemma attested_stepRechecked {receipt : Option String} {exit : Option Int}
    (held : (Custody.rechecked receipt exit).Attested log) (step : Custody.stepRechecked receipt exit e = some d) :
    d.Attested (log ++ [e]) := by
  unfold Custody.stepRechecked at step
  split at step
  · cases step
    exact attested_withOutputs held
  · cases step
    trivial
  · cases step

lemma attested_stepUnsealed {outputs : CapturedOutputs} {receipt : Option String}
    (held : (Custody.unsealed outputs receipt).Attested log)
    (step : Custody.stepUnsealed outputs receipt e = some d) : d.Attested (log ++ [e]) := by
  obtain ⟨complete, initial, limits, later, rfl, held⟩ := held
  unfold Custody.stepUnsealed at step
  split at step
  · split at step
    -- the monitor lets only the captured prediction be sealed
    · rename_i artifact sha _ same
      obtain ⟨isPrediction, receipt⟩ := same
      cases step
      refine ⟨complete, initial, limits, later, later_sublist held, fun other isOther => ?_⟩
      rw [isPrediction] at isOther
      cases isOther
      exact ⟨sha, receipt, next_sublist held⟩
    · cases step
  · split at step <;> cases step
    exact attested_closing_none
  · split at step <;> cases step
    exact attested_closing_none
  · cases step

/-- What is left of a certificate is still certified. -/
lemma attested_filter {certificate : Option CapturedOutputs} {b : Bool}
    (held : (Custody.closing certificate).Attested log) :
    (Custody.closing (certificate.filter fun _ => b)).Attested (log ++ [e]) ∧
      (Custody.released (certificate.filter fun _ => b)).Attested (log ++ [e]) := by
  cases certificate with
  | none => exact ⟨trivial, trivial⟩
  | some outputs =>
    cases b with
    | false => exact ⟨trivial, trivial⟩
    | true => exact ⟨Certifies.later held, Certifies.later held⟩

lemma attested_stepClosing {certificate : Option CapturedOutputs} (held : (Custody.closing certificate).Attested log)
    (step : Custody.stepClosing certificate e = some d) : d.Attested (log ++ [e]) := by
  unfold Custody.stepClosing at step
  split at step
  · cases step
    exact (attested_filter held).1
  · cases step
    trivial
  · split at step <;> cases step
    exact (attested_filter held).1

/-- A step keeps what stands in the transcript. -/
lemma attested_step (held : c.Attested log) (step : c.step e = some d) : d.Attested (log ++ [e]) := by
  unfold Custody.step at step
  split at step
  · cases c <;> cases step <;> first | exact (attested_filter held).2 | trivial
  · cases c with
    | idle => exact attested_stepIdle step
    | leased => exact attested_stepLeased step
    | preparing initial checks => exact attested_stepPreparing held step
    | running initial wall vigil => exact attested_stepRunning held step
    | stopping initial => exact attested_stepStopping step
    | ended initial exit => exact attested_stepEnded held step
    | rechecked receipt exit => exact attested_stepRechecked held step
    | tampered =>
      dsimp only at step
      split at step <;> cases step
      trivial
    | unsealed outputs receipt => exact attested_stepUnsealed held step
    | closing certificate => exact attested_stepClosing held step
    | released certificate =>
      dsimp only at step
      split at step <;> cases step
      trivial

/-- Wherever the monitor is after a transcript, that much stands in it. -/
lemma attested_run (held : custody.run log = some c) : c.Attested log := by
  induction log using List.reverseRecOn generalizing c with
  | nil =>
    cases held
    trivial
  | append_singleton log e ih =>
    -- the monitor was in some state before the last entry, and made one step with it
    rw [Monitor.run_snoc] at held
    obtain ⟨before, ran, step⟩ := Option.bind_eq_some_iff.mp held
    exact attested_step (ih ran) step

end Evidence

section Whole
variable {F : Type} {r : Runner} {request : RunRequest} {w : World (SessionEntry F) Empty (SessionEntry F)}

/-- The monitor accepts every run of an execution; one that has returned or raised holds no lease. -/
theorem execution_supervised (start : w.log = []) :
    Accepted (custody.run (r.runSync request w).2.log) ∧
      Outcome (fun _ log => AtRest (custody.run log)) (fun _ log => AtRest (custody.run log)) (r.runSync request w) := by
  obtain ⟨accepted, ends⟩ := runSync_releases.start ⟨rfl, rfl⟩ start
  refine ⟨accepted, ?_⟩
  cases result : r.runSync request w with
  | mk outcome after =>
    rw [result] at ends
    cases outcome with
    | ok report =>
      obtain ⟨certificate, held, _⟩ := ends
      exact .inr ⟨certificate, held⟩
    | error halt =>
      cases halt with
      | raised error => exact ends
      | suspended => trivial

/-- A report is a success when the monitor has released the execution with a certificate. A part of the transcript
then certifies the outputs, and the report names their prediction, unless it is about a prior one. -/
theorem success_certified {report : RunReport} {after : World (SessionEntry F) Empty (SessionEntry F)}
    (start : w.log = []) (returned : r.runSync request w = (.ok report, after)) :
    (report.outcome = .success ↔ ∃ outputs, custody.run after.log = some (.released (some outputs))) ∧
      (report.outcome = .success → ∃ outputs, Certifies after.log outputs ∧
        (request.commandId ≠ "submission_check" → report.predictionArtifact = outputs.predictionArtifact)) := by
  have supervised : Monitored custody Accepted (· = some .idle) (r.runSync request : Session F RunReport)
      (Released request) (fun _ => AtRest) := runSync_releases
  obtain ⟨_, ends⟩ := supervised.start ⟨rfl, rfl⟩ start
  rw [returned] at ends
  obtain ⟨certificate, held, bears⟩ := ends
  cases certificate with
  | none =>
    have released : ¬ ∃ outputs, custody.run after.log = some (.released (some outputs)) := by
      rintro ⟨outputs, other⟩
      rw [held] at other
      cases other
    exact ⟨iff_of_false bears released, fun success => absurd success bears⟩
  | some outputs =>
    obtain ⟨success, named⟩ := bears
    exact ⟨iff_of_true success ⟨outputs, held⟩, fun _ => ⟨outputs, attested_run held, named⟩⟩

end Whole

/-! ### A run that succeeds -/

/-- A runner with the default policy, which watches a process for two rounds. -/
def plainRunner : Runner where
  runId := "run_1"
  policy := {
    positiveTimeout := by norm_num
    positiveMemory := by norm_num
    positiveInterval := by norm_num
    leaseTimeout := by norm_num }
  submissionResolver := false
  lower := id
  upper := id
  redactRuntimeOutput := id
  errorFingerprint errorClass _ := errorClass
  tailSummary _ fallback := fallback
  sigxcpu := 24
  sigkill := 9
  sigterm := 15
  rounds := 2

def smokeRequest : RunRequest where
  experimentId := "exp_001"
  attempt := 1
  fidelity := .smoke
  commandId := "smoke"
  patchCommitSha := String.ofList (List.replicate 40 'a')
  patchReceiptId := "receipt"
  seed := 0
  dataManifestSha256 := String.ofList (List.replicate 64 'a')

def smokePrediction : ArtifactRef := ⟨"prediction", "predictions.csv", String.ofList (List.replicate 64 'c'), 1⟩

def smokeSha : String := String.ofList (List.replicate 64 'b')

def smokeSample : Sre.TelemetrySample Int where
  timestamp := 0
  runId := "run_1"
  experimentId := "exp_001"
  attempt := 1
  elapsedMs := 1000
  processAlive := true
  lastOutputAgeMs := 0
  cpuPercent := 50
  rssMb := 512
  gpuUtilizationPercent := none
  gpuMemoryMb := none
  loss := none
  gradientNorm := none
  diskFreeMb := 1024
  recentOutputTail := ""

/-- The process has ended before its second sample, and every answer is the best one. -/
def smokeWorld : World (SessionEntry Int) Empty (SessionEntry Int) :=
  let limits : ResourceLimits := ⟨600, 10240, 0, 128, 16 * 1024 * 1024, 256, 128, 2⟩
  let script : List (SessionEntry Int) := [
    replied .resolveWorkspace (), replied .attemptDirectory (), replied .monotonic (0 : ℚ),
    replied (.acquireLease 30) (), replied .monotonic (0 : ℚ),
    replied .verifySeal (some smokeSha), replied (.resolveCommand none) (0 : Int), replied .monotonic (0 : ℚ),
    replied (.writeResolvedConfiguration limits) (), replied .writeEnvironmentIdentity (),
    replied .requireFreshExecutionPaths (), replied (.prepareSandbox limits) (), replied (.validateLaunchSpec false) (),
    replied .monotonic (0 : ℚ), replied (.launch limits) (), replied (.startCollector 0 600) (),
    replied .openJournal (), replied .isAlive true, replied .monotonic (1 : ℚ), replied .sample (smokeSample, none),
    replied .appendSample (), replied .isAlive true, replied .monotonic (1 : ℚ),
    replied .observe Sre.MonitorDirective.continue_, replied .runtimeOutputsReady false, replied (.sleep 2) (),
    replied .isAlive false, replied .closeJournal (),
    replied .finish (0 : Int), replied .readerError none, replied .verifySeal (some smokeSha),
    replied .captureOutputs ⟨some smokePrediction, none, []⟩, replied (.writeExecutionSeal smokePrediction smokeSha) (),
    replied .recentOutputTail "", replied .runtimeState {}, replied .logReference smokePrediction,
    replied .telemetryReference smokePrediction, replied .monotonic (3 : ℚ), replied .releaseLease ()]
  { log := [], script := script.map fun entry => { answer := entry } }

/-- The outcome that a run reports. -/
def reportedOutcome : Except (Halt ExecutionError) RunReport → Option RunOutcome
  | .ok report => some report.outcome
  | .error _ => none

lemma smoke_outcome : reportedOutcome (plainRunner.runSync smokeRequest smokeWorld).1 = some .success := by
  decide +kernel

theorem execution_supervised_smoke :
    Accepted (custody.run (plainRunner.runSync smokeRequest smokeWorld).2.log) ∧
      Outcome (fun _ log => AtRest (custody.run log)) (fun _ log => AtRest (custody.run log))
        (plainRunner.runSync smokeRequest smokeWorld) :=
  execution_supervised rfl

theorem success_certified_smoke : ∃ report after,
    plainRunner.runSync smokeRequest smokeWorld = (.ok report, after) ∧ report.outcome = .success ∧
      ∃ outputs, Certifies after.log outputs ∧ report.predictionArtifact = outputs.predictionArtifact := by
  have outcome := smoke_outcome
  cases result : plainRunner.runSync smokeRequest smokeWorld with
  | mk returned after =>
    rw [result] at outcome
    cases returned with
    | error _ => cases outcome
    | ok report =>
      have success : report.outcome = .success := Option.some.inj outcome
      obtain ⟨_, certified⟩ := success_certified rfl result
      obtain ⟨outputs, certifies, named⟩ := certified success
      exact ⟨report, after, rfl, success, outputs, certifies, named (by decide)⟩

end TacoRank.Execution
