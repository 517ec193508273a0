import TacoRank.Orchestrator.Convergence
import TacoRank.Orchestrator.RecoveryContext

/-!
# Run budgets

Two readers of the run budget: the stop rule of `orchestrator/convergence.py`, and the recovery policy,
to which the harness hands the remaining amounts. They agree as long as no unmeasured tokens have
used up the token limit and experiments remain (`run_budget_agrees`). An exhausted number of
experiments makes the policy abandon a failure that it would otherwise repair
(`experiment_budget_ignored`).
-/

namespace TacoRank
open Lib Lib.Result

/-! ### The stop rule -/

/-- Tokens that a provider or an estimate measured. -/
def ResourceTotals.measuredTokens (totals : ResourceTotals) : Nat :=
  totals.providerInputTokens + totals.providerOutputTokens +
    (totals.estimatedInputTokens + totals.estimatedOutputTokens)

/-- The checks of `runtime_budget_decision` by dimension of the budget. -/
def stopChecks (state : RunState) (config : RunConfig) : List (String × Bool × StopDecision) :=
  [("wall_time_seconds", (config.wallTimeLimitSeconds : Int) * 1000000 ≤ state.elapsedWallTime,
      ⟨"wall_time_budget", "The frozen wall-clock budget is exhausted."⟩),
    ("token", config.tokenLimit.any (· ≤ state.resourceTotals.totalReportedTokens),
      ⟨"token_budget", "The frozen LLM token budget is exhausted."⟩),
    ("gpu_seconds", config.gpuSecondsLimit.any (· * 1000 ≤ state.resourceTotals.gpuWeightedTimeMs),
      ⟨"gpu_budget", "The frozen GPU budget is exhausted."⟩)]

/-- The stop rule regards a dimension of the budget as exhausted. -/
def StopsFor (state : RunState) (config : RunConfig) (dimension : String) : Prop :=
  ∃ decision, (dimension, true, decision) ∈ stopChecks state config

/-- The stop rule stops for the first dimension that it regards as exhausted. -/
lemma runtimeBudgetDecision_eq (state : RunState) (config : RunConfig) :
    runtimeBudgetDecision state config =
      ((stopChecks state config).find? fun check => check.2.1).map fun check => check.2.2 := by
  unfold runtimeBudgetDecision stopChecks
  by_cases wall : (config.wallTimeLimitSeconds : Int) * 1000000 ≤ state.elapsedWallTime
  · simp [wall]
  · by_cases tokens : config.tokenLimit.any (· ≤ state.resourceTotals.totalReportedTokens) = true
    · simp [wall, tokens]
    · by_cases gpu : config.gpuSecondsLimit.any
          (· * 1000 ≤ state.resourceTotals.gpuWeightedTimeMs) = true
      · simp [wall, tokens, gpu]
      · simp [wall, tokens, gpu]

/-- The run stops when some dimension is exhausted. -/
lemma stops_iff (state : RunState) (config : RunConfig) :
    (runtimeBudgetDecision state config).isSome = true ↔
      ∃ dimension, StopsFor state config dimension := by
  rw [runtimeBudgetDecision_eq, Option.isSome_map, List.find?_isSome]
  constructor
  · rintro ⟨⟨dimension, stops, decision⟩, mem, rfl⟩
    exact ⟨dimension, decision, mem⟩
  · rintro ⟨dimension, decision, mem⟩
    exact ⟨_, mem, rfl⟩

section Dimensions
variable {state : RunState} {config : RunConfig}

lemma stopsFor_wall : StopsFor state config "wall_time_seconds" ↔
    (config.wallTimeLimitSeconds : Int) * 1000000 ≤ state.elapsedWallTime := by
  simp [StopsFor, stopChecks]

lemma stopsFor_token : StopsFor state config "token" ↔
    ∃ limit, config.tokenLimit = some limit ∧
      limit ≤ state.resourceTotals.totalReportedTokens := by
  simp [StopsFor, stopChecks, Option.any_eq_true]

lemma stopsFor_gpu : StopsFor state config "gpu_seconds" ↔
    ∃ limit, config.gpuSecondsLimit = some limit ∧
      limit * 1000 ≤ state.resourceTotals.gpuWeightedTimeMs := by
  simp [StopsFor, stopChecks, Option.any_eq_true]

lemma not_stopsFor_experiments : ¬ StopsFor state config "experiments" := by
  simp [StopsFor, stopChecks]

/-- The remaining amounts by dimension. -/
lemma mem_remainingRunBudget {dimension : String} {value : Int} :
    (dimension, value) ∈ remainingRunBudget config state ↔
      (dimension = "experiments" ∧ value = (state.maxExperiments - state.experimentsProposed : Nat)) ∨
      (dimension = "wall_time_seconds" ∧
        value = max 0 (state.wallTimeLimitSeconds - state.elapsedWallTime / 1000000)) ∨
      (dimension = "token" ∧ ∃ limit, config.tokenLimit = some limit ∧
        value = (limit - state.resourceTotals.measuredTokens : Nat)) ∨
      (dimension = "gpu_seconds" ∧ ∃ limit, config.gpuSecondsLimit = some limit ∧
        value = (limit - state.resourceTotals.gpuWeightedTimeMs / 1000 : Nat)) := by
  unfold remainingRunBudget ResourceTotals.measuredTokens
  cases config.tokenLimit with
  | none =>
    cases config.gpuSecondsLimit with
    | none => simp
    | some gpu => simp
  | some limit =>
    cases config.gpuSecondsLimit with
    | none => simp
    | some gpu => simp

/-- The remaining amounts and the stop rule agree exactly as long as experiments remain and unmeasured
tokens are not what exhausts the token limit. -/
theorem run_budget_agrees (frozen : state.wallTimeLimitSeconds = config.wallTimeLimitSeconds) :
    (∀ dimension value, (dimension, value) ∈ remainingRunBudget config state →
        (value ≤ 0 ↔ StopsFor state config dimension)) ↔
      state.experimentsProposed < state.maxExperiments ∧
        ∀ limit, config.tokenLimit = some limit →
          limit ≤ state.resourceTotals.totalReportedTokens →
          limit ≤ state.resourceTotals.measuredTokens := by
  constructor
  · intro agree
    constructor
    · have experiments := agree "experiments" _ (mem_remainingRunBudget.mpr (.inl ⟨rfl, rfl⟩))
      have available := mt experiments.mp not_stopsFor_experiments
      omega
    · intro limit limited spent
      have tokens := agree "token" _
        (mem_remainingRunBudget.mpr (.inr (.inr (.inl ⟨rfl, limit, limited, rfl⟩))))
      have exhausted := tokens.mpr (stopsFor_token.mpr ⟨limit, limited, spent⟩)
      omega
  · rintro ⟨experiments, measured⟩ dimension value mem
    rcases mem_remainingRunBudget.mp mem with ⟨rfl, rfl⟩ | ⟨rfl, rfl⟩ | ⟨rfl, limit, limited, rfl⟩ |
      ⟨rfl, limit, limited, rfl⟩
    · refine iff_of_false ?_ not_stopsFor_experiments
      omega
    · rw [stopsFor_wall, frozen]
      omega
    · rw [stopsFor_token]
      have included : state.resourceTotals.measuredTokens ≤
          state.resourceTotals.totalReportedTokens := Nat.le_add_right _ _
      constructor
      · intro exhausted
        exact ⟨limit, limited, by omega⟩
      · rintro ⟨limit', limited', spent⟩
        obtain rfl : limit = limit' := Option.some.inj (limited.symm.trans limited')
        have := measured limit limited spent
        omega
    · rw [stopsFor_gpu]
      constructor
      · intro exhausted
        exact ⟨limit, limited, by omega⟩
      · rintro ⟨limit', limited', spent⟩
        obtain rfl : limit = limit' := Option.some.inj (limited.symm.trans limited')
        omega

end Dimensions

theorem run_budget_agrees_fresh : 0 < 1 ∧ ∀ dimension value,
    (dimension, value) ∈ remainingRunBudget plainHarness.config
      { maxExperiments := 1, wallTimeLimitSeconds := 21600 } →
    (value ≤ 0 ↔ StopsFor { maxExperiments := 1, wallTimeLimitSeconds := 21600 } plainHarness.config
      dimension) :=
  ⟨Nat.one_pos, (run_budget_agrees rfl).mpr
    ⟨Nat.one_pos, fun _ unlimited => absurd unlimited.symm (Option.some_ne_none _)⟩⟩

/-- A budget of ten tokens. -/
def tokenConfig : RunConfig :=
  { plainHarness.config with wallTimeLimitSeconds := 3600, tokenLimit := some 10 }

open Scenario in
/-- A run whose planner reports ten tokens that nobody measured. -/
def unmeasuredRun : List Event :=
  (record ((none, .runStarted { contract 2 with tokenLimit := some 10 }) ::
    (proposal 2 "exp").tail)).map fun e =>
      if e.eventId = 5 then { e with resourceDelta := { llmInputTokens := 6, llmOutputTokens := 4 } }
      else e

/-- The stop rule ends this run, but the policy still has ten tokens to spend. -/
theorem unmeasured_tokens_unnoticed : ¬ ∀ es s config, ValidLedger es → project es = .ok s →
    s.wallTimeLimitSeconds = config.wallTimeLimitSeconds → s.tokenLimit = config.tokenLimit →
    ∀ dimension value, (dimension, value) ∈ remainingRunBudget config s →
      (value ≤ 0 ↔ StopsFor s config dimension) := by
  intro agree
  have v : ValidLedger unmeasuredRun := .of_check (by decide +kernel)
  obtain ⟨s, projected⟩ := v.project
  have facts : (project unmeasuredRun).toOption.map (fun s => (s.wallTimeLimitSeconds, s.tokenLimit,
      s.resourceTotals.measuredTokens, s.resourceTotals.totalReportedTokens)) =
        some (3600, some 10, 0, 10) := by
    decide +kernel
  rw [projected] at facts
  obtain ⟨wall, limit, measured, reported⟩ := by
    simpa only [Except.toOption, Option.map_some, Option.some.injEq, Prod.mk.injEq] using facts
  have tokens := agree unmeasuredRun s tokenConfig v projected wall limit "token" 10
    (mem_remainingRunBudget.mpr (.inr (.inr (.inl ⟨rfl, 10, rfl, by rw [measured]; rfl⟩))))
  have stops : StopsFor s tokenConfig "token" := stopsFor_token.mpr ⟨10, rfl, reported.ge⟩
  exact absurd (tokens.mpr stops) (by decide)

/-! ### The recovery policy -/

/-- An attempt without the id of its failure. -/
def AttemptRecord.anonymous (attempt : AttemptRecord) : AttemptRecord :=
  { attempt with failureEventId := 0 }

/-- Two contexts of the policy that differ in the run budget and in event ids only. -/
structure RecoveryPolicyContext.Alike (context context' : RecoveryPolicyContext) : Prop where
  stage : context.failureStage = context'.failureStage
  attempts : context.attemptHistory.map AttemptRecord.anonymous =
    context'.attemptHistory.map AttemptRecord.anonymous
  repairs : context.remainingRepairBudget = context'.remainingRepairBudget
  retries : context.sameCommitRetriesUsed = context'.sameCommitRetriesUsed
  fingerprints : context.previousErrorFingerprints = context'.previousErrorFingerprints
  approved : context.allowedRuntimeAdjustments = context'.allowedRuntimeAdjustments
  settings : context.currentRuntimeSettings = context'.currentRuntimeSettings

/-- A repair of unchanged predictions that the coding worker has not finished. -/
def NoOpRepair (context : RecoveryPolicyContext) : Prop :=
  context.failureStage = .coding ∧ context.attemptHistory.any fun item =>
    item.action = .traeRepair ∧ item.reasonCode = "REPAIRABLE_NO_OP_WIRING"

/-- A failure of the execution profile or of the code that the policy has an answer to. -/
def Addressable (failure : FailureClassification) (context : RecoveryPolicyContext) : Prop :=
  (selectRuntimeAdjustment failure.failureClass context).isSome = true ∨
    failure.failureClass = .oom ∨
    if failure.failureClass = .timeout then
      failure.madeProgress ∧ context.sameCommitRetriesUsed < maxSameCommitRetries
    else 0 < context.remainingRepairBudget ∧ failure.traeRepairable

/-- A failure that the policy does not answer by giving up, with experiments and resources left. -/
def Repairable (failure : FailureClassification) (context : RecoveryPolicyContext)
    (sameCount : Nat) : Prop :=
  ¬ failure.controlPlaneFailure ∧ (failure.owner = .solutionVerifier → failure.ownerRetryable) ∧
    (failure.failureClass = .noOp ∨ NoOpRepair context ∨
      if failure.ownerRetryable then sameCount < 2 ∧ context.sameCommitRetriesUsed < 1
      else if failure.failureClass = .infrastructureError ∨ failure.failureClass = .hang then
        context.sameCommitRetriesUsed < maxSameCommitRetries
      else sameCount < 2 ∧ context.failureStage ≠ .coding ∧ Addressable failure context)

/-- The returns of `_route` behind the run budget. -/
def routeFailure (render : Rendering) (failure : FailureClassification)
    (context : RecoveryPolicyContext) (sameCount : Nat) : Route :=
  (routeControlPlane failure).or (routeNoOp failure context sameCount) |>.or
    (routeOwnerRetry failure context sameCount) |>.or
    (routeRepeated failure context sameCount) |>.or
    (routeRuntime render failure context) |>.getD
    (routeRepair failure context)

section Policy
variable {render : Rendering} {failure : FailureClassification}
  {context context' : RecoveryPolicyContext} {sameCount : Nat}

lemma route_eq : route render failure context sameCount =
    ((routeIntegrity failure context sameCount).or (routeBudget context)).getD
      (routeFailure render failure context sameCount) := by
  unfold route routeFailure
  cases routeIntegrity failure context sameCount with
  | some chosen => simp
  | none =>
    cases routeBudget context with
    | some chosen => simp
    | none => simp

lemma sameCommitRetry_abandons : (sameCommitRetry context).action = .abandon ↔
    ¬ context.sameCommitRetriesUsed < maxSameCommitRetries := by
  unfold sameCommitRetry
  split
  · rename_i cap
    simp [cap]
  · rename_i cap
    simp [cap]

/-- The last two steps give up exactly on the failures that are not addressable. -/
lemma routeRuntime_abandons :
    ((routeRuntime render failure context).getD (routeRepair failure context)).action = .abandon ↔
      ¬ Addressable failure context := by
  unfold routeRuntime Addressable
  cases adjusted : selectRuntimeAdjustment failure.failureClass context with
  | some adjustment => simp
  | none =>
    simp only [Option.isSome_none, Bool.false_eq_true, false_or]
    by_cases oom : failure.failureClass = .oom
    · simp [oom]
    by_cases timeout : failure.failureClass = .timeout
    · by_cases progress : failure.madeProgress = true
      · simp [timeout, progress, sameCommitRetry_abandons]
      · simp [timeout, progress]
    · simp only [oom, timeout, false_and, if_false, Option.getD_none, false_or, routeRepair]
      by_cases budget : context.remainingRepairBudget = 0
      · simp [budget]
      · by_cases defect : failure.traeRepairable = true
        · simp [budget, defect, Nat.pos_of_ne_zero]
        · simp [budget, defect]

/-- The policy gives up exactly on the failures that are not repairable. -/
lemma routeFailure_abandons : (routeFailure render failure context sameCount).action = .abandon ↔
    ¬ Repairable failure context sameCount := by
  by_cases control : failure.controlPlaneFailure = true
  · simp [routeFailure, routeControlPlane, Repairable, control]
  by_cases verifier : failure.owner = .solutionVerifier ∧ ¬ failure.ownerRetryable
  · simp [routeFailure, routeControlPlane, Repairable, control, verifier]
  have owned : failure.owner = .solutionVerifier → failure.ownerRetryable = true := by
    simpa using verifier
  have outside : routeControlPlane failure = none := by
    rw [routeControlPlane, if_neg control, if_neg verifier]
  unfold routeFailure Repairable
  rw [outside, Option.none_or, and_iff_right control, and_iff_right owned]
  by_cases noOp : failure.failureClass = .noOp
  · by_cases spent : 2 ≤ sameCount ∨ context.remainingRepairBudget = 0
    · simp [routeNoOp, noOp, spent]
    · simp [routeNoOp, noOp, spent]
  by_cases repair : NoOpRepair context
  · have repair' := repair
    unfold NoOpRepair at repair'
    simp only [routeNoOp, if_neg noOp, if_pos repair', Option.some_or, Option.getD_some]
    simp [repair]
  have changed : routeNoOp failure context sameCount = none := by
    rw [routeNoOp, if_neg noOp]
    exact if_neg repair
  rw [changed, Option.none_or, or_iff_right noOp, or_iff_right repair]
  by_cases retryable : failure.ownerRetryable = true
  · rw [if_pos retryable]
    by_cases spent : 2 ≤ sameCount ∨ 1 ≤ context.sameCommitRetriesUsed
    · simp only [routeOwnerRetry, if_pos retryable, if_pos spent, Option.some_or, Option.getD_some]
      simp only [true_iff]
      omega
    · simp only [routeOwnerRetry, if_pos retryable, if_neg spent, Option.some_or, Option.getD_some]
      simp only [reduceCtorEq, false_iff, not_not]
      omega
  rw [routeOwnerRetry, if_neg retryable, Option.none_or, if_neg retryable]
  by_cases transient : failure.failureClass = .infrastructureError ∨ failure.failureClass = .hang
  · rw [routeRepeated, if_pos transient, if_pos transient]
    exact sameCommitRetry_abandons
  rw [routeRepeated, if_neg transient, if_neg transient]
  by_cases repeated : 2 ≤ sameCount
  · have few : ¬ sameCount < 2 := by omega
    rw [if_pos repeated, Option.some_or, Option.getD_some]
    exact iff_of_true rfl fun repairable => few repairable.1
  by_cases coding : context.failureStage = .coding
  · rw [if_neg repeated, if_pos coding, Option.some_or, Option.getD_some]
    exact iff_of_true rfl fun repairable => repairable.2.1 coding
  rw [if_neg repeated, if_neg coding, Option.none_or, and_iff_right (by omega),
    and_iff_right coding]
  exact routeRuntime_abandons

/-- Predicates that do not read the id of the failure hold of the same attempts. -/
lemma RecoveryPolicyContext.Alike.any (alike : context.Alike context') {p : AttemptRecord → Bool}
    (anonymous : ∀ attempt : AttemptRecord, p attempt.anonymous = p attempt) :
    context.attemptHistory.any p = context'.attemptHistory.any p := by
  have same := congrArg (List.any · p) alike.attempts
  simpa only [List.any_map, Function.comp_def, anonymous] using same

lemma RecoveryPolicyContext.Alike.selectRuntimeAdjustment (alike : context.Alike context')
    (failureClass : FailureClass) : TacoRank.selectRuntimeAdjustment failureClass context =
      TacoRank.selectRuntimeAdjustment failureClass context' := by
  have tried : ∀ (name : String) (value : RuntimeValue),
      (context.attemptHistory.any fun item => item.action = .adjustApprovedRuntimeSetting ∧
        item.runtimeAdjustments.lookup name = some value) =
      context'.attemptHistory.any fun item => item.action = .adjustApprovedRuntimeSetting ∧
        item.runtimeAdjustments.lookup name = some value :=
    fun name value => alike.any fun _ => rfl
  unfold TacoRank.selectRuntimeAdjustment
  simp only [alike.approved, alike.settings, tried]

/-- The policy takes the same action on contexts that differ in the run budget only. -/
lemma RecoveryPolicyContext.Alike.action (alike : context.Alike context') (render : Rendering)
    (failure : FailureClassification) (sameCount : Nat) :
    (routeFailure render failure context sameCount).action =
      (routeFailure render failure context' sameCount).action := by
  have noOp : (routeNoOp failure context sameCount).map Route.action =
      (routeNoOp failure context' sameCount).map Route.action := by
    have repaired := alike.any (p := fun item => item.action = .traeRepair ∧
      item.reasonCode = "REPAIRABLE_NO_OP_WIRING") fun _ => rfl
    simp only [routeNoOp, apply_ite (Option.map Route.action), Option.map_some, Option.map_none,
      alike.repairs, alike.stage, repaired]
  have ownerRetry : (routeOwnerRetry failure context sameCount).map Route.action =
      (routeOwnerRetry failure context' sameCount).map Route.action := by
    simp only [routeOwnerRetry, apply_ite (Option.map Route.action), Option.map_some,
      Option.map_none, alike.retries]
  have retry : sameCommitRetry context = sameCommitRetry context' := by
    simp only [sameCommitRetry, alike.retries]
  have repeated : routeRepeated failure context sameCount = routeRepeated failure context' sameCount := by
    simp only [routeRepeated, retry, alike.stage]
  have runtime : routeRuntime render failure context = routeRuntime render failure context' := by
    simp only [routeRuntime, retry, alike.selectRuntimeAdjustment]
  have repair : (routeRepair failure context).action = (routeRepair failure context').action := by
    simp only [routeRepair, apply_ite Route.action, alike.repairs]
  unfold routeFailure
  rw [← Option.getD_map Route.action, ← Option.getD_map Route.action]
  simp only [Option.map_or, noOp, ownerRetry, repeated, runtime, repair]

/-- A decision takes the action of its route. -/
lemma decideRecovery_action {eventId : EventId} {decision : RecoveryDecision}
    (decided : decideRecovery render eventId failure context = .ok decision) :
    decision.action = (route render failure context (priorErrors failure context + 1)).action := by
  unfold decideRecovery at decided
  split at decided
  · cases decided
  · dsimp only [RecoveryFields.decision] at decided
    split at decided
    · cases decided
      rfl
    · cases decided

/-- The integrity checks read the failure alone. -/
lemma routeIntegrity_none : routeIntegrity failure context sameCount = none ↔
    ¬ failure.candidateIntegrityViolation ∧ ¬ failure.deliberateIntegrityViolation ∧
      ¬ failure.diskQuotaFailure := by
  unfold routeIntegrity
  by_cases candidate : failure.candidateIntegrityViolation = true
  · by_cases spent : 2 ≤ sameCount ∨ context.remainingRepairBudget = 0
    · simp [candidate, spent]
    · simp [candidate, spent]
  · by_cases deliberate : failure.deliberateIntegrityViolation = true
    · simp [candidate, deliberate]
    · by_cases disk : failure.diskQuotaFailure = true
      · simp [candidate, deliberate, disk]
      · simp [candidate, deliberate, disk]

lemma RecoveryPolicyContext.Alike.integrity (alike : context.Alike context')
    (failure : FailureClassification) (sameCount : Nat) :
    (routeIntegrity failure context sameCount).map Route.action =
      (routeIntegrity failure context' sameCount).map Route.action := by
  simp only [routeIntegrity, apply_ite (Option.map Route.action), Option.map_some, Option.map_none,
    alike.repairs]

/-- An exhausted budget makes the policy give up. -/
lemma routeBudget_map (context : RecoveryPolicyContext) : (routeBudget context).map Route.action =
    if ∃ amount ∈ context.remainingRunBudget, amount.2 ≤ 0 then some .abandon else none := by
  unfold routeBudget
  split
  · rename_i dimension value found
    have spent := List.find?_some found
    rw [if_pos ⟨(dimension, value), List.mem_of_find?_eq_some found, of_decide_eq_true spent⟩]
    rfl
  · rename_i exhausted
    rw [if_neg]
    · rfl
    · rintro ⟨amount, mem, spent⟩
      exact List.find?_eq_none.mp exhausted amount mem (decide_eq_true spent)

end Policy

/-! ### Two ledgers -/

/-- Two ledgers that agree on the history of an experiment, its failure and its budgets, up to event
ids, and on the resources of the run. -/
structure SameExperiment (inputs : RecoveryInputs) (x : String) (es es' : List Event) (f f' : Event)
    (s s' : RunState) : Prop where
  counters : (s.experiments.get? x).map (fun n => (n.repairCount, n.sameCommitRetryCount)) =
    (s'.experiments.get? x).map fun n => (n.repairCount, n.sameCommitRetryCount)
  attempts : (attemptHistory es x f.eventId).map AttemptRecord.anonymous =
    (attemptHistory es' x f'.eventId).map AttemptRecord.anonymous
  fingerprints : previousFailureFingerprints inputs es x f.eventId =
    previousFailureFingerprints inputs es' x f'.eventId
  settings : currentRuntimeSettings es x f.eventId = currentRuntimeSettings es' x f'.eventId
  stage : f.payload.failureStage = f'.payload.failureStage
  repairs : s.maxRepairsPerExperiment = s'.maxRepairsPerExperiment
  wallTime : s.wallTimeLimitSeconds = s'.wallTimeLimitSeconds ∧ s.elapsedWallTime = s'.elapsedWallTime
  resources : s.resourceTotals = s'.resourceTotals

section Ledgers
variable {inputs : RecoveryInputs} {x : String} {es es' : List Event} {f f' : Event}
  {s s' : RunState} {context context' : RecoveryPolicyContext}

/-- The context of a failure, field by field. -/
lemma recoveryPolicyContext_fields (built : recoveryPolicyContext inputs es x s f = .ok context) :
    ∃ n, s.experiments.get? x = some n ∧
      context.failureStage = f.payload.failureStage.getD .execution ∧
      context.attemptHistory = attemptHistory es x f.eventId ∧
      context.remainingRepairBudget = s.maxRepairsPerExperiment - n.repairCount ∧
      context.sameCommitRetriesUsed = n.sameCommitRetryCount ∧
      context.previousErrorFingerprints = previousFailureFingerprints inputs es x f.eventId ∧
      context.remainingRunBudget = remainingRunBudget inputs.config s ∧
      context.allowedRuntimeAdjustments = inputs.config.allowedRuntimeAdjustments ∧
      context.currentRuntimeSettings = currentRuntimeSettings es x f.eventId := by
  unfold recoveryPolicyContext at built
  cases found : s.experiments.get? x with
  | none =>
    rw [found] at built
    cases built
  | some n =>
    simp only [found, ok_bind, bind_eq_ok] at built
    obtain ⟨spec, _, built⟩ := built
    split at built
    · cases built
      exact ⟨n, rfl, rfl, rfl, rfl, rfl, rfl, rfl, rfl, rfl⟩
    · cases built

lemma SameExperiment.alike (same : SameExperiment inputs x es es' f f' s s')
    (built : recoveryPolicyContext inputs es x s f = .ok context)
    (built' : recoveryPolicyContext inputs es' x s' f' = .ok context') : context.Alike context' := by
  obtain ⟨n, found, stage, attempts, repairs, retries, fingerprints, _, approved, settings⟩ :=
    recoveryPolicyContext_fields built
  obtain ⟨n', found', stage', attempts', repairs', retries', fingerprints', _, approved', settings'⟩ :=
    recoveryPolicyContext_fields built'
  have counters := same.counters
  rw [found, found', Option.map_some, Option.map_some, Option.some.injEq, Prod.mk.injEq] at counters
  refine ⟨?_, ?_, ?_, ?_, ?_, ?_, ?_⟩
  · rw [stage, stage', same.stage]
  · rw [attempts, attempts', same.attempts]
  · rw [repairs, repairs', same.repairs, counters.1]
  · rw [retries, retries', counters.2]
  · rw [fingerprints, fingerprints', same.fingerprints]
  · rw [approved, approved']
  · rw [settings, settings', same.settings]

/-- The remaining amounts of the resources of the run. -/
def remainingResources (config : RunConfig) (state : RunState) : List (String × Int) :=
  (remainingRunBudget config state).tail

/-- No experiment may be proposed any more. -/
def ExperimentsExhausted (state : RunState) : Prop := state.maxExperiments ≤ state.experimentsProposed

lemma budget_exhausted_iff (config : RunConfig) (state : RunState) :
    (∃ amount ∈ remainingRunBudget config state, amount.2 ≤ 0) ↔
      ExperimentsExhausted state ∨ ∃ amount ∈ remainingResources config state, amount.2 ≤ 0 := by
  have head : remainingRunBudget config state =
      ("experiments", ((state.maxExperiments - state.experimentsProposed : Nat) : Int)) ::
        remainingResources config state := rfl
  rw [head, List.exists_mem_cons_iff]
  refine or_congr_left ?_
  unfold ExperimentsExhausted
  dsimp only
  omega

/-- The action of the policy when the integrity checks pass. -/
lemma route_action (render : Rendering) {failure : FailureClassification} {sameCount : Nat}
    (built : recoveryPolicyContext inputs es x s f = .ok context)
    (clean : routeIntegrity failure context sameCount = none) :
    ((ExperimentsExhausted s ∨ ∃ amount ∈ remainingResources inputs.config s, amount.2 ≤ 0) →
      (route render failure context sameCount).action = .abandon) ∧
    (¬ (ExperimentsExhausted s ∨ ∃ amount ∈ remainingResources inputs.config s, amount.2 ≤ 0) →
      (route render failure context sameCount).action =
        (routeFailure render failure context sameCount).action) := by
  obtain ⟨_, _, _, _, _, _, _, budget, _⟩ := recoveryPolicyContext_fields built
  have stops := routeBudget_map context
  rw [budget] at stops
  rw [← budget_exhausted_iff, route_eq, clean, Option.none_or, ← Option.getD_map Route.action, stops]
  constructor
  · intro exhausted
    rw [if_pos exhausted]
    rfl
  · intro left
    rw [if_neg left]
    rfl

lemma SameExperiment.resources_eq (same : SameExperiment inputs x es es' f f' s s') :
    remainingResources inputs.config s = remainingResources inputs.config s' := by
  unfold remainingResources remainingRunBudget
  rw [same.wallTime.1, same.wallTime.2, same.resources]
  rfl

/-- Two ledgers that differ in the number of proposed experiments lead to the same action, unless
exactly one of them has no experiments left and the failure is one that the policy would answer. -/
theorem experiment_budget_ignored {render : Rendering} {failure : FailureClassification}
    {d d' : RecoveryDecision} (same : SameExperiment inputs x es es' f f' s s')
    (built : recoveryPolicyContext inputs es x s f = .ok context)
    (built' : recoveryPolicyContext inputs es' x s' f' = .ok context')
    (decided : decideRecovery render f.eventId failure context = .ok d)
    (decided' : decideRecovery render f'.eventId failure context' = .ok d') :
    d.action = d'.action ↔
      ¬ (¬ (ExperimentsExhausted s ↔ ExperimentsExhausted s') ∧
        (∀ amount ∈ remainingResources inputs.config s, 0 < amount.2) ∧
        ¬ failure.candidateIntegrityViolation ∧ ¬ failure.deliberateIntegrityViolation ∧
        ¬ failure.diskQuotaFailure ∧
        Repairable failure context (priorErrors failure context + 1)) := by
  have alike := same.alike built built'
  have counted : priorErrors failure context = priorErrors failure context' := by
    rw [priorErrors, priorErrors, alike.fingerprints]
  rw [decideRecovery_action decided, decideRecovery_action decided', ← counted]
  generalize priorErrors failure context + 1 = sameCount
  cases integrity : routeIntegrity failure context sameCount with
  | some chosen =>
    -- The integrity checks come first and do not read the run budget.
    have unclean : ¬ routeIntegrity failure context sameCount = none := by
      rw [integrity]
      exact Option.some_ne_none chosen
    have other := alike.integrity failure sameCount
    rw [integrity, Option.map_some] at other
    obtain ⟨chosen', integrity', action⟩ := Option.map_eq_some_iff.mp other.symm
    refine iff_of_true ?_ ?_
    · rw [route_eq, route_eq, integrity, integrity']
      exact action.symm
    · rintro ⟨_, _, candidate, deliberate, disk, _⟩
      exact unclean (routeIntegrity_none.mpr ⟨candidate, deliberate, disk⟩)
  | none =>
    have clean := routeIntegrity_none.mp integrity
    have integrity' : routeIntegrity failure context' sameCount = none := routeIntegrity_none.mpr clean
    obtain ⟨stopped, answered⟩ := route_action render built integrity
    obtain ⟨stopped', answered'⟩ := route_action render built' integrity'
    rw [← same.resources_eq] at stopped' answered'
    by_cases resources : ∃ amount ∈ remainingResources inputs.config s, amount.2 ≤ 0
    · rw [stopped (.inr resources), stopped' (.inr resources)]
      refine iff_of_true rfl fun differ => ?_
      obtain ⟨amount, mem, spent⟩ := resources
      exact (differ.2.1 amount mem).not_ge spent
    have positive : ∀ amount ∈ remainingResources inputs.config s, 0 < amount.2 := fun amount mem =>
      lt_of_not_ge fun spent => resources ⟨amount, mem, spent⟩
    have answer := alike.action render failure sameCount
    by_cases last : ExperimentsExhausted s
    · rw [stopped (.inl last)]
      by_cases last' : ExperimentsExhausted s'
      · rw [stopped' (.inl last')]
        exact iff_of_true rfl fun differ => differ.1 (iff_of_true last last')
      · rw [answered' (not_or.mpr ⟨last', resources⟩), ← answer, eq_comm, routeFailure_abandons,
          and_iff_right fun same => last' (same.mp last), and_iff_right positive,
          and_iff_right clean.1, and_iff_right clean.2.1, and_iff_right clean.2.2]
    · rw [answered (not_or.mpr ⟨last, resources⟩)]
      by_cases last' : ExperimentsExhausted s'
      · rw [stopped' (.inl last'), routeFailure_abandons,
          and_iff_right fun same => last (same.mpr last'), and_iff_right positive,
          and_iff_right clean.1, and_iff_right clean.2.1, and_iff_right clean.2.2]
      · rw [answered' (not_or.mpr ⟨last', resources⟩)]
        exact iff_of_true answer fun differ => differ.1 (iff_of_false last last')

end Ledgers

/-! ### The last experiment -/

/-- A contract for two experiments. -/
def twoExperiments : RunStarted := { Scenario.contract 2 with maxExperiments := 2 }

open Scenario in
/-- A coding attempt that passes the gate and crashes, after the proposal with an id. -/
def crashAfter (proposed : EventId) : List (Option EventId × EventPayload) :=
  [ (some proposed, .contextCreated { contextId := "coder", role := .coder, experimentId := some "exp" }),
    (some (proposed + 1), .patchCreated
      { experimentId := "exp", attempt := 1, experimentSpecEventId := proposed, contextId := "coder"
        patchCommitSha := "a", diffSha256 := "a" }),
    (some (proposed + 2), gatePassed "exp" 1 "a"),
    (some (proposed + 3), .executionStarted (request "exp" 1 "a" 0)),
    (some (proposed + 4), crashed "exp" 1 "a") ]

open Scenario in
/-- The crash of the first of two experiments. -/
def firstCrash : List Event := record ((none, .runStarted twoExperiments) ::
  ((proposal 2 "exp").take 5).tail ++ crashAfter 5)

open Scenario in
/-- The same crash after an experiment that was abandoned. -/
def lastCrash : List Event := record ((none, .runStarted twoExperiments) :: (proposal 2 "old").tail ++
  [ (some 6, failed "old" 1 .coding), (some 7, recovery "old" 7 1 2 .abandon),
    (some 8, .contextCreated { contextId := "planner-2", role := .planner, experimentId := none }),
    (some 9, .experimentProposed { spec "exp" with contextId := "planner-2" }) ] ++ crashAfter 10)

/-- What the policy reads of the state. -/
structure BudgetView where
  node : Option (Nat × Nat × String)
  maxRepairs : Nat
  wallTimeLimit : Nat
  elapsed : Int
  totals : ResourceTotals
  maxExperiments : Nat
  proposed : Nat
deriving DecidableEq

/-- The view of a state on the budgets of an experiment. -/
def RunState.budgetView (s : RunState) (x : String) : BudgetView :=
  { node := (s.experiments.get? x).map fun n =>
      (n.repairCount, n.sameCommitRetryCount, n.currentCommit)
    maxRepairs := s.maxRepairsPerExperiment
    wallTimeLimit := s.wallTimeLimitSeconds
    elapsed := s.elapsedWallTime
    totals := s.resourceTotals
    maxExperiments := s.maxExperiments
    proposed := s.experimentsProposed }

/-- The view on the crash, with a number of proposed experiments. -/
def crashView (proposed : Nat) : BudgetView := ⟨some (0, 0, "a"), 2, 3600, 0, {}, 2, proposed⟩

/-- The policy decides on the crash. -/
lemma crash_decided {es : List Event} {f : Event} (proposed : Nat) (v : ValidLedger es)
    (view : (project es).toOption.map (·.budgetView "exp") = some (crashView proposed))
    (settings : currentRuntimeSettings es "exp" f.eventId = []) :
    ∃ s context d, project es = .ok s ∧ s.budgetView "exp" = crashView proposed ∧
      recoveryPolicyContext plainHarness es "exp" s f = .ok context ∧
      decideRecovery plainRendering f.eventId crash context = .ok d := by
  obtain ⟨s, projected⟩ := v.project
  rw [projected] at view
  have view : s.budgetView "exp" = crashView proposed := Option.some.inj view
  obtain ⟨n, found, counters⟩ := Option.map_eq_some_iff.mp (congrArg BudgetView.node view)
  have commit : n.currentCommit = "a" := congrArg (·.2.2) counters
  obtain ⟨context, built⟩ : ∃ context, recoveryPolicyContext plainHarness es "exp" s f = .ok context :=
    recoveryPolicyContext_ok v projected (congrArg BudgetView.maxRepairs view).le found
      (commit ▸ .of_chars rfl) rfl (settings ▸ rfl)
  obtain ⟨_, cited, _⟩ := recoveryPolicyContext_inv built found
  obtain ⟨d, decided, _⟩ : ∃ d, decideRecovery plainRendering f.eventId crash context = .ok d ∧
      PolicyDecision f.eventId context d := decideRecovery_ok cited
  exact ⟨s, context, d, projected, view, built, decided⟩

/-- The failure of the first of two experiments. -/
def firstFailure : Event := firstCrash.get ⟨9, by decide⟩

/-- The failure of the last of two experiments. -/
def lastFailure : Event := lastCrash.get ⟨14, by decide⟩

/-- The two ledgers agree on the experiment. -/
lemma crash_same {s s' : RunState} (view : s.budgetView "exp" = crashView 1)
    (view' : s'.budgetView "exp" = crashView 2) :
    SameExperiment plainHarness "exp" firstCrash lastCrash firstFailure lastFailure s s' where
  counters := by
    have counters := congrArg (·.node.map fun node => (node.1, node.2.1)) view
    have counters' := congrArg (·.node.map fun node => (node.1, node.2.1)) view'
    simpa only [RunState.budgetView, Option.map_map, Function.comp_def] using
      counters.trans counters'.symm
  attempts := by decide +kernel
  fingerprints := by decide +kernel
  settings := by decide +kernel
  stage := by decide +kernel
  repairs := (congrArg BudgetView.maxRepairs view).trans (congrArg BudgetView.maxRepairs view').symm
  wallTime := ⟨(congrArg BudgetView.wallTimeLimit view).trans
      (congrArg BudgetView.wallTimeLimit view').symm,
    (congrArg BudgetView.elapsed view).trans (congrArg BudgetView.elapsed view').symm⟩
  resources := (congrArg BudgetView.totals view).trans (congrArg BudgetView.totals view').symm

/-- The first experiment may still be repaired. -/
lemma crash_repairable {s : RunState} {context : RecoveryPolicyContext}
    (view : s.budgetView "exp" = crashView 1)
    (built : recoveryPolicyContext plainHarness firstCrash "exp" s firstFailure = .ok context) :
    Repairable crash context (priorErrors crash context + 1) := by
  obtain ⟨n, found, stage, _, repairs, _, fingerprints, _⟩ := recoveryPolicyContext_fields built
  obtain ⟨m, found', counters⟩ := Option.map_eq_some_iff.mp (congrArg BudgetView.node view)
  obtain rfl : n = m := Option.some.inj (found.symm.trans found')
  have spent : n.repairCount = 0 := congrArg (·.1) counters
  have limit : s.maxRepairsPerExperiment = 2 := congrArg BudgetView.maxRepairs view
  have new : priorErrors crash context = 0 := by
    rw [priorErrors, fingerprints]
    decide +kernel
  have executing : context.failureStage = .execution := stage.trans (by decide +kernel)
  have left : 0 < context.remainingRepairBudget := by omega
  refine ⟨by decide, by decide, .inr (.inr ?_)⟩
  rw [new, executing]
  exact ⟨by decide, by decide, .inr (.inr ⟨left, rfl⟩)⟩

theorem experiment_budget_ignored_crash : ∃ s s' context context' d d',
    recoveryPolicyContext plainHarness firstCrash "exp" s firstFailure = .ok context ∧
    recoveryPolicyContext plainHarness lastCrash "exp" s' lastFailure = .ok context' ∧
    decideRecovery plainRendering firstFailure.eventId crash context = .ok d ∧
    decideRecovery plainRendering lastFailure.eventId crash context' = .ok d' ∧
    (d.action = d'.action ↔
      ¬ (¬ (ExperimentsExhausted s ↔ ExperimentsExhausted s') ∧
        (∀ amount ∈ remainingResources plainHarness.config s, 0 < amount.2) ∧
        ¬ crash.candidateIntegrityViolation ∧ ¬ crash.deliberateIntegrityViolation ∧
        ¬ crash.diskQuotaFailure ∧ Repairable crash context (priorErrors crash context + 1))) := by
  have v : ValidLedger firstCrash := .of_check (by decide +kernel)
  have v' : ValidLedger lastCrash := .of_check (by decide +kernel)
  obtain ⟨s, context, d, _, view, built, decided⟩ :=
    crash_decided (f := firstFailure) 1 v (by decide +kernel) (by decide +kernel)
  obtain ⟨s', context', d', _, view', built', decided'⟩ :=
    crash_decided (f := lastFailure) 2 v' (by decide +kernel) (by decide +kernel)
  exact ⟨s, s', context, context', d, d', built, built', decided, decided',
    experiment_budget_ignored (crash_same view view') built built' decided decided'⟩

/-- The crash of the first experiment is repaired, the same crash of the last one is abandoned. -/
theorem last_experiment_abandoned : ∃ s s' context context' d d',
    ValidLedger firstCrash ∧ ValidLedger lastCrash ∧
    project firstCrash = .ok s ∧ project lastCrash = .ok s' ∧
    latestRecoverableFailure firstCrash "exp" = some firstFailure ∧
    latestRecoverableFailure lastCrash "exp" = some lastFailure ∧
    SameExperiment plainHarness "exp" firstCrash lastCrash firstFailure lastFailure s s' ∧
    s.maxExperiments = s'.maxExperiments ∧ s.experimentsProposed ≤ s.maxExperiments ∧
    s'.experimentsProposed ≤ s'.maxExperiments ∧
    recoveryPolicyContext plainHarness firstCrash "exp" s firstFailure = .ok context ∧
    recoveryPolicyContext plainHarness lastCrash "exp" s' lastFailure = .ok context' ∧
    decideRecovery plainRendering firstFailure.eventId crash context = .ok d ∧
    decideRecovery plainRendering lastFailure.eventId crash context' = .ok d' ∧
    d.action ≠ .abandon ∧ d'.action = .abandon := by
  have v : ValidLedger firstCrash := .of_check (by decide +kernel)
  have v' : ValidLedger lastCrash := .of_check (by decide +kernel)
  obtain ⟨s, context, d, projected, view, built, decided⟩ :=
    crash_decided (f := firstFailure) 1 v (by decide +kernel) (by decide +kernel)
  obtain ⟨s', context', d', projected', view', built', decided'⟩ :=
    crash_decided (f := lastFailure) 2 v' (by decide +kernel) (by decide +kernel)
  have limit : s.maxExperiments = 2 := congrArg BudgetView.maxExperiments view
  have limit' : s'.maxExperiments = 2 := congrArg BudgetView.maxExperiments view'
  have proposed : s.experimentsProposed = 1 := congrArg BudgetView.proposed view
  have proposed' : s'.experimentsProposed = 2 := congrArg BudgetView.proposed view'
  refine ⟨s, s', context, context', d, d', v, v', projected, projected', rfl, rfl,
    crash_same view view', limit.trans limit'.symm, by omega, by omega, built, built', decided, decided',
    ?_, ?_⟩
  · have time : s.wallTimeLimitSeconds = 3600 ∧ s.elapsedWallTime = 0 :=
      ⟨congrArg BudgetView.wallTimeLimit view, congrArg BudgetView.elapsed view⟩
    have left : ¬ (ExperimentsExhausted s ∨
        ∃ amount ∈ remainingResources plainHarness.config s, amount.2 ≤ 0) := by
      rintro (last | ⟨amount, mem, spent⟩)
      · unfold ExperimentsExhausted at last
        omega
      · obtain rfl : amount = ("wall_time_seconds",
            max 0 (s.wallTimeLimitSeconds - s.elapsedWallTime / 1000000)) :=
          List.mem_singleton.mp mem
        omega
    rw [decideRecovery_action decided, (route_action plainRendering built (routeIntegrity_none.mpr (by decide))).2 left]
    exact fun abandons => routeFailure_abandons.mp abandons (crash_repairable view built)
  · have last : ExperimentsExhausted s' := by
      unfold ExperimentsExhausted
      omega
    rw [decideRecovery_action decided']
    exact (route_action plainRendering built' (routeIntegrity_none.mpr (by decide))).1 (.inl last)

end TacoRank
