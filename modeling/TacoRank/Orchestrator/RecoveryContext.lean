import TacoRank.Recovery.Soundness
import TacoRank.Orchestrator.Rejections
import TacoRank.Orchestrator.Budgets

/-!
# The recovery context

Port of the part of `Harness._recover` that builds the context of the recovery policy from the ledger,
and the agreement of the policy with the state machine: both derive the repair slot, the remaining
budget and the retry cap from the node, so a decision of the policy passes the `RECOVERY_DECIDED`
branch. It is accepted as long as the run accepts recovery events at all.
-/

namespace TacoRank
open Lib Lib.Result

/-- The events of the ledger before the event with an id. -/
def eventsUntil (events : List Event) (eventId : EventId) : List Event :=
  events.takeWhile (·.eventId ≠ eventId)

/-- The experiment whose failure `_previous_failure_fingerprints` collects. -/
def EventPayload.failedExperiment : EventPayload → Option String
  | .patchChecked result => if result.accepted then none else some result.experimentId
  | .executionFinished result =>
    if result.outcome = .success ∨ result.outcome = .cancelled then none
    else some result.experimentId
  | .adapterFailed result => some result.experimentId
  | .outputChecked result => if result.accepted then none else some result.experimentId
  | .evaluationCompleted result =>
    if result.trust.verdict = .noOp then some result.experimentId else none
  | _ => none

/-- What the harness reads outside the ledger: its configuration, the fingerprints of failures, and
the texts of a specification that are kept in its `details`. -/
structure RecoveryInputs where
  config : RunConfig
  fingerprint : EventPayload → String
  expectedMechanism : ExperimentSpec → String
  targetFiles : ExperimentSpec → List String

section Context
variable (inputs : RecoveryInputs) (events : List Event) (experimentId : String)

/-- `_previous_failure_fingerprints`. -/
def previousFailureFingerprints (before : EventId) : List String :=
  ((eventsUntil events before).filter
    (·.payload.failedExperiment = some experimentId)).map (inputs.fingerprint ·.payload)

/-- `_attempt_history`. -/
def attemptHistory (before : EventId) : List AttemptRecord :=
  (eventsUntil events before).filterMap fun event =>
    (EventKind.recoveryDecided.ofExperiment experimentId event).map fun (_, decision) =>
      { failureEventId := decision.failureEventId
        action := decision.action
        reasonCode := decision.reasonCode
        repairAttempt := decision.repairAttempt
        remainingRepairBudget := decision.remainingRepairBudget }

/-- `_experiment_spec`. -/
def experimentSpec : Except PyError ExperimentSpec :=
  match events.findSome? (EventKind.experimentProposed.ofExperiment experimentId) with
  | some (_, spec) => .ok spec
  | none => .error (.valueError "recovery experiment specification is missing")

/-- `_current_runtime_settings`. -/
def currentRuntimeSettings (before : EventId) : List (String × RuntimeValue) :=
  match lastForExperiment .executionStarted (eventsUntil events before) experimentId with
  | some (_, request) => request.runtimeSettings
  | none => []

/-- `_remaining_run_budget`. -/
def remainingRunBudget (config : RunConfig) (state : RunState) : List (String × Int) :=
  let totals := state.resourceTotals
  let seconds := state.elapsedWallTime / 1000000
  let tokens := totals.providerInputTokens + totals.providerOutputTokens +
    (totals.estimatedInputTokens + totals.estimatedOutputTokens)
  [("experiments", ((state.maxExperiments - state.experimentsProposed : Nat) : Int)),
    ("wall_time_seconds", max 0 (state.wallTimeLimitSeconds - seconds))] ++
  (match config.tokenLimit with
    | some limit => [("token", ((limit - tokens : Nat) : Int))]
    | none => []) ++
  match config.gpuSecondsLimit with
  | some limit => [("gpu_seconds", ((limit - totals.gpuWeightedTimeMs / 1000 : Nat) : Int))]
  | none => []

/-- `node.latest_commit_sha or node.base_commit_sha`. -/
def ExperimentNode.currentCommit (node : ExperimentNode) : String :=
  match node.latestCommitSha with
  | some commit => if commit = "" then node.baseCommitSha else commit
  | none => node.baseCommitSha

/-- `_validate_runtime_mapping` on the approved settings of the configuration. -/
def validApprovedMapping (values : List (String × ApprovedAdjustment)) : Bool :=
  values.all fun (name, approved) => name ∈ approvedAdjustments ∧
    (approved.approved.any (validValue name)) = true

/-- The context of the recovery policy that `_recover` builds for a failure. -/
def recoveryPolicyContext (state : RunState) (failure : Event) :
    Except PyError RecoveryPolicyContext := do
  let node ← match state.experiments.get? experimentId with
    | some node => .ok node
    | none => .error (.keyError experimentId)
  let remaining := state.maxRepairsPerExperiment - node.repairCount
  let spec ← experimentSpec events experimentId
  let settings := currentRuntimeSettings events experimentId failure.eventId
  if valid : NonEmpty node.currentCommit ∧
      (state.maxRepairsPerExperiment ≤ 2 ∧ node.sameCommitRetryCount ≤ 2) ∧
      (remaining : Int) = state.maxRepairsPerExperiment - node.repairCount ∧
      validApprovedMapping inputs.config.allowedRuntimeAdjustments = true ∧
      validRuntimeMapping settings = true then
    .ok
      { experimentId
        originalExperimentSpec := spec
        expectedMechanism := inputs.expectedMechanism spec
        targetFiles := inputs.targetFiles spec
        currentPatchCommitSha := node.currentCommit
        failureEventId := failure.eventId
        failureStage := failure.payload.failureStage.getD .execution
        attemptHistory := attemptHistory events experimentId failure.eventId
        repairAttemptsUsed := node.repairCount
        maxRepairAttempts := state.maxRepairsPerExperiment
        sameCommitRetriesUsed := node.sameCommitRetryCount
        remainingRepairBudget := remaining
        previousErrorFingerprints :=
          previousFailureFingerprints inputs events experimentId failure.eventId
        remainingRunBudget := remainingRunBudget inputs.config state
        allowedRuntimeAdjustments := inputs.config.allowedRuntimeAdjustments
        currentRuntimeSettings := settings
        validateCommit := valid.1
        validateLimits := valid.2.1
        validateRepairBudget := valid.2.2.1 }
  else
    .error (.valueError "recovery policy context is not schema-valid")

end Context

section Built
variable {inputs : RecoveryInputs} {es : List Event} {x : String} {s : RunState} {f : Event}
  {n : ExperimentNode} {context : RecoveryPolicyContext}

/-- What the context takes from the node. -/
lemma recoveryPolicyContext_inv (built : recoveryPolicyContext inputs es x s f = .ok context)
    (node : s.experiments.get? x = some n) :
    context.experimentId = x ∧ context.failureEventId = f.eventId ∧
      context.repairAttemptsUsed = n.repairCount ∧
      context.maxRepairAttempts = s.maxRepairsPerExperiment ∧
      context.sameCommitRetriesUsed = n.sameCommitRetryCount := by
  simp only [recoveryPolicyContext, node, ok_bind, bind_eq_ok] at built
  obtain ⟨spec, _, built⟩ := built
  split at built
  · cases built
    exact ⟨rfl, rfl, rfl, rfl, rfl⟩
  · cases built

/-- A retry is only decided below the cap. -/
lemma ValidLedger.retryCap {r} (v : ValidLedger es) (hr : TacoRank.replay es = .ok r) :
    ∀ m, r.state.experiments.get? x = some m → m.sameCommitRetryCount ≤ maxSameCommitRetries := by
  refine v.node_induct
    (P := fun _ n => ∀ m, n = some m → m.sameCommitRetryCount ≤ maxSameCommitRetries) ?_ ?_ hr
  · intro m none
    cases none
  · intro es e r n n' v hr ok _ step ih m found
    cases step with
    | frame => exact ih m found
    | @recoveryDecided d n _ _ legal =>
      cases found
      have count := ih n rfl
      have cap := legal.retries
      unfold Reducer.recoveryNode ExperimentNode.recoveryCounted
      cases action : d.action with
      | retrySameCommit => exact cap action
      | _ => exact count
    | @executionFinished res n =>
      cases found
      have count := ih n rfl
      unfold ExperimentNode.executionFinished
      split <;> exact count
    | @experimentDecided d n =>
      cases found
      have count := ih n rfl
      unfold ExperimentNode.decided
      dsimp only
      split
      · split <;> exact count
      · exact count
    | proposed | patchCreated =>
      cases found
      exact Nat.zero_le _
    | @patchChecked _ n | @executionStarted _ n | @adapterFailed _ n | @outputChecked _ n
    | @evaluationCompleted _ _ n =>
      cases found
      exact ih n rfl

/-- A specification that was found stays the first one. -/
lemma experimentSpec_snoc {e : Event} {spec : ExperimentSpec} (h : experimentSpec es x = .ok spec) :
    experimentSpec (es ++ [e]) x = .ok spec := by
  unfold experimentSpec at h ⊢
  rw [List.findSome?_append]
  split at h
  · rename_i found
    rw [found]
    exact h
  · cases h

/-- The experiment of a node was proposed. -/
lemma ValidLedger.proposed {r} (v : ValidLedger es) (hr : TacoRank.replay es = .ok r) :
    ∀ m, r.state.experiments.get? x = some m → ∃ spec, experimentSpec es x = .ok spec := by
  refine v.node_induct (P := fun es n => ∀ m, n = some m → ∃ spec, experimentSpec es x = .ok spec)
    ?_ ?_ hr
  · intro m none
    cases none
  · intro es e r n n' v hr ok _ step ih m found
    cases old : n with
    | some before =>
      obtain ⟨spec, known⟩ := ih before old
      exact ⟨spec, experimentSpec_snoc known⟩
    | none =>
      subst old
      cases step with
      | frame => cases found
      | @proposed spec payload owner =>
        have own : EventKind.experimentProposed.ofExperiment x e = some (e, spec) :=
          EventKind.ofExperiment_self (by rw [payload]; rfl) owner
        unfold experimentSpec
        rw [List.findSome?_append]
        cases es.findSome? (EventKind.experimentProposed.ofExperiment x) with
        | some first => exact ⟨first.2, rfl⟩
        | none =>
          refine ⟨spec, ?_⟩
          simp only [Option.none_or, List.findSome?_cons, own]

/-- The numbers of a valid ledger pass the schema of the context. -/
lemma recoveryPolicyContext_ok (v : ValidLedger es) (projected : project es = .ok s)
    (limit : s.maxRepairsPerExperiment ≤ 2) (node : s.experiments.get? x = some n)
    (commit : NonEmpty n.currentCommit)
    (approved : validApprovedMapping inputs.config.allowedRuntimeAdjustments = true)
    (settings : validRuntimeMapping (currentRuntimeSettings es x f.eventId) = true) :
    ∃ context, recoveryPolicyContext inputs es x s f = .ok context := by
  obtain ⟨r, hr, rfl⟩ := project_ok.mp projected
  have started : es ≠ [] := by
    rintro rfl
    cases hr
    cases node
  have found := node
  rw [RunState.aggregate_experiments] at found
  obtain ⟨spec, known⟩ := v.proposed hr n found
  obtain ⟨contract, hc, repairs, _⟩ := v.contract hr started
  have counters := v.counters hr hc x
  have spent := counters.repairs
  have repairLimit := counters.repairLimit
  rw [found, Option.map_some, Option.getD_some] at spent
  rw [RunState.aggregate_maxRepairsPerExperiment] at limit
  have budget : ((r.state.maxRepairsPerExperiment - n.repairCount : Nat) : Int) =
      r.state.maxRepairsPerExperiment - n.repairCount := by
    omega
  unfold recoveryPolicyContext
  simp only [node, ok_bind, known, RunState.aggregate_maxRepairsPerExperiment]
  rw [dif_pos ⟨commit, ⟨limit, v.retryCap hr n found⟩, budget, approved, settings⟩]
  exact ⟨_, rfl⟩

end Built

/-! ### The law -/

/-- A stopped run rejects whatever may not follow the stop. -/
lemma stopped_rejects {es r p} (hr : replay es = .ok r) (stopped : r.state.status = .stopped)
    (other : p.type.mayFollowStop = false) (later : p.type ≠ .runStarted) :
    validateTransition es p =
      .error (.transitionError "only sealed finalization evidence may follow run.stopped") := by
  have projected : project es = .ok (r.state.aggregate es) := project_ok.mpr ⟨r, hr, rfl⟩
  cases es with
  | nil =>
    cases hr
    cases stopped
  | cons e0 es =>
    simp only [validateTransition, projected, validateRunStatus, RunState.aggregate_status, stopped,
      require, if_pos later, ok_bind, other]
    rfl

/-- A decision of the policy passes the `RECOVERY_DECIDED` branch wherever the node, the latest failure
and the repair limit are those of its context. -/
lemma PolicyDecision.legal {es s n f} {context : RecoveryPolicyContext} {decision : RecoveryDecision}
    (h : PolicyDecision f.eventId context decision) (recovering : n.status = .recovering)
    (latest : latestRecoverableFailure es context.experimentId = some f)
    (used : context.repairAttemptsUsed = n.repairCount)
    (limit : context.maxRepairAttempts = s.maxRepairsPerExperiment)
    (retried : context.sameCommitRetriesUsed = n.sameCommitRetryCount) :
    RecoveryLegal es s decision n := by
  have budget := context.validateRepairBudget
  have left := h.budget
  refine ⟨recovering, ?_, ⟨f, ?_, h.failure⟩, ?_, ?_⟩
  · rw [h.attempt, used, limit]
  · rw [h.experiment, latest]
  · rw [left, budget, used, limit]
  · intro retry
    rw [← retried]
    exact h.retries retry

/-- A live run accepts a legal recovery decision. -/
lemma recovery_accepted {es r n decision} (hr : replay es = .ok r)
    (node : r.state.experiments.get? decision.experimentId = some n) (live : Live r.state.status)
    (legal : RecoveryLegal es (r.state.aggregate es) decision n) :
    validateTransition es (.recoveryDecided decision) = .ok () := by
  have started : es ≠ [] := by
    rintro rfl
    cases hr
    cases node
  have branch := validateRecoveryDecided_ok.mpr
    ⟨n, by rw [RunState.aggregate_experiments]; exact node, legal⟩
  exact (validateTransition_ok hr).mpr (.later started (by simp [EventPayload.type]) live.legal branch)

/-- The recovery context that the harness records leaves the experiment as it is. -/
lemma context_frame {es r r' e recorded} (hr : replay es = .ok r) (ok : Accepted es e)
    (step : r.step e = .ok r') (payload : e.payload = .contextCreated recorded) (x : String) :
    r'.state.experiments.get? x = r.state.experiments.get? x ∧ Live r'.state.status ∧
      r'.state.maxRepairsPerExperiment = r.state.maxRepairsPerExperiment ∧
      latestRecoverableFailure (es ++ [e]) x = latestRecoverableFailure es x := by
  have run := Reducer.step_inv step
  refine ⟨?_, ?_, run.frame.repairs (by simp [payload, EventPayload.type]), ?_⟩
  · have write := run.nodes x
    generalize r.state.experiments.get? x = n at write ⊢
    generalize r'.state.experiments.get? x = n' at write ⊢
    cases write with
    | frame => rfl
    | proposed other =>
      rw [payload] at other
      cases other
    | update owner =>
      rw [payload] at owner
      cases owner
  · obtain ⟨status, branch⟩ := ok.branch hr (by simp [payload, EventPayload.type])
    rw [payload] at branch
    simp only [validateBranch, validateContextCreated, bind_eq_ok, require_ok,
      RunState.aggregate_status] at branch
    obtain ⟨_, _, running⟩ := branch
    have same : r'.state.status = r.state.status := by
      rw [run.frame.status, payload]
      rfl
    rw [same]
    cases before : r.state.status with
    | initializing | ready | running => trivial
    | stopped | finalizing => simp [before] at running
    | finalized => exact absurd before status.live.1
    | failed => exact absurd before status.live.2
  · rw [latestRecoverableFailure_snoc, if_neg (by simp [payload, EventPayload.recoverableFailure])]

/-- The policy never proposes what the ledger rejects: for an experiment in recovery, every
classification of its latest failure and the context built from the ledger, the policy constructs a
decision, and the state machine accepts it if and only if the run is neither stopped nor closed. In
particular it accepts the decision behind the recovery context that the harness records first. -/
theorem recovery_decisions {es s x n f inputs render failure context} (v : ValidLedger es)
    (projected : project es = .ok s) (node : s.experiments.get? x = some n)
    (recovering : n.status = .recovering) (latest : latestRecoverableFailure es x = some f)
    (built : recoveryPolicyContext inputs es x s f = .ok context) :
    ∃ decision, decideRecovery render f.eventId failure context = .ok decision ∧
      (validateTransition es (.recoveryDecided decision) = .ok () ↔ Live s.status) ∧
      ∀ e recorded, e.payload = .contextCreated recorded → Accepted es e →
        validateTransition (es ++ [e]) (.recoveryDecided decision) = .ok () := by
  obtain ⟨r, hr, rfl⟩ := project_ok.mp projected
  obtain ⟨rfl, cited, used, limit, retried⟩ := recoveryPolicyContext_inv built node
  obtain ⟨decision, decided, policy⟩ : ∃ decision,
      decideRecovery render f.eventId failure context = .ok decision ∧
      PolicyDecision f.eventId context decision := decideRecovery_ok cited
  rw [RunState.aggregate_experiments, ← policy.experiment] at node
  rw [RunState.aggregate_maxRepairsPerExperiment] at limit
  refine ⟨decision, decided, ⟨?_, ?_⟩, ?_⟩
  · intro accepted
    cases (validateTransition_ok hr).mp accepted with
    | first start =>
      subst start
      cases hr
      cases node
    | later _ _ status _ =>
      rw [RunState.aggregate_status]
      cases before : r.state.status with
      | initializing | ready | running => trivial
      | stopped => cases status.stopped before
      | finalizing => cases status.finalizing before
      | finalized => exact absurd before status.live.1
      | failed => exact absurd before status.live.2
  · intro live
    rw [RunState.aggregate_status] at live
    apply recovery_accepted hr node live
    exact policy.legal recovering latest used (by simpa using limit) retried
  · intro e recorded payload ok
    obtain ⟨r', step⟩ := ok.step hr
    have hr' : replay (es ++ [e]) = .ok r' := by
      rw [replay_snoc, hr]
      exact step
    obtain ⟨sameNode, live, sameLimit, sameFailure⟩ :=
      context_frame hr ok step payload context.experimentId
    rw [policy.experiment, ← sameNode, ← policy.experiment] at node
    apply recovery_accepted hr' node live
    refine policy.legal recovering (sameFailure.trans latest) used ?_ retried
    rw [RunState.aggregate_maxRepairsPerExperiment, sameLimit, limit]

/-- A harness with one metric and no approved adjustments. -/
def plainHarness : RecoveryInputs where
  config :=
    { runId := "run"
      commandIds := ["train"]
      metricNames := ["auc"]
      primaryMetricName := "auc"
      dataManifestSha256 := "data"
      evaluatorSha256 := "evaluator"
      seedSchedule := [0, 1, 2, 3]
      repairLimit := le_rfl
      validateCommands := by simp
      validateSeeds := by simp }
  fingerprint _ := "fingerprint"
  expectedMechanism _ := "mechanism"
  targetFiles _ := ["model.py"]

/-- The classification of a crash of the candidate. -/
def crash : FailureClassification :=
  { failureClass := .codeError, reasonCode := "CODE_ERROR", fingerprint := "fingerprint"
    evidence := "ValueError", owner := .executionRunner, traeRepairable := true }

/-- A rendering of settings and lessons. -/
def plainRendering : Rendering := ⟨fun _ => "value", fun _ => ""⟩

open Scenario in
/-- A run whose experiment crashes and which is then stopped. -/
def crashedRun : List Event := record (proposal 2 "exp" ++
  [ (some 6, patch "exp" 1 "a"), (some 7, gatePassed "exp" 1 "a"),
    (some 8, .executionStarted (request "exp" 1 "a" 0)), (some 9, crashed "exp" 1 "a"),
    (some 10, .runStopped "wall_time_budget" "wall time is used up") ])

/-- The context of the crash, before and after the stop. -/
lemma crashedRun_context {k : Nat} (position : k = 10 ∨ k = 11) :
    ∃ s n f context, ValidLedger (crashedRun.take k) ∧ project (crashedRun.take k) = .ok s ∧
      s.maxRepairsPerExperiment = 2 ∧ s.experiments.get? "exp" = some n ∧ n.status = .recovering ∧
      latestRecoverableFailure (crashedRun.take k) "exp" = some f ∧
      recoveryPolicyContext plainHarness (crashedRun.take k) "exp" s f = .ok context := by
  have v : ValidLedger (crashedRun.take k) := by
    have whole : ValidLedger crashedRun := .of_check (by decide +kernel)
    rw [← List.take_append_drop k crashedRun] at whole
    exact whole.front
  obtain ⟨s, projected⟩ := v.project
  have limit : (project (crashedRun.take k)).toOption.map (·.maxRepairsPerExperiment) = some 2 := by
    rcases position with rfl | rfl <;> decide +kernel
  have node : (nodeOf (crashedRun.take k) "exp").map (fun n => (n.status, n.currentCommit)) =
      some (.recovering, "a") := by
    rcases position with rfl | rfl <;> decide +kernel
  have latest : latestRecoverableFailure (crashedRun.take k) "exp" =
      some (crashedRun.get ⟨9, by decide⟩) := by
    rcases position with rfl | rfl <;> rfl
  have settings : validRuntimeMapping (currentRuntimeSettings (crashedRun.take k) "exp"
      (crashedRun.get ⟨9, by decide⟩).eventId) = true := by
    rcases position with rfl | rfl <;> decide +kernel
  obtain ⟨n, found, facts⟩ := Option.map_eq_some_iff.mp node
  simp only [Prod.mk.injEq] at facts
  rw [projected] at limit
  have limit : s.maxRepairsPerExperiment = 2 := Option.some.inj limit
  have found : s.experiments.get? "exp" = some n := by
    unfold nodeOf at found
    rwa [projected] at found
  have commit : NonEmpty n.currentCommit := by
    rw [facts.2]
    exact .of_chars rfl
  obtain ⟨context, built⟩ : ∃ context, recoveryPolicyContext plainHarness (crashedRun.take k) "exp" s
      (crashedRun.get ⟨9, by decide⟩) = .ok context :=
    recoveryPolicyContext_ok v projected limit.le found commit rfl settings
  exact ⟨s, n, _, context, v, projected, limit, found, facts.1, latest, built⟩

theorem recovery_decisions_run : ∃ eventId context decision,
    decideRecovery plainRendering eventId crash context = .ok decision ∧
    validateTransition (crashedRun.take 10) (.recoveryDecided decision) = .ok () := by
  obtain ⟨s, n, f, context, v, projected, _, node, recovering, latest, built⟩ :=
    crashedRun_context (.inl rfl)
  have running : statusOf (crashedRun.take 10) = some .running := by decide +kernel
  have live : Live s.status := by
    simp only [statusOf, projected, Option.some.injEq] at running
    rw [running]
    trivial
  obtain ⟨decision, decided, accepted, _⟩ : ∃ decision,
      decideRecovery plainRendering f.eventId crash context = .ok decision ∧ _ :=
    recovery_decisions v projected node recovering latest built
  exact ⟨f.eventId, context, decision, decided, accepted.mpr live⟩

/-- After the stop, the policy still decides and the state machine rejects the decision. -/
theorem stopped_recovery_rejected : ∃ s n f context decision, ValidLedger crashedRun ∧
    project crashedRun = .ok s ∧ s.maxRepairsPerExperiment = 2 ∧
    s.experiments.get? "exp" = some n ∧ n.status = .recovering ∧
    latestRecoverableFailure crashedRun "exp" = some f ∧
    recoveryPolicyContext plainHarness crashedRun "exp" s f = .ok context ∧
    decideRecovery plainRendering f.eventId crash context = .ok decision ∧
    validateTransition crashedRun (.recoveryDecided decision) =
      .error (.transitionError "only sealed finalization evidence may follow run.stopped") := by
  obtain ⟨s, n, f, context, v, projected, limit, node, recovering, latest, built⟩ :=
    crashedRun_context (.inr rfl)
  have whole : crashedRun.take 11 = crashedRun := rfl
  rw [whole] at v projected latest built
  obtain ⟨_, cited, _⟩ := recoveryPolicyContext_inv built node
  obtain ⟨decision, decided, _⟩ : ∃ decision,
      decideRecovery plainRendering f.eventId crash context = .ok decision ∧
      PolicyDecision f.eventId context decision := decideRecovery_ok cited
  have stopped : statusOf crashedRun = some .stopped := by decide +kernel
  obtain ⟨r, hr⟩ := v.replay
  rw [statusOf_replay hr] at stopped
  refine ⟨s, n, f, context, decision, v, projected, limit, node, recovering, latest, built, decided,
    stopped_rejects hr (Option.some.inj stopped) rfl (by simp [EventPayload.type])⟩

end TacoRank
