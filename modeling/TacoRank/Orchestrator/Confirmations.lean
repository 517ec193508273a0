import TacoRank.Orchestrator.AdapterFailures
import TacoRank.Orchestrator.Budgets
import TacoRank.Orchestrator.Live
import TacoRank.Orchestrator.Provenance

/-!
# Decisions on evaluations

The decision layer and the state machine both limit confirmations. The live bridge derives the attempts
that remain from the seed evidence of a result, so it counts the evaluations of the current commit; the
projection counts the confirmations that the experiment has been granted. `decision_layers_agree` says
that every decision of the layer is accepted except where these counts have drifted apart, which a
repair between a confirmation and the evaluation that answers it brings about.
-/

namespace TacoRank
open Lib Lib.Result

/-! ### The ledger after an evaluation -/

section Ledger
variable {pre post : List Event} {e : Event} {x : String} {result : EvaluationResult}

/-- After an evaluation, its experiment is evaluated and the evaluation is the one to decide on. -/
lemma ValidLedger.evaluated (v : ValidLedger (pre ++ e :: post))
    (payload : e.payload = .evaluationCompleted result) (verdict : result.trust.verdict ≠ .noOp)
    (foreign : ∀ s ∈ post, s.payload.experiment ≠ some result.experimentId) :
    ∃ n, nodeOf (pre ++ e :: post) result.experimentId = some n ∧ n.status = .evaluated ∧
      lastForExperiment .evaluationCompleted (pre ++ e :: post) result.experimentId =
        some (e, result) := by
  have split : pre ++ e :: post = pre ++ [e] ++ post := by simp
  obtain ⟨r, n, q, hr, node, legal⟩ := v.evaluation_inv payload
  refine ⟨r.nodeUpdate e n, ?_, ?_, ?_⟩
  · rw [split] at v ⊢
    rw [nodeOf_append_foreign v foreign]
    exact nodeOf_update hr v.front.snoc_inv.2 node (by simp [payload, EventPayload.experiment])
      (by simp [payload])
  · simp [Reducer.nodeUpdate, payload, ExperimentNode.evaluationCompleted, verdict]
  · refine Log.lastSome_at (EventKind.ofExperiment_self ?_ rfl) fun s mem => ?_
    · rw [payload]
      rfl
    · exact EventKind.ofExperiment_frame (foreign s mem)

end Ledger

/-! ### The decision of the bridge -/

section Bridge
variable {bridge : ProtectedEvaluationBridge} {domain : Evaluation.EvaluationResult}
  {result : EvaluationResult}

/-- A returned result agrees with its domain result in what a decision depends on. -/
structure SameEvidence (domain : Evaluation.EvaluationResult) (result : EvaluationFields) : Prop where
  experiment : domain.experimentId = result.experimentId
  population : domain.population = result.population
  fidelity : domain.fidelity = result.fidelity
  verdict : domain.trust.verdict = result.trust.verdict
  stability : domain.trust.stability = result.trust.stability
  integrity : domain.trust.integrity = result.trust.integrity
  seeds : domain.seedEvidenceEventIds = result.seedEvidenceEventIds

lemma ProtectedEvaluationBridge.Returned.same (h : bridge.Returned domain result) :
    SameEvidence domain result.toEvaluationFields := by
  obtain ⟨c, details, canonical, fields⟩ := h.canonical
  obtain ⟨trust, trusted, same⟩ := Evaluation.EvaluationResult.toCanonical_ok canonical
  obtain ⟨verdict, stability, integrity⟩ := Evaluation.TrustAssessment.toCanonical_ok trusted
  rw [fields, same]
  exact ⟨rfl, rfl, rfl, verdict.symm, stability.symm, integrity.symm, rfl⟩

/-- The bridge answers with a decision of its layer, to which it adds a lesson. -/
lemma ProtectedEvaluationBridge.decide_ok {events : List Event} {e : Event} {d : ExperimentDecision}
    (returned : bridge.Returned domain result)
    (event : ProtectedEvaluationBridge.evaluationEvent events result = some e)
    (h : bridge.decide events result = .ok d) :
    ∃ c lesson, bridge.decision domain e = .ok c ∧ d = { c with lessonCandidate := lesson } := by
  unfold decide at h
  simp only [returned.kept, event, bind_eq_ok] at h
  obtain ⟨c, decided, spec, _, execution, _, h⟩ := h
  split at h
  · exact ⟨c, c.lessonCandidate, decided, (pure_eq_ok.mp h).symm⟩
  · exact ⟨c, _, decided, (pure_eq_ok.mp h).symm⟩

/-- The evaluation that was just recorded is the one that the bridge decides on. -/
lemma evaluationEvent_recorded {pre post : List Event} {e : Event}
    (payload : e.payload = .evaluationCompleted result)
    (foreign : ∀ s ∈ post, s.payload.experiment ≠ some result.experimentId) :
    ProtectedEvaluationBridge.evaluationEvent (pre ++ e :: post) result = some e := by
  refine Log.lastSome_at (by simp [payload]) fun s mem => ?_
  have other := foreign s mem
  cases found : s.payload with
  | evaluationCompleted found' =>
    have keys : ProtectedEvaluationBridge.key found' ≠ ProtectedEvaluationBridge.key result :=
      fun same => other (by rw [found]; exact congrArg some (congrArg Prod.fst same))
    simp [keys]
  | _ => rfl

/-- The canonical decision on an evaluation, with what the state machine reads of it. -/
structure Decided (bridge : ProtectedEvaluationBridge) (e : Event) (result : EvaluationResult)
    (d : ExperimentDecision) : Prop where
  experiment : d.experimentId = result.experimentId
  evaluation : d.evaluationEventId = some e.eventId
  completed : d.fidelityCompleted = result.fidelity
  next : d.nextFidelity = if d.decision = .promote then some .full else none
  best : d.bestEligible = true → BestEligible d result
  confirms : result.fidelity = .full → (d.decision = .promote ↔
    result.trust.verdict = .accepted ∧ result.trust.stability = .singleSeed ∧
      result.seedEvidenceEventIds.length < bridge.config.maxConfirmationAttempts)

/-- The state machine reads no lesson off a decision. -/
lemma Decided.withLesson {e : Event} {d : ExperimentDecision} (h : Decided bridge e result d)
    (lesson : Option LessonCandidate) :
    Decided bridge e result { d with lessonCandidate := lesson } where
  experiment := h.experiment
  evaluation := h.evaluation
  completed := h.completed
  next := h.next
  best eligible := by
    obtain ⟨full, population, accepted, confirmed, clean, accept⟩ := h.best eligible
    exact ⟨full, population, accepted, confirmed, clean, accept⟩
  confirms := h.confirms

/-- The bridge has a decision on every evaluation of a lane that is not a no-op. -/
lemma ProtectedEvaluationBridge.Returned.decided {e : Event} (returned : bridge.Returned domain result)
    (caused : e.causationEventId ≠ none) (verdict : result.trust.verdict ≠ .noOp)
    (site : result.fidelity = .proxy ∧ result.population = .internalProxy ∨
      result.fidelity = .full ∧ result.population = .publicValidation) :
    ∃ d, bridge.decision domain e = .ok d ∧ Decided bridge e result d := by
  have same := returned.same
  have awaits : Evaluation.AwaitsDecision domain (bridge.decisionContext domain e) :=
    { seeds := rfl
      verdict := same.verdict ▸ verdict
      site := by rw [same.fidelity, same.population]; exact site }
  obtain ⟨d, decided, facts⟩ := awaits.decides
  have supported : none ∉ (bridge.decisionContext domain e).supportingEventIds := by
    simpa [decisionContext, eq_comm] using caused
  obtain ⟨c, canonical, experiment, evaluation, action, completed, best, next⟩ :=
    facts.toCanonical supported
  refine ⟨c, ?_, ?_⟩
  · unfold decision
    rw [decided]
    exact canonical
  · have confirmations : (0 : Int) < (bridge.decisionContext domain e).confirmationsRemaining ↔
        result.seedEvidenceEventIds.length < bridge.config.maxConfirmationAttempts := by
      have seeds : domain.seedEvidenceEventIds.length = result.seedEvidenceEventIds.length :=
        congrArg List.length same.seeds
      simp only [decisionContext, seeds]
      omega
    exact {
      experiment := experiment.trans (facts.experiment.trans same.experiment)
      evaluation := evaluation.trans facts.evaluation
      completed := completed.trans (facts.completed.trans same.fidelity)
      next := by rw [next, action, facts.next]
      best := fun eligible => by
        obtain ⟨⟨full, population, accepted, confirmed, clean⟩, accept⟩ :=
          facts.best (best ▸ eligible)
        exact ⟨same.fidelity ▸ full, same.population ▸ population, same.verdict ▸ accepted,
          same.stability ▸ confirmed, same.integrity ▸ clean, action.trans accept⟩
      confirms := fun full => by
        rw [action, facts.confirms (same.fidelity.trans full), Evaluation.Confirms, confirmations,
          same.fidelity, same.verdict, same.stability]
        simp [full] }

end Bridge

/-- The experiment has spent the confirmations that the state machine grants it, although the evidence
of a trusted single-seed result leaves attempts. -/
def ConfirmationSpent (limit : Nat) (n : ExperimentNode) (result : EvaluationResult) : Prop :=
  result.fidelity = .full ∧ result.trust.verdict = .accepted ∧
    result.trust.stability = .singleSeed ∧ result.seedEvidenceEventIds.length < limit ∧
    limit ≤ n.confirmationCount

/-- The promotion of a decision is legal unless it asks for a confirmation that is spent. -/
lemma Decided.promotionLegal {bridge : ProtectedEvaluationBridge} {e : Event} {s : RunState}
    {n : ExperimentNode} {result : EvaluationResult} {d : ExperimentDecision}
    (decided : Decided bridge e result d)
    (site : result.fidelity = .proxy ∨ result.fidelity = .full)
    (limit : s.maxConfirmationAttempts = bridge.config.maxConfirmationAttempts) :
    PromotionLegal s n d ↔
      ¬ ConfirmationSpent bridge.config.maxConfirmationAttempts n result := by
  unfold PromotionLegal ConfirmationSpent
  rw [decided.completed, limit]
  rcases site with proxy | full
  · have higher : d.decision = .promote → ∃ next completed,
        d.nextFidelity.bind Fidelity.order = some next ∧ result.fidelity.order = some completed ∧
        completed < next := by
      intro promote
      rw [decided.next, if_pos promote, proxy]
      exact ⟨2, 1, rfl, rfl, by omega⟩
    simp only [proxy, reduceCtorEq, if_false, false_and, not_false_iff, iff_true]
    simpa only [proxy] using higher
  · have next : d.decision = .promote → d.nextFidelity = some .full := fun promote => by
      rw [decided.next, if_pos promote]
    simp only [full, if_true, true_and]
    constructor
    · rintro legal ⟨accepted, single, evidence, spent⟩
      have promote := (decided.confirms full).mpr ⟨accepted, single, evidence⟩
      exact absurd (legal promote).2 (Nat.not_lt.mpr spent)
    · intro granted promote
      obtain ⟨accepted, single, evidence⟩ := (decided.confirms full).mp promote
      exact ⟨next promote, Nat.lt_of_not_le fun spent => granted ⟨accepted, single, evidence, spent⟩⟩

/-- The population decides the fidelity: only proxy and public evaluations are recorded. -/
lemma ValidLedger.evaluationSite {pre post : List Event} {e : Event} {result : EvaluationResult}
    (v : ValidLedger (pre ++ e :: post)) (payload : e.payload = .evaluationCompleted result) :
    result.fidelity = .proxy ∧ result.population = .internalProxy ∨
      result.fidelity = .full ∧ result.population = .publicValidation := by
  obtain ⟨_, _, q, _, _, legal⟩ := v.evaluation_inv payload
  have population := legal.population
  split at population
  next proxy => exact .inl ⟨legal.fidelity.trans proxy, population⟩
  next => exact .inr ⟨(result.validateEvaluationRoute.1 population).1, population⟩

/-- The state machine accepts a decision exactly when its confirmation is not spent. -/
lemma Decided.accepted_iff {bridge : ProtectedEvaluationBridge} {pre post : List Event} {e : Event}
    {result : EvaluationResult} {d : ExperimentDecision} (decided : Decided bridge e result d)
    (v : ValidLedger (pre ++ e :: post)) (payload : e.payload = .evaluationCompleted result)
    (foreign : ∀ s ∈ post, s.payload.experiment ≠ some result.experimentId)
    (frozen : ∀ c ∈ contractOf (pre ++ e :: post),
      c.maxConfirmationAttempts = bridge.config.maxConfirmationAttempts)
    (verdict : result.trust.verdict ≠ .noOp) :
    validateTransition (pre ++ e :: post) (.experimentDecided d) = .ok () ↔
      (∃ status, statusOf (pre ++ e :: post) = some status ∧ Live status) ∧
      ∀ n ∈ nodeOf (pre ++ e :: post) result.experimentId,
        ¬ ConfirmationSpent bridge.config.maxConfirmationAttempts n result := by
  have started : pre ++ e :: post ≠ [] := by simp
  have site := v.evaluationSite payload
  obtain ⟨r, hr⟩ := v.replay
  obtain ⟨n, node, evaluated, last⟩ := v.evaluated payload verdict foreign
  have limit : (r.state.aggregate (pre ++ e :: post)).maxConfirmationAttempts =
      bridge.config.maxConfirmationAttempts := by
    obtain ⟨c, contract, _, confirmations⟩ := v.contract hr started
    rw [RunState.aggregate_maxConfirmationAttempts, confirmations]
    exact frozen c contract
  have promotion := decided.promotionLegal (n := n) (site.imp And.left And.left) limit
  have evidence : DecisionEvidence (pre ++ e :: post) n d := by
    have fidelity : d.fidelityCompleted ≠ .smoke := by
      rw [decided.completed]
      rcases site with ⟨fidelity, _⟩ | ⟨fidelity, _⟩ <;> simp [fidelity]
    rw [← decided.experiment] at last
    exact .evaluated fidelity evaluated last decided.evaluation decided.completed decided.best
  have only (P : ExperimentNode → Prop) :
      (∀ m ∈ nodeOf (pre ++ e :: post) result.experimentId, P m) ↔ P n := by
    rw [node]
    simp
  rw [validateTransition_decided hr started, only, ← promotion, statusOf_replay hr]
  rw [nodeOf_replay hr] at node
  constructor
  · rintro ⟨live, m, found, _, legal⟩
    rw [decided.experiment, node] at found
    cases found
    exact ⟨⟨_, rfl, live⟩, legal⟩
  · rintro ⟨⟨status, current, live⟩, legal⟩
    cases current
    exact ⟨live, n, by rw [decided.experiment]; exact node, evidence, legal⟩

/-- **The decision layer and the state machine agree.** On every evaluation of a ledger that is not a
no-op, whatever the other lanes have recorded since, the bridge has a decision, and the state machine
accepts it if and only if the run has not been stopped and the decision does not ask for a confirmation
that the experiment has spent. -/
theorem decision_layers_agree (bridge : ProtectedEvaluationBridge) {pre post : List Event} {e : Event}
    {result : EvaluationResult} {domain : Evaluation.EvaluationResult}
    (v : ValidLedger (pre ++ e :: post)) (payload : e.payload = .evaluationCompleted result)
    (caused : e.causationEventId ≠ none)
    (foreign : ∀ s ∈ post, s.payload.experiment ≠ some result.experimentId)
    (returned : bridge.Returned domain result)
    (frozen : ∀ c ∈ contractOf (pre ++ e :: post),
      c.maxConfirmationAttempts = bridge.config.maxConfirmationAttempts)
    (verdict : result.trust.verdict ≠ .noOp) :
    let ledger := pre ++ e :: post
    ∃ d, bridge.decision domain e = .ok d ∧
      (∀ d', bridge.decide ledger result = .ok d' → ∃ lesson, d' = { d with lessonCandidate := lesson }) ∧
      ∀ lesson,
        validateTransition ledger (.experimentDecided { d with lessonCandidate := lesson }) = .ok () ↔
          (∃ status, statusOf ledger = some status ∧ Live status) ∧
          ∀ n ∈ nodeOf ledger result.experimentId,
            ¬ ConfirmationSpent bridge.config.maxConfirmationAttempts n result := by
  intro ledger
  obtain ⟨d, decision, decided⟩ := returned.decided caused verdict (v.evaluationSite payload)
  refine ⟨d, decision, ?_, fun lesson => ?_⟩
  · intro d' answered
    obtain ⟨c, lesson, decision', rfl⟩ :=
      ProtectedEvaluationBridge.decide_ok returned (evaluationEvent_recorded payload foreign) answered
    rw [decision] at decision'
    cases decision'
    exact ⟨lesson, rfl⟩
  · exact (decided.withLesson lesson).accepted_iff v payload foreign frozen verdict

section Runs
open Scenario

/-- A harness that grants one confirmation. -/
def onceConfirming : Harness :=
  { scenarioHarness with
    config :=
      { scenarioConfig with
        maxConfirmationAttempts := 1
        validateSeeds := by simp [scenarioConfig] } }

/-- The coder's patch. -/
def patchAnswer (attempt : Nat) (commit : String) : Answer :=
  .patch
    { experimentId := "", attempt, experimentSpecEventId := 0, contextId := "coder"
      patchCommitSha := commit, diffSha256 := commit }

/-- The gate accepts a patch. -/
def checkAnswer (attempt : Nat) (commit : String) : Answer :=
  .check
    { experimentId := "", attempt, patchCommitSha := commit, diffSha256 := commit
      accepted := true, receiptId := some "receipt", validateReceipt := by decide }

lemma prediction_isSome (attempt : Nat) :
    RunOutcome.success = .success → (some (prediction attempt)).isSome = true := fun _ => rfl

lemma crash_isSome : RunOutcome.codeError = .success → (none : Option ArtifactRef).isSome = true := by
  decide

lemma repair_adjustments : ([] : List (String × RuntimeValue)).length =
    if RecoveryAction.traeRepair = .adjustApprovedRuntimeSetting then 1 else 0 := rfl

lemma confirming_promotion :
    (ExperimentDecisionKind.promote = .promote ↔ (some Fidelity.full).isSome = true) ∧
      (false = true → Fidelity.full = .full) := by
  decide

/-- A run of a commit that succeeds, with its output verified and scored on one seed. -/
def scoredAnswers (attempt : Nat) (commit : String) : List Answer :=
  [ .execution
      { experimentId := "", attempt, fidelity := .full, patchCommitSha := commit, outcome := .success
        predictionArtifact := some (prediction attempt)
        validateOutcomeArtifacts := prediction_isSome attempt },
    .output { experimentId := "", attempt, predictionArtifact := prediction attempt, accepted := true },
    .evaluation
      { metricSet := metrics (3 / 5), parentDelta := some (1 / 10), previousBestDelta := some (1 / 10)
        trust := singleSeed } ]

/-- The domain result of such a run. -/
def scoredResult (attempt : Nat) (seed : Int) (queryIndex : Nat) : Evaluation.EvaluationResult where
  experimentId := "exp"
  attempt
  population := .publicValidation
  fidelity := .full
  seed
  publicQueryIndex := some queryIndex
  evaluatorSha256 := "evaluator"
  contractSha256 := "contract"
  metricSet := metrics (3 / 5)
  parentDelta := { primary := 1 / 10, metrics := [("auc", 1 / 10)] }
  previousBestDelta := { primary := 1 / 10, metrics := [("auc", 1 / 10)] }
  predictionChange :=
    { spearmanVsParent := some 0, changedRowFraction := some 1, identicalScoreFraction := some 0
      uniqueScoreFraction := 1 }
  trust := { verdict := .accepted, stability := .singleSeed, integrity := .clean }

/-- The canonical result of such a run. -/
def recordedResult (attempt : Nat) (seed : Int) (queryIndex : Nat) : EvaluationResult :=
  { (scoredResult attempt seed queryIndex).fields singleSeed with
    validateEvaluationRoute := by
      simp [EvaluationFields.RouteValid, Evaluation.EvaluationResult.fields, scoredResult,
        singleSeed] }

/-- The question for the seed evidence of such a run. -/
def scoredRequest (attempt : Nat) (seed : Int) (queryIndex : Nat) (output : EventId) :
    EvaluationRequest where
  experimentId := "exp"
  attempt
  outputCheckedEventId := output
  predictionArtifact := prediction attempt
  population := .publicValidation
  fidelity := .full
  seed
  contractSha256 := "contract"
  evaluatorSha256 := "evaluator"
  baselineSummary := []
  parentSummary := []
  previousBestSummary := []
  publicQueryIndex := some queryIndex

/-- The request for a confirmation of an evaluation, on the evidence of an output check. -/
def confirmationDecision (evaluation output : EventId) : ExperimentDecision where
  experimentId := "exp"
  evaluationEventId := some evaluation
  decision := .promote
  reasonCode := "CONFIRMATION_REQUIRED"
  fidelityCompleted := .full
  parentEligible := false
  bestEligible := false
  nextFidelity := some .full
  supportingEventIds := [output, evaluation]
  validatePromotion := confirming_promotion

/-- The confirmation of a commit crashes, and the repaired commit is evaluated in its place. -/
def repairedConfirmation : List Answer :=
  [patchAnswer 1 "a", checkAnswer 1 "a"] ++ scoredAnswers 1 "a" ++
  [ .decision (confirmationDecision 12 11),
    .execution
      { experimentId := "", attempt := 2, fidelity := .full, patchCommitSha := "a"
        outcome := .codeError, predictionArtifact := none, validateOutcomeArtifacts := crash_isSome },
    .recovery
      { action := .traeRepair, reasonCode := "REPAIR", validateActionAdjustment := repair_adjustments },
    patchAnswer 2 "b", checkAnswer 2 "b" ] ++ scoredAnswers 3 "b"

/-- A bridge that has returned the results of the first and the third run. -/
def confirmingBridge : ProtectedEvaluationBridge where
  config := onceConfirming.config
  domainResults := (Dict.empty.set ("exp", 1, .full) (scoredResult 1 0 1)).set ("exp", 3, .full)
    (scoredResult 3 1 2)
  buildResearchLesson _ _ _ _ _ _ := none

lemma scoredResult_returned {attempt : Nat} {seed : Int} {queryIndex : Nat}
    (kept : confirmingBridge.domainResults.get? ("exp", attempt, .full) =
      some (scoredResult attempt seed queryIndex)) :
    confirmingBridge.Returned (scoredResult attempt seed queryIndex)
      (recordedResult attempt seed queryIndex) where
  kept := kept
  canonical := ⟨recordedResult attempt seed queryIndex, "", by
    have route := (recordedResult attempt seed queryIndex).validateEvaluationRoute
    have trust : (scoredResult attempt seed queryIndex).trust.toCanonical = .ok singleSeed := rfl
    unfold Evaluation.EvaluationResult.toCanonical
    rw [if_neg (by simp [scoredResult])]
    dsimp only
    rw [trust, ok_bind]
    exact dif_pos route, rfl⟩

/-- The experiment with adapters that answer one after the other; it waits for the answer after the
last one. -/
def confirmingRun (answers : List Answer) : List Event :=
  (onceConfirming.runOneExperiment 5 (spec "exp") 5
    { log := record ((proposal 1 "exp").take 5)
      script := answers.map fun answer => { answer } }).2.log

/-- The first six events of the lane and its first run. -/
def firstRun : List Event :=
  record (proposal 1 "exp" ++
    [ (some 6, patch "exp" 1 "a"), (some 7, gatePassed "exp" 1 "a"),
      (some 8, .executionStarted (request "exp" 1 "a" 0)), (some 9, finished "exp" 1 "a"),
      (some 10, outputPassed "exp" 1) ])

/-- The evaluation of the first run. -/
def firstEvaluation : Event where
  eventId := 12
  key := ⟨"exp", .evaluation .full, 1⟩
  causationEventId := some 11
  payload := .evaluationCompleted (recordedResult 1 0 1)

theorem decision_layers_agree_first :
    ∃ d, confirmingBridge.decision (scoredResult 1 0 1) firstEvaluation = .ok d ∧
      validateTransition (firstRun ++ [firstEvaluation]) (.experimentDecided d) = .ok () := by
  have valid : ValidLedger (firstRun ++ [firstEvaluation]) := .of_check (by decide +kernel)
  have running : statusOf (firstRun ++ [firstEvaluation]) = some .running := by decide +kernel
  have unconfirmed : (nodeOf (firstRun ++ [firstEvaluation]) "exp").map
      ExperimentNode.confirmationCount = some 0 := by decide +kernel
  obtain ⟨d, decision, _, accepted⟩ := decision_layers_agree confirmingBridge valid rfl (by decide)
    (by simp) (scoredResult_returned (by decide +kernel)) (by decide +kernel) (by decide)
  refine ⟨d, decision, (accepted d.lessonCandidate).mpr ⟨⟨.running, running, trivial⟩, ?_⟩⟩
  intro n node spent
  have found : nodeOf (firstRun ++ [firstEvaluation]) "exp" = some n := node
  have limit : 1 ≤ n.confirmationCount := spent.2.2.2.2
  rw [found] at unconfirmed
  rw [Option.some.inj unconfirmed] at limit
  cases limit

theorem confirmation_budget_drift :
    let ledger := confirmingRun repairedConfirmation
    let result := recordedResult 3 1 2
    ValidLedger ledger ∧ statusOf ledger = some .running ∧
      (ledger.getLast?.map fun e => e.payload) = some (.evaluationCompleted result) ∧
      confirmingBridge.Returned (scoredResult 3 1 2) result ∧
      seedEvents (ledger.take 22) (scoredRequest 3 1 2 22) = .ok result.seedEvidenceEventIds ∧
      confirmingBridge.decide (ledger.take 12) (recordedResult 1 0 1) =
        .ok (confirmationDecision 12 11) ∧
      confirmingBridge.decide ledger result = .ok (confirmationDecision 23 22) ∧
      validateTransition ledger (.experimentDecided (confirmationDecision 23 22)) =
        .error (.transitionError "confirmation budget exceeded") ∧
      ((confirmingRun (repairedConfirmation ++ [.decision (confirmationDecision 23 22)])).getLast?.map
        fun e => e.payload) = some (.runStopped "RECOVERY_CONTROL_PLANE_FAILURE"
          "The recovery control plane failed; the run was stopped fail-closed.") := by
  refine ⟨.of_check (by decide +kernel), by decide +kernel, by decide +kernel,
    scoredResult_returned (by decide +kernel), by decide +kernel, by decide +kernel,
    by decide +kernel, by decide +kernel, by decide +kernel⟩

end Runs
end TacoRank
