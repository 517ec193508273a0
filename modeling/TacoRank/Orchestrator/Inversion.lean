import TacoRank.Orchestrator.Ledger

/-!
# Transition inversion

What the state machine has checked when it accepts a payload: one inversion lemma `validate*_inv`
for each branch of `validateTransition`, with the checked facts as a structure `*Legal`. `NodeStep`
collects them: it lists everything an accepted event can do to the node of one experiment.
-/

namespace TacoRank
open Lib Lib.Result

/-- The facts checked for `patch.created`. -/
structure PatchLegal (es : List Event) (c : PatchCandidate) (n : ExperimentNode) : Prop where
  status : n.status = .proposed ∨ n.status = .recovering ∨
    n.status = .readyToRun ∧ retryingInitialCoder es c.experimentId = true
  proposal : ∃ found, lastForExperiment .experimentProposed es c.experimentId = some found ∧
    found.1.eventId = c.experimentSpecEventId
  context : ∃ found ∈ eventsOf EventPayload.context es,
    found.2.contextId = c.contextId ∧ found.2.role ∈ [ContextRole.coder, .recovery]

/-- Inversion of the `PATCH_CREATED` branch. -/
lemma validatePatchCreated_ok {es s c} : validatePatchCreated es s c = .ok () ↔
    ∃ n, s.experiments.get? c.experimentId = some n ∧ PatchLegal es c n := by
  simp only [validatePatchCreated, bind_eq_ok, require_ok, requireSome_ok, List.any_eq_true,
    decide_eq_true_eq, List.mem_cons, List.not_mem_nil, or_false, or_assoc, and_true]
  constructor
  · rintro ⟨n, hn, _, status, found, ⟨hf, id⟩, ctx⟩
    exact ⟨n, hn, status, ⟨found, hf, id⟩, by simpa using ctx⟩
  · rintro ⟨n, hn, status, ⟨found, hf, id⟩, ctx⟩
    exact ⟨n, hn, (), status, found, ⟨hf, id⟩, by simpa using ctx⟩

/-- The facts checked for `patch.checked`. -/
structure CheckLegal (es : List Event) (c : PatchCheckResult) (n : ExperimentNode) : Prop where
  status : n.status = .patchReady
  patch : ∃ found, lastForExperiment .patchCreated es c.experimentId = some found ∧
    found.2.patchCommitSha = c.patchCommitSha ∧ found.2.diffSha256 = c.diffSha256

/-- Inversion of the `PATCH_CHECKED` branch. -/
lemma validatePatchChecked_ok {es s c} : validatePatchChecked es s c = .ok () ↔
    ∃ n, s.experiments.get? c.experimentId = some n ∧ CheckLegal es c n := by
  simp only [validatePatchChecked, bind_eq_ok, require_ok, requireSome_ok, and_true]
  constructor
  · rintro ⟨n, ⟨hn, status⟩, found, hf, id⟩
    exact ⟨n, hn, status, found, hf, id⟩
  · rintro ⟨n, hn, status, found, hf, id⟩
    exact ⟨n, ⟨hn, status⟩, found, hf, id⟩

/-- A gate receipt for the commit of an execution request. -/
def Gated (c : PatchCheckResult) (q : RunRequest) : Prop :=
  c.accepted = true ∧ c.receiptId = some q.patchReceiptId ∧ c.patchCommitSha = q.patchCommitSha

/-- The facts checked for `execution.started`. -/
structure ExecutionLegal (es : List Event) (s : RunState) (q : RunRequest) (n : ExperimentNode) :
    Prop where
  runnable : s.status ≠ .stopped → n.status = .readyToRun
  selected : s.status = .stopped →
    some q.experimentId = s.bestExperimentId ∧ some q.patchCommitSha = s.bestCommitSha ∧
    q.fidelity = .full
  receipt : ∃ found, lastForExperiment .patchChecked es q.experimentId = some found ∧
    Gated found.2 q

/-- Inversion of the post-stop part of the `EXECUTION_STARTED` branch. -/
lemma validatePostStopExecution_inv {es s q} (h : validatePostStopExecution es s q = .ok ()) :
    ∃ n, s.experiments.get? q.experimentId = some n ∧
      some q.experimentId = s.bestExperimentId ∧ some q.patchCommitSha = s.bestCommitSha ∧
      q.fidelity = .full := by
  simp only [validatePostStopExecution, bind_eq_ok, requireSome_ok] at h
  obtain ⟨n, ⟨hn, best, commit, full, _⟩, _⟩ := h
  exact ⟨n, hn, best, commit, full⟩

/-- Inversion of the `EXECUTION_STARTED` branch. -/
lemma validateExecutionStarted_inv {es s q} (h : validateExecutionStarted es s q = .ok ()) :
    ∃ n, s.experiments.get? q.experimentId = some n ∧ ExecutionLegal es s q n := by
  simp only [validateExecutionStarted, bind_eq_ok, require_ok, requireSome_ok] at h
  obtain ⟨_, site, found, ⟨hf, accepted⟩, receipt⟩ := h
  have gated : Gated found.2 q := ⟨accepted, receipt⟩
  unfold validateExecutionSite at site
  split at site
  · obtain ⟨n, hn, selected⟩ := validatePostStopExecution_inv site
    exact ⟨n, hn, fun running => absurd ‹_› running, fun _ => selected, found, hf, gated⟩
  · simp only [bind_eq_ok, requireSome_ok, pure_eq_ok, and_true] at site
    obtain ⟨n, hn, status⟩ := site
    exact ⟨n, hn, fun _ => status, fun stopped => absurd stopped ‹_›, found, hf, gated⟩

/-- The result of the execution of a request (`execution result identity`). -/
def Answers (res : RunResult) (q : RunRequest) : Prop :=
  res.attempt = q.attempt ∧ res.fidelity = q.fidelity ∧ res.patchCommitSha = q.patchCommitSha

/-- The facts checked for `execution.finished`. -/
structure FinishLegal (es : List Event) (res : RunResult) (n : ExperimentNode) : Prop where
  status : n.status = .running
  request : ∃ found, lastForExperiment .executionStarted es res.experimentId = some found ∧
    Answers res found.2

/-- Inversion of the `EXECUTION_FINISHED` branch. -/
lemma validateExecutionFinished_ok {es s res} : validateExecutionFinished es s res = .ok () ↔
    ∃ n, s.experiments.get? res.experimentId = some n ∧ FinishLegal es res n := by
  simp only [validateExecutionFinished, bind_eq_ok, require_ok, requireSome_ok, and_true,
    Prod.mk.injEq]
  constructor
  · rintro ⟨n, ⟨hn, status⟩, found, hf, attempt, fidelity, commit⟩
    exact ⟨n, hn, status, found, hf, attempt.symm, fidelity.symm, commit.symm⟩
  · rintro ⟨n, hn, status, found, hf, attempt, fidelity, commit⟩
    exact ⟨n, ⟨hn, status⟩, found, hf, attempt.symm, fidelity.symm, commit.symm⟩

/-- Inversion of the `ADAPTER_FAILED` branch. -/
lemma validateAdapterFailed_ok {es s res} : validateAdapterFailed es s res = .ok () ↔
    ∃ n, s.experiments.get? res.experimentId = some n ∧
      n.status ∈ allowedFailureStates es res := by
  simp only [validateAdapterFailed, bind_eq_ok, require_ok, requireSome_ok, and_true]
  constructor
  · rintro ⟨n, hn, _, _, status⟩
    exact ⟨n, hn, status⟩
  · rintro ⟨n, hn, status⟩
    refine ⟨n, hn, (), ?_, status⟩
    unfold allowedFailureStates at status
    cases hs : res.failureStage <;> simp [hs, FailureStage.expectedStates] at status ⊢
    all_goals grind

/-- The statuses in which a failure of each stage is reported. -/
lemma mem_allowedFailureStates {es res st} (h : st ∈ allowedFailureStates es res) :
    st ∈ res.failureStage.expectedStates ∨ st = .readyToRun ∧ res.failureStage = .coding ∧
      retryingInitialCoder es res.experimentId = true := by
  unfold allowedFailureStates at h
  split at h
  · rename_i coding
    simp only [List.mem_append, List.mem_singleton] at h
    rcases h with h | h
    · exact .inl h
    · exact .inr ⟨h, coding.1, coding.2⟩
  · exact .inl h

/-- The facts checked for `recovery.decided`. -/
structure RecoveryLegal (es : List Event) (s : RunState) (d : RecoveryDecision)
    (n : ExperimentNode) : Prop where
  status : n.status = .recovering
  attempt : d.repairAttempt = min (max 1 (n.repairCount + 1)) (max 1 s.maxRepairsPerExperiment)
  failure : ∃ f, latestRecoverableFailure es d.experimentId = some f ∧
    d.failureEventId = f.eventId
  budget : (d.remainingRepairBudget : Int) =
    (s.maxRepairsPerExperiment : Int) - n.repairCount - d.action.consumesRepair.toNat
  retries : d.action = .retrySameCommit → n.sameCommitRetryCount < maxSameCommitRetries

/-- Inversion of the `RECOVERY_DECIDED` branch. -/
lemma validateRecoveryDecided_ok {es s d} : validateRecoveryDecided es s d = .ok () ↔
    ∃ n, s.experiments.get? d.experimentId = some n ∧ RecoveryLegal es s d n := by
  simp only [validateRecoveryDecided, bind_eq_ok, require_ok, requireSome_ok]
  constructor
  · rintro ⟨n, ⟨hn, status⟩, _, attempt, f, failure, _, budget, retries⟩
    exact ⟨n, hn, status, attempt, ⟨f, failure⟩, budget, retries⟩
  · rintro ⟨n, hn, status, attempt, ⟨f, failure⟩, budget, retries⟩
    exact ⟨n, ⟨hn, status⟩, (), attempt, f, failure, (), budget, retries⟩

/-- A successful result whose prediction an output check examined. -/
def Examined (res : RunResult) (out : OutputCheckResult) : Prop :=
  res.outcome = .success ∧ res.attempt = out.attempt ∧
    ∃ artifact, res.predictionArtifact = some artifact ∧
      artifact.artifactId = out.predictionArtifact.artifactId

/-- The facts checked for `output.checked`. -/
structure OutputLegal (es : List Event) (out : OutputCheckResult) (n : ExperimentNode) : Prop where
  status : n.status = .outputReady
  finished : ∃ found, lastForExperiment .executionFinished es out.experimentId = some found ∧
    Examined found.2 out

/-- Inversion of the `OUTPUT_CHECKED` branch. -/
lemma validateOutputChecked_ok {es s out} : validateOutputChecked es s out = .ok () ↔
    ∃ n, s.experiments.get? out.experimentId = some n ∧ OutputLegal es out n := by
  simp only [validateOutputChecked, bind_eq_ok, requireSome_ok]
  constructor
  · rintro ⟨n, ⟨hn, status⟩, found, ⟨hf, success⟩, h⟩
    split at h
    · exact absurd h throw_eq_ok
    · simp only [bind_eq_ok, require_ok] at h
      obtain ⟨_, artifact, attempt⟩ := h
      exact ⟨n, hn, status, found, hf, success, attempt, _, ‹_›, artifact⟩
  · rintro ⟨n, hn, status, found, hf, success, attempt, artifact, ha, id⟩
    refine ⟨n, ⟨hn, status⟩, found, ⟨hf, success⟩, ?_⟩
    simp only [ha, bind_eq_ok, require_ok]
    exact ⟨(), id, attempt⟩

/-- The lookups behind `_evaluation_request`. -/
structure Scored (es : List Event) (res : EvaluationResult) (q : RunRequest) : Prop where
  output : ∃ found, lastForExperiment .outputChecked es res.experimentId = some found ∧
    found.2.accepted = true ∧ found.2.attempt = res.attempt
  finished : ∃ found, lastForExperiment .executionFinished es res.experimentId = some found ∧
    found.2.outcome = .success ∧ Answers found.2 q
  started : ∃ found, lastForExperiment .executionStarted es res.experimentId = some found ∧
    found.2 = q
  attempt : q.attempt = res.attempt

/-- Inversion of `_evaluation_request`. -/
lemma evaluationRequest_ok {es res q} : evaluationRequest es res = .ok q ↔ Scored es res q := by
  simp only [evaluationRequest, bind_eq_ok, require_ok, requireSome_ok, pure_eq_ok, and_true]
  constructor
  · rintro ⟨o, ⟨ho, accepted⟩, _, attempt, f, ⟨hf, success⟩, s, hs, _, ⟨a, b, c, d⟩, rfl⟩
    exact ⟨⟨o, ho, accepted, attempt⟩, ⟨f, hf, success, a, c, d⟩, ⟨s, hs, rfl⟩, b⟩
  · rintro ⟨⟨o, ho, accepted, attempt⟩, ⟨f, hf, success, a, c, d⟩, ⟨s, hs, rfl⟩, b⟩
    exact ⟨o, ⟨ho, accepted⟩, (), attempt, f, ⟨hf, success⟩, s, hs, (), ⟨a, b, c, d⟩, rfl⟩

/-- Compatible seed evidence: an earlier evaluation of the same commit on the same population. -/
structure SeedEvidence (es : List Event) (res : EvaluationResult) (q : RunRequest)
    (eventId : EventId) (seedRes : EvaluationResult) : Prop where
  event : ∃ found, eventWithId EventPayload.evaluation es eventId = some found ∧
    found.2 = seedRes ∧
    ∃ seedReq, Scored (eventsBefore es found.1) seedRes seedReq ∧
      seedReq.patchCommitSha = q.patchCommitSha
  experimentId : seedRes.experimentId = res.experimentId
  population : seedRes.population = res.population
  fidelity : seedRes.fidelity = res.fidelity
  evaluator : seedRes.evaluatorSha256 = res.evaluatorSha256
  contract : seedRes.contractSha256 = res.contractSha256
  attempt : seedRes.attempt < res.attempt

lemma seedEvidence_ok {es res q eventId seedRes} : seedEvidence es res q eventId = .ok seedRes ↔
    SeedEvidence es res q eventId seedRes := by
  simp only [seedEvidence, bind_eq_ok, require_ok, requireSome_ok, pure_eq_ok, and_true,
    evaluationRequest_ok]
  constructor
  · rintro ⟨found, hf, req, scored, _, ⟨a, b, c, d, e, f, g⟩, rfl⟩
    exact ⟨⟨found, hf, rfl, req, scored, g⟩, a, b, c, d, e, f⟩
  · rintro ⟨⟨found, hf, rfl, req, scored, g⟩, a, b, c, d, e, f⟩
    exact ⟨found, hf, req, scored, (), ⟨a, b, c, d, e, f, g⟩, rfl⟩

/-- The facts checked for `evaluation.completed`. -/
structure EvaluationLegal (es : List Event) (s : RunState) (res : EvaluationResult)
    (n : ExperimentNode) (q : RunRequest) : Prop where
  status : n.status = .outputVerified
  notBaseline : res.experimentId ≠ "baseline"
  notHidden : res.population ≠ .hiddenFinal
  request : Scored es res q
  fidelity : res.fidelity = q.fidelity
  seed : res.seed = q.seed
  contract : ∃ found, (eventsOf EventPayload.contract es).getLast? = some found ∧
    res.contractSha256 = found.2.contractSha256 ∧ res.evaluatorSha256 = found.2.evaluatorSha256
  postStop : s.status = .stopped → q.commandId = "clean_reproduce" ∧
    res.population = .publicValidation ∧ res.fidelity = .full
  notSmoke : q.fidelity ≠ .smoke
  population : res.population =
    if q.fidelity = .proxy then .internalProxy else .publicValidation
  queryIndex : res.publicQueryIndex = expectedQueryIndex s res
  seeds : ∃ seedResults, List.Forall₂ (SeedEvidence es res q) res.seedEvidenceEventIds seedResults ∧
    (res.seed :: seedResults.map fun item => item.seed).Nodup

lemma lastOf_ok {β} {read : EventPayload → Option β} {es found} : lastOf read es = .ok found ↔
    (eventsOf read es).getLast? = some found := by
  unfold lastOf
  cases (eventsOf read es).getLast? <;> simp

/-- A list without repetitions is one whose set has as many elements. -/
lemma nodup_iff_dedup_length {α} [DecidableEq α] {l : List α} :
    l.dedup.length = l.length ↔ l.Nodup := by
  constructor
  · intro h
    rw [← List.dedup_eq_self]
    exact (List.dedup_sublist l).eq_of_length h
  · intro h
    rw [h.dedup]

/-- No evaluation on the hidden population is accepted: the schema ties it to the final fidelity,
the state machine to the full one. -/
lemma EvaluationResult.hidden_final (res : EvaluationResult) (h : res.population = .hiddenFinal) :
    res.fidelity = .final :=
  res.validateEvaluationRoute.2.2.2.2.1 h

/-- Inversion of the node and population conditions of the `EVALUATION_COMPLETED` branch. -/
lemma validateEvaluationSite_ok {s q} {res : EvaluationResult} {n : ExperimentNode} :
    validateEvaluationNode s res = .ok n ∧ validateEvaluationPopulation s q res = .ok () ↔
      s.experiments.get? res.experimentId = some n ∧ n.status = .outputVerified ∧
      res.population ≠ .hiddenFinal ∧
      (s.status = .stopped → q.commandId = "clean_reproduce" ∧
        res.population = .publicValidation ∧ res.fidelity = .full) ∧
      q.fidelity ≠ .smoke ∧
      res.population = if q.fidelity = .proxy then .internalProxy else .publicValidation := by
  unfold validateEvaluationNode validateEvaluationPopulation
  by_cases hidden : res.population = .hiddenFinal
  · rw [if_pos hidden, if_pos hidden]
    simp only [bind_eq_ok, require_ok, res.hidden_final hidden, hidden]
    simp
  · rw [if_neg hidden, if_neg hidden]
    simp only [bind_eq_ok, require_ok, requireSome_ok]
    constructor
    · rintro ⟨⟨hn, status⟩, _, stop, _, smoke, pop⟩
      exact ⟨hn, status, hidden, stop, smoke, pop⟩
    · rintro ⟨hn, status, _, stop, smoke, pop⟩
      exact ⟨⟨hn, status⟩, (), stop, (), smoke, pop⟩

/-- Inversion of the `EVALUATION_COMPLETED` branch. -/
lemma validateEvaluationCompleted_ok {es s res} :
    validateEvaluationCompleted es s res = .ok () ↔
      ∃ n q, s.experiments.get? res.experimentId = some n ∧ EvaluationLegal es s res n q := by
  simp only [validateEvaluationCompleted, bind_eq_ok, require_ok, evaluationRequest_ok, lastOf_ok,
    mapM_eq_ok, seedEvidence_ok, Prod.mk.injEq]
  constructor
  · rintro ⟨_, notBaseline, n, node, q, scored, _, ⟨_, fidelity, seed⟩, found, hf, _, contract, _,
      population, _, index, seeds, hs, distinct⟩
    obtain ⟨hn, status, hidden, stop, smoke, pop⟩ :=
      validateEvaluationSite_ok.mp ⟨node, population⟩
    refine ⟨n, q, hn, status, notBaseline, hidden, scored, fidelity, seed, ⟨found, hf, contract⟩,
      stop, smoke, pop, index, seeds, hs, ?_⟩
    apply nodup_iff_dedup_length.mp
    simpa using distinct
  · rintro ⟨n, q, hn, h⟩
    obtain ⟨found, hf, contract⟩ := h.contract
    obtain ⟨seeds, hs, distinct⟩ := h.seeds
    obtain ⟨node, population⟩ := validateEvaluationSite_ok.mpr
      ⟨hn, h.status, h.notHidden, h.postStop, h.notSmoke, h.population⟩
    refine ⟨(), h.notBaseline, n, node, q, h.request, (), ⟨h.request.attempt.symm, h.fidelity, h.seed⟩,
      found, hf, (), contract, (), population, (), h.queryIndex, seeds, hs, ?_⟩
    have length := nodup_iff_dedup_length.mpr distinct
    simpa using length

/-- The facts checked for a best-eligible decision. -/
structure BestEligible (d : ExperimentDecision) (res : EvaluationResult) : Prop where
  fidelity : res.fidelity = .full
  population : res.population = .publicValidation
  verdict : res.trust.verdict = .accepted
  stability : res.trust.stability = .confirmed
  integrity : res.trust.integrity = .clean
  decision : d.decision = .accept

lemma validateBestEligible_ok {d res} : validateBestEligible d res = .ok () ↔
    (d.bestEligible = true → BestEligible d res) := by
  unfold validateBestEligible
  split
  · simp only [bind_eq_ok, require_ok]
    constructor
    · rintro ⟨_, ⟨a, b, c⟩, _, ⟨e, f⟩, g⟩ _
      exact ⟨a, b, c, e, f, g⟩
    · intro h
      obtain ⟨a, b, c, e, f, g⟩ := h ‹_›
      exact ⟨(), ⟨a, b, c⟩, (), ⟨e, f⟩, g⟩
  · simp [*]

/-- The evidence checked for `experiment.decided`. -/
inductive DecisionEvidence (es : List Event) (n : ExperimentNode) (d : ExperimentDecision) :
    Prop where
  | smoke
    (fidelity : d.fidelityCompleted = .smoke)
    (status : n.status = .outputVerified)
    (evaluation : d.evaluationEventId = none) : DecisionEvidence es n d
  | evaluated {found : Event × EvaluationResult}
    (fidelity : d.fidelityCompleted ≠ .smoke)
    (status : n.status = .evaluated)
    (evaluation : lastForExperiment .evaluationCompleted es d.experimentId = some found)
    (cited : d.evaluationEventId = some found.1.eventId)
    (completed : d.fidelityCompleted = found.2.fidelity)
    (best : d.bestEligible = true → BestEligible d found.2) : DecisionEvidence es n d

lemma validateDecisionEvidence_ok {es n d} : validateDecisionEvidence es n d = .ok () ↔
    DecisionEvidence es n d := by
  unfold validateDecisionEvidence
  split
  · simp only [bind_eq_ok, require_ok]
    constructor
    · rintro ⟨_, status, evaluation⟩
      exact .smoke ‹_› status evaluation
    · intro h
      cases h with
      | smoke _ status evaluation => exact ⟨(), status, evaluation⟩
      | evaluated fidelity => exact absurd ‹_› fidelity
  · simp only [bind_eq_ok, require_ok, requireSome_ok, validateBestEligible_ok]
    constructor
    · rintro ⟨_, status, found, ⟨hf, cited⟩, _, completed, best⟩
      exact .evaluated ‹_› status hf cited.symm completed best
    · intro h
      cases h with
      | smoke fidelity => exact absurd fidelity ‹_›
      | evaluated _ status hf cited completed best =>
        exact ⟨(), status, _, ⟨hf, cited.symm⟩, (), completed, best⟩

/-- The facts checked for a promotion. -/
def PromotionLegal (s : RunState) (n : ExperimentNode) (d : ExperimentDecision) : Prop :=
  d.decision = .promote →
    if d.fidelityCompleted = .full then
      d.nextFidelity = some .full ∧ n.confirmationCount < s.maxConfirmationAttempts
    else
      ∃ next completed, d.nextFidelity.bind Fidelity.order = some next ∧
        d.fidelityCompleted.order = some completed ∧ completed < next

lemma fidelityOrder_ok {f k} : fidelityOrder f = .ok k ↔ f.order = some k := by
  unfold fidelityOrder
  cases f.order <;> simp

lemma validatePromotion_ok {s n d} : validatePromotion s n d = .ok () ↔ PromotionLegal s n d := by
  unfold validatePromotion PromotionLegal
  split
  · split
    · simp only [bind_eq_ok, require_ok, requireSome_ok, *]
      constructor
      · rintro ⟨next, ⟨hn, _⟩, _, rfl, budget⟩ _
        exact ⟨hn, budget⟩
      · intro h
        obtain ⟨hn, budget⟩ := h trivial
        exact ⟨.full, ⟨hn, trivial⟩, (), rfl, budget⟩
    · simp only [bind_eq_ok, require_ok, requireSome_ok, fidelityOrder_ok, *]
      constructor
      · rintro ⟨next, ⟨hn, _⟩, a, ha, b, hb, lt⟩ _
        exact ⟨a, b, by simp [hn, ha], hb, lt⟩
      · intro h
        obtain ⟨a, b, ha, hb, lt⟩ := h trivial
        obtain ⟨next, hn, ha⟩ := Option.bind_eq_some_iff.mp ha
        exact ⟨next, ⟨hn, trivial⟩, a, ha, b, hb, lt⟩
  · simp [*]

/-- Inversion of the `EXPERIMENT_DECIDED` branch. -/
lemma validateExperimentDecided_ok {es s d} : validateExperimentDecided es s d = .ok () ↔
    ∃ n, s.experiments.get? d.experimentId = some n ∧ DecisionEvidence es n d ∧
      PromotionLegal s n d := by
  simp only [validateExperimentDecided, bind_eq_ok, requireSome_ok, and_true,
    validatePromotion_ok]
  constructor
  · rintro ⟨n, hn, ⟨⟩, evidence, promotion⟩
    exact ⟨n, hn, validateDecisionEvidence_ok.mp evidence, promotion⟩
  · rintro ⟨n, hn, evidence, promotion⟩
    exact ⟨n, hn, (), validateDecisionEvidence_ok.mpr evidence, promotion⟩

/-- The facts checked for `best.updated`. -/
structure BestLegal (es : List Event) (s : RunState) (b : BestUpdated) (n : ExperimentNode) :
    Prop where
  status : n.status = .accepted
  eligible : n.bestEligible = true
  decision : ∃ found, eventWithId EventPayload.decision es b.decisionEventId = some found ∧
    n.terminalEventId = some found.1.eventId ∧ found.2.experimentId = b.experimentId ∧
    found.2.decision = .accept ∧ found.2.bestEligible = true
  commit : n.latestCommitSha = some b.commitSha
  score : ∃ m, n.metricSet = some m ∧ m.primaryMetricName = b.primaryMetricName ∧
    m.primaryScore = b.primaryScore
  improves : ∀ best, s.bestPrimaryScore = some best → best < b.primaryScore

/-- Inversion of the `BEST_UPDATED` branch. -/
lemma validateBestUpdated_ok {es s b} : validateBestUpdated es s b = .ok () ↔
    ∃ n, s.experiments.get? b.experimentId = some n ∧ BestLegal es s b n := by
  simp only [validateBestUpdated, bind_eq_ok, require_ok, requireSome_ok, Option.mem_def]
  constructor
  · rintro ⟨n, ⟨hn, status, eligible⟩, found, ⟨hf, terminal, rest⟩, _, commit, m, score, improves⟩
    exact ⟨n, hn, status, eligible, ⟨found, hf, terminal.symm, rest⟩, commit.symm, ⟨m, score⟩,
      improves⟩
  · rintro ⟨n, hn, status, eligible, ⟨found, hf, terminal, rest⟩, commit, ⟨m, score⟩, improves⟩
    exact ⟨n, ⟨hn, status, eligible⟩, found, ⟨hf, terminal.symm, rest⟩, (), commit.symm, m, score,
      improves⟩

end TacoRank
