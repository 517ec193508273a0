import TacoRank.Evaluation.SeedMargin
import TacoRank.Orchestrator.Abandonment
import TacoRank.Orchestrator.Confirmations
import TacoRank.Orchestrator.Handlers

/-!
# Recordable bests

The decision layer calls an acceptance best-eligible when the mean of its seeds exceeds the incumbent;
the router records the score of the last seed, and the state machine wants it to exceed the incumbent
too. With two or three seeds it does, so the acceptance raises the best score (`best_recordable`).
-/

namespace TacoRank
open Lib Lib.Result

open Evaluation (TrustEvidence TrustConfig DecisionContext Seeded currentBest) in
/-- In a run of a lane, sequential or not, take a best-eligible decision of the decision layer on two or
three seeds that has been recorded, with the lesson that the bridge builds, while the recorded best
score was the score of the incumbent. Then the last seed's score exceeds the incumbent, and the valid
ledger raises the best score to it. -/
theorem best_recordable {h : Harness} {fuel : Nat} {spec : ExperimentSpec} {proposal : EventId}
    {w w' : World Event Submission Answer} {result : Except (Halt RouterError) Unit}
    (fresh : h.FreshContexts) (world : LaneWorld spec.experimentId w)
    (run : h.runOneExperiment fuel spec proposal w = (result, w')) (ended : result ≠ .error .suspended)
    {pre post : List Event} {e evaluationEvent : Event} {d : ExperimentDecision}
    {evaluation : EvaluationResult} (recorded : w'.log = pre ++ e :: post)
    (payload : e.payload = .experimentDecided d) (owner : d.experimentId = spec.experimentId)
    (mem : evaluationEvent ∈ w'.log) (evaluated : evaluationEvent.payload = .evaluationCompleted evaluation)
    (cites : d.evaluationEventId = some evaluationEvent.eventId)
    (numbered : LessonsNumbered w'.log) (carries : CarriesLesson evaluation evaluationEvent.eventId d)
    {evidence : TrustEvidence ℝ} {cfg : TrustConfig ℝ} {domain : Evaluation.EvaluationResult ℝ}
    {context : DecisionContext} {decision : Evaluation.ExperimentDecision}
    (seeded : Seeded evidence cfg domain) (seeds : evidence.seedScores.length ∈ [2, 3])
    (decided : Evaluation.decide domain context = .ok decision) (eligible : decision.bestEligible = true)
    (canonical : d.bestEligible = decision.bestEligible)
    (score : (evaluation.metricSet.primaryScore : ℝ) = domain.metricSet.primaryScore)
    (incumbent : ∀ s best, project pre = .ok s → s.bestPrimaryScore = some best →
      (best : ℝ) = currentBest domain) :
    currentBest domain < domain.metricSet.primaryScore ∧ ValidLedger w'.log ∧
      Raised spec.experimentId e evaluation w'.log := by
  have exceeds : currentBest domain < domain.metricSet.primaryScore :=
    Evaluation.eligible_exceeds seeded.trust (List.mem_of_getLast? seeded.last) seeds decided eligible
  have ran : Spec _ _ (h.runOneExperiment fuel spec proposal) _ _ := runOneExperiment_spec fresh
  have spec' := ran w world.admits world.proposed
  rw [run] at spec'
  have valid : ValidLedger w'.log := LaneLedger.valid spec'.1.invariant
  have accounted : Accounted h spec.experimentId w'.log := by
    cases result with
    | ok => exact spec'.2
    | error halt =>
      cases halt with
      | raised => exact spec'.2
      | suspended => exact absurd rfl ended
  rw [recorded] at accounted valid mem numbered ⊢
  refine ⟨exceeds, valid, ((accounted.covers valid payload owner (canonical.trans eligible) mem evaluated
    cites numbered fun _ _ => carries).resolve_left ?_)⟩
  -- the incumbent is the greatest of the earlier scores
  rintro ⟨q, before, reached⟩
  refine absurd reached (not_le.mpr ?_)
  obtain ⟨r, hr⟩ := valid.front.replay
  have projected : project pre = .ok (r.state.aggregate pre) := project_ok.mpr ⟨r, hr, rfl⟩
  have greatest := valid.front.incumbent hr
  cases found : r.state.bestPrimaryScore with
  | none =>
    rw [greatest.unscored found] at before
    cases before
  | some best =>
    have below : q ≤ best := (greatest.greatest best found).2 before
    have same : (best : ℝ) = currentBest domain := by
      refine incumbent _ best projected ?_
      rw [RunState.aggregate_bestPrimaryScore, found]
    rw [← same, ← score] at exceeds
    exact below.trans_lt (Rat.cast_lt.mp exceeds)

section Runs
open Scenario
open Evaluation (TrustEvidence Seeded currentBest aggregateSeeds)

/-- The evidence of a candidate with two seeds that both score 0.60, against a parent with 0.56. -/
noncomputable def equalSeeds : TrustEvidence ℝ where
  population := .publicValidation
  fidelity := .full
  parentPrimary := (56 / 100 : ℚ)
  parentDelta := (4 / 100 : ℚ)
  metricDeltas := []
  predictionChange :=
    { spearmanVsParent := none, changedRowFraction := none, identicalScoreFraction := none
      uniqueScoreFraction := 1 }
  seedScores := [(3 / 5 : ℚ), (3 / 5 : ℚ)]

/-- The evaluation of this candidate, while the best one has 0.50. -/
noncomputable def equalSeedsResult : Evaluation.EvaluationResult ℝ where
  experimentId := "exp"
  attempt := 2
  population := .publicValidation
  fidelity := .full
  seed := 1
  publicQueryIndex := some 2
  evaluatorSha256 := "evaluator"
  contractSha256 := "contract"
  metricSet :=
    { metrics := [("auc", (3 / 5 : ℚ))], primaryMetricName := "auc", primaryScore := (3 / 5 : ℚ) }
  parentDelta := { primary := (4 / 100 : ℚ), metrics := [("auc", (4 / 100 : ℚ))] }
  previousBestDelta := { primary := (1 / 10 : ℚ), metrics := [("auc", (1 / 10 : ℚ))] }
  predictionChange := equalSeeds.predictionChange
  trust :=
    { verdict := .accepted, stability := .confirmed, integrity := .clean
      etaApplied := some (16 / 10000 : ℚ), seedMean := some (3 / 5 : ℚ), seedStderr := some 0
      seedCount := 2 }
  seedEvidenceEventIds := [12]

lemma equalSeeds_aggregate : aggregateSeeds equalSeeds.seedScores (16 / 10000) =
    .ok ⟨[3 / 5, 3 / 5], 3 / 5, 0, 0, 16 / 10000⟩ := by
  have scores : equalSeeds.seedScores = [3 / 5, 3 / 5] := by norm_num [equalSeeds]
  have mean : Statistics.mean [(3 / 5 : ℝ), 3 / 5] = 3 / 5 := by
    norm_num [Statistics.mean]
  have spread : Statistics.stdev [(3 / 5 : ℝ), 3 / 5] = 0 := by
    simp [Statistics.stdev, Statistics.squares, mean, HasSqrt.sqrt]
  rw [scores, aggregateSeeds, if_neg (List.cons_ne_nil _ _), mean, spread]
  norm_num

lemma equalSeeds_seeded : Seeded equalSeeds {} equalSeedsResult where
  trust := by
    have far : ¬ |(3 / 5 : ℝ) - 56 / 100| ≤ 16 / 10000 := by norm_num [abs_of_pos]
    simp only [Evaluation.assessTrust, equalSeeds_aggregate, ok_bind]
    norm_num [Evaluation.adjudicate, Evaluation.hardFlags, equalSeeds, Evaluation.isNoOp,
      Evaluation.directionalFlags, Evaluation.metricsConflict, Evaluation.armFlags,
      Evaluation.assessSeeds, Evaluation.assessment, equalSeedsResult, Evaluation.SeedAggregate.count]
    rintro (proxy | proxy) <;> cases proxy
  last := rfl
  count := rfl

/-- The decision on it. -/
def equalSeedsDecision : Evaluation.ExperimentDecision where
  experimentId := "exp"
  evaluationEventId := some 17
  decision := .accept
  reasonCode := "TRUSTED_IMPROVEMENT"
  fidelityCompleted := .full
  parentEligible := true
  bestEligible := true
  nextFidelity := none
  supportingEventIds := [some 16, some 17]
  seedEvidenceEventIds := [12]

lemma equalSeeds_incumbent : currentBest equalSeedsResult = 1 / 2 := by
  norm_num [currentBest, equalSeedsResult]

lemma equalSeeds_decided : Evaluation.decide equalSeedsResult
    { evaluationEventId := 17, supportingEventIds := [some 16, some 17], seedEvidenceEventIds := [12] } =
      .ok equalSeedsDecision := by
  have better : equalSeedsResult.trust.etaApplied.getD 0 <
      equalSeedsResult.trust.seedMean.getD equalSeedsResult.metricSet.primaryScore -
        currentBest equalSeedsResult := by
    rw [equalSeeds_incumbent]
    norm_num [equalSeedsResult]
  unfold Evaluation.decide Evaluation.decideFull
  dsimp only
  rw [if_pos better]
  rfl

/-- The texts of its lesson. -/
def confirmedTexts : LessonTexts := ⟨[], "confirmed", ""⟩

lemma acceptance_promotion : (ExperimentDecisionKind.accept = .promote ↔
    (none : Option Fidelity).isSome = true) ∧ (true = true → Fidelity.full = .full) := by
  decide

/-- The canonical decision, with the lesson. -/
def acceptedDecision : ExperimentDecision where
  experimentId := "exp"
  evaluationEventId := some 17
  decision := .accept
  reasonCode := "TRUSTED_IMPROVEMENT"
  fidelityCompleted := .full
  parentEligible := true
  bestEligible := true
  nextFidelity := none
  lessonCandidate := some
    { origin := .research, category := .researchResult, tags := [], summary := "confirmed"
      sourceEventIds := [12, 17], sourceCommitShas := ["a"] }
  supportingEventIds := [16, 17]
  validatePromotion := acceptance_promotion

/-- A candidate is confirmed by its second run. -/
def confirmedAnswers : List Answer :=
  [patchAnswer 1 "a", checkAnswer 1 "a"] ++ scoredAnswers 1 "a" ++
  [.decision (confirmationDecision 12 11)] ++ (scoredAnswers 2 "a").take 2 ++
  [ .evaluation { metricSet := metrics (3 / 5), trust := confirmed, seedEvidenceEventIds := [12] },
    .decision acceptedDecision ]

/-- Its lane. -/
def confirmedLane : Except (Halt RouterError) Unit × World Event Submission Answer :=
  scenarioHarness.runOneExperiment 5 (spec "exp") 5 (scenarioWorld confirmedAnswers)

lemma confirmedLane_eq : scenarioHarness.runOneExperiment 5 (spec "exp") 5
    (scenarioWorld confirmedAnswers) = (.ok (), confirmedLane.2) := by
  have ends : confirmedLane.1 = .ok () := by decide +kernel
  have paired : ∀ {α β : Type} {p : α × β} {a : α}, p.1 = a → p = (a, p.2) := by
    rintro α β p a rfl
    rfl
  exact paired ends

theorem best_recordable_confirmed : ∃ e ∈ confirmedLane.2.log, ∃ evaluation,
    currentBest equalSeedsResult < equalSeedsResult.metricSet.primaryScore ∧
      ValidLedger confirmedLane.2.log ∧ Raised "exp" e evaluation confirmedLane.2.log := by
  have decided : confirmedLane.2.log[17]?.map Event.payload =
      some (.experimentDecided acceptedDecision) := by decide +kernel
  have evaluated : (confirmedLane.2.log[16]?.bind fun e => e.payload.evaluation.map fun res =>
      (e.eventId, res.metricSet.primaryScore,
        buildResearchLesson res.toEvaluationFields (res.seedEvidenceEventIds ++ [e.eventId]) ["a"]
          confirmedTexts)) = some (17, 3 / 5, acceptedDecision.lessonCandidate) := by decide +kernel
  have best : (project (confirmedLane.2.log.take 17)).toOption.bind RunState.bestPrimaryScore =
      some (1 / 2) := by decide +kernel
  have numbered : LessonsNumbered confirmedLane.2.log := Log.Valid.of_checkFrom .nil (by decide +kernel)
  obtain ⟨e, found, payload⟩ := Option.map_eq_some_iff.mp decided
  obtain ⟨f, listed, shown⟩ := Option.bind_eq_some_iff.mp evaluated
  obtain ⟨evaluation, read, shown⟩ := Option.map_eq_some_iff.mp shown
  simp only [Prod.mk.injEq] at shown
  obtain ⟨small, same⟩ := List.getElem?_eq_some_iff.mp found
  have split : confirmedLane.2.log = confirmedLane.2.log.take 17 ++ e :: confirmedLane.2.log.drop 18 := by
    rw [← same, List.getElem_cons_drop, List.take_append_drop]
  have mem : f ∈ confirmedLane.2.log := List.mem_of_getElem? listed
  have evaluation_payload : f.payload = .evaluationCompleted evaluation := by
    unfold EventPayload.evaluation at read
    split at read
    · cases read
      assumption
    · cases read
  refine ⟨e, List.mem_of_getElem? found, evaluation, ?_⟩
  refine best_recordable scenarioHarness_fresh (scenarioWorld_lane confirmedAnswers)
    confirmedLane_eq (by simp) split payload rfl mem evaluation_payload (congrArg some shown.1.symm) numbered
    ⟨"a", confirmedTexts, shown.2.2.symm⟩ equalSeeds_seeded (by simp [equalSeeds]) equalSeeds_decided rfl rfl
    ?_ ?_
  · rw [shown.2.1]
    norm_num [equalSeedsResult]
  · intro s' score projected found'
    rw [projected] at best
    have same : s'.bestPrimaryScore = some (1 / 2) := best
    rw [found'] at same
    rw [Option.some.inj same, equalSeeds_incumbent]
    norm_num

end Runs
end TacoRank
