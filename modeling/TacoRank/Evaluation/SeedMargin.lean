import TacoRank.Evaluation.Representable

/-!
# The margin of the seeds

`decide` compares the mean of the seeds with the incumbent, while the router records the score of the
last seed. Over numbers with an exact square root the threshold of the ladder is at least the distance
between the two, as long as there are no more than three seeds.
-/

namespace TacoRank.Evaluation
open Lib Lib.Result

section Margin
variable {R : Type} [Field R] [LinearOrder R] [IsStrictOrderedRing R] {result : EvaluationResult R}
  {context : DecisionContext} {d : ExperimentDecision}

omit [IsStrictOrderedRing R] in
/-- What a best-eligible decision rests on. -/
lemma decide_eligible (decided : decide result context = .ok d) (eligible : d.bestEligible = true) :
    result.fidelity = .full ∧ result.population = .publicValidation ∧
      result.trust.stability = .confirmed ∧ result.trust.etaApplied.getD 0 <
        result.trust.seedMean.getD result.metricSet.primaryScore - currentBest result := by
  unfold decide at decided
  split_ifs at decided with _ _ _ _ _ site
  · cases decided
    exfalso
    revert eligible
    unfold decideProxy
    dsimp only
    split_ifs <;> simp [decision]
  · cases decided
    rw [not_or, not_not, not_not] at site
    revert eligible
    unfold decideFull
    dsimp only
    split_ifs with single spent trusted better near
    · simp [decision]
    · simp [decision]
    · exact fun _ => ⟨site.2, site.1, trusted.2.1, better⟩
    · simp [decision]
    · simp [decision]
    · simp [decideAgainst, decision]

variable [HasSqrt R] [ExactSqrt R]

/-- With two or three seeds the threshold of the ladder covers the deviation of each. -/
lemma aggregateSeeds_margin {scores : List R} {etaFloor x : R} {aggregate : SeedAggregate R}
    (aggregated : aggregateSeeds scores etaFloor = .ok aggregate) (mem : x ∈ scores)
    (two : 2 ≤ scores.length) (three : scores.length ≤ 3) : aggregate.mean - aggregate.eta ≤ x := by
  unfold aggregateSeeds at aggregated
  have plural : scores.length ≠ 1 := by omega
  rw [if_neg (List.ne_nil_of_mem mem)] at aggregated
  simp only [if_neg plural, Except.ok.injEq] at aggregated
  subst aggregated
  have close := Statistics.abs_deviation_le mem two three
  have below := neg_le_of_abs_le close
  have covered : 2 * (Statistics.stdev scores / HasSqrt.sqrt (scores.length : R)) ≤
      max (2 * (Statistics.stdev scores / HasSqrt.sqrt (scores.length : R))) etaFloor := le_max_left _ _
  simp only
  linarith

variable [FloorRing R]

/-- If two or three seeds make a candidate best-eligible, each of them alone exceeds the incumbent. -/
lemma eligible_exceeds {evidence : TrustEvidence R} {cfg : TrustConfig R} {x : R}
    (assessed : assessTrust evidence cfg = .ok result.trust) (mem : x ∈ evidence.seedScores)
    (seeds : evidence.seedScores.length ∈ [2, 3]) (decided : decide result context = .ok d)
    (eligible : d.bestEligible = true) : currentBest result < x := by
  obtain ⟨_, _, confirmed, better⟩ := decide_eligible decided eligible
  obtain ⟨aggregate, aggregated, last⟩ := bind_eq_ok.mp assessed
  have trust : adjudicate evidence cfg aggregate = result.trust := Except.ok.inj last
  obtain ⟨scores, -, -⟩ := aggregateSeeds_ok aggregated
  have two : 2 ≤ evidence.seedScores.length := by
    rcases List.mem_pair.mp seeds with n | n <;> omega
  have three : evidence.seedScores.length ≤ 3 := by
    rcases List.mem_pair.mp seeds with n | n <;> omega
  have shown : result.trust.seedMean = some aggregate.mean ∧
      result.trust.etaApplied = some aggregate.eta := by
    rw [← trust] at confirmed ⊢
    have site : (isNoOp evidence.predictionChange evidence.parentDelta cfg.noOp = false ∧
        adjudicate evidence cfg aggregate = assessSeeds evidence cfg aggregate) ∨
        (adjudicate evidence cfg aggregate).stability = .notApplicable := adjudicate_seeds
    rcases site with ⟨_, full⟩ | other
    · rw [full]
      refine assessSeeds_aggregate ?_
      rw [SeedAggregate.count, scores]
      exact two
    · rw [other] at confirmed
      cases confirmed
  have margin := aggregateSeeds_margin aggregated mem two three
  rw [shown.1, shown.2, Option.getD_some, Option.getD_some] at better
  linarith

/-- The scores that the trust of an evaluation rests on: those of its seed evidence, and its own. -/
structure Seeded (evidence : TrustEvidence R) (cfg : TrustConfig R) (result : EvaluationResult R) :
    Prop where
  trust : assessTrust evidence cfg = .ok result.trust
  last : evidence.seedScores.getLast? = some result.metricSet.primaryScore
  count : evidence.seedScores.length = result.seedEvidenceEventIds.length + 1

omit [IsStrictOrderedRing R] [ExactSqrt R] in
/-- The service evaluates in this way, and the incumbent is the best candidate as it was scored again. -/
lemma evaluate_seeded {service : EvaluationService R} {request : EvaluationInputs R}
    {result : ServiceResult R} (evaluated : service.evaluate request = .ok result) :
    (∃ evidence, Seeded evidence service.trustConfig result.toEvaluationResult) ∧
      currentBest result.toEvaluationResult = request.previousBest.primaryScore := by
  have evaluates := evaluate_ok evaluated
  obtain ⟨prior, delta, resolved, assessed⟩ := evaluates.seeds
  obtain ⟨-, priors⟩ := resolveSeedResults_ok resolved
  refine ⟨⟨_, assessed, ?_, ?_⟩, ?_⟩
  · exact List.getLast?_concat
  · simp [EvaluationService.trustEvidence, priors, evaluates.seedEvidence]
  · have compared := evaluates.previousBest
    simp only [compareMetricSets, bind_eq_ok, pure_eq_ok] at compared
    obtain ⟨_, _, _, _, last⟩ := compared
    rw [currentBest, ← last]
    ring

end Margin
end TacoRank.Evaluation
