import TacoRank.Evaluation.Decisions
import TacoRank.Lib.Statistics
import TacoRank.Memory.Envelope
import Mathlib.Algebra.Order.Field.Basic
import Mathlib.Algebra.Order.Floor.Ring

/-!
# Trust

Port of `evaluation/trust.py`, with `aggregate_seeds` of `evaluation/stability.py` and `is_no_op` of
`evaluation/no_op.py`, over the numbers of any ordered field with a square root. `assess_trust` maps
the evidence of an evaluation to a verdict; together with `decide` it accepts a candidate only when
the mean of at least two seeds is above the parent: `acceptance_sound`.
-/

namespace TacoRank.Evaluation
open Lib Lib.Result

section Numbers
variable (R : Type) [Field R]

/-- `NoOpConfig`. -/
structure NoOpConfig where
  scoreTolerance : R := 1 / 10 ^ 12
  spearmanThreshold : R := 9999 / 10000
  changedRowFractionMax : R := 1 / 1000
  primaryDeltaTolerance : R := 16 / 10000
  withinUserRankChangeMin : R := 2 / 1000

/-- `TrustConfig`. -/
structure TrustConfig where
  etaFloor : R := 16 / 10000
  requiredSeedCount : Nat := 2
  baselineSeedStd : R := 8 / 10000
  unstableStdMultiplier : R := 3
  tooGoodDelta : R := 5 / 100
  minimumUniqueScoreFraction : R := 1 / 100
  redundancyCorrelation : R := 70 / 100
  gainConcentrationThreshold : R := 70 / 100
  driftSlopeThreshold : R := 2 / 1000
  validationArmGapThreshold : R := 6 / 1000
  proxyImprovementThreshold : R := 16 / 10000
  requireNonDecreasingMetrics : Bool := false
  noOp : NoOpConfig R := {}

instance : Inhabited (TrustConfig R) := ⟨{}⟩

end Numbers

/-- `TrustEvidence`. -/
structure TrustEvidence (R : Type) where
  population : Population
  fidelity : Fidelity
  parentPrimary : R
  parentDelta : R
  metricDeltas : List (String × R)
  predictionChange : PredictionChange R
  seedScores : List R
  outputGateEvidence : Bool := true
  evaluatorHashMatches : Bool := true
  contractHashMatches : Bool := true
  forbiddenInputs : List String := []
  alignmentSuspect : Bool := false
  internalProxyDelta : Option R := none
  unbiasedAuditDelta : Option R := none
  valADelta : Option R := none
  valBDelta : Option R := none
  deltaCorrelation : Option R := none
  deltaCorrelationExperimentId : Option String := none
  scoreUniqueFraction : Option R := none
  gainConcentrationTop10pct : Option R := none
  driftPrimarySlope : Option R := none

/-- `SeedAggregate`. -/
structure SeedAggregate (R : Type) where
  scores : List R
  mean : R
  standardDeviation : R
  standardError : R
  eta : R

/-- `SeedAggregate.count`. -/
def SeedAggregate.count {R : Type} (aggregate : SeedAggregate R) : Nat := aggregate.scores.length

section Assess
variable {R : Type} [Field R] [LinearOrder R]

/-- `aggregate_seeds`. -/
def aggregateSeeds [HasSqrt R] (scores : List R) (etaFloor : R) :
    Except EvaluationError (SeedAggregate R) :=
  if scores = [] then .error (.valueError "seed scores must be a non-empty finite sequence")
  else
    let standardDeviation := if scores.length = 1 then 0 else Statistics.stdev scores
    let standardError :=
      if scores.length = 1 then 0 else standardDeviation / HasSqrt.sqrt (scores.length : R)
    .ok {
      scores
      mean := Statistics.mean scores
      standardDeviation
      standardError
      eta := max (2 * standardError) etaFloor }

/-- `is_no_op`. -/
def isNoOp (change : PredictionChange R) (parentDelta : R) (config : NoOpConfig R) : Bool :=
  match change.spearmanVsParent, change.changedRowFraction with
  | some spearman, some changed =>
    if config.primaryDeltaTolerance < |parentDelta| then false
    else
      match change.withinUserRankChange with
      | some rankChange => rankChange ≤ config.withinUserRankChangeMin
      | none => config.spearmanThreshold ≤ spearman ∨ changed ≤ config.changedRowFractionMax
  | _, _ => false

/-- `"%.4f" % x`: ties go to the even digit. -/
def fixed4 [FloorRing R] (x : R) : String :=
  let scaled := |x| * 10000
  let below := ⌊scaled⌋.toNat
  let rest := scaled - below
  let digits := if rest < 1 / 2 ∨ (rest = 1 / 2 ∧ below % 2 = 0) then below else below + 1
  (if x < 0 then "-" else "") ++ toString (digits / 10000) ++ "." ++
    String.ofList (Memory.padded 4 (digits % 10000))

variable (evidence : TrustEvidence R) (cfg : TrustConfig R)

/-- The flags of `assess_trust` for broken identities, gates and inputs. -/
def hardFlags : List String :=
  (if evidence.evaluatorHashMatches then [] else ["EVALUATOR_HASH_MISMATCH"]) ++
  (if evidence.contractHashMatches then [] else ["CONTRACT_HASH_MISMATCH"]) ++
  (if evidence.outputGateEvidence then [] else ["OUTPUT_GATE_EVIDENCE_MISSING"]) ++
  evidence.forbiddenInputs.map fun name => "FORBIDDEN_INPUT_DETECTED:" ++ name

/-- The metrics of a candidate move in both directions. -/
def metricsConflict (deltas : List R) : Bool :=
  match deltas.min?, deltas.max? with
  | some low, some high => low < 0 ∧ 0 < high
  | _, _ => false

/-- The flags of `_directional_flags` for two validation arms. -/
def armFlags : List String :=
  match evidence.valADelta, evidence.valBDelta with
  | some a, some b =>
    (if a * b ≤ 0 then ["VALIDATION_ARM_SIGN_CONFLICT"] else []) ++
    (if cfg.validationArmGapThreshold < |a - b| then ["VALIDATION_ARM_GAP"] else [])
  | _, _ => []

/-- `_directional_flags`. -/
def directionalFlags : List String :=
  (if evidence.internalProxyDelta.any fun proxy => evidence.parentDelta * proxy < 0 then
    ["PROXY_FULL_DIRECTION_CONFLICT"] else []) ++
  (if metricsConflict (evidence.metricDeltas.map Prod.snd) then
    "METRIC_DIRECTION_CONFLICT" ::
      if cfg.requireNonDecreasingMetrics then ["CONTRACT_DIRECTION_POLICY_FAILED"] else []
    else []) ++
  (if evidence.gainConcentrationTop10pct.any fun gain => cfg.gainConcentrationThreshold < gain then
    ["FRAGILE_CONCENTRATED_GAIN"] else []) ++
  (if evidence.driftPrimarySlope.any fun slope => cfg.driftSlopeThreshold < |slope| then
    ["DRIFT_DETECTED"] else []) ++
  armFlags evidence cfg

variable (aggregate : SeedAggregate R)

/-- `_assessment`. -/
def assessment (verdict : TrustVerdict) (stability : Stability) (integrity : Integrity)
    (flags : List String) : TrustAssessment R :=
  { verdict
    stability
    integrity
    flags
    etaApplied := some aggregate.eta
    seedMean := if 2 ≤ aggregate.count then some aggregate.mean else none
    seedStderr := if 2 ≤ aggregate.count then some aggregate.standardError else none
    seedCount := aggregate.count }

/-- The branch of `assess_trust` for a proxy. -/
def assessProxy : TrustAssessment R :=
  let flags := directionalFlags evidence cfg
  let tolerance := cfg.proxyImprovementThreshold
  if tolerance < evidence.parentDelta then
    assessment aggregate .accepted .notApplicable .clean flags
  else if evidence.parentDelta < -tolerance then
    assessment aggregate .negative .notApplicable .clean flags
  else
    assessment aggregate .inconclusive .notApplicable .clean ("WITHIN_NOISE" :: flags)

/-- The end of `assess_trust`: the seeds of a full evaluation. -/
def assessSeeds : TrustAssessment R :=
  let flags := directionalFlags evidence cfg
  let deterministicPair := 2 ≤ aggregate.count ∧ aggregate.standardDeviation = 0
  let aggregateDelta := aggregate.mean - evidence.parentPrimary
  if aggregate.count < cfg.requiredSeedCount ∧ ¬ deterministicPair then
    assessment aggregate .accepted .singleSeed .clean flags
  else if cfg.unstableStdMultiplier * cfg.baselineSeedStd < aggregate.standardDeviation then
    assessment aggregate .inconclusive .unstable .clean ("SEED_INSTABILITY" :: flags)
  else if |aggregateDelta| ≤ aggregate.eta then
    if max (2 * aggregate.standardError) (1 / 10 ^ 12) < aggregateDelta then
      assessment aggregate .accepted .confirmed .clean ("CONFIRMED_POSITIVE_BELOW_LADDER" :: flags)
    else
      assessment aggregate .inconclusive .confirmed .clean ("WITHIN_NOISE" :: flags)
  else if aggregateDelta < -aggregate.eta then
    assessment aggregate .negative .confirmed .clean flags
  else
    assessment aggregate .accepted .confirmed .clean flags

variable [FloorRing R]

/-- `assess_trust` after the aggregation of the seeds. -/
def adjudicate : TrustAssessment R :=
  if hardFlags evidence ≠ [] then
    assessment aggregate .suspicious .notApplicable .compromised (hardFlags evidence)
  else if evidence.alignmentSuspect then
    assessment aggregate .suspicious .notApplicable .inconclusive ["PREDICTION_ALIGNMENT_SUSPECT"]
  else if isNoOp evidence.predictionChange evidence.parentDelta cfg.noOp then
    assessment aggregate .noOp .notApplicable .clean ["NO_PREDICTION_CHANGE"]
  else if evidence.scoreUniqueFraction.getD evidence.predictionChange.uniqueScoreFraction <
      cfg.minimumUniqueScoreFraction then
    assessment aggregate .suspicious .notApplicable .compromised ["DEGENERATE_SCORES"]
  else if cfg.tooGoodDelta < evidence.parentDelta then
    assessment aggregate .suspicious .notApplicable .inconclusive ["TOO_GOOD_TO_BE_TRUE"]
  else if 0 < evidence.parentDelta ∧ evidence.unbiasedAuditDelta.any fun audit => audit ≤ 0 then
    assessment aggregate .suspicious .notApplicable .inconclusive ["UNBIASED_AUDIT_SIGN_CONFLICT"]
  else if evidence.deltaCorrelation.any fun correlation => cfg.redundancyCorrelation < correlation then
    let suffix := match evidence.deltaCorrelationExperimentId with
      | some experimentId => if experimentId = "" then "" else ":" ++ experimentId
      | none => ""
    assessment aggregate .redundant .notApplicable .clean
      ["DELTA_VECTOR_REDUNDANT:" ++ fixed4 (evidence.deltaCorrelation.getD 0) ++ suffix]
  else if "CONTRACT_DIRECTION_POLICY_FAILED" ∈ directionalFlags evidence cfg then
    assessment aggregate .inconclusive .notApplicable .clean (directionalFlags evidence cfg)
  else if evidence.population = .internalProxy ∨ evidence.fidelity = .proxy then
    assessProxy evidence cfg aggregate
  else
    assessSeeds evidence cfg aggregate

/-- `assess_trust`. -/
def assessTrust [HasSqrt R] : Except EvaluationError (TrustAssessment R) := do
  let aggregate ← aggregateSeeds evidence.seedScores cfg.etaFloor
  return adjudicate evidence cfg aggregate

end Assess

/-! ### What trust rests on -/

/-- The evidence breaks an identity, a gate or an input, or its alignment is in doubt. -/
def Tainted {R : Type} (evidence : TrustEvidence R) : Prop :=
  evidence.evaluatorHashMatches = false ∨ evidence.contractHashMatches = false ∨
    evidence.outputGateEvidence = false ∨ evidence.forbiddenInputs ≠ [] ∨
    evidence.alignmentSuspect = true

section Facts
variable {R : Type} [Field R] [LinearOrder R] {evidence : TrustEvidence R} {cfg : TrustConfig R}
  {aggregate : SeedAggregate R}

omit [Field R] [LinearOrder R] in
lemma hardFlags_eq_nil : hardFlags evidence = [] ↔
    evidence.evaluatorHashMatches = true ∧ evidence.contractHashMatches = true ∧
      evidence.outputGateEvidence = true ∧ evidence.forbiddenInputs = [] := by
  simp [hardFlags]

/-- A proxy is not confirmed. -/
lemma assessProxy_stability : (assessProxy evidence cfg aggregate).stability = .notApplicable := by
  unfold assessProxy
  dsimp only
  split_ifs <;> rfl

lemma aggregateSeeds_ok [HasSqrt R] {scores : List R} {etaFloor : R}
    (h : aggregateSeeds scores etaFloor = .ok aggregate) :
    aggregate.scores = scores ∧ aggregate.mean = Statistics.mean scores ∧ etaFloor ≤ aggregate.eta := by
  unfold aggregateSeeds at h
  split at h
  · cases h
  · cases h
    exact ⟨rfl, rfl, le_max_right _ _⟩

/-- The seeds carry their aggregate. -/
lemma assessSeeds_aggregate (count : 2 ≤ aggregate.count) :
    (assessSeeds evidence cfg aggregate).seedMean = some aggregate.mean ∧
      (assessSeeds evidence cfg aggregate).etaApplied = some aggregate.eta := by
  unfold assessSeeds
  dsimp only
  split_ifs <;> exact ⟨if_pos count, rfl⟩

variable [FloorRing R]

/-- Tainted evidence is suspicious. -/
lemma adjudicate_tainted (tainted : Tainted evidence) :
    (adjudicate evidence cfg aggregate).verdict = .suspicious := by
  unfold adjudicate
  by_cases hard : hardFlags evidence = []
  · obtain ⟨evaluator, contract, gate, inputs⟩ := hardFlags_eq_nil.mp hard
    have suspect : evidence.alignmentSuspect = true := by
      simpa [Tainted, evaluator, contract, gate, inputs] using tainted
    rw [if_neg (not_not_intro hard), if_pos suspect]
    rfl
  · rw [if_pos hard]
    rfl

/-- Stability is judged on the seeds of a full evaluation that is no no-op. -/
lemma adjudicate_seeds :
    (isNoOp evidence.predictionChange evidence.parentDelta cfg.noOp = false ∧
        adjudicate evidence cfg aggregate = assessSeeds evidence cfg aggregate) ∨
      (adjudicate evidence cfg aggregate).stability = .notApplicable := by
  unfold adjudicate
  split
  · exact .inr rfl
  split
  · exact .inr rfl
  split
  · exact .inr rfl
  next active =>
    split
    · exact .inr rfl
    split
    · exact .inr rfl
    split
    · exact .inr rfl
    split
    · exact .inr rfl
    split
    · exact .inr rfl
    split
    · exact .inr assessProxy_stability
    · exact .inl ⟨by simpa using active, rfl⟩

variable [IsStrictOrderedRing R]

omit [FloorRing R] in
/-- Confirmed seeds: at least two, and above the parent when they are accepted. -/
lemma assessSeeds_confirmed (floor : 0 < aggregate.eta) (required : 2 ≤ cfg.requiredSeedCount)
    (confirmed : (assessSeeds evidence cfg aggregate).stability = .confirmed) :
    2 ≤ aggregate.count ∧ (assessSeeds evidence cfg aggregate).integrity = .clean ∧
      ((assessSeeds evidence cfg aggregate).verdict = .accepted →
        evidence.parentPrimary < aggregate.mean) := by
  unfold assessSeeds at confirmed ⊢
  dsimp only at confirmed ⊢
  by_cases single : aggregate.count < cfg.requiredSeedCount ∧
      ¬ (2 ≤ aggregate.count ∧ aggregate.standardDeviation = 0)
  · rw [if_pos single] at confirmed
    cases confirmed
  · have seeds : 2 ≤ aggregate.count := by
      by_contra few
      exact single ⟨by omega, fun pair => few pair.1⟩
    refine ⟨seeds, ?_⟩
    rw [if_neg single] at confirmed ⊢
    split_ifs at confirmed ⊢ with unstable near above below
    · cases confirmed
    · refine ⟨rfl, fun _ => ?_⟩
      have positive : (0 : R) < 1 / 10 ^ 12 := by positivity
      have gain := lt_of_lt_of_le positive (le_of_lt (lt_of_le_of_lt (le_max_right _ _) above))
      exact sub_pos.mp gain
    · exact ⟨rfl, fun accepted => by cases accepted⟩
    · exact ⟨rfl, fun accepted => by cases accepted⟩
    · refine ⟨rfl, fun _ => ?_⟩
      have far := not_le.mp near
      rcases abs_choice (aggregate.mean - evidence.parentPrimary) with up | down
      · rw [up] at far
        exact sub_pos.mp (floor.trans far)
      · rw [down] at far
        exact absurd (by linarith) below

end Facts

/-! ### Decisions on assessed evaluations -/

/-- The trust of the evaluation was assessed from the evidence, against the parent of its delta. -/
structure Assesses {R : Type} [Field R] [LinearOrder R] [FloorRing R] [HasSqrt R]
    (evidence : TrustEvidence R) (cfg : TrustConfig R) (result : EvaluationResult R) : Prop where
  population : evidence.population = result.population
  fidelity : evidence.fidelity = result.fidelity
  parent : evidence.parentPrimary = result.metricSet.primaryScore - result.parentDelta.primary
  trust : assessTrust evidence cfg = .ok result.trust

section Acceptance
variable {R : Type} [Field R] [LinearOrder R] {result : EvaluationResult R}
  {context : DecisionContext} {d : ExperimentDecision}

/-- What `decide` accepts. -/
lemma decide_accepts (decided : decide result context = .ok d) (accept : d.decision = .accept) :
    result.trust.stability = .confirmed ∧ result.trust.integrity = .clean ∧
      (result.trust.verdict = .accepted ∧
          (d.bestEligible = true → result.trust.etaApplied.getD 0 <
            result.trust.seedMean.getD result.metricSet.primaryScore - currentBest result) ∨
        d.bestEligible = false ∧ result.trust.seedMean.any (withinTolerance result) = true) := by
  unfold decide at decided
  split_ifs at decided
  · cases decided
    exfalso
    revert accept
    unfold decideProxy
    dsimp only
    split_ifs <;> simp [decision]
  · cases decided
    revert accept
    unfold decideFull
    dsimp only
    split_ifs with single spent trusted better near
    · simp [decision]
    · simp [decision]
    · exact fun _ => ⟨trusted.2.1, trusted.2.2, .inl ⟨trusted.1, fun _ => better⟩⟩
    · exact fun _ => ⟨trusted.2.1, trusted.2.2, .inl ⟨trusted.1, fun best => by cases best⟩⟩
    · exact fun _ => ⟨near.2.1, near.2.2.1, .inr ⟨rfl, near.2.2.2.2⟩⟩
    · intro accept
      exfalso
      revert accept
      unfold decideAgainst
      dsimp only [decision]
      split_ifs <;> simp

/-- `decide` neither accepts nor promotes what is suspicious. -/
lemma decide_suspicious (decided : decide result context = .ok d)
    (suspicious : result.trust.verdict = .suspicious) :
    d.decision ≠ .accept ∧ d.decision ≠ .promote := by
  unfold decide at decided
  split_ifs at decided
  · cases decided
    simp [decideProxy, suspicious, decision]
  · cases decided
    simp [decideFull, decideAgainst, suspicious, decision]

variable [IsStrictOrderedRing R] [FloorRing R] [HasSqrt R] {evidence : TrustEvidence R}

/-- With the default configuration, an accepted candidate was run on at least two seeds whose mean is
above its parent, it is no no-op and its integrity is clean; a new best is above the incumbent by
more than the threshold of the ladder; and tainted evidence is neither accepted nor promoted. -/
theorem acceptance_sound (assessed : Assesses evidence {} result) (context : DecisionContext)
    (d : ExperimentDecision) (decided : decide result context = .ok d) :
    (d.decision = .accept →
      2 ≤ evidence.seedScores.length ∧ evidence.parentPrimary < Statistics.mean evidence.seedScores ∧
        isNoOp evidence.predictionChange evidence.parentDelta {} = false ∧
        result.trust.integrity = .clean ∧
        (d.bestEligible = true → ∃ aggregate,
          aggregateSeeds evidence.seedScores (16 / 10000) = .ok aggregate ∧
            currentBest result + aggregate.eta < Statistics.mean evidence.seedScores)) ∧
    (Tainted evidence → d.decision ≠ .accept ∧ d.decision ≠ .promote) := by
  obtain ⟨aggregate, seeds, last⟩ := bind_eq_ok.mp assessed.trust
  have trust : adjudicate evidence {} aggregate = result.trust := Except.ok.inj last
  obtain ⟨scores, mean, floor⟩ := aggregateSeeds_ok seeds
  refine ⟨fun accept => ?_, fun tainted => ?_⟩
  · obtain ⟨confirmed, clean, reason⟩ := decide_accepts decided accept
    rw [← trust] at confirmed
    have site : (isNoOp evidence.predictionChange evidence.parentDelta
          ({} : TrustConfig R).noOp = false ∧
        adjudicate evidence {} aggregate = assessSeeds evidence {} aggregate) ∨
        (adjudicate evidence {} aggregate).stability = .notApplicable := adjudicate_seeds
    rcases site with ⟨active, full⟩ | other
    · have positive : (0 : R) < 16 / 10000 := by positivity
      rw [full] at confirmed trust
      obtain ⟨count, _, above⟩ :=
        assessSeeds_confirmed (lt_of_lt_of_le positive floor) (le_refl 2) confirmed
      have shown : result.trust.seedMean = some aggregate.mean ∧
          result.trust.etaApplied = some aggregate.eta := by
        rw [← trust]
        exact assessSeeds_aggregate count
      rw [shown.1, shown.2, Option.getD_some, Option.getD_some] at reason
      rw [← mean]
      refine ⟨scores ▸ count, ?_, active, clean, fun best => ⟨aggregate, seeds, ?_⟩⟩
      · rcases reason with ⟨accepted, _⟩ | ⟨_, near⟩
        · exact above (by rw [trust, accepted])
        · rw [assessed.parent]
          simp only [Option.any_some, withinTolerance, Bool.decide_and, Bool.and_eq_true,
            decide_eq_true_eq] at near
          exact sub_pos.mp near.1
      · rcases reason with ⟨_, better⟩ | ⟨ordinary, _⟩
        · linarith [better best]
        · rw [ordinary] at best
          cases best
    · rw [other] at confirmed
      cases confirmed
  · apply decide_suspicious decided
    rw [← trust]
    exact adjudicate_tainted tainted

end Acceptance

/-- The evidence of a candidate with two seeds that both score 0.60, against a parent with 0.56. -/
def steadyEvidence : TrustEvidence ℚ where
  population := .publicValidation
  fidelity := .full
  parentPrimary := 56 / 100
  parentDelta := 4 / 100
  metricDeltas := [("auc", 4 / 100)]
  predictionChange :=
    { spearmanVsParent := some (1 / 2), changedRowFraction := some 1
      identicalScoreFraction := some 0, uniqueScoreFraction := 1 }
  seedScores := [60 / 100, 60 / 100]

/-- The evaluation of this candidate, while the best one has 0.58. -/
def steadyResult : EvaluationResult where
  experimentId := "exp"
  attempt := 2
  population := .publicValidation
  fidelity := .full
  seed := 1
  publicQueryIndex := some 2
  evaluatorSha256 := "evaluator"
  contractSha256 := "contract"
  metricSet := { metrics := [("auc", 60 / 100)], primaryMetricName := "primary", primaryScore := 60 / 100 }
  parentDelta := { primary := 4 / 100, metrics := [("auc", 4 / 100)] }
  previousBestDelta := { primary := 2 / 100, metrics := [("auc", 2 / 100)] }
  predictionChange := steadyEvidence.predictionChange
  trust :=
    { verdict := .accepted, stability := .confirmed, integrity := .clean
      etaApplied := some (16 / 10000), seedMean := some (60 / 100), seedStderr := some 0, seedCount := 2 }
  seedEvidenceEventIds := [8]

/-- The decision on it. -/
def steadyDecision : ExperimentDecision :=
  decision steadyResult
    { evaluationEventId := 12, supportingEventIds := [some 11, some 12], seedEvidenceEventIds := [8] }
    .accept "TRUSTED_IMPROVEMENT" true true none

theorem acceptance_sound_steady :
    (steadyDecision.decision = .accept →
      2 ≤ steadyEvidence.seedScores.length ∧
        steadyEvidence.parentPrimary < Statistics.mean steadyEvidence.seedScores ∧
        isNoOp steadyEvidence.predictionChange steadyEvidence.parentDelta {} = false ∧
        steadyResult.trust.integrity = .clean ∧
        (steadyDecision.bestEligible = true → ∃ aggregate,
          aggregateSeeds steadyEvidence.seedScores (16 / 10000) = .ok aggregate ∧
            currentBest steadyResult + aggregate.eta < Statistics.mean steadyEvidence.seedScores)) ∧
    (Tainted steadyEvidence → steadyDecision.decision ≠ .accept ∧ steadyDecision.decision ≠ .promote) :=
  acceptance_sound
    { population := rfl, fidelity := rfl, parent := by decide +kernel, trust := by decide +kernel }
    { evaluationEventId := 12, supportingEventIds := [some 11, some 12], seedEvidenceEventIds := [8] }
    steadyDecision (by decide +kernel)

end TacoRank.Evaluation
