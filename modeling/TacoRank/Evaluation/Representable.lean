import TacoRank.Evaluation.Service

/-!
# Representable evaluations

The validators of the canonical `EvaluationResult` in `schemas.py` and of the models inside it, on the
results that `EvaluationService.evaluate` builds. `evaluation_representable` says for which requests
the result passes all of them.
-/

namespace TacoRank.Evaluation
open Lib Lib.Result

/-! ### The validators -/

section Validators
variable {R : Type} [Field R] [LinearOrder R]

/-- The validators of `MetricSet`. -/
structure MetricSetValid (metricSet : MetricSet R) : Prop where
  nonempty : metricSet.metrics ≠ []
  names : ∀ m ∈ metricSet.metrics, NotBlank (strip m.1)
  primaryName : NonEmpty metricSet.primaryMetricName
  primary : ∀ m ∈ metricSet.metrics, strip m.1 = strip metricSet.primaryMetricName →
    m.2 = metricSet.primaryScore

/-- The validators of a mapping of metric deltas. -/
structure DeltasValid (metricSet : MetricSet R) (deltas : List (String × R)) : Prop where
  names : ∀ m ∈ deltas, NonEmpty m.1 ∧ NotBlank (strip m.1)
  schema : deltas = [] ∨ SameNames (storedNames deltas) (storedNames metricSet.metrics)

/-- The validators of `TrustAssessment`. -/
structure TrustValid (trust : TrustAssessment R) : Prop where
  flags : FlagsValid trust.flags
  etaApplied : ∀ eta ∈ trust.etaApplied, 0 ≤ eta
  seedStderr : ∀ stderr ∈ trust.seedStderr, 0 ≤ stderr
  seedCount : 1 ≤ trust.seedCount
  compromised : trust.integrity = .compromised → trust.verdict = .suspicious
  noOp : trust.verdict = .noOp → trust.stability = .notApplicable
  together : trust.seedMean.isSome = trust.seedStderr.isSome
  aggregate : trust.seedMean.isSome = true → 2 ≤ trust.seedCount

/-- `validate_evaluation_route`, without the metrics. -/
structure RouteValid (result : ServiceResult R) : Prop where
  publicValidation : result.population = .publicValidation →
    result.fidelity = .full ∧ result.publicQueryIndex.isSome = true
  others : result.population ≠ .publicValidation → result.publicQueryIndex = none
  internalProxy : result.population = .internalProxy → result.fidelity = .proxy
  unbiasedAudit : result.population = .unbiasedAudit → result.fidelity = .full
  hiddenFinal : result.population = .hiddenFinal → result.fidelity = .final
  seedCount : strip result.experimentId ≠ "baseline" →
    result.trust.seedCount = result.seedEvidenceEventIds.length + 1
  confirmed : strip result.experimentId ≠ "baseline" →
    result.trust.stability = .confirmed ∨ result.trust.stability = .unstable →
    2 ≤ result.trust.seedCount ∧ result.trust.seedMean.isSome = true ∧
      result.trust.seedStderr.isSome = true

/-- The numbers of the canonical `EvaluationResult`. -/
def ServiceResult.numbers (result : ServiceResult R) : List R :=
  result.metricSet.primaryScore :: result.metricSet.metrics.map Prod.snd ++
  [result.baselineDelta, result.parentDelta, result.previousBestDelta].flatMap
    (fun delta => delta.primary :: delta.metrics.map Prod.snd) ++
  [result.predictionChange.spearmanVsParent, result.predictionChange.changedRowFraction,
    result.trust.etaApplied, result.trust.seedMean, result.trust.seedStderr].reduceOption ++
  result.diagnosticMetrics.map Prod.snd ++ result.diagnostics.numbers

/-- The validators of `EvaluationResult` and of the models inside it, when `finite` says which numbers
the schema takes (`allow_inf_nan=False`). -/
structure Representable (finite : R → Prop) (result : ServiceResult R) : Prop where
  numbers : ∀ x ∈ result.numbers, finite x
  runId : NonEmpty result.runId
  experimentId : NonEmpty result.experimentId
  attempt : 1 ≤ result.attempt
  publicQueryIndex : ∀ index ∈ result.publicQueryIndex, 1 ≤ index
  evaluatorSha256 : Memory.matchesSha256 (strip result.evaluatorSha256) = true
  contractSha256 : Memory.matchesSha256 (strip result.contractSha256) = true
  metricSet : MetricSetValid result.metricSet
  baselineMetricDeltas : DeltasValid result.metricSet result.baselineDelta.metrics
  parentMetricDeltas : DeltasValid result.metricSet result.parentDelta.metrics
  previousBestMetricDeltas : DeltasValid result.metricSet result.previousBestDelta.metrics
  spearman : ∃ correlation, result.predictionChange.spearmanVsParent = some correlation ∧
    |correlation| ≤ 1
  changedRows : ∃ fraction, result.predictionChange.changedRowFraction = some fraction ∧
    0 ≤ fraction ∧ fraction ≤ 1
  diagnosticMetrics : ∀ m ∈ result.diagnosticMetrics, NonEmpty m.1
  trust : TrustValid result.trust
  seedEvidenceEventIds : result.seedEvidenceEventIds.Nodup
  diagnostics : DiagnosticsValid result.diagnostics
  route : RouteValid result

end Validators

/-! ### Trust -/

/-- The flags that `assess_trust` combines, in its order. -/
def knownFlags : List String :=
  ["SEED_INSTABILITY", "CONFIRMED_POSITIVE_BELOW_LADDER", "WITHIN_NOISE",
    "PROXY_FULL_DIRECTION_CONFLICT", "METRIC_DIRECTION_CONFLICT", "CONTRACT_DIRECTION_POLICY_FAILED",
    "FRAGILE_CONCENTRATED_GAIN", "DRIFT_DETECTED", "VALIDATION_ARM_SIGN_CONFLICT",
    "VALIDATION_ARM_GAP"]

lemma FlagsValid.known {flags : List String} (sub : flags.Sublist knownFlags) : FlagsValid flags where
  nonempty flag mem := by
    have all : ∀ known ∈ knownFlags, NonEmpty known := by decide +kernel
    exact all flag (sub.subset mem)
  unique := by
    have all : (knownFlags.map strip).Nodup := by decide +kernel
    exact (sub.map strip).nodup all

lemma FlagsValid.single {flag : String} (nonempty : NonEmpty flag) : FlagsValid [flag] where
  nonempty _ mem := List.mem_singleton.mp mem ▸ nonempty
  unique := List.nodup_singleton _

section Trust
variable {R : Type} [Field R] [LinearOrder R] {evidence : TrustEvidence R} {cfg : TrustConfig R}
  {aggregate : SeedAggregate R}

lemma directionalFlags_sublist : (directionalFlags evidence cfg).Sublist (knownFlags.drop 3) := by
  have metrics : (if metricsConflict (evidence.metricDeltas.map Prod.snd) then
      "METRIC_DIRECTION_CONFLICT" ::
        if cfg.requireNonDecreasingMetrics then ["CONTRACT_DIRECTION_POLICY_FAILED"] else []
      else []).Sublist ["METRIC_DIRECTION_CONFLICT", "CONTRACT_DIRECTION_POLICY_FAILED"] := by
    split
    · exact optional_sublist.cons_cons _
    · exact List.nil_sublist _
  have arms : (armFlags evidence cfg).Sublist ["VALIDATION_ARM_SIGN_CONFLICT", "VALIDATION_ARM_GAP"] := by
    unfold armFlags
    cases evidence.valADelta with
    | none => exact List.nil_sublist _
    | some a =>
      cases evidence.valBDelta with
      | none => exact List.nil_sublist _
      | some b => exact optional_sublist.append optional_sublist
  exact (((optional_sublist.append metrics).append optional_sublist).append optional_sublist).append arms

/-- What the validators ask of the trust in an evaluation. -/
structure Consistent (evidence : TrustEvidence R) (aggregate : SeedAggregate R)
    (trust : TrustAssessment R) : Prop where
  form : trust = assessment aggregate trust.verdict trust.stability trust.integrity trust.flags
  compromised : trust.integrity = .compromised → trust.verdict = .suspicious
  noOp : trust.verdict = .noOp → trust.stability = .notApplicable
  seeds : trust.stability = .confirmed ∨ trust.stability = .unstable → 2 ≤ aggregate.count
  hard : hardFlags evidence ≠ [] → trust.flags = hardFlags evidence
  flags : hardFlags evidence = [] → FlagsValid trust.flags

omit [Field R] [LinearOrder R] in
/-- Trust that no seeds stand behind, for sound evidence. -/
lemma Consistent.other (sound : hardFlags evidence = []) {verdict : TrustVerdict} {integrity : Integrity}
    {flags : List String} (compromised : integrity = .compromised → verdict = .suspicious)
    (valid : FlagsValid flags) :
    Consistent evidence aggregate (assessment aggregate verdict .notApplicable integrity flags) where
  form := rfl
  compromised := compromised
  noOp _ := rfl
  seeds stability := by rcases stability with h | h <;> cases h
  hard broken := absurd sound broken
  flags _ := valid

omit [Field R] [LinearOrder R] in
/-- Trust with clean integrity that is no no-op, for sound evidence. -/
lemma Consistent.clean (sound : hardFlags evidence = []) {verdict : TrustVerdict} {stability : Stability}
    {flags : List String} (active : verdict ≠ .noOp) (valid : FlagsValid flags)
    (seeds : stability = .confirmed ∨ stability = .unstable → 2 ≤ aggregate.count) :
    Consistent evidence aggregate (assessment aggregate verdict stability .clean flags) where
  form := rfl
  compromised broken := by cases broken
  noOp idle := absurd idle active
  seeds := seeds
  hard broken := absurd sound broken
  flags _ := valid

lemma known_cons {flag : String} (known : [flag].Sublist (knownFlags.take 3)) :
    FlagsValid (flag :: directionalFlags evidence cfg) := by
  apply FlagsValid.known
  have directional : (directionalFlags evidence cfg).Sublist (knownFlags.drop 3) :=
    directionalFlags_sublist
  have parts := known.append directional
  rwa [List.take_append_drop] at parts

lemma known_directional : FlagsValid (directionalFlags evidence cfg) :=
  .known (directionalFlags_sublist.trans (List.drop_sublist 3 _))

lemma assessProxy_consistent (sound : hardFlags evidence = []) :
    Consistent evidence aggregate (assessProxy evidence cfg aggregate) := by
  unfold assessProxy
  dsimp only
  split
  · exact .other sound (by simp) known_directional
  split
  · exact .other sound (by simp) known_directional
  · exact .other sound (by simp) (known_cons (by decide))

lemma assessSeeds_consistent (sound : hardFlags evidence = []) (required : 2 ≤ cfg.requiredSeedCount) :
    Consistent evidence aggregate (assessSeeds evidence cfg aggregate) := by
  unfold assessSeeds
  dsimp only
  split
  · exact .clean sound (by simp) known_directional (by simp)
  next several =>
    have count : 2 ≤ aggregate.count := by
      by_contra few
      exact several ⟨by omega, fun pair => few pair.1⟩
    split
    · exact .clean sound (by simp) (known_cons (by decide)) fun _ => count
    split
    · split
      · exact .clean sound (by simp) (known_cons (by decide)) fun _ => count
      · exact .clean sound (by simp) (known_cons (by decide)) fun _ => count
    split
    · exact .clean sound (by simp) known_directional fun _ => count
    · exact .clean sound (by simp) known_directional fun _ => count

lemma adjudicate_consistent [FloorRing R] (required : 2 ≤ cfg.requiredSeedCount) :
    Consistent evidence aggregate (adjudicate evidence cfg aggregate) := by
  unfold adjudicate
  split
  next broken =>
    exact
      { form := rfl
        compromised := fun _ => rfl
        noOp := fun _ => rfl
        seeds := fun stability => by rcases stability with h | h <;> cases h
        hard := fun _ => rfl
        flags := fun sound => absurd sound broken }
  next sound =>
    have sound := not_not.mp sound
    split
    · exact .other sound (by simp) (.single (by decide))
    split
    · exact .other sound (by simp) (.single (by decide))
    split
    · exact .other sound (by simp) (.single (by decide))
    split
    · exact .other sound (by simp) (.single (by decide))
    split
    · exact .other sound (by simp) (.single (by decide))
    split
    · refine .other sound (by simp) (.single ?_)
      exact (NonEmpty.append (NonEmpty.append (by decide)))
    split
    · exact .other sound (by simp) known_directional
    split
    · exact assessProxy_consistent sound
    · exact assessSeeds_consistent sound required

end Trust
/-! ### What an evaluation consists of -/

section Evaluation
variable {R : Type} [Field R] [LinearOrder R]

/-- What `evaluate` has computed when it returns. -/
structure Evaluates [FloorRing R] [HasSqrt R] (service : EvaluationService R)
    (request : EvaluationInputs R) (result : ServiceResult R) : Prop where
  runId : result.runId = request.runId
  experimentId : result.experimentId = request.experimentId
  attempt : result.attempt = request.attempt
  population : result.population = request.population
  fidelity : result.fidelity = request.fidelity
  publicQueryIndex : result.publicQueryIndex = request.publicQueryIndex
  evaluatorSha256 : result.evaluatorSha256 = request.evaluatorSha256
  contractSha256 : result.contractSha256 = request.contractSha256
  seedEvidence : result.seedEvidenceEventIds = request.seedEvaluationEventIds
  route : EvaluationService.validateRoute request = .ok ()
  metricSet : ∃ raw allowExtra, validateMetricSet service.adapter.contract raw allowExtra =
    .ok result.metricSet
  baseline : compareMetricSets result.metricSet request.baseline = .ok result.baselineDelta
  parent : compareMetricSets result.metricSet request.parent = .ok result.parentDelta
  previousBest : compareMetricSets result.metricSet request.previousBest = .ok result.previousBestDelta
  change : analyzePredictionChange request.predictions.scores request.parentScores
    service.trustConfig.noOp.scoreTolerance (some request.predictions.userIds) =
      .ok result.predictionChange
  diagnostics : computeEvaluationDiagnostics service.discount request.predictions.userIds request.labels
    request.predictions.scores (request.parentScores.getD request.predictions.scores) result.parentDelta
    request.diagnosticFeatures request.internalProxyDelta none service.diagnosticThresholds =
      .ok result.diagnostics
  quality : ∃ quality, predictionQualityDiagnostics request.predictions request.parentScores
      request.baselineScores service.trustConfig.noOp.scoreTolerance = .ok quality ∧
    result.diagnosticMetrics = quality ++ summaryMetrics result.diagnostics
  seeds : ∃ prior delta, service.resolveSeedResults request = .ok prior ∧
    assessTrust (EvaluationService.trustEvidence request delta result.predictionChange
      result.diagnostics (prior.map (fun r => r.metricSet.primaryScore) ++
        [result.metricSet.primaryScore])) service.trustConfig = .ok result.trust

lemma evaluate_ok [FloorRing R] [HasSqrt R] {service : EvaluationService R}
    {request : EvaluationInputs R} {result : ServiceResult R}
    (evaluated : service.evaluate request = .ok result) : Evaluates service request result := by
  simp only [EvaluationService.evaluate, ProtectedEvaluatorAdapter.score, bind_eq_ok, pure_eq_ok]
    at evaluated
  obtain ⟨_, _, _, route, _, _, metricSet, ⟨_, _, _, _, _, _, _, _, raw, _, validated⟩, baselineDelta,
    baseline, parentDelta, parent, bestDelta, best, change, analyzed, summary, computed, prior, resolved,
    aggregate, _, delta, _, trust, assessed, quality, diagnosed, last⟩ := evaluated
  cases last
  exact
    { runId := rfl, experimentId := rfl, attempt := rfl, population := rfl, fidelity := rfl
      publicQueryIndex := rfl, evaluatorSha256 := rfl, contractSha256 := rfl, seedEvidence := rfl
      route := route
      metricSet := ⟨raw, _, validated⟩
      baseline := baseline
      parent := parent
      previousBest := best
      change := analyzed
      diagnostics := computed
      quality := ⟨quality, diagnosed, rfl⟩
      seeds := ⟨prior, delta, resolved, assessed⟩ }

/-! ### Metrics -/

lemma validateMetricSet_ok {contract : ContractSpec R} {raw : List (String × R)}
    {allowExtra : List String} {metricSet : MetricSet R}
    (validated : validateMetricSet contract raw allowExtra = .ok metricSet) :
    metricSet.metrics.map Prod.fst = contract.requiredMetrics ∧
      metricSet.primaryMetricName = contract.primaryMetricName ∧
      contract.primaryMetricName ∉ contract.requiredMetrics := by
  simp only [validateMetricSet, bind_eq_ok, ensure_eq_ok, pure_eq_ok] at validated
  obtain ⟨_, present, _, _, _, _, _, _, _, _, _, _, rfl⟩ := validated
  refine ⟨by simp [Function.comp_def], rfl, fun mem => ?_⟩
  have actual := present _ mem
  simp at actual

omit [Field R] [LinearOrder R] in
lemma metricSet_valid {contract : ContractSpec R} {metricSet : MetricSet R}
    (names : metricSet.metrics.map Prod.fst = contract.requiredMetrics)
    (primary : metricSet.primaryMetricName = contract.primaryMetricName)
    (other : contract.primaryMetricName ∉ contract.requiredMetrics) : MetricSetValid metricSet where
  nonempty empty := contract.required.1 (by rw [← names, empty]; rfl)
  names m mem := by
    have listed : m.1 ∈ contract.requiredMetrics := names ▸ List.mem_map_of_mem mem
    obtain ⟨same, visible⟩ := contract.names m.1 (List.mem_cons_of_mem _ listed)
    rw [same]
    exact visible
  primaryName := by
    obtain ⟨same, visible⟩ := contract.names _ List.mem_cons_self
    rw [primary, NonEmpty, same]
    intro empty
    rw [empty] at visible
    exact visible rfl
  primary m mem same := by
    have listed : m.1 ∈ contract.requiredMetrics := names ▸ List.mem_map_of_mem mem
    rw [(contract.names m.1 (List.mem_cons_of_mem _ listed)).1, primary,
      (contract.names _ List.mem_cons_self).1] at same
    exact absurd (same ▸ listed) other

omit [Field R] [LinearOrder R] in
lemma sameNames_of_keys {a b : List (String × R)} (keys : a.map Prod.fst = b.map Prod.fst) :
    SameNames a b :=
  ⟨fun _ mem => keys ▸ List.mem_map_of_mem mem, fun _ mem => keys ▸ List.mem_map_of_mem mem⟩

omit [LinearOrder R] in
lemma deltas_valid {metricSet reference : MetricSet R} {delta : MetricDelta R}
    (valid : MetricSetValid metricSet) (compared : compareMetricSets metricSet reference = .ok delta) :
    DeltasValid metricSet delta.metrics := by
  simp only [compareMetricSets, bind_eq_ok, ensure_eq_ok, pure_eq_ok] at compared
  obtain ⟨_, _, _, _, rfl⟩ := compared
  have blank : ∀ name : String, NotBlank (strip name) → NonEmpty name := by
    intro name visible empty
    rw [empty] at visible
    exact visible rfl
  constructor
  · intro m mem
    obtain ⟨n, found, rfl⟩ := List.mem_map.mp mem
    exact ⟨blank _ (valid.names n found), valid.names n found⟩
  · right
    apply sameNames_of_keys
    simp [storedNames, Function.comp_def]

lemma quality_names [HasSqrt R] {predictions : PredictionBatch R} {parent baseline : Option (List R)}
    {tolerance : R} {quality : List (String × R)}
    (diagnosed : predictionQualityDiagnostics predictions parent baseline tolerance = .ok quality) :
    ∀ m ∈ quality, m.1 ∈ ["score_unique_fraction", "score_std", "user_rankable_fraction",
      "multirow_user_count", "item_personalized_fraction", "multiuser_item_count",
      "mean_abs_parent_residual", "parent_residual_std", "spearman_vs_fm_baseline"] := by
  simp only [predictionQualityDiagnostics, bind_eq_ok, pure_eq_ok] at diagnosed
  obtain ⟨residuals, residual, correlations, correlation, rfl⟩ := diagnosed
  have first : ∀ m ∈ residuals, m.1 = "mean_abs_parent_residual" ∨ m.1 = "parent_residual_std" := by
    cases parent with
    | none =>
      cases residual
      simp
    | some scores =>
      simp only [Option.elim_some, bind_eq_ok, pure_eq_ok] at residual
      obtain ⟨_, _, rfl⟩ := residual
      simp
  have second : ∀ m ∈ correlations, m.1 = "spearman_vs_fm_baseline" := by
    cases baseline with
    | none =>
      cases correlation
      simp
    | some scores =>
      simp only [Option.elim_some, bind_eq_ok, pure_eq_ok] at correlation
      obtain ⟨_, _, rfl⟩ := correlation
      simp
  intro m mem
  simp only [List.mem_append] at mem
  rcases mem with (mem | mem) | mem
  · simp only [List.mem_cons, List.not_mem_nil, or_false] at mem
    rcases mem with rfl | rfl | rfl | rfl | rfl | rfl <;> simp
  · rcases first m mem with same | same <;> simp [same]
  · simp [second m mem]

omit [Field R] [LinearOrder R] in
lemma summary_names {summary : EvaluationDiagnostics R} : ∀ m ∈ summaryMetrics summary,
    m.1 ∈ ["proxy_full_delta_gap", "validation_arm_gap", "temporal_delta_slope",
      "gain_concentration_top10pct"] := by
  intro m mem
  obtain ⟨⟨name, value⟩, listed, kept⟩ := List.mem_filterMap.mp mem
  obtain ⟨_, _, rfl⟩ := Option.map_eq_some_iff.mp kept
  simp only [List.mem_cons, Prod.mk.injEq, List.not_mem_nil, or_false] at listed
  rcases listed with ⟨rfl, _⟩ | ⟨rfl, _⟩ | ⟨rfl, _⟩ | ⟨rfl, _⟩ <;> simp

/-- The names of the diagnostics that `_prediction_quality_diagnostics` and `evaluate` write. -/
def diagnosticNames : List String :=
  ["score_unique_fraction", "score_std", "user_rankable_fraction", "multirow_user_count",
    "item_personalized_fraction", "multiuser_item_count", "mean_abs_parent_residual",
    "parent_residual_std", "spearman_vs_fm_baseline"] ++
  ["proxy_full_delta_gap", "validation_arm_gap", "temporal_delta_slope",
    "gain_concentration_top10pct"]

lemma diagnosticNames_visible : ∀ name ∈ diagnosticNames, NonEmpty name := by
  decide +kernel

/-! ### Seeds -/

lemma resolveSeedResults_ok {service : EvaluationService R} {request : EvaluationInputs R}
    {prior : List (ServiceResult R)} (resolved : service.resolveSeedResults request = .ok prior) :
    request.seedEvaluationEventIds.Nodup ∧ prior.length = request.seedEvaluationEventIds.length := by
  simp only [EvaluationService.resolveSeedResults, bind_eq_ok, ensure_eq_ok] at resolved
  obtain ⟨_, unique, resolved⟩ := resolved
  refine ⟨unique, ?_⟩
  split at resolved
  next empty =>
    cases resolved
    rw [empty]
    rfl
  · simp only [EvaluationService.resolveEvidence, bind_eq_ok, pure_eq_ok] at resolved
    obtain ⟨_, _, resolve, _, results, found, _, _, rfl⟩ := resolved
    exact (mapM_eq_ok.mp (mapError_ok.mp found)).length_eq.symm

/-- The aggregate of seeds has no negative error. -/
lemma aggregateSeeds_nonneg [IsStrictOrderedRing R] [HasSqrt R] [LawfulSqrt R] {scores : List R}
    {etaFloor : R} {aggregate : SeedAggregate R}
    (aggregated : aggregateSeeds scores etaFloor = .ok aggregate) :
    0 ≤ aggregate.standardError ∧ 0 ≤ aggregate.eta ∧ 1 ≤ aggregate.count := by
  unfold aggregateSeeds at aggregated
  split at aggregated
  · cases aggregated
  next nonempty =>
    cases aggregated
    have error : (0 : R) ≤ if scores.length = 1 then 0
        else (if scores.length = 1 then 0 else Statistics.stdev scores) /
          HasSqrt.sqrt (scores.length : R) := by
      split_ifs
      · exact le_rfl
      · exact div_nonneg (LawfulSqrt.sqrt_nonneg _) (LawfulSqrt.sqrt_nonneg _)
    exact ⟨error, le_max_of_le_left (mul_nonneg zero_le_two error),
      List.length_pos_iff.mpr nonempty⟩

/-! ### Representability -/

/-- What the canonical models ask of the texts and the attempt of a request: ids that are not blank,
digests in lower case, and forbidden inputs that differ in more than white space at their ends. -/
structure CanonicalRequest (request : EvaluationInputs R) : Prop where
  runId : NonEmpty request.runId
  experimentId : NonEmpty request.experimentId
  attempt : 1 ≤ request.attempt
  evaluatorSha256 : Memory.matchesSha256 (strip request.evaluatorSha256) = true
  contractSha256 : Memory.matchesSha256 (strip request.contractSha256) = true
  forbiddenInputs : (request.forbiddenInputs.map fun name =>
    strip ("FORBIDDEN_INPUT_DETECTED:" ++ name)).Nodup

/-- The evidence of the service is broken by forbidden inputs alone. -/
lemma trustEvidence_hardFlags {request : EvaluationInputs R} {delta : MetricDelta R}
    {change : PredictionChange R} {summary : EvaluationDiagnostics R} {seedScores : List R} :
    hardFlags (EvaluationService.trustEvidence request delta change summary seedScores) =
      request.forbiddenInputs.map fun name => "FORBIDDEN_INPUT_DETECTED:" ++ name := by
  simp [hardFlags, EvaluationService.trustEvidence]

variable [IsStrictOrderedRing R] [FloorRing R] [HasSqrt R] [LawfulSqrt R]

/-- The trust of an evaluation is valid when its forbidden inputs are told apart. -/
lemma trust_valid {request : EvaluationInputs R} {evidence : TrustEvidence R} {cfg : TrustConfig R}
    {trust : TrustAssessment R} (required : 2 ≤ cfg.requiredSeedCount)
    (inputs : hardFlags evidence =
      request.forbiddenInputs.map fun name => "FORBIDDEN_INPUT_DETECTED:" ++ name)
    (assessed : assessTrust evidence cfg = .ok trust) :
    TrustValid trust ↔ (request.forbiddenInputs.map fun name =>
      strip ("FORBIDDEN_INPUT_DETECTED:" ++ name)).Nodup := by
  obtain ⟨aggregate, aggregated, last⟩ := bind_eq_ok.mp assessed
  cases last
  obtain ⟨stderr, eta, count⟩ := aggregateSeeds_nonneg aggregated
  have consistent : Consistent evidence aggregate (adjudicate evidence cfg aggregate) :=
    adjudicate_consistent required
  have flags : FlagsValid (adjudicate evidence cfg aggregate).flags ↔
      (request.forbiddenInputs.map fun name =>
        strip ("FORBIDDEN_INPUT_DETECTED:" ++ name)).Nodup := by
    -- A forbidden input leaves no other flag; without one the flags are those of the assessment.
    by_cases sound : request.forbiddenInputs = []
    · rw [sound] at inputs ⊢
      exact ⟨fun _ => List.nodup_nil, fun _ => consistent.flags inputs⟩
    · have broken : hardFlags evidence ≠ [] := by simpa [inputs] using sound
      rw [consistent.hard broken, inputs]
      constructor
      · intro valid
        simpa [Function.comp_def] using valid.unique
      · intro unique
        refine ⟨fun flag mem => ?_, by simpa [Function.comp_def] using unique⟩
        obtain ⟨name, _, rfl⟩ := List.mem_map.mp mem
        exact NonEmpty.append (by decide)
  refine ⟨fun valid => flags.mp valid.flags, fun unique => ?_⟩
  -- Everything else that the validators ask is what `Consistent` says of the adjudication.
  have valid := flags.mpr unique
  have form := consistent.form
  have compromised := consistent.compromised
  have noOp := consistent.noOp
  generalize adjudicate evidence cfg aggregate = trust at valid form compromised noOp
  constructor
  · exact valid
  · rw [form]
    rintro _ ⟨⟩
    exact eta
  · rw [form]
    intro error shown
    obtain ⟨_, same⟩ := Option.ite_none_right_eq_some.mp shown
    exact Option.some.inj same ▸ stderr
  · rw [form]
    exact count
  · exact compromised
  · exact noOp
  · rw [form]
    simp only [assessment]
    split <;> rfl
  · rw [form]
    simp only [assessment]
    split
    · exact fun _ => ‹_›
    · intro shown
      cases shown

omit [IsStrictOrderedRing R] [LawfulSqrt R] in
/-- The seeds behind a trust. -/
lemma trust_seeds {evidence : TrustEvidence R} {cfg : TrustConfig R} {trust : TrustAssessment R}
    (required : 2 ≤ cfg.requiredSeedCount) (assessed : assessTrust evidence cfg = .ok trust) :
    trust.seedCount = evidence.seedScores.length ∧
      (trust.stability = .confirmed ∨ trust.stability = .unstable →
        2 ≤ trust.seedCount ∧ trust.seedMean.isSome = true ∧ trust.seedStderr.isSome = true) := by
  obtain ⟨aggregate, aggregated, last⟩ := bind_eq_ok.mp assessed
  cases last
  have consistent : Consistent evidence aggregate (adjudicate evidence cfg aggregate) :=
    adjudicate_consistent required
  have scores := (aggregateSeeds_ok aggregated).1
  have form := consistent.form
  have seeds := consistent.seeds
  generalize adjudicate evidence cfg aggregate = trust at form seeds
  have count : trust.seedCount = aggregate.count := by
    rw [form]
    rfl
  refine ⟨by rw [count, SeedAggregate.count, scores], fun stable => ?_⟩
  have several := seeds stable
  refine ⟨count ▸ several, ?_, ?_⟩
  · rw [form]
    simp [assessment, several]
  · rw [form]
    simp [assessment, several]

omit [IsStrictOrderedRing R] [FloorRing R] [HasSqrt R] [LawfulSqrt R] in
/-- A query index that the service lets pass counts from one. -/
lemma queryIndex_pos {request : EvaluationInputs R}
    (route : EvaluationService.validateRoute request = .ok ()) :
    ∀ index ∈ request.publicQueryIndex, 1 ≤ index := by
  simp only [EvaluationService.validateRoute, bind_eq_ok, ensure_eq_ok] at route
  obtain ⟨_, _, _, _, _, positive, _, noIndex, _⟩ := route
  intro index found
  by_cases query : request.population = .publicValidation
  · obtain ⟨_, shown, low⟩ := positive query
    cases Option.mem_unique found shown
    exact low
  · rw [noIndex query] at found
    cases found

omit [IsStrictOrderedRing R] [LawfulSqrt R] in
/-- The route that the service has checked. -/
lemma route_valid {service : EvaluationService R} {request : EvaluationInputs R}
    {result : ServiceResult R} (required : 2 ≤ service.trustConfig.requiredSeedCount)
    (parts : Evaluates service request result) : RouteValid result := by
  obtain ⟨prior, delta, resolved, assessed⟩ := parts.seeds
  obtain ⟨count, seeds⟩ := trust_seeds required assessed
  have total : result.trust.seedCount = result.seedEvidenceEventIds.length + 1 := by
    rw [count, parts.seedEvidence, ← (resolveSeedResults_ok resolved).2]
    simp [EvaluationService.trustEvidence]
  have route := parts.route
  simp only [EvaluationService.validateRoute, bind_eq_ok, ensure_eq_ok] at route
  obtain ⟨_, _, _, full, _, index, _, noIndex, _, proxy, _, audit, _, final, _⟩ := route
  constructor
  · rw [parts.population, parts.fidelity, parts.publicQueryIndex]
    intro query
    obtain ⟨given, shown, _⟩ := index query
    exact ⟨full query, Option.isSome_of_mem shown⟩
  · rw [parts.population, parts.publicQueryIndex]
    exact noIndex
  · rw [parts.population, parts.fidelity]
    exact proxy
  · rw [parts.population, parts.fidelity]
    exact audit
  · rw [parts.population, parts.fidelity]
    exact final
  · exact fun _ => total
  · exact fun _ => seeds

end Evaluation

/-! ### One row -/

def someSha256 : String := String.ofList (List.replicate 64 'a')

/-- The score of every candidate in a benchmark with one metric. -/
noncomputable def evenMetrics : MetricSet ℝ where
  metrics := [("auc", 1)]
  primaryMetricName := "primary"
  primaryScore := 1

/-- The checked output of one row. -/
def oneRowGate : OutputGateEvidence where
  eventId := "evt_6"
  accepted := true
  predictionArtifactId := "predictions"
  predictionArtifactSha256 := someSha256
  population := .publicValidation
  orderedRowIdentitySha256 := someSha256
  orderedPredictionSha256 := someSha256

lemma even_weights : SameNames [("auc", (1 : ℝ))] (["auc"].map fun name => (name, ())) := by
  simp [SameNames]

/-- A service whose evaluator scores every batch alike. -/
noncomputable def evenService : EvaluationService ℝ where
  adapter :=
    { expectedEvaluatorSha256 := someSha256
      expectedContractSha256 := someSha256
      contract :=
        { requiredMetrics := ["auc"]
          primaryMetricName := "primary"
          primaryWeights := [("auc", 1)]
          aggregationTolerance := 0
          required := by decide
          weights := even_weights
          names := by decide +kernel }
      actualEvaluatorSha256 := someSha256
      orderedRowIdentity := fun _ => someSha256
      orderedPrediction := fun _ => someSha256
      runIsolatedEvaluator := fun _ _ _ => .ok [("auc", 1), ("primary", 1)] }
  trustConfig := default
  outputGateResolver := some fun _ => .ok oneRowGate
  discount := fun _ => 1

/-- A request for one row that its parent scores alike. -/
noncomputable def oneRowRequest (forbiddenInputs : List String) : EvaluationInputs ℝ where
  runId := "run"
  experimentId := "exp_1"
  attempt := 1
  outputGate := oneRowGate
  predictions :=
    { artifactId := "predictions"
      artifactSha256 := someSha256
      userIds := ["user"]
      itemIds := ["item"]
      scores := [1]
      aligned := ⟨rfl, rfl, List.cons_ne_nil _ _⟩ }
  population := .publicValidation
  fidelity := .full
  seed := 0
  publicQueryIndex := some 1
  evaluatorSha256 := someSha256
  contractSha256 := someSha256
  dataManifestSha256 := someSha256
  labels := [1]
  baseline := evenMetrics
  parent := evenMetrics
  previousBest := evenMetrics
  parentScores := some [1]
  forbiddenInputs

lemma someSha256_valid : validateSha256 someSha256 = .ok someSha256 := by
  decide +kernel

lemma even_scored {forbiddenInputs : List String} :
    evenService.adapter.score (oneRowRequest forbiddenInputs).predictions [1] someSha256 someSha256
      .publicValidation = .ok evenMetrics := by
  simp only [ProtectedEvaluatorAdapter.score, ProtectedEvaluatorAdapter.verifyIdentities, bind_eq_ok,
    pure_eq_ok, ensure_eq_ok, validateMetricSet]
  simp [someSha256_valid, evenService, ProtectedEvaluatorAdapter.verifyPopulation, oneRowRequest, evenMetrics]
  refine ⟨?_, rfl⟩
  rintro name _ (⟨rfl, _⟩ | ⟨rfl, _⟩) <;> simp

/-- No metric differs. -/
noncomputable def evenDelta : MetricDelta ℝ := ⟨0, [("auc", 0)]⟩

lemma even_compared : compareMetricSets evenMetrics evenMetrics = .ok evenDelta := by
  simp only [compareMetricSets, bind_eq_ok, ensure_eq_ok, pure_eq_ok]
  simp [evenMetrics, evenDelta, SameNames]

lemma oneRow_change : ∃ change, analyzePredictionChange [1] (some [1])
    evenService.trustConfig.noOp.scoreTolerance (some ["user"]) = .ok change := by
  have correlated : ∃ correlation : ℝ, spearman [1] [1] = .ok correlation := by
    unfold spearman
    rw [if_neg (by simp), if_neg (List.cons_ne_nil _ _), if_pos rfl]
    dsimp only
    split_ifs
    · exact ⟨_, rfl⟩
    · exact ⟨_, rfl⟩
  have unranked : ∃ change : Option ℝ, withinUserRankChange [1] [1] ["user"]
      evenService.trustConfig.noOp.scoreTolerance = .ok change := ⟨_, if_pos ⟨rfl, rfl⟩⟩
  obtain ⟨correlation, correlated⟩ := correlated
  obtain ⟨rankChange, unranked⟩ := unranked
  unfold analyzePredictionChange
  rw [if_neg (List.cons_ne_nil _ _)]
  simp only [compareScores, bind_eq_ok, ensure_eq_ok, pure_eq_ok]
  exact ⟨_, (), List.cons_ne_nil _ _, (), trivial, correlation, correlated, rankChange, unranked, rfl⟩

/-- The metrics of the only user. -/
noncomputable def oneUser : UserMetric ℝ :=
  { userId := "user", impressions := 1, positives := 1, auc := none, ndcg := 1 }

lemma oneRow_metrics : userMetrics evenService.discount ["user"] [1] [1] 5 = .ok [oneUser] := by
  have grouped : (Grouping.group (["user"].zip (([1] : List ℝ).zip [(1 : Int)]))).entries =
      [("user", [(1, 1)])] := rfl
  have area : rankedAuc [((1 : ℝ), (1 : Int))] = .ok none := by
    simp [rankedAuc]
  have gain : ndcgAtK evenService.discount [(1 : Int)] 5 = .ok 1 := by
    simp only [ndcgAtK, normalizeBinaryLabels, bind_eq_ok, ensure_eq_ok, pure_eq_ok]
    refine ⟨(), by decide, [1], ⟨(), by simp, rfl⟩, ?_⟩
    simp [discountedGain, evenService]
    norm_num
  simp only [userMetrics, normalizeBinaryLabels, bind_eq_ok, ensure_eq_ok, pure_eq_ok]
  refine ⟨(), by simp, [1], ⟨(), by simp, rfl⟩, ?_⟩
  rw [grouped, mapM_eq_ok]
  refine .cons ?_ .nil
  simp only [userMetric, bind_eq_ok, pure_eq_ok]
  exact ⟨none, area, 1, gain, rfl⟩

lemma oneRow_diagnosed : ∃ diagnostics, computeEvaluationDiagnostics evenService.discount ["user"] [1] [1]
    [1] evenDelta none none none evenService.diagnosticThresholds = .ok diagnostics := by
  have moved : ∃ contributions, deltaVector evenService.discount ["user"] [1] [1] [1] 5 =
      .ok (["user"], [contributions]) := by
    have found : (([oneUser].reverse.find? fun other => other.userId = oneUser.userId).elim
        (.error (.keyError oneUser.userId)) .ok : Except DeltaError (UserMetric ℝ)) = .ok oneUser := by
      simp
    have delta : ∃ delta, deltaOf [oneUser] 1 (definedWeight [oneUser]) oneUser = .ok ("user", delta) := by
      simp only [deltaOf, bind_eq_ok, found]
      exact ⟨_, _, rfl, rfl⟩
    obtain ⟨delta, computed⟩ := delta
    simp only [deltaVector, bind_eq_ok, mapError_ok, oneRow_metrics, pure_eq_ok]
    exact ⟨delta, _, rfl, _, rfl, _, mapM_eq_ok.mpr (.cons computed .nil), rfl⟩
  have shared : ∀ bucket label, ∃ deltas, userSliceDeltas evenService.discount ["user"] [1] [1] [1] bucket
      label = .ok deltas := by
    intro bucket label
    simp only [userSliceDeltas, bind_eq_ok, oneRow_metrics, pure_eq_ok]
    exact ⟨_, _, rfl, _, rfl, rfl⟩
  have concentrated : ∀ x : ℝ, ∃ share, gainConcentration [x] = .ok share := by
    intro x
    unfold gainConcentration
    rw [if_neg (List.cons_ne_nil _ _)]
    dsimp only
    split_ifs
    · exact ⟨_, rfl⟩
    · exact ⟨_, rfl⟩
  obtain ⟨contribution, moved⟩ := moved
  obtain ⟨share, concentrated⟩ := concentrated contribution
  obtain ⟨impressions, byImpressions⟩ := shared impressionBucket "user_impressions"
  obtain ⟨positives, byPositives⟩ := shared positiveBucket "user_positives"
  simp only [computeEvaluationDiagnostics, bind_eq_ok, ensure_eq_ok, pure_eq_ok, mapError_ok]
  refine ⟨_, (), ?_, (), ?_, (), by simp, (), by simp, _, moved, share, concentrated, impressions, byImpressions,
    positives, byPositives, _, rfl, rfl⟩
  · norm_num [EvaluationService.diagnosticThresholds, evenService, default]
  · norm_num [EvaluationService.diagnosticThresholds, evenService, default]

lemma oneRow_aggregated : aggregateMetricSets [evenMetrics] = .ok evenMetrics := by
  simp only [aggregateMetricSets, bind_eq_ok, ensure_eq_ok, pure_eq_ok]
  simp [evenMetrics]

lemma oneRow_assessed {evidence : TrustEvidence ℝ} {x : ℝ} (scores : evidence.seedScores = [x]) :
    ∃ trust, assessTrust evidence evenService.trustConfig = .ok trust := by
  simp [assessTrust, aggregateSeeds, scores]

lemma oneRow_quality (forbiddenInputs : List String) : ∃ quality, predictionQualityDiagnostics
    (oneRowRequest forbiddenInputs).predictions (some [1]) none
      evenService.trustConfig.noOp.scoreTolerance = .ok quality := by
  simp only [predictionQualityDiagnostics, Option.elim_some, Option.elim_none, bind_eq_ok, ensure_eq_ok,
    pure_eq_ok]
  simp [oneRowRequest]

lemma oneRow_evaluated (forbiddenInputs : List String) : ∃ result,
    evenService.evaluate (oneRowRequest forbiddenInputs) = .ok result := by
  obtain ⟨change, analyzed⟩ := oneRow_change
  obtain ⟨diagnostics, diagnosed⟩ := oneRow_diagnosed
  obtain ⟨quality, described⟩ := oneRow_quality forbiddenInputs
  have scores : (EvaluationService.trustEvidence (oneRowRequest forbiddenInputs) evenDelta change
    diagnostics [1]).seedScores = [1] := rfl
  obtain ⟨trust, assessed⟩ := oneRow_assessed scores
  simp only [EvaluationService.evaluate, bind_eq_ok, pure_eq_ok]
  refine ⟨_, (), rfl, (), rfl, (), ?_, evenMetrics, even_scored, _, even_compared, _, even_compared, _,
    even_compared, change, analyzed, diagnostics, diagnosed, [], rfl, evenMetrics, oneRow_aggregated,
    evenDelta, even_compared, trust, assessed, quality, described, rfl⟩
  simp [ProtectedEvaluatorAdapter.verifyDataManifest, bind_eq_ok, oneRowRequest, someSha256_valid,
    evenService]

end TacoRank.Evaluation
