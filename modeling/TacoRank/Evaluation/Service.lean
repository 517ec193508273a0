import TacoRank.Evaluation.Diagnostics
import TacoRank.Evaluation.PredictionChange

/-!
# The evaluation service

Port of `evaluation/adapter.py`, with `validate_metric_set` of `evaluation/metrics.py` and
`compare_metric_sets`: `EvaluationService.evaluate` binds predictions to a checked output, scores them
with the protected evaluator, compares the metrics, diagnoses the movement and assesses the trust. What
lies outside the service is a field of it: the digests and the isolated evaluator.
-/

namespace TacoRank.Evaluation
open Lib Lib.Result

/-! ### Metric sets -/

/-- `set(a) == set(b)` on the keys of two mappings. -/
def SameNames {α β : Type} (a : List (String × α)) (b : List (String × β)) : Prop :=
  (∀ m ∈ a, m.1 ∈ b.map Prod.fst) ∧ ∀ m ∈ b, m.1 ∈ a.map Prod.fst

instance {α β : Type} (a : List (String × α)) (b : List (String × β)) : Decidable (SameNames a b) :=
  inferInstanceAs (Decidable (_ ∧ _))

/-- `ContractSpec`, whose names the benchmark writes as the schema stores them. -/
structure ContractSpec (R : Type) where
  requiredMetrics : List String
  primaryMetricName : String
  primaryWeights : List (String × R)
  metricRanges : List (String × R × R) := []
  diagnosticMetrics : List String := []
  aggregationTolerance : R
  required : requiredMetrics ≠ [] ∧ requiredMetrics.Nodup
  weights : SameNames primaryWeights (requiredMetrics.map fun name => (name, ()))
  names : ∀ name ∈ primaryMetricName :: requiredMetrics, strip name = name ∧
    stripChars isPythonSpace name.toList ≠ []

section Metrics
variable {R : Type} [Field R] [LinearOrder R]

/-- `compare_metric_sets`. -/
def compareMetricSets (candidate reference : MetricSet R) : Except EvaluationError (MetricDelta R) := do
  ensure (candidate.primaryMetricName = reference.primaryMetricName)
    (.valueError "primary metric names do not match")
  ensure (SameNames candidate.metrics reference.metrics)
    (.valueError "metric sets do not contain the same names")
  return {
    primary := candidate.primaryScore - reference.primaryScore
    metrics := candidate.metrics.map fun (name, value) =>
      (name, value - (reference.metrics.lookup name).getD 0) }

/-- `validate_metric_set`. -/
def validateMetricSet (contract : ContractSpec R) (raw : List (String × R)) (allowExtra : List String) :
    Except EvaluationError (MetricSet R) := do
  let actual := (raw.map Prod.fst).filter fun name =>
    name ≠ contract.primaryMetricName ∧ name ∉ allowExtra
  ensure (∀ name ∈ contract.requiredMetrics, name ∈ actual) (.valueError "missing required metrics")
  ensure (∀ name ∈ actual, name ∈ contract.requiredMetrics) (.valueError "undeclared metrics")
  let primary ← (raw.lookup contract.primaryMetricName).elim
    (.error (.valueError "missing primary metric")) .ok
  let metrics := contract.requiredMetrics.map fun name => (name, (raw.lookup name).getD 0)
  ensure (∀ m ∈ metrics, ∀ range ∈ contract.metricRanges.lookup m.1, range.1 ≤ m.2 ∧ m.2 ≤ range.2)
    (.valueError "metric outside its range")
  let weight := fun name => (contract.primaryWeights.lookup name).getD 0
  let totalWeight := (contract.primaryWeights.map Prod.snd).sum
  ensure (0 < totalWeight) (.valueError "primary weights must have positive total weight")
  let reproduced := (metrics.map fun m => m.2 * weight m.1).sum / totalWeight
  ensure (|primary - reproduced| ≤ contract.aggregationTolerance)
    (.valueError "primary aggregation mismatch")
  return { metrics, primaryMetricName := contract.primaryMetricName, primaryScore := primary }

/-- `_aggregate_metric_sets`. -/
def aggregateMetricSets : List (MetricSet R) → Except EvaluationError (MetricSet R)
  | [] => .error (.valueError "at least one metric set is required")
  | first :: others => do
    ensure (∀ other ∈ others, other.primaryMetricName = first.primaryMetricName ∧
        SameNames other.metrics first.metrics)
      (.integrityError "seed metric schemas do not match")
    let all := first :: others
    let average := fun values : List R => values.sum / all.length
    return {
      metrics := first.metrics.map fun (name, _) =>
        (name, average (all.map fun set => (set.metrics.lookup name).getD 0))
      primaryMetricName := first.primaryMetricName
      primaryScore := average (all.map MetricSet.primaryScore) }

/-- `_verify_reference_metric_set`. -/
def verifyReference (metricSet : MetricSet R) (delta : MetricDelta R) (expected : MetricSet R)
    (name : String) : Except EvaluationError Unit := do
  let tolerance : R := 1 / (10 ^ 12 : Nat)
  ensure (SameNames metricSet.metrics delta.metrics ∧ SameNames delta.metrics expected.metrics)
    (.integrityError ("seed evidence uses a different " ++ name ++ " metric schema"))
  ensure (|metricSet.primaryScore - delta.primary - expected.primaryScore| ≤ tolerance)
    (.integrityError ("seed evidence uses a different " ++ name ++ " reference"))
  ensure (∀ m ∈ expected.metrics,
      |(metricSet.metrics.lookup m.1).getD 0 - (delta.metrics.lookup m.1).getD 0 - m.2| ≤ tolerance)
    (.integrityError ("seed evidence uses a different " ++ name ++ " reference"))

end Metrics

/-! ### Requests and results -/

/-- `PredictionBatch`; the row ids of its rows are their positions. -/
structure PredictionBatch (R : Type) where
  artifactId : String
  artifactSha256 : String
  userIds : List String
  itemIds : List String
  scores : List R
  aligned : userIds.length = scores.length ∧ itemIds.length = scores.length ∧ scores ≠ []

/-- `OutputGateEvidence`. -/
structure OutputGateEvidence where
  eventId : String
  accepted : Bool
  predictionArtifactId : String
  predictionArtifactSha256 : String
  population : Population
  orderedRowIdentitySha256 : String
  orderedPredictionSha256 : String
deriving DecidableEq

/-- `EvaluationInputs`. -/
structure EvaluationInputs (R : Type) [Zero R] [LE R] where
  runId : String
  experimentId : String
  attempt : Nat
  outputGate : OutputGateEvidence
  predictions : PredictionBatch R
  population : Population
  fidelity : Fidelity
  seed : Int
  publicQueryIndex : Option Nat
  evaluatorSha256 : String
  contractSha256 : String
  dataManifestSha256 : String
  labels : List Int
  baseline : MetricSet R
  parent : MetricSet R
  previousBest : MetricSet R
  parentScores : Option (List R) := none
  diagnosticFeatures : Option (DiagnosticFeatures R) := none
  baselineScores : Option (List R) := none
  seedEvaluationEventIds : List EventId := []
  internalProxyDelta : Option R := none
  unbiasedAuditDelta : Option R := none
  valBDelta : Option R := none
  forbiddenInputs : List String := []
  alignmentSuspect : Bool := false
  deltaCorrelation : Option R := none
  deltaCorrelationExperimentId : Option String := none
  gainConcentrationTop10pct : Option R := none
  driftPrimarySlope : Option R := none
  runStoppedEventId : Option String := none

/-- `EvaluationResult` of the service, with the fields that only its JSON shows. -/
structure ServiceResult (R : Type) extends EvaluationResult R where
  runId : String
  dataManifestSha256 : String
  baselineDelta : MetricDelta R
  diagnosticMetrics : List (String × R)
  diagnostics : EvaluationDiagnostics R

/-- `PopulationManifest`. -/
structure PopulationManifest where
  rows : Nat
  orderedRowIdentitySha256 : String

/-- `ProtectedEvaluatorAdapter`, with the digests that it computes and the evaluator that it runs. -/
structure ProtectedEvaluatorAdapter (R : Type) where
  expectedEvaluatorSha256 : String
  expectedContractSha256 : String
  contract : ContractSpec R
  populationManifests : Population → Option PopulationManifest := fun _ => none
  expectedDataManifestSha256 : Option String := none
  /-- `sha256_file` of the evaluator, and of the contract when it has a path. -/
  actualEvaluatorSha256 : String
  actualContractSha256 : Option String := none
  /-- `ordered_row_identity_sha256` of the rows of a batch. -/
  orderedRowIdentity : PredictionBatch R → String
  /-- `ordered_prediction_sha256` of the rows and scores of a batch. -/
  orderedPrediction : PredictionBatch R → String
  /-- `_run_isolated_evaluator`. -/
  runIsolatedEvaluator : List String → List Int → List R → Except EvaluationError (List (String × R))

/-- `EvaluationService`, with the discounts of the ranks in its diagnostics. -/
structure EvaluationService (R : Type) [Field R] where
  adapter : ProtectedEvaluatorAdapter R
  trustConfig : TrustConfig R := {}
  outputGateResolver : Option (String → Except EvaluationError OutputGateEvidence)
  seedResultResolver : Option (EventId → Except EvaluationError (ServiceResult R)) := none
  discount : Nat → R

/-! ### The protected evaluator -/

/-- `_validate_sha256`. -/
def validateSha256 (value : String) : Except EvaluationError String :=
  let normalized := String.ofList (value.toList.map Char.toLower)
  if Memory.matchesSha256 normalized then .ok normalized
  else .error (.valueError "expected a lowercase SHA-256 digest")

section Service
variable {R : Type} [Field R] [LinearOrder R]

namespace ProtectedEvaluatorAdapter
variable (adapter : ProtectedEvaluatorAdapter R)

/-- `verify_identities`. -/
def verifyIdentities (evaluatorSha256 contractSha256 : String) : Except EvaluationError Unit := do
  let requestedEvaluator ← validateSha256 evaluatorSha256
  let requestedContract ← validateSha256 contractSha256
  ensure (requestedEvaluator = adapter.expectedEvaluatorSha256)
    (.integrityError "request evaluator hash does not match frozen hash")
  ensure (adapter.actualEvaluatorSha256 = adapter.expectedEvaluatorSha256)
    (.integrityError "protected evaluator hash mismatch")
  ensure (requestedContract = adapter.expectedContractSha256)
    (.integrityError "request contract hash does not match frozen hash")
  ensure (∀ actual ∈ adapter.actualContractSha256, actual = adapter.expectedContractSha256)
    (.integrityError "protected contract hash mismatch")

/-- `verify_data_manifest`. -/
def verifyDataManifest (dataManifestSha256 : String) : Except EvaluationError Unit := do
  let requested ← validateSha256 dataManifestSha256
  ensure (∀ expected ∈ adapter.expectedDataManifestSha256, requested = expected)
    (.integrityError "data manifest hash mismatch")

/-- `_verify_population`. -/
def verifyPopulation (population : Population) (predictions : PredictionBatch R) :
    Except EvaluationError Unit :=
  match adapter.populationManifests population with
  | none => ensure (adapter.expectedDataManifestSha256 = none)
      (.integrityError "protected population manifest is missing")
  | some manifest => do
    ensure (predictions.scores.length = manifest.rows) (.integrityError "population row mismatch")
    ensure (adapter.orderedRowIdentity predictions = manifest.orderedRowIdentitySha256)
      (.integrityError "population row alignment mismatch")

/-- `score`. -/
def score (predictions : PredictionBatch R) (labels : List Int) (evaluatorSha256 : String)
    (contractSha256 : String) (population : Population) : Except EvaluationError (MetricSet R) := do
  adapter.verifyIdentities evaluatorSha256 contractSha256
  ensure (labels.length = predictions.scores.length)
    (.valueError "protected labels and prediction rows must align")
  ensure (∀ label ∈ labels, label = 0 ∨ label = 1)
    (.valueError "official evaluator labels must be exact numeric binary values")
  adapter.verifyPopulation population predictions
  let raw ← adapter.runIsolatedEvaluator predictions.userIds labels predictions.scores
  validateMetricSet adapter.contract raw (["users", "rows"] ++ adapter.contract.diagnosticMetrics)

end ProtectedEvaluatorAdapter

/-! ### The diagnostics of predictions -/

/-- `_population_std`. -/
def populationStd [HasSqrt R] (values : List R) : R :=
  HasSqrt.sqrt (Statistics.squares values / values.length)

/-- `_group_variation_fraction`. -/
def groupVariationFraction (keys : List String) (scores : List R) (tolerance : R)
    (distinctMembers : Option (List String)) : R × Nat :=
  let members := (distinctMembers.map fun names => names.map some).getD (scores.map fun _ => none)
  let rows := keys.zip (scores.zip members)
  let groups := keys.dedup.map fun key => (rows.filter fun row => row.1 = key).map Prod.snd
  let eligible := groups.filter fun group => 2 ≤ group.length ∧
    (distinctMembers.isSome = true → 2 ≤ (group.map Prod.snd).dedup.length)
  let varied := eligible.countP fun group =>
    tolerance < ((group.map Prod.fst).max?.getD 0) - ((group.map Prod.fst).min?.getD 0)
  if eligible = [] then (0, 0) else ((varied : R) / eligible.length, eligible.length)

/-- `_prediction_quality_diagnostics`. -/
def predictionQualityDiagnostics [HasSqrt R] (predictions : PredictionBatch R)
    (parentScores baselineScores : Option (List R)) (tolerance : R) :
    Except EvaluationError (List (String × R)) := do
  let scores := predictions.scores
  let users := groupVariationFraction predictions.userIds scores tolerance none
  let items := groupVariationFraction predictions.itemIds scores tolerance (some predictions.userIds)
  let parent ← parentScores.elim (pure []) fun parent => do
    ensure (parent.length = scores.length)
      (.valueError "candidate and parent diagnostics must align")
    let residuals := (scores.zip parent).map fun p => p.1 - p.2
    return [("mean_abs_parent_residual", (residuals.map abs).sum / residuals.length),
      ("parent_residual_std", populationStd residuals)]
  let baseline ← baselineScores.elim (pure []) fun baseline => do
    let change ← analyzePredictionChange scores (some baseline) tolerance none
    return [("spearman_vs_fm_baseline", change.spearmanVsParent.getD 0)]
  return [
    ("score_unique_fraction", (scores.dedup.length : R) / scores.length),
    ("score_std", populationStd scores),
    ("user_rankable_fraction", users.1),
    ("multirow_user_count", (users.2 : R)),
    ("item_personalized_fraction", items.1),
    ("multiuser_item_count", (items.2 : R))] ++ parent ++ baseline

/-- The members that `evaluate` adds to the diagnostic metrics. -/
def summaryMetrics (summary : EvaluationDiagnostics R) : List (String × R) :=
  [("proxy_full_delta_gap", summary.proxyFullDeltaGap),
    ("validation_arm_gap", summary.validationArmGap),
    ("temporal_delta_slope", summary.temporalDeltaSlope),
    ("gain_concentration_top10pct", summary.gainConcentrationTop10pct)].filterMap
    fun (name, value) => value.map (name, ·)

/-! ### The service -/

namespace EvaluationService
variable (service : EvaluationService R)

/-- `_validate_route`. -/
def validateRoute (request : EvaluationInputs R) : Except EvaluationError Unit := do
  ensure (request.fidelity ≠ .smoke) (.valueError "smoke outputs do not use official evaluation")
  ensure (request.population = .publicValidation → request.fidelity = .full)
    (.valueError "public validation requires full fidelity")
  ensure (request.population = .publicValidation → ∃ index ∈ request.publicQueryIndex, 1 ≤ index)
    (.valueError "public validation requires a positive query index")
  ensure (request.population ≠ .publicValidation → request.publicQueryIndex = none)
    (.valueError "only public validation may carry a query index")
  ensure (request.population = .internalProxy → request.fidelity = .proxy)
    (.valueError "internal proxy population requires proxy fidelity")
  ensure (request.population = .unbiasedAudit → request.fidelity = .full)
    (.valueError "unbiased audit population requires full fidelity")
  ensure (request.population = .hiddenFinal → request.fidelity = .final)
    (.valueError "hidden final population requires final fidelity")
  ensure (request.population = .hiddenFinal → request.runStoppedEventId.getD "" ≠ "")
    (.integrityError "hidden final requires verified run.stopped evidence")

/-- One round of the loop in `_resolve_seed_results`, on the seeds and the last attempt before it. -/
def checkSeedResult (request : EvaluationInputs R) (before : List Int × Nat)
    (evidence : EventId × ServiceResult R) : Except EvaluationError (List Int × Nat) := do
  let (seeds, previousAttempt) := before
  let (eventId, result) := evidence
  let name := "seed evidence " ++ Memory.eventIdOf eventId
  ensure (result.runId = request.runId ∧ result.experimentId = request.experimentId ∧
      result.population = request.population ∧ result.fidelity = request.fidelity ∧
      result.evaluatorSha256 = request.evaluatorSha256 ∧
      result.contractSha256 = request.contractSha256 ∧
      result.dataManifestSha256 = request.dataManifestSha256)
    (.integrityError (name ++ " has incompatible identity"))
  ensure (result.attempt < request.attempt)
    (.integrityError (name ++ " is not from an earlier attempt"))
  ensure (previousAttempt < result.attempt)
    (.integrityError "seed evidence must be ordered by increasing attempt")
  ensure (result.trust.integrity = .clean)
    (.integrityError (name ++ " does not have clean integrity"))
  ensure (result.seed ∉ seeds) (.integrityError "seed evidence contains a duplicate seed")
  verifyReference result.metricSet result.parentDelta request.parent "parent"
  verifyReference result.metricSet result.baselineDelta request.baseline "baseline"
  verifyReference result.metricSet result.previousBestDelta request.previousBest "previous best"
  return (result.seed :: seeds, result.attempt)

/-- The part of `_resolve_seed_results` on seed evidence. -/
def resolveEvidence (request : EvaluationInputs R) : Except EvaluationError (List (ServiceResult R)) := do
  let eventIds := request.seedEvaluationEventIds
  ensure (request.population = .publicValidation ∧ request.fidelity = .full)
    (.integrityError "seed confirmation is limited to full public validation")
  let resolve ← service.seedResultResolver.elim
    (.error (.integrityError "seed evidence resolver is required")) .ok
  let results ← (eventIds.mapM resolve).mapError fun _ =>
    .integrityError "seed evidence could not be resolved"
  let _ ← (eventIds.zip results).foldlM (checkSeedResult request) ([request.seed], 0)
  return results

/-- `_resolve_seed_results`. -/
def resolveSeedResults (request : EvaluationInputs R) : Except EvaluationError (List (ServiceResult R)) := do
  ensure request.seedEvaluationEventIds.Nodup
    (.integrityError "seed evidence event IDs must be unique")
  if request.seedEvaluationEventIds = [] then .ok [] else service.resolveEvidence request

/-- The checks of `evaluate` on the output of the gate. -/
def verifyGate (request : EvaluationInputs R) : Except EvaluationError Unit :=
  match service.outputGateResolver with
  | none => .error (.integrityError "verified Gate-B resolver is required")
  | some resolve => do
    let gate ← (resolve request.outputGate.eventId).mapError fun _ =>
      .integrityError "Gate-B evidence could not be resolved"
    let predictions := request.predictions
    ensure (gate = request.outputGate)
      (.integrityError "Gate-B evidence does not match verified event")
    ensure (gate.accepted = true) (.integrityError "verified Gate-B evidence is required")
    ensure (gate.population = request.population)
      (.integrityError "Gate-B population does not match request")
    ensure (gate.predictionArtifactId = predictions.artifactId ∧
        gate.predictionArtifactSha256 = predictions.artifactSha256)
      (.integrityError "Gate-B evidence does not match prediction artifact")
    ensure (service.adapter.orderedRowIdentity predictions = gate.orderedRowIdentitySha256)
      (.integrityError "Gate-B evidence does not match prediction row identity")
    ensure (service.adapter.orderedPrediction predictions = gate.orderedPredictionSha256)
      (.integrityError "Gate-B evidence does not match checked prediction values")

/-- The evidence that `evaluate` hands to `assess_trust`. -/
def trustEvidence (request : EvaluationInputs R) (delta : MetricDelta R) (change : PredictionChange R)
    (summary : EvaluationDiagnostics R) (seedScores : List R) : TrustEvidence R :=
  { population := request.population
    fidelity := request.fidelity
    parentPrimary := request.parent.primaryScore
    parentDelta := delta.primary
    metricDeltas := delta.metrics
    predictionChange := change
    seedScores
    forbiddenInputs := request.forbiddenInputs
    alignmentSuspect := request.alignmentSuspect
    internalProxyDelta := request.internalProxyDelta
    unbiasedAuditDelta := request.unbiasedAuditDelta
    valADelta := summary.validationArmDeltas.lookup "val_a"
    valBDelta := request.valBDelta.or (summary.validationArmDeltas.lookup "val_b")
    deltaCorrelation := request.deltaCorrelation
    deltaCorrelationExperimentId := request.deltaCorrelationExperimentId
    scoreUniqueFraction := some change.uniqueScoreFraction
    gainConcentrationTop10pct := request.gainConcentrationTop10pct.or summary.gainConcentrationTop10pct
    driftPrimarySlope := request.driftPrimarySlope.or summary.temporalDeltaSlope }

/-- The thresholds that `evaluate` hands to `compute_evaluation_diagnostics`. -/
def diagnosticThresholds : DiagnosticThresholds R :=
  { validationGap := ((6 : Nat) : R) / (1000 : Nat)
    temporalSlope := service.trustConfig.driftSlopeThreshold
    concentration := service.trustConfig.gainConcentrationThreshold }

variable [FloorRing R] [HasSqrt R]

/-- `evaluate`. -/
def evaluate (request : EvaluationInputs R) : Except EvaluationError (ServiceResult R) := do
  let predictions := request.predictions
  let tolerance := service.trustConfig.noOp.scoreTolerance
  service.verifyGate request
  validateRoute request
  service.adapter.verifyDataManifest request.dataManifestSha256
  let metricSet ← service.adapter.score predictions request.labels request.evaluatorSha256
    request.contractSha256 request.population
  let baselineDelta ← compareMetricSets metricSet request.baseline
  let parentDelta ← compareMetricSets metricSet request.parent
  let previousBestDelta ← compareMetricSets metricSet request.previousBest
  let change ← analyzePredictionChange predictions.scores request.parentScores tolerance
    (some predictions.userIds)
  let summary ← computeEvaluationDiagnostics service.discount predictions.userIds request.labels
    predictions.scores (request.parentScores.getD predictions.scores) parentDelta
    request.diagnosticFeatures request.internalProxyDelta none service.diagnosticThresholds
  let prior ← service.resolveSeedResults request
  let aggregate ← aggregateMetricSets (prior.map (fun result => result.metricSet) ++ [metricSet])
  let aggregateDelta ← compareMetricSets aggregate request.parent
  let seedScores := prior.map (fun result => result.metricSet.primaryScore) ++ [metricSet.primaryScore]
  let trust ← assessTrust (trustEvidence request aggregateDelta change summary seedScores)
    service.trustConfig
  let quality ← predictionQualityDiagnostics predictions request.parentScores request.baselineScores
    tolerance
  return {
    runId := request.runId
    experimentId := request.experimentId
    attempt := request.attempt
    population := request.population
    fidelity := request.fidelity
    seed := request.seed
    publicQueryIndex := request.publicQueryIndex
    evaluatorSha256 := request.evaluatorSha256
    contractSha256 := request.contractSha256
    dataManifestSha256 := request.dataManifestSha256
    metricSet
    baselineDelta
    parentDelta
    previousBestDelta
    predictionChange := change
    trust
    diagnosticMetrics := quality ++ summaryMetrics summary
    diagnostics := summary
    seedEvidenceEventIds := request.seedEvaluationEventIds }

end EvaluationService
end Service
end TacoRank.Evaluation
