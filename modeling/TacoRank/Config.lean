import TacoRank.Schemas

/-!
# Run configuration

The fields of `RunConfig` (`config.py`) that the harness reads while it runs experiments. The
validators of the model are fields, so an ill-formed configuration cannot be built.
-/

namespace TacoRank

/-- A value of `allowed_runtime_adjustments`. -/
inductive ApprovedAdjustment where
  | mapping (nextValue value : Option RuntimeValue)
  | sequence (values : List RuntimeValue)
  | scalar (value : RuntimeValue)
deriving DecidableEq, Repr

/-- The approved value of a setting, as `_validate_runtime_adjustments` resolves it. -/
def ApprovedAdjustment.approved : ApprovedAdjustment → Option RuntimeValue
  | .mapping nextValue value => nextValue.or value
  | .sequence values => values.head?
  | .scalar value => some value

/-- `RunConfig`. -/
structure RunConfig where
  runId : String
  commandIds : List String
  metricNames : List String
  primaryMetricName : String
  dataManifestSha256 : String
  evaluatorSha256 : String
  maxExperiments : Nat := 50
  wallTimeLimitSeconds : Nat := 21600
  tokenLimit : Option Nat := none
  gpuSecondsLimit : Option Nat := none
  convergenceEpsilon : ℚ := 2 / 1000
  convergencePatience : Nat := 3
  maxRepairsPerExperiment : Nat := 2
  allowedRuntimeAdjustments : List (String × ApprovedAdjustment) := []
  timeoutProfiles : List (String × Nat) := [("standard", 600), ("extended", 900)]
  maxConfirmationAttempts : Nat := 2
  seedSchedule : List Int
  repairLimit : maxRepairsPerExperiment ≤ 2
  validateCommands : commandIds ≠ [] ∧ commandIds.Nodup
  validateSeeds : seedSchedule.Nodup ∧ maxConfirmationAttempts + 1 ≤ seedSchedule.length

/-- `MAX_REPAIR_ATTEMPTS` of the recovery manager. -/
def maxRepairAttempts : Nat := 2

/-- `RunConfig.validate_metric_set`. -/
def RunConfig.metricSetValid (config : RunConfig) (metricSet : MetricSet) : Bool :=
  (metricSet.metrics.map Prod.fst).all (config.metricNames.contains ·) &&
  config.metricNames.all ((metricSet.metrics.map Prod.fst).contains ·) &&
  metricSet.primaryMetricName == config.primaryMetricName

end TacoRank
