import TacoRank.Schemas

/-!
# Resource accounting

Port of `accounting.py`: the deterministic aggregation of action-local resource measurements.
Durations are integers of milliseconds and peaks of absent measurements count as zero.
-/

namespace TacoRank

/-- `ResourceTotals`. -/
structure ResourceTotals where
  providerInputTokens : Nat := 0
  providerOutputTokens : Nat := 0
  estimatedInputTokens : Nat := 0
  estimatedOutputTokens : Nat := 0
  unmeasuredInputTokens : Nat := 0
  unmeasuredOutputTokens : Nat := 0
  actionWallTimeMs : Nat := 0
  cpuTimeMs : Nat := 0
  gpuWeightedTimeMs : Nat := 0
  manualInterventions : Nat := 0
  peakRssMb : Nat := 0
  peakGpuMemoryMb : Nat := 0
deriving DecidableEq, Repr

/-- All reported tokens, whoever measured them (`total_reported_tokens`). -/
def ResourceTotals.totalReportedTokens (t : ResourceTotals) : Nat :=
  (t.providerInputTokens + t.providerOutputTokens) +
    (t.estimatedInputTokens + t.estimatedOutputTokens) +
    (t.unmeasuredInputTokens + t.unmeasuredOutputTokens)

/-- `sum(f(item) for item in values)`. -/
def total (f : ResourceDelta → Nat) (values : List ResourceDelta) : Nat :=
  values.foldl (fun sum item => sum + f item) 0

/-- `max((f(item) for item in values), default=0)`. -/
def peak (f : ResourceDelta → Nat) (values : List ResourceDelta) : Nat :=
  values.foldl (fun peak item => Nat.max peak (f item)) 0

/-- `aggregate_resources`. -/
def aggregateResources (values : List ResourceDelta) : ResourceTotals :=
  let byMeasurement (m : TokenMeasurement) := values.filter (·.tokenMeasurement = m)
  { providerInputTokens := total (·.llmInputTokens) (byMeasurement .provider)
    providerOutputTokens := total (·.llmOutputTokens) (byMeasurement .provider)
    estimatedInputTokens := total (·.llmInputTokens) (byMeasurement .estimated)
    estimatedOutputTokens := total (·.llmOutputTokens) (byMeasurement .estimated)
    unmeasuredInputTokens := total (·.llmInputTokens) (byMeasurement .none)
    unmeasuredOutputTokens := total (·.llmOutputTokens) (byMeasurement .none)
    actionWallTimeMs := total (·.wallTimeMs) values
    cpuTimeMs := total (·.cpuTimeMs) values
    gpuWeightedTimeMs := total (fun item => item.gpuTimeMs * item.gpuCount) values
    manualInterventions := total (·.manualInterventions) values
    peakRssMb := peak (·.peakRssMb.getD 0) values
    peakGpuMemoryMb := peak (·.peakGpuMemoryMb.getD 0) values }

end TacoRank
