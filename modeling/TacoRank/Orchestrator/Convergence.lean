import TacoRank.Config
import TacoRank.Memory.Projections

/-!
# Stop rules

The part of `orchestrator/convergence.py` that an experiment consults while it runs.
-/

namespace TacoRank

/-- `StopDecision`; `none` stands for a decision that does not stop. -/
structure StopDecision where
  reasonCode : String
  reason : String
deriving DecidableEq, Repr

/-- `runtime_budget_decision`. -/
def runtimeBudgetDecision (state : RunState) (config : RunConfig) : Option StopDecision :=
  if (config.wallTimeLimitSeconds : Int) * 1000000 ≤ state.elapsedWallTime then
    some ⟨"wall_time_budget", "The frozen wall-clock budget is exhausted."⟩
  else if config.tokenLimit.any (· ≤ state.resourceTotals.totalReportedTokens) then
    some ⟨"token_budget", "The frozen LLM token budget is exhausted."⟩
  else if config.gpuSecondsLimit.any (· * 1000 ≤ state.resourceTotals.gpuWeightedTimeMs) then
    some ⟨"gpu_budget", "The frozen GPU budget is exhausted."⟩
  else
    none

/-- `stop_decision(..., fatal_integrity=True)`. -/
def fatalIntegrityDecision : StopDecision :=
  ⟨"fatal_integrity", "A fatal integrity condition was recorded."⟩

end TacoRank
