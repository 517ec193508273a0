import TacoRank.Lib.Dict
import TacoRank.Schemas

/-!
# Planner context

The part of the planner's context that the search policy and its ranker read, and the view of the eligible
frontier in `research/graph_view.py`.
-/

namespace TacoRank.Research
open Lib

/-- `CostTier`. -/
inductive CostTier where
  | low | medium | high
deriving DecidableEq, Repr

/-- The text of a cost tier. -/
def CostTier.value : CostTier → String
  | .low => "low"
  | .medium => "medium"
  | .high => "high"

/-- `str` of an optional text. -/
def str (text : Option String) : String := text.getD "None"

/-- `str.lower`, as far as a comparison with a lower-case word of ASCII letters without a "k" sees it. -/
def lower (text : String) : String := String.ofList (text.toList.map Char.toLower)

/-- `PlannerExperimentSummary`. -/
structure PlannerExperimentSummary (R : Type) where
  experimentId : String
  parentExperimentId : Option String
  family : Option String
  trustVerdict : Option TrustVerdict
  stability : Option Stability
  integrity : Option Integrity
  decision : Option ExperimentDecisionKind
  highestCompletedFidelity : Option Fidelity
  outputAccepted : Option Bool
  primaryScore : Option R
  metricSet : Option (MetricSet R)
  parentDelta : Option R
  childCount : Nat
  actualCost : Option CostTier
  parentEligible : Bool
  status : String
  methodCardIds : List String
  predictionChange : Option R := none
  duplicateKey : String := ""

/-- `PlannerMethodCardSummary`. -/
structure PlannerMethodCardSummary where
  methodId : String
  family : String
  status : String
  costTier : CostTier
  prerequisites : List String
  allowedData : List String
  prohibitionConditions : List String
deriving DecidableEq

/-- `PlannerContractSummary`. -/
structure PlannerContractSummary (R : Type) where
  allowedFamilies : List String
  allowedData : List String
  activeProhibitions : List String
  predictionChangeNoOpThreshold : R

/-- `PlannerPlaybookSummary`. -/
structure PlannerPlaybookSummary where
  familyOrder : List String
  methodOrder : Dict String (List String)

/-- `PlannerContext`. -/
structure PlannerContext (R : Type) where
  contractSummary : PlannerContractSummary R
  baseline : PlannerExperimentSummary R
  eligibleFrontier : List (PlannerExperimentSummary R)
  familyHistory : List (PlannerExperimentSummary R)
  methodCards : List PlannerMethodCardSummary
  playbook : PlannerPlaybookSummary

/-- `ExperimentNodeView`. -/
structure ExperimentNodeView (R : Type) where
  experimentId : String
  primaryScore : Option R
  childCount : Nat
  summary : PlannerExperimentSummary R

/-- `PolicyChoice`. -/
structure PolicyChoice (R : Type) where
  action : String
  parent : Option (ExperimentNodeView R)
  family : Option String
  costTier : String
  phase : String
  reasonCode : String
  reason : String
  methodCardId : Option String := none
  componentExperimentIds : List String := []

section View
variable {R : Type}

/-- `ExperimentNodeView.from_summary`. -/
def ExperimentNodeView.fromSummary (summary : PlannerExperimentSummary R) : Option (ExperimentNodeView R) :=
  if summary.experimentId = "" then none
  else some {
    experimentId := summary.experimentId
    primaryScore := summary.primaryScore.or (summary.metricSet.map MetricSet.primaryScore)
    childCount := summary.childCount
    summary }

/-- `is_trusted`. -/
def ExperimentNodeView.isTrusted (node : ExperimentNodeView R) : Bool :=
  node.summary.trustVerdict = some .accepted &&
    (node.summary.integrity = none || node.summary.integrity = some .clean)

/-- `is_exploratory_parent`. -/
def ExperimentNodeView.isExploratoryParent (node : ExperimentNodeView R) : Bool :=
  node.summary.parentEligible && node.summary.trustVerdict = some .inconclusive &&
    node.summary.integrity = some .clean && node.summary.stability = some .confirmed &&
    node.summary.highestCompletedFidelity = some .full && node.summary.decision = some .accept

/-- `is_parent_eligible`. A summary says so explicitly, which decides when the gates before let it pass. -/
def ExperimentNodeView.isParentEligible (node : ExperimentNodeView R) : Bool :=
  node.summary.parentEligible &&
    lower node.summary.status ∉ ["retracted", "pruned", "invalid", "suspicious", "unstable"] &&
    node.summary.decision ∉ [some .reject, some .prune, some .invalid] &&
    (node.isTrusted || node.isExploratoryParent)

/-- `GraphView.from_context`: the frontier is authoritative, and the last summary of an experiment counts. -/
def graphView (context : PlannerContext R) : Dict String (ExperimentNodeView R) :=
  (context.eligibleFrontier.filterMap ExperimentNodeView.fromSummary).foldl
    (fun unique node => unique.set node.experimentId node) .empty

/-- `GraphView.eligible_parents`. -/
def eligibleParents (context : PlannerContext R) : List (ExperimentNodeView R) :=
  (graphView context).values.filter ExperimentNodeView.isParentEligible

end View
end TacoRank.Research
