import TacoRank.Lib.Result
import TacoRank.Schemas
import Mathlib.Algebra.Field.Rat

/-!
# Experiment decisions

Port of `evaluation/decisions.py`, with the values of `evaluation/types.py` that it reads and builds.
The evaluation layer works on plain records, here over the numbers of the ledger or of any ordered
field; `to_canonical` turns them into the validated models that the ledger stores. `decide` maps the trust in an evaluation to the next action, and `Decides` says
what the decision carries whichever branch it comes from.
-/

namespace TacoRank.Evaluation
open Lib.Result

/-- The exceptions of the evaluation layer; `validationError` is the rejection of a model. -/
inductive EvaluationError where
  | valueError (message : String)
  | validationError (model : String)
  | noOpRecoveryRequired (message : String)
  | contractError (message : String)
  | integrityError (message : String)
deriving DecidableEq, Repr

/-- `MetricDelta`. -/
structure MetricDelta (R : Type := ℚ) where
  primary : R
  metrics : List (String × R)
deriving DecidableEq

/-- `PredictionChange`. -/
structure PredictionChange (R : Type := ℚ) where
  spearmanVsParent : Option R
  changedRowFraction : Option R
  identicalScoreFraction : Option R
  uniqueScoreFraction : R
  withinUserRankChange : Option R := none
deriving DecidableEq

/-- `TrustAssessment` of the evaluation layer. -/
structure TrustAssessment (R : Type := ℚ) where
  verdict : TrustVerdict
  stability : Stability
  integrity : Integrity
  flags : List String := []
  etaApplied : Option R := none
  seedMean : Option R := none
  seedStderr : Option R := none
  seedCount : Nat := 1
deriving DecidableEq

/-- The `trust` of a canonical result. -/
def TrustAssessment.toCanonical (trust : TrustAssessment) :
    Except EvaluationError TacoRank.TrustAssessment :=
  if valid : (trust.integrity = .compromised → trust.verdict = .suspicious) ∧
      (trust.verdict = .noOp → trust.stability = .notApplicable) ∧
      trust.seedMean.isSome = trust.seedStderr.isSome ∧
      (trust.seedMean.isSome = true → 2 ≤ trust.seedCount) then
    .ok {
      verdict := trust.verdict
      stability := trust.stability
      integrity := trust.integrity
      flags := trust.flags
      etaApplied := trust.etaApplied
      seedMean := trust.seedMean
      seedStderr := trust.seedStderr
      seedCount := trust.seedCount
      validateConsistency := valid }
  else
    .error (.validationError "TrustAssessment")

/-- `EvaluationResult` of the evaluation layer. -/
structure EvaluationResult (R : Type := ℚ) where
  experimentId : String
  attempt : Nat
  population : Population
  fidelity : Fidelity
  seed : Int
  publicQueryIndex : Option Nat
  evaluatorSha256 : String
  contractSha256 : String
  metricSet : MetricSet R
  parentDelta : MetricDelta R
  previousBestDelta : MetricDelta R
  predictionChange : PredictionChange R
  trust : TrustAssessment R
  seedEvidenceEventIds : List EventId := []
  details : String := ""
deriving DecidableEq

/-- The fields that `to_canonical` hands over. -/
def EvaluationResult.fields (result : EvaluationResult) (trust : TacoRank.TrustAssessment) :
    EvaluationFields :=
  { experimentId := result.experimentId
    attempt := result.attempt
    population := result.population
    fidelity := result.fidelity
    seed := result.seed
    publicQueryIndex := result.publicQueryIndex
    evaluatorSha256 := result.evaluatorSha256
    contractSha256 := result.contractSha256
    metricSet := result.metricSet
    parentDelta := some result.parentDelta.primary
    previousBestDelta := some result.previousBestDelta.primary
    trust
    seedEvidenceEventIds := result.seedEvidenceEventIds
    details := result.details }

/-- `EvaluationResult.to_canonical`. -/
def EvaluationResult.toCanonical (result : EvaluationResult) :
    Except EvaluationError TacoRank.EvaluationResult := do
  if result.predictionChange.spearmanVsParent = none ∨
      result.predictionChange.changedRowFraction = none then
    throw (.valueError "canonical evaluation requires parent prediction evidence")
  let trust ← result.trust.toCanonical
  if valid : (result.fields trust).RouteValid then
    return { result.fields trust with validateEvaluationRoute := valid }
  else
    throw (.validationError "EvaluationResult")

/-- `ExperimentDecision` of the evaluation layer. -/
structure ExperimentDecision where
  experimentId : String
  evaluationEventId : Option EventId
  decision : ExperimentDecisionKind
  reasonCode : String
  fidelityCompleted : Fidelity
  parentEligible : Bool
  bestEligible : Bool
  nextFidelity : Option Fidelity
  supportingEventIds : List (Option EventId)
  seedEvidenceEventIds : List EventId := []
deriving DecidableEq, Repr

/-- `ExperimentDecision.to_canonical`; a missing event id is not a `NonEmptyStr`. -/
def ExperimentDecision.toCanonical (decision : ExperimentDecision) :
    Except EvaluationError TacoRank.ExperimentDecision :=
  let supporting :=
    (decision.supportingEventIds ++ decision.seedEvidenceEventIds.map some).eraseDups
  if valid : none ∉ supporting ∧
      (decision.decision = .promote ↔ decision.nextFidelity.isSome = true) ∧
      (decision.bestEligible = true → decision.fidelityCompleted = .full) then
    .ok {
      experimentId := decision.experimentId
      evaluationEventId := decision.evaluationEventId
      decision := decision.decision
      reasonCode := decision.reasonCode
      fidelityCompleted := decision.fidelityCompleted
      parentEligible := decision.parentEligible
      bestEligible := decision.bestEligible
      nextFidelity := decision.nextFidelity
      supportingEventIds := supporting.reduceOption
      validatePromotion := valid.2 }
  else
    .error (.validationError "ExperimentDecision")

/-- `DecisionContext`. -/
structure DecisionContext where
  evaluationEventId : EventId
  supportingEventIds : List (Option EventId)
  seedEvidenceEventIds : List EventId := []
  confirmationsRemaining : Int := 0
deriving DecidableEq, Repr

section Decide
variable {R : Type} [Field R] [LinearOrder R] (result : EvaluationResult R)
  (context : DecisionContext)

/-- `_decision`. -/
def decision (action : ExperimentDecisionKind) (reason : String) (parentEligible bestEligible : Bool)
    (nextFidelity : Option Fidelity) : ExperimentDecision :=
  { experimentId := result.experimentId
    evaluationEventId := some context.evaluationEventId
    decision := action
    reasonCode := reason
    fidelityCompleted := result.fidelity
    parentEligible
    bestEligible
    nextFidelity
    supportingEventIds := context.supportingEventIds
    seedEvidenceEventIds := context.seedEvidenceEventIds }

/-- The branch of `decide` for a proxy evaluation. -/
def decideProxy : ExperimentDecision :=
  let trust := result.trust
  if trust.verdict = .accepted ∧ trust.integrity = .clean then
    decision result context .promote "PROXY_PASSED" false false (some .full)
  else if trust.verdict = .inconclusive ∧ trust.integrity = .clean ∧
      "WITHIN_NOISE" ∈ trust.flags then
    if result.parentDelta.primary ≤ 0 then
      decision result context .prune "PROXY_NON_POSITIVE_WITHIN_NOISE" false false none
    else
      decision result context .promote "PROXY_WITHIN_NOISE" false false (some .full)
  else if trust.verdict = .negative then
    decision result context .prune "PROXY_FAILED" false false none
  else
    decision result context .invalid "INTEGRITY_UNVERIFIED" false false none

/-- `current_best`. -/
def currentBest : R := result.metricSet.primaryScore - result.previousBestDelta.primary

/-- The test on the mean of the seeds in the exploratory branch of `decide`. -/
def withinTolerance (seedMean : R) : Bool :=
  0 < seedMean - (result.metricSet.primaryScore - result.parentDelta.primary) ∧
    currentBest result - result.trust.etaApplied.getD 0 ≤ seedMean

/-- The end of `decide`: the evaluation supports no further step. -/
def decideAgainst : ExperimentDecision :=
  let trust := result.trust
  let reason := match trust.verdict with
    | .inconclusive => if trust.stability = .unstable then "SEED_VARIANCE_HIGH" else "WITHIN_NOISE"
    | .negative => "CLEAR_REGRESSION"
    | .redundant => "SIGNAL_ALREADY_CAPTURED"
    | _ => "INTEGRITY_UNVERIFIED"
  let action := if trust.verdict = .suspicious then .invalid else .reject
  decision result context action reason false false none

/-- The branch of `decide` for a full evaluation on the public population. -/
def decideFull : ExperimentDecision :=
  let trust := result.trust
  if trust.verdict = .accepted ∧ trust.stability = .singleSeed then
    if context.confirmationsRemaining ≤ 0 then
      decision result context .reject "CONFIRMATION_BUDGET_EXHAUSTED" false false none
    else
      decision result context .promote "CONFIRMATION_REQUIRED" false false (some .full)
  else if trust.verdict = .accepted ∧ trust.stability = .confirmed ∧ trust.integrity = .clean then
    let candidatePrimary := trust.seedMean.getD result.metricSet.primaryScore
    if trust.etaApplied.getD 0 < candidatePrimary - currentBest result then
      decision result context .accept "TRUSTED_IMPROVEMENT" true true none
    else
      decision result context .accept "TRUSTED_PARENT_ONLY" true false none
  else if trust.verdict = .inconclusive ∧ trust.stability = .confirmed ∧ trust.integrity = .clean ∧
      "WITHIN_NOISE" ∈ trust.flags ∧ trust.seedMean.any (withinTolerance result) then
    decision result context .accept "EXPLORATORY_PARENT_WITHIN_TOLERANCE" true false none
  else
    decideAgainst result context

/-- `decide`. -/
def decide : Except EvaluationError ExperimentDecision :=
  if context.seedEvidenceEventIds ≠ result.seedEvidenceEventIds then
    .error (.valueError "decision seed evidence does not match evaluation")
  else if result.population = .hiddenFinal ∨ result.fidelity = .final then
    .error (.valueError "hidden-final results do not produce experiment decisions")
  else if result.population = .unbiasedAudit then
    .error (.valueError "unbiased-audit results support trust but do not produce decisions")
  else if result.trust.verdict = .noOp then
    .error (.noOpRecoveryRequired "no-op requires implementation recovery")
  else if result.fidelity = .proxy ∨ result.population = .internalProxy then
    .ok (decideProxy result context)
  else if result.population ≠ .publicValidation ∨ result.fidelity ≠ .full then
    .error (.valueError "full experiment decisions require public validation")
  else
    .ok (decideFull result context)

end Decide

/-! ### The canonical values -/

lemma TrustAssessment.toCanonical_ok {t : TrustAssessment} {c : TacoRank.TrustAssessment}
    (h : t.toCanonical = .ok c) :
    c.verdict = t.verdict ∧ c.stability = t.stability ∧ c.integrity = t.integrity := by
  unfold toCanonical at h
  split at h
  · cases h
    exact ⟨rfl, rfl, rfl⟩
  · cases h

/-- A canonical result has the fields of the domain result. -/
lemma EvaluationResult.toCanonical_ok {result : EvaluationResult} {c : TacoRank.EvaluationResult}
    (h : result.toCanonical = .ok c) :
    ∃ trust, result.trust.toCanonical = .ok trust ∧ c.toEvaluationFields = result.fields trust := by
  unfold toCanonical at h
  split at h
  · cases h
  · obtain ⟨trust, canonical, h⟩ := bind_eq_ok.mp h
    split at h
    · cases h
      exact ⟨trust, canonical, rfl⟩
    · cases h

/-! ### What a decision carries -/

section Facts
variable {R : Type}

/-- A confirmation is asked for: the evaluation is trusted on a single seed, and attempts remain. -/
def Confirms (result : EvaluationResult R) (context : DecisionContext) : Prop :=
  result.fidelity = .full ∧ result.trust.verdict = .accepted ∧
    result.trust.stability = .singleSeed ∧ 0 < context.confirmationsRemaining

/-- The evaluation supports a new best. -/
def SupportsBest (result : EvaluationResult R) : Prop :=
  result.fidelity = .full ∧ result.population = .publicValidation ∧
    result.trust.verdict = .accepted ∧ result.trust.stability = .confirmed ∧
    result.trust.integrity = .clean

/-- The facts about a decision on an evaluation. A promotion leads to the full fidelity; at that
fidelity it asks for a confirmation. -/
structure Decides (result : EvaluationResult R) (context : DecisionContext) (d : ExperimentDecision) :
    Prop where
  experiment : d.experimentId = result.experimentId
  evaluation : d.evaluationEventId = some context.evaluationEventId
  completed : d.fidelityCompleted = result.fidelity
  supporting : d.supportingEventIds = context.supportingEventIds
  seeds : d.seedEvidenceEventIds = context.seedEvidenceEventIds
  next : d.nextFidelity = if d.decision = .promote then some .full else none
  best : d.bestEligible = true → SupportsBest result ∧ d.decision = .accept
  confirms : result.fidelity = .full → (d.decision = .promote ↔ Confirms result context)

variable {result : EvaluationResult R} {context : DecisionContext}

/-- A decision that ends the experiment without a new best. -/
lemma Decides.ending {action : ExperimentDecisionKind} {reason : String} {parentEligible : Bool}
    (ends : action ≠ .promote) (silent : ¬ Confirms result context) :
    Decides result context (decision result context action reason parentEligible false none) where
  experiment := rfl
  evaluation := rfl
  completed := rfl
  supporting := rfl
  seeds := rfl
  next := (if_neg ends).symm
  best := Bool.noConfusion
  confirms _ := ⟨fun promote => absurd promote ends, fun asked => absurd asked silent⟩

/-- A promotion. -/
lemma Decides.promoting {reason : String} (asked : result.fidelity = .full → Confirms result context) :
    Decides result context
      (decision result context .promote reason false false (some .full)) where
  experiment := rfl
  evaluation := rfl
  completed := rfl
  supporting := rfl
  seeds := rfl
  next := rfl
  best := Bool.noConfusion
  confirms full := ⟨fun _ => asked full, fun _ => rfl⟩

variable [Field R] [LinearOrder R]

lemma decideProxy_decides (proxy : result.fidelity ≠ .full) :
    Decides result context (decideProxy result context) := by
  have silent : ¬ Confirms result context := fun asked => proxy asked.1
  have promoting : ∀ reason, Decides result context
      (decision result context .promote reason false false (some .full)) :=
    fun reason => .promoting fun full => absurd full proxy
  unfold decideProxy
  dsimp only
  split
  · exact promoting _
  · split
    · split
      · exact .ending (by simp) silent
      · exact promoting _
    · split
      · exact .ending (by simp) silent
      · exact .ending (by simp) silent

omit [Field R] [LinearOrder R] in
lemma decideAgainst_decides (silent : ¬ Confirms result context) :
    Decides result context (decideAgainst result context) := by
  unfold decideAgainst
  dsimp only
  refine .ending ?_ silent
  split
  · simp
  · simp

lemma decideFull_decides (full : result.fidelity = .full)
    (population : result.population = .publicValidation) :
    Decides result context (decideFull result context) := by
  unfold decideFull
  dsimp only
  split
  next single =>
    split
    next spent => exact .ending (by simp) fun asked => absurd asked.2.2.2 (by omega)
    next remaining => exact .promoting fun _ => ⟨full, single.1, single.2, by omega⟩
  next plural =>
    -- Without a trusted single seed no branch asks for a confirmation.
    have silent : ¬ Confirms result context := fun asked => plural ⟨asked.2.1, asked.2.2.1⟩
    split
    next trusted =>
      split
      · exact {
          experiment := rfl
          evaluation := rfl
          completed := rfl
          supporting := rfl
          seeds := rfl
          next := rfl
          best := fun _ => ⟨⟨full, population, trusted⟩, rfl⟩
          confirms := fun _ => ⟨fun accept => absurd accept (by simp [decision]),
            fun asked => absurd asked silent⟩ }
      · exact .ending (by simp) silent
    · split
      · exact .ending (by simp) silent
      · exact decideAgainst_decides silent

/-- The evaluations that get a decision. -/
structure AwaitsDecision (result : EvaluationResult R) (context : DecisionContext) : Prop where
  seeds : context.seedEvidenceEventIds = result.seedEvidenceEventIds
  verdict : result.trust.verdict ≠ .noOp
  site : result.fidelity = .proxy ∧ result.population = .internalProxy ∨
    result.fidelity = .full ∧ result.population = .publicValidation

/-- `decide` raises none of its errors on such an evaluation. -/
lemma AwaitsDecision.decides (h : AwaitsDecision result context) :
    ∃ d, decide result context = .ok d ∧ Decides result context d := by
  unfold decide
  rw [if_neg (not_not_intro h.seeds)]
  rcases h.site with ⟨fidelity, population⟩ | ⟨fidelity, population⟩
  · have proxy : Decides result context (decideProxy result context) :=
      decideProxy_decides (by simp [fidelity])
    refine ⟨_, ?_, proxy⟩
    simp [fidelity, population, h.verdict]
  · refine ⟨_, ?_, decideFull_decides fidelity population⟩
    simp [fidelity, population, h.verdict]

omit [Field R] [LinearOrder R] in
/-- The canonical form of a decision. -/
lemma Decides.toCanonical {d : ExperimentDecision} (h : Decides result context d)
    (supported : none ∉ context.supportingEventIds) : ∃ c, d.toCanonical = .ok c ∧
      c.experimentId = d.experimentId ∧ c.evaluationEventId = d.evaluationEventId ∧
      c.decision = d.decision ∧ c.fidelityCompleted = d.fidelityCompleted ∧
      c.bestEligible = d.bestEligible ∧ c.nextFidelity = d.nextFidelity := by
  have promotion : d.decision = .promote ↔ d.nextFidelity.isSome = true := by
    rw [h.next]
    split <;> simp [*]
  have full : d.bestEligible = true → d.fidelityCompleted = .full :=
    fun eligible => h.completed.trans (h.best eligible).1.1
  have events : none ∉ (d.supportingEventIds ++ d.seedEvidenceEventIds.map some).eraseDups := by
    simpa [List.mem_eraseDups, h.supporting] using supported
  unfold ExperimentDecision.toCanonical
  dsimp only
  rw [dif_pos ⟨events, promotion, full⟩]
  exact ⟨_, rfl, rfl, rfl, rfl, rfl, rfl, rfl⟩

end Facts
end TacoRank.Evaluation
