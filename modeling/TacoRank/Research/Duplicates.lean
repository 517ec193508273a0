import TacoRank.Orchestrator.Proposals
import TacoRank.Research.SearchPolicy

/-!
# Duplicate proposals

Three layers judge a proposal whose duplicate key was used before: the state machine admits it while its
holders ended without evidence, `PlanValidator` knows only the re-implementation of the latest no-op, and a
parallel round takes no used key at all. `duplicate_layers_agree_iff` states where they agree. After a failure
the search policy returns to methods that failed (`choose_of_failed`), and `failed_attempt_refused` is a proposal
of this kind on which they do not.
-/

namespace TacoRank.Research
open Lib Lib.Result

/-- `ExperimentStatus.value`. -/
def statusValue : ExperimentStatus → String
  | .proposed => "proposed"
  | .patchReady => "patch_ready"
  | .readyToRun => "ready_to_run"
  | .running => "running"
  | .outputReady => "output_ready"
  | .outputVerified => "output_verified"
  | .evaluated => "evaluated"
  | .recovering => "recovering"
  | .noOp => "no_op"
  | .accepted => "accepted"
  | .rejected => "rejected"
  | .pruned => "pruned"
  | .invalid => "invalid"

/-! ### The state machine -/

/-- The duplicate rule of `EXPERIMENT_PROPOSED`. -/
def ledgerAdmits (events : List Event) (state : RunState) (spec : ExperimentSpec) : Bool :=
  ¬ (state.experiments.values.any fun node => node.duplicateKey = spec.duplicateKey) ∨
    authorizedNoOpReimplementation events state spec ∨ authorizedFailedAttemptReexploration state spec

/-- What the rule refuses is not recorded. -/
lemma ledgerAdmits_of_accepted {events : List Event} {state : RunState} {spec : ExperimentSpec}
    (accepted : validateExperimentProposed events state spec = .ok ()) : ledgerAdmits events state spec = true := by
  simp only [validateExperimentProposed, bind_eq_ok, require_ok] at accepted
  obtain ⟨_, _, _, _, _, admitted, _⟩ := accepted
  simpa [ledgerAdmits] using admitted

/-- A used key is admitted while fewer than three experiments hold it and all of them failed. -/
lemma ledgerAdmits_iff {events : List Event} {state : RunState} {spec : ExperimentSpec}
    (used : holders state.experiments spec.duplicateKey ≠ []) : ledgerAdmits events state spec = true ↔
      (holders state.experiments spec.duplicateKey).length < 3 ∧
        ∀ n ∈ holders state.experiments spec.duplicateKey, n.status = .invalid ∨ n.status = .noOp := by
  constructor
  · intro admitted
    simp only [ledgerAdmits, decide_eq_true_eq] at admitted
    rcases admitted with unseen | noOp | failed
    · refine absurd (List.filter_eq_nil_iff.mpr fun n mem key => ?_) used
      exact unseen (List.any_eq_true.mpr ⟨n, mem, key⟩)
    · obtain ⟨node, one, status⟩ := authorizedNoOpReimplementation_inv noOp
      rw [one]
      refine ⟨by simp, fun n mem => .inr ?_⟩
      rw [List.mem_singleton.mp mem]
      exact status
    · exact authorizedFailedAttemptReexploration_inv failed
  · rintro ⟨few, ended⟩
    have failed : authorizedFailedAttemptReexploration state spec = true := by
      simp only [authorizedFailedAttemptReexploration, decide_eq_true_eq, List.all_eq_true, List.mem_cons,
        List.not_mem_nil, or_false]
      exact ⟨used, few, ended⟩
    simp [ledgerAdmits, failed]

/-! ### The planner's context -/

/-- The fields of a proposal that only the planner reads. -/
structure PlannedMethods where
  methodCardIds : List String
  componentExperimentIds : List String := []
  changeSummary : String := ""

/-- What a summary says beyond the recorded fields. -/
structure Unrecorded where
  planned : PlannedMethods
  predictionChange : ℚ
  actualCost : CostTier

/-- One summary of `_planner_experiments`. A smoke decision routes the execution and is no outcome. -/
def plannerExperiment (describe : ExperimentSpec → Unrecorded) (events : List Event) (state : RunState)
    (spec : ExperimentSpec) : PlannerExperimentSummary ℚ :=
  let node := state.experiments.get? spec.experimentId
  let evaluation := (lastForExperiment .evaluationCompleted events spec.experimentId).map (·.2)
  let decision := Log.lastSome (fun event =>
    (EventKind.experimentDecided.ofExperiment spec.experimentId event).bind fun found =>
      if found.2.fidelityCompleted = .smoke then none else some found.2) events
  let output := (lastForExperiment .outputChecked events spec.experimentId).map (·.2)
  let metricSet := (evaluation.map (·.metricSet)).or (node.bind (·.metricSet))
  { experimentId := spec.experimentId
    parentExperimentId := spec.parentExperimentId
    family := some spec.family
    trustVerdict := evaluation.map (·.trust.verdict)
    stability := evaluation.map (·.trust.stability)
    integrity := evaluation.map (·.trust.integrity)
    decision := decision.map (·.decision)
    highestCompletedFidelity := (evaluation.map (·.fidelity)).or (node.bind (·.highestFidelity))
    outputAccepted := output.map (·.accepted)
    primaryScore := (evaluation.bind (·.trust.seedMean)).or (metricSet.map (·.primaryScore))
    metricSet
    parentDelta := evaluation.bind (·.parentDelta)
    childCount := (proposals events).countP (·.parentExperimentId = some spec.experimentId)
    actualCost := some (describe spec).actualCost
    parentEligible := decision.any (·.parentEligible)
    status := node.elim "" (statusValue ·.status)
    methodCardIds := (describe spec).planned.methodCardIds
    predictionChange := evaluation.map fun _ => (describe spec).predictionChange
    duplicateKey := spec.duplicateKey }

/-- The summary of the baseline in `_planner_experiments`. -/
def plannerBaseline (predictionChange : ℚ) (events : List Event) (payload : BaselineVerified) :
    PlannerExperimentSummary ℚ where
  experimentId := payload.experimentId
  parentExperimentId := none
  family := none
  trustVerdict := some payload.evaluation.trust.verdict
  stability := some payload.evaluation.trust.stability
  integrity := some payload.evaluation.trust.integrity
  decision := some .accept
  highestCompletedFidelity := some payload.evaluation.fidelity
  outputAccepted := none
  primaryScore := some payload.metricSet.primaryScore
  metricSet := some payload.metricSet
  parentDelta := some 0
  childCount := (proposals events).countP (·.parentExperimentId = some payload.experimentId)
  actualCost := some .low
  parentEligible := true
  status := "accepted"
  methodCardIds := []
  predictionChange := some predictionChange

/-- The configuration and the research files behind a context. -/
structure PlannerSources where
  contractSummary : PlannerContractSummary ℚ
  methodCards : List PlannerMethodCardSummary
  playbook : PlannerPlaybookSummary
  describe : ExperimentSpec → Unrecorded
  baselinePredictionChange : ℚ

/-- `build_planner`, `none` where it raises. -/
def buildPlanner (sources : PlannerSources) (events : List Event) : Option (PlannerContext ℚ) :=
  match project events, (eventsOf EventPayload.baseline events).head? with
  | .ok state, some (_, payload) =>
    let baseline := plannerBaseline sources.baselinePredictionChange events payload
    let summaries := (proposals events).map (plannerExperiment sources.describe events state)
    some {
      contractSummary := sources.contractSummary
      baseline
      eligibleFrontier := baseline :: summaries.filter (·.parentEligible)
      familyHistory := summaries
      methodCards := sources.methodCards
      playbook := sources.playbook }
  | _, _ => none

/-- A context holds a summary for each proposal. -/
lemma buildPlanner_history {sources : PlannerSources} {events : List Event} {context : PlannerContext ℚ}
    (built : buildPlanner sources events = some context) :
    context.familyHistory.map (·.duplicateKey) = (proposals events).map (·.duplicateKey) := by
  unfold buildPlanner at built
  split at built
  · cases built
    rw [List.map_map]
    rfl
  · cases built

/-! ### `PlanValidator` -/

/-- `duplicate_payload`. -/
structure DuplicatePayload where
  parentCommitSha : String
  parentExperimentId : Option String
  family : String
  methodCardIds : List String
  componentExperimentIds : List String
  legacyChangeSummary : String
deriving DecidableEq

/-- `duplicate_payload`. -/
def duplicatePayload (spec : ResearchProposal) (planned : PlannedMethods) : DuplicatePayload where
  parentCommitSha := spec.parentCommitSha
  parentExperimentId := spec.parentExperimentId
  family := spec.family
  methodCardIds := planned.methodCardIds
  componentExperimentIds := planned.componentExperimentIds
  legacyChangeSummary := if planned.methodCardIds = [] then planned.changeSummary else ""

section Layers
variable {R : Type}

/-- The keys of the `DuplicateDetector` of a context. The summaries of `baseline` and `current_best` are models,
which list their fields when they are iterated, and these have no key. -/
def knownKeys (context : PlannerContext R) : List String :=
  ((context.eligibleFrontier ++ context.familyHistory).map (·.duplicateKey)).filter (· ≠ "")

/-- `DuplicateDetector.contains`; `hash` is the digest of the normalised payload. -/
def containsDuplicate (hash : DuplicatePayload → String) (context : PlannerContext R) (spec : ResearchProposal)
    (planned : PlannedMethods) : Bool :=
  (if spec.duplicateKey ≠ "" then spec.duplicateKey else hash (duplicatePayload spec planned)) ∈
    knownKeys context

variable [LinearOrder R]

/-- `_is_no_op_summary`. -/
def isNoOpSummary (context : PlannerContext R) (summary : PlannerExperimentSummary R) : Bool :=
  summary.trustVerdict = some .noOp ||
    summary.predictionChange.any (· ≤ context.contractSummary.predictionChangeNoOpThreshold)

/-- `_authorized_no_op_reimplementation` of `research/plan_validation.py`. -/
def authorizedReimplementation (context : PlannerContext R) (choice : PolicyChoice R) (spec : ResearchProposal)
    (planned : PlannedMethods) : Bool :=
  match context.familyHistory.getLast? with
  | none => false
  | some latest =>
    let parentId := str latest.parentExperimentId
    choice.phase = "no_op_reimplementation" && choice.reasonCode = "NO_OP_REIMPLEMENT_MECHANISM" &&
    isNoOpSummary context latest && lower latest.status = "no_op" &&
    choice.parent.elim "" (·.experimentId) = parentId && str spec.parentExperimentId = parentId &&
    spec.family = str latest.family &&
    planned.methodCardIds.all (· ∈ latest.methodCardIds) &&
    latest.methodCardIds.all (· ∈ planned.methodCardIds) && latest.methodCardIds.dedup.length = 1 &&
    (context.familyHistory.filter fun summary =>
      isNoOpSummary context summary && str summary.parentExperimentId = parentId &&
        str summary.family = str latest.family &&
        summary.methodCardIds.any (· ∈ latest.methodCardIds)).length = 1

/-- Only a proposal after a no-op is authorised. -/
lemma authorizedReimplementation_latest {context : PlannerContext R} {choice : PolicyChoice R}
    {spec : ResearchProposal} {planned : PlannedMethods}
    (latest : context.familyHistory.getLast?.any (fun latest => lower latest.status ≠ "no_op") = true) :
    authorizedReimplementation context choice spec planned = false := by
  obtain ⟨latest, last, status⟩ := (Option.any_eq_true _ _).mp latest
  simp only [ne_eq, decide_eq_true_eq] at status
  simp only [authorizedReimplementation, last, status, decide_false, Bool.and_false, Bool.false_and]

/-- Whether `PlanValidator.validate` reports `DUPLICATE_EXPERIMENT`. -/
def reportsDuplicate (hash : DuplicatePayload → String) (context : PlannerContext R) (choice : PolicyChoice R)
    (spec : ResearchProposal) (planned : PlannedMethods) : Bool :=
  containsDuplicate hash context spec planned && !authorizedReimplementation context choice spec planned

end Layers

/-! ### The parallel round -/

/-- Whether `_prepare_parallel_round` refuses to seal a round with these duplicate keys. -/
def roundRefused (events : List Event) (duplicateKeys : List String) : Bool :=
  let existingKeys := (proposals events).map (·.duplicateKey)
  ¬ duplicateKeys.Nodup ∨ duplicateKeys.any (· ∈ existingKeys)

/-! ### Agreement -/

/-- The layers agree on a proposal of the planner. -/
structure LayersAgree (es : List Event) (s : RunState) (hash : DuplicatePayload → String)
    (context : PlannerContext ℚ) (choice : PolicyChoice ℚ) (spec : ExperimentSpec) (planned : PlannedMethods) :
    Prop where
  validator : ledgerAdmits es s spec = true ↔
    reportsDuplicate hash context choice spec.toResearchProposal planned = false
  round : ∀ keys, spec.duplicateKey ∈ keys → roundRefused es keys = true → ledgerAdmits es s spec = false

section Agreement
variable {es : List Event} {s : RunState} {sources : PlannerSources} {context : PlannerContext ℚ}
variable {hash : DuplicatePayload → String} {choice : PolicyChoice ℚ} {spec : ExperimentSpec}
variable {planned : PlannedMethods}

/-- A used key is known to the validator, which spares only the re-implementation of a no-op. -/
lemma reportsDuplicate_used (built : buildPlanner sources es = some context) (nonempty : spec.duplicateKey ≠ "")
    (used : ∃ earlier ∈ proposals es, earlier.duplicateKey = spec.duplicateKey) :
    reportsDuplicate hash context choice spec.toResearchProposal planned =
      !authorizedReimplementation context choice spec.toResearchProposal planned := by
  obtain ⟨earlier, mem, same⟩ := used
  have history : spec.duplicateKey ∈ context.familyHistory.map (·.duplicateKey) := by
    rw [buildPlanner_history built]
    exact List.mem_map.mpr ⟨earlier, mem, same⟩
  have known : spec.duplicateKey ∈ knownKeys context := by
    rw [knownKeys, List.mem_filter, List.map_append]
    exact ⟨List.mem_append_right _ history, by simpa using nonempty⟩
  simp [reportsDuplicate, containsDuplicate, nonempty, known]

/-- A round refuses every used key. -/
lemma roundRefused_used {keys : List String} (mem : spec.duplicateKey ∈ keys)
    (used : ∃ earlier ∈ proposals es, earlier.duplicateKey = spec.duplicateKey) : roundRefused es keys = true := by
  obtain ⟨earlier, earlier_mem, same⟩ := used
  have existing : spec.duplicateKey ∈ (proposals es).map (·.duplicateKey) :=
    List.mem_map.mpr ⟨earlier, earlier_mem, same⟩
  have any : keys.any (· ∈ (proposals es).map (·.duplicateKey)) = true :=
    List.any_eq_true.mpr ⟨_, mem, by simpa using existing⟩
  simp only [roundRefused, any, or_true, decide_true]

/-- The layers agree on a used key exactly when three experiments hold it, or one that did not fail, and the
validator does not take the proposal for the re-implementation of a no-op. -/
theorem duplicate_layers_agree_iff (v : ValidLedger es) (projected : project es = .ok s)
    (built : buildPlanner sources es = some context) (nonempty : spec.duplicateKey ≠ "")
    (used : ∃ earlier ∈ proposals es, earlier.duplicateKey = spec.duplicateKey) :
    LayersAgree es s hash context choice spec planned ↔
      (3 ≤ (holders s.experiments spec.duplicateKey).length ∨
        ∃ n ∈ holders s.experiments spec.duplicateKey, n.status ≠ .invalid ∧ n.status ≠ .noOp) ∧
      authorizedReimplementation context choice spec.toResearchProposal planned = false := by
  obtain ⟨r, hr, rfl⟩ := project_ok.mp projected
  have held : holders (r.state.aggregate es).experiments spec.duplicateKey ≠ [] := by
    obtain ⟨earlier, mem, same⟩ := used
    obtain ⟨n, _, held⟩ := (v.ledgered hr).listed.node mem
    rw [RunState.aggregate_experiments, ← same]
    exact List.ne_nil_of_mem held
  have refused : ledgerAdmits es (r.state.aggregate es) spec = false ↔
      3 ≤ (holders (r.state.aggregate es).experiments spec.duplicateKey).length ∨
        ∃ n ∈ holders (r.state.aggregate es).experiments spec.duplicateKey,
          n.status ≠ .invalid ∧ n.status ≠ .noOp := by
    rw [← Bool.not_eq_true, ledgerAdmits_iff held, not_and_or, not_lt]
    push Not
    rfl
  have validator : reportsDuplicate hash context choice spec.toResearchProposal planned =
      !authorizedReimplementation context choice spec.toResearchProposal planned :=
    reportsDuplicate_used built nonempty used
  rw [← refused]
  constructor
  · intro agree
    have round := agree.round [spec.duplicateKey] List.mem_cons_self (roundRefused_used List.mem_cons_self used)
    have reported := agree.validator
    rw [round, validator] at reported
    exact ⟨round, by simpa using reported⟩
  · rintro ⟨refuses, unauthorized⟩
    refine ⟨?_, fun _ _ _ => refuses⟩
    rw [refuses, validator, unauthorized]
    decide

end Agreement

/-! ### The route after a failure -/

section Policy
variable {R : Type} [LinearOrder R]

/-- `_attempted_methods_for_parent`: only an outcome or a negative verdict counts as an attempt. -/
def attemptedMethodsForParent (context : PlannerContext R) (parentExperimentId : Option String) : List String :=
  parentExperimentId.elim [] fun parentId =>
    (context.familyHistory.filter fun summary =>
      str summary.parentExperimentId = parentId &&
        (summary.decision.any (fun decision => decision = .accept || decision = .prune || decision = .reject) ||
          summary.trustVerdict.any fun verdict => verdict = .negative || verdict = .redundant)).flatMap
            (·.methodCardIds)

variable (availableCapabilities : PlannerContext R → List String)

/-- `_method_for_family`. -/
def methodForFamily (context : PlannerContext R) (family : String) (preferred : Option String)
    (parentExperimentId : Option String) (allowRepeated : Bool) : Option PlannerMethodCardSummary :=
  let cards := (cardsById (eligibleMethodCards availableCapabilities context (some family))).entries
  let attempted := if allowRepeated then [] else attemptedMethodsForParent context parentExperimentId
  match preferred with
  | some methodId => if methodId ∈ attempted then none else cards.lookup methodId
  | none =>
    if family = "ensemble" then none
    else
      let eligible := cards.filter (·.1 ≠ "ensemble_diverse_residual_candidate")
      match (methodOrder context family).find? fun methodId =>
          methodId ∈ eligible.map Prod.fst ∧ methodId ∉ attempted with
      | some methodId => eligible.lookup methodId
      | none => ((sortedBy Prod.fst eligible).find? fun item => item.1 ∉ attempted).map Prod.snd

/-- `_best_experimental_parent`. -/
def bestExperimentalParent (eligible : List (ExperimentNodeView R)) : Option (ExperimentNodeView R) :=
  let experimental := eligible.filter fun node =>
    node.summary.parentExperimentId.isSome && node.primaryScore.isSome
  bestParent (if experimental.isEmpty then eligible else experimental)

/-- `_independent_choices`; families that were never tried come first. -/
def independentChoices (context : PlannerContext R) (eligible : List (ExperimentNodeView R)) (allowed : List String)
    (latestFamily reasonCode reason : String) (preferredParent : Option (ExperimentNodeView R)) :
    List (PolicyChoice R) :=
  let tried := (context.familyHistory.map fun summary => str summary.family).filter (· ≠ "")
  match preferredParent.or (bestExperimentalParent eligible) with
  | none => []
  | some parent =>
    let order := familyOrder context
    let ordered := (order.filter fun family => family ∈ allowed ∧ family ≠ latestFamily).insertionSort fun a b =>
      (a ∉ tried ∧ b ∈ tried) ∨ ((a ∈ tried ↔ b ∈ tried) ∧ order.idxOf a ≤ order.idxOf b)
    ordered.filterMap fun family =>
      (methodForFamily availableCapabilities context family none (some parent.experimentId) false).map fun card =>
        proposal parent family card "playbook" reasonCode reason

/-- `_next_independent_choice`. -/
def nextIndependentChoice (context : PlannerContext R) (eligible : List (ExperimentNodeView R))
    (allowed : List String) (latestFamily reasonCode reason : String)
    (preferredParent : Option (ExperimentNodeView R)) : Option (PolicyChoice R) :=
  (independentChoices availableCapabilities context eligible allowed latestFamily reasonCode reason
    preferredParent).head?

/-- `_blocked`. -/
def blocked (reasonCode reason : String) (phase : String := "playbook_gate") : PolicyChoice R where
  action := "blocked"
  parent := none
  family := none
  costTier := "low"
  phase
  reasonCode
  reason

/-- `_playbook_is_valid`; the schema fixes the version and the order of the rules. -/
def playbookIsValid (playbook : PlannerPlaybookSummary) : Bool :=
  playbook.familyOrder ≠ [] ∧ playbook.familyOrder.Nodup ∧
    ((playbook.methodOrder.get? "objective").getD []).head? = some "objective_pairwise_bpr"

/-- The routes of `choose` for a latest result that is measured or a no-op. -/
structure Routes (R : Type) where
  noOpChoices : PlannerContext R → List (ExperimentNodeView R) → List String → Option (List (PolicyChoice R))
  rules : PlannerContext R → List (ExperimentNodeView R) → List String → Option (PolicyChoice R)
  depthFirst : PlannerContext R → List (ExperimentNodeView R) → List String → PolicyChoice R
  rank : List (PolicyChoice R) → PlannerContext R → PolicyChoice R

/-- The latest experiment ended before it was evaluated. -/
def operationalFailure (summary : PlannerExperimentSummary R) : Bool :=
  normalized summary.status = "invalid" ∧ summary.primaryScore.isNone ∧ summary.metricSet.isNone

/-- The choice of `_playbook_choice` after a failure. -/
def failureChoice (context : PlannerContext R) (eligible : List (ExperimentNodeView R)) (allowed : List String)
    (latest : PlannerExperimentSummary R) : PolicyChoice R :=
  (nextIndependentChoice availableCapabilities context eligible allowed (str latest.family)
    "OPERATIONAL_FAILURE_UNTESTED"
    ("The latest experiment ended before verified evaluation; do not interpret it as research evidence and " ++
      "continue with an independent eligible mechanism.") none).getD
    (blocked "NO_ELIGIBLE_METHOD"
      "The failed operational attempt produced no research result and no independent method remains.")

/-- `_playbook_choice`. -/
def playbookChoice (routes : Routes R) (context : PlannerContext R) (eligible : List (ExperimentNodeView R))
    (allowed : List String) : Option (PolicyChoice R) :=
  match context.familyHistory.getLast? with
  | none => none
  | some latest =>
    if operationalFailure latest then some (failureChoice availableCapabilities context eligible allowed latest)
    else routes.rules context eligible allowed

/-- `_no_op_choices`, which looks at the latest result only. -/
def noOpChoices (routes : Routes R) (context : PlannerContext R) (eligible : List (ExperimentNodeView R))
    (allowed : List String) : Option (List (PolicyChoice R)) :=
  match context.familyHistory.getLast? with
  | none => none
  | some latest =>
    if normalized latest.status ≠ "no_op" then none else routes.noOpChoices context eligible allowed

/-- `SearchPolicy.choose`. -/
def choose (routes : Routes R) (context : PlannerContext R) : PolicyChoice R :=
  let eligible := eligibleParents context
  let allowed := allowedFamilies context
  if eligible.isEmpty then
    blocked "NO_ELIGIBLE_PARENT" "No verified full-fidelity parent is available in the planner context." "none"
  else if allowed.isEmpty then
    blocked "NO_LEGAL_FAMILY" "The frozen contract exposes no legal experiment family." "none"
  else if (methodCardMap context).entries.isEmpty then
    blocked "NO_METHOD_CARDS" "The planner context contains no validated method cards." "none"
  else if !playbookIsValid context.playbook then
    blocked "PLAYBOOK_INVALID" "The planner context contains an invalid improvement playbook." "none"
  else
    match noOpChoices routes context eligible allowed with
    | some [] =>
      blocked "NO_ELIGIBLE_METHOD"
        ("The latest candidate was a no-op and no legal reimplementation or independent method remains.")
    | some candidates => routes.rank candidates context
    | none =>
      (playbookChoice availableCapabilities routes context eligible allowed).getD
        (routes.depthFirst context eligible allowed)

variable {availableCapabilities}

/-- After a failure the policy takes the next independent method, whatever the other routes are. -/
lemma choose_of_failed {routes : Routes R} {context : PlannerContext R} {latest : PlannerExperimentSummary R}
    (parents : (eligibleParents context).isEmpty = false) (families : (allowedFamilies context).isEmpty = false)
    (cards : (methodCardMap context).entries.isEmpty = false) (playbook : playbookIsValid context.playbook = true)
    (last : context.familyHistory.getLast? = some latest) (failed : operationalFailure latest = true) :
    choose availableCapabilities routes context =
      failureChoice availableCapabilities context (eligibleParents context) (allowedFamilies context) latest := by
  have status : normalized latest.status ≠ "no_op" := by
    simp only [operationalFailure, decide_eq_true_eq] at failed
    rw [failed.1]
    decide
  have noOp : noOpChoices routes context (eligibleParents context) (allowedFamilies context) = none := by
    simp only [noOpChoices, last, ne_eq, status, not_false_eq_true, if_true]
  simp only [choose, parents, families, cards, playbook, noOp, playbookChoice, last, failed, Bool.false_eq_true,
    Bool.not_true, if_false, if_true, Option.getD_some]

end Policy

/-- The proposal that the provider builds from a choice of the policy. -/
structure Selects (hash : DuplicatePayload → String) (choice : PolicyChoice ℚ) (spec : ExperimentSpec)
    (planned : PlannedMethods) : Prop where
  proposes : choice.action = "propose"
  parent : spec.parentExperimentId = choice.parent.map (·.experimentId)
  family : choice.family = some spec.family
  methods : planned.methodCardIds = choice.methodCardId.toList
  components : planned.componentExperimentIds = choice.componentExperimentIds
  key : spec.duplicateKey = hash (duplicatePayload spec.toResearchProposal planned)

section Scenario
open Scenario

/-- A digest that keeps the fields of the payload apart. -/
def joined (payload : DuplicatePayload) : String :=
  "/".intercalate ([payload.parentCommitSha, str payload.parentExperimentId, payload.family,
    payload.legacyChangeSummary] ++ payload.methodCardIds ++ payload.componentExperimentIds)

/-- A method of a family, tried from the baseline. -/
def methodSpec (x family methodId : String) : ExperimentSpec :=
  { spec x with
    parentExperimentId := some "baseline"
    family
    duplicateKey := joined
      { parentCommitSha := "trusted", parentExperimentId := some "baseline", family, methodCardIds := [methodId]
        componentExperimentIds := [], legacyChangeSummary := "" } }

/-- The only method of a family. -/
def methodOf (family : String) : String :=
  if family = "objective" then "objective_pairwise_bpr" else "model_lgbm_lambdarank_blend"

/-- Two families with a method each. -/
def twoFamilies : PlannerSources where
  contractSummary :=
    { allowedFamilies := ["objective", "model"], allowedData := ["user_id"], activeProhibitions := []
      predictionChangeNoOpThreshold := 0 }
  methodCards := [candidateCard "objective_pairwise_bpr" "objective",
    candidateCard "model_lgbm_lambdarank_blend" "model"]
  playbook :=
    { familyOrder := ["objective", "model"]
      methodOrder := (Dict.empty.set "objective" ["objective_pairwise_bpr"]).set "model"
        ["model_lgbm_lambdarank_blend"] }
  describe spec :=
    { planned := { methodCardIds := [methodOf spec.family] }, predictionChange := 0, actualCost := .medium }
  baselinePredictionChange := 0

/-- A run in which the coder fails on both methods. -/
def failedMethodsRun : List Event := record
  [ (none, .runStarted (contract 2)),
    (some 1, .contractVerified { contractSha256 := "contract", evaluatorSha256 := "evaluator" }),
    (some 2, .baselineVerified
      { commitSha := "trusted", metricSet := metrics (1 / 2), evaluation := baselineEvaluation }),
    (some 3, .contextCreated { contextId := "planner", role := .planner, experimentId := none }),
    (some 4, .experimentProposed (methodSpec "exp1" "objective" "objective_pairwise_bpr")),
    (some 5, .contextCreated { contextId := "coder", role := .coder, experimentId := some "exp1" }),
    (some 6, failed "exp1" 1 .coding), (some 7, recovery "exp1" 7 1 2 .abandon),
    (some 8, .contextCreated { contextId := "planner", role := .planner, experimentId := none }),
    (some 9, .experimentProposed (methodSpec "exp2" "model" "model_lgbm_lambdarank_blend")),
    (some 10, .contextCreated { contextId := "coder", role := .coder, experimentId := some "exp2" }),
    (some 11, failed "exp2" 1 .coding), (some 12, recovery "exp2" 12 1 2 .abandon),
    (some 13, .contextCreated { contextId := "planner", role := .planner, experimentId := none }) ]

/-- Routes that are not taken after a failure. -/
def otherRoutes : Routes ℚ where
  noOpChoices _ _ _ := none
  rules _ _ _ := none
  depthFirst _ _ _ := blocked "NO_ELIGIBLE_METHOD" "none"
  rank _ _ := blocked "NO_ELIGIBLE_METHOD" "none"

/-- What the context of a ledger is computed to satisfy. -/
lemma of_built {sources : PlannerSources} {es : List Event} {context : PlannerContext ℚ}
    {P : PlannerContext ℚ → Bool} (built : buildPlanner sources es = some context)
    (holds : (buildPlanner sources es).any P = true) : P context = true := by
  rwa [built, Option.any_some] at holds

/-- The policy selects the first method again. -/
lemma failedMethodsRun_selects {context : PlannerContext ℚ}
    (built : buildPlanner twoFamilies failedMethodsRun = some context) :
    Selects joined (choose (fun _ => []) otherRoutes context)
      (methodSpec "exp3" "objective" "objective_pairwise_bpr") { methodCardIds := ["objective_pairwise_bpr"] } := by
  have parents := of_built (P := fun c => !(eligibleParents c).isEmpty) built (by decide +kernel)
  have families := of_built (P := fun c => !(allowedFamilies c).isEmpty) built (by decide +kernel)
  have cards := of_built (P := fun c => !(methodCardMap c).entries.isEmpty) built (by decide +kernel)
  have playbook := of_built (P := fun c => playbookIsValid c.playbook) built (by decide +kernel)
  have chosen := of_built (P := fun c => c.familyHistory.getLast?.any fun latest => operationalFailure latest &&
    let choice := failureChoice (fun _ => []) c (eligibleParents c) (allowedFamilies c) latest
    choice.action = "propose" && choice.parent.map (·.experimentId) = some "baseline" &&
      choice.family = some "objective" && choice.methodCardId = some "objective_pairwise_bpr" &&
      choice.componentExperimentIds = []) built (by decide +kernel)
  simp only [Bool.not_eq_true'] at parents families cards
  obtain ⟨latest, last, chosen⟩ := (Option.any_eq_true _ _).mp chosen
  simp only [Bool.and_eq_true, decide_eq_true_eq] at chosen
  obtain ⟨failed, ⟨⟨⟨proposes, parent⟩, family⟩, method⟩, components⟩ := chosen
  rw [choose_of_failed parents families cards playbook last failed]
  exact ⟨proposes, parent.symm, family, by rw [method]; rfl, components.symm, rfl⟩

/-- A retry that the ledger authorises is refused by the planner and by the round. -/
theorem failed_attempt_refused : ¬ ∀ (es : List Event) (s : RunState) (sources : PlannerSources)
    (context : PlannerContext ℚ) (routes : Routes ℚ) (availableCapabilities : PlannerContext ℚ → List String)
    (hash : DuplicatePayload → String) (spec : ExperimentSpec) (planned : PlannedMethods),
    ValidLedger es → project es = .ok s → buildPlanner sources es = some context →
    Selects hash (choose availableCapabilities routes context) spec planned → spec.duplicateKey ≠ "" →
    (∃ earlier ∈ proposals es, earlier.duplicateKey = spec.duplicateKey) →
    LayersAgree es s hash context (choose availableCapabilities routes context) spec planned := by
  intro claim
  have v : ValidLedger failedMethodsRun := .of_check (by decide +kernel)
  obtain ⟨s, projected⟩ : ∃ s, project failedMethodsRun = .ok s := by
    obtain ⟨r, hr⟩ := v.replay
    exact ⟨_, project_ok.mpr ⟨r, hr, rfl⟩⟩
  obtain ⟨context, built⟩ : ∃ context, buildPlanner twoFamilies failedMethodsRun = some context :=
    Option.isSome_iff_exists.mp (by decide +kernel)
  have latest := of_built (P := fun c => c.familyHistory.getLast?.any fun latest => lower latest.status ≠ "no_op")
    built (by decide +kernel)
  obtain ⟨again, planned, selected, nonempty, used, admits⟩ : ∃ (again : ExperimentSpec) (planned : PlannedMethods),
      Selects joined (choose (fun _ => []) otherRoutes context) again planned ∧ again.duplicateKey ≠ "" ∧
        (∃ earlier ∈ proposals failedMethodsRun, earlier.duplicateKey = again.duplicateKey) ∧
        (project failedMethodsRun).toOption.any (ledgerAdmits failedMethodsRun · again) = true :=
    ⟨methodSpec "exp3" "objective" "objective_pairwise_bpr", { methodCardIds := ["objective_pairwise_bpr"] },
      failedMethodsRun_selects built, by decide +kernel, by decide +kernel, by decide +kernel⟩
  rw [projected] at admits
  have agree := claim failedMethodsRun s twoFamilies context otherRoutes (fun _ => []) joined again planned v
    projected built selected nonempty used
  have accepted := agree.validator.mp admits
  rw [reportsDuplicate_used built nonempty used, authorizedReimplementation_latest latest] at accepted
  exact absurd accepted (by decide)

/-- While the first experiment runs, no layer takes its method again. -/
theorem duplicate_layers_agree_running : ∃ s context again planned, project (failedMethodsRun.take 5) = .ok s ∧
    buildPlanner twoFamilies (failedMethodsRun.take 5) = some context ∧
    LayersAgree (failedMethodsRun.take 5) s joined context (choose (fun _ => []) otherRoutes context) again
      planned := by
  have v : ValidLedger (failedMethodsRun.take 5) := .of_check (by decide +kernel)
  obtain ⟨s, projected⟩ : ∃ s, project (failedMethodsRun.take 5) = .ok s := by
    obtain ⟨r, hr⟩ := v.replay
    exact ⟨_, project_ok.mpr ⟨r, hr, rfl⟩⟩
  obtain ⟨context, built⟩ : ∃ context, buildPlanner twoFamilies (failedMethodsRun.take 5) = some context :=
    Option.isSome_iff_exists.mp (by decide +kernel)
  have latest := of_built (P := fun c => c.familyHistory.getLast?.any fun latest => lower latest.status ≠ "no_op")
    built (by decide +kernel)
  obtain ⟨again, nonempty, used, proposed⟩ : ∃ again : ExperimentSpec, again.duplicateKey ≠ "" ∧
      (∃ earlier ∈ proposals (failedMethodsRun.take 5), earlier.duplicateKey = again.duplicateKey) ∧
      (project (failedMethodsRun.take 5)).toOption.any (fun s =>
        (holders s.experiments again.duplicateKey).any fun n => decide (n.status = .proposed)) = true :=
    ⟨methodSpec "exp3" "objective" "objective_pairwise_bpr", by decide +kernel, by decide +kernel, by decide +kernel⟩
  rw [projected] at proposed
  obtain ⟨n, held, status⟩ := List.any_eq_true.mp proposed
  rw [decide_eq_true_eq] at status
  refine ⟨s, context, again, { methodCardIds := ["objective_pairwise_bpr"] }, projected, built,
    (duplicate_layers_agree_iff v projected built nonempty used).mpr ⟨.inr ⟨n, held, ?_, ?_⟩, ?_⟩⟩
  · rw [status]
    decide
  · rw [status]
    decide
  · exact authorizedReimplementation_latest latest

end Scenario


end TacoRank.Research
