import TacoRank.Orchestrator.Confirmations
import TacoRank.Orchestrator.LanesCommute

/-!
# Convergence counters

Port of `convergence_pressure` and `stop_decision` in `orchestrator/convergence.py`. The stop rule folds
over the events on its own, the projection counts for the planner and the reports. Both move the same
incumbent, but only the stop rule counts a terminal decision without a trusted full evaluation, so the two
agree exactly on the ledgers that have none (`convergence_counters_agree`).
-/

namespace TacoRank
open Lib Lib.Result

/-- The variables of `convergence_pressure`. -/
structure Pressure where
  incumbent : Option ℚ := none
  nonImproving : Nat := 0
  evaluations : Dict EventId EvaluationResult := .empty

/-- The score that `convergence_pressure` compares, if the cited evaluation is trusted. -/
def Pressure.trustedScore (s : Pressure) (decision : ExperimentDecision) : Option ℚ :=
  if decision.fidelityCompleted = .full then
    (decision.evaluationEventId.bind s.evaluations.get?).bind fun result =>
      if result.fidelity = .full ∧ result.population = .publicValidation ∧
          result.trust.verdict = .accepted then
        some result.metricSet.primaryScore
      else
        none
  else
    none

/-- `incumbent is None or score > incumbent + config.convergence_epsilon`. -/
def Pressure.improves (config : RunConfig) (s : Pressure) (score : ℚ) : Bool :=
  match s.incumbent with
  | none => true
  | some incumbent => incumbent + config.convergenceEpsilon < score

/-- The body of the loop of `convergence_pressure`. -/
def Pressure.step (config : RunConfig) (s : Pressure) (event : Event) : Pressure :=
  match event.payload with
  | .baselineVerified payload => { s with incumbent := some payload.metricSet.primaryScore }
  | .evaluationCompleted result => { s with evaluations := s.evaluations.set event.eventId result }
  | .experimentDecided decision =>
    if decision.decision = .promote then s
    else if decision.decision = .invalid then s
    else match (s.trustedScore decision).filter (s.improves config) with
      | some score => { s with incumbent := some score, nonImproving := 0 }
      | none => { s with nonImproving := s.nonImproving + 1 }
  | _ => s

/-- The variables of `convergence_pressure` after its loop. -/
def pressureOf (config : RunConfig) (events : List Event) : Pressure :=
  events.foldl (Pressure.step config) {}

/-- `convergence_pressure`. -/
def convergencePressure (events : List Event) (config : RunConfig) : Nat :=
  (pressureOf config events).nonImproving

/-- `stop_decision`. -/
def stopDecision (state : RunState) (events : List Event) (config : RunConfig)
    (fatalIntegrity noLegalProposal : Bool) : Option StopDecision :=
  if fatalIntegrity then
    some fatalIntegrityDecision
  else if config.maxExperiments ≤ state.experimentsProposed then
    some ⟨"experiment_budget", "The frozen experiment budget is exhausted."⟩
  else (runtimeBudgetDecision state config).orElse fun _ =>
    let pressure := convergencePressure events config
    if config.convergencePatience ≤ pressure then
      some ⟨"converged", "No trusted terminal full-fidelity iteration improved the incumbent by " ++
        "more than epsilon for " ++ toString pressure ++ " consecutive iterations."⟩
    else if noLegalProposal then
      some ⟨"no_legal_proposal", "No legal non-duplicate proposal remains."⟩
    else
      none

/-! ### The node of a decision -/

/-- What an evaluation writes to a node. -/
def ExperimentNode.measurement (n : ExperimentNode) : Option MetricSet × Option TrustAssessment :=
  (n.metricSet, n.trust)

lemma ExperimentNode.executionFinished_measurement (n : ExperimentNode) (res : RunResult) :
    (n.executionFinished res).measurement = n.measurement := by
  unfold executionFinished
  split <;> rfl

lemma Reducer.recoveryNode_measurement (r : Reducer) (id d n) :
    (r.recoveryNode id d n).measurement = n.measurement := by
  unfold recoveryNode ExperimentNode.recoveryCounted
  cases d.action <;> rfl

lemma ExperimentNode.decided_measurement (n : ExperimentNode) (id d) :
    (n.decided id d).measurement = n.measurement := by
  unfold decided
  split
  · split <;> rfl
  · rfl

section Measured
variable {es : List Event} {x : String} {e : Event}

/-- The newest evaluation of an experiment. -/
def newestEvaluation (es : List Event) (x : String) : Option EvaluationResult :=
  (lastForExperiment .evaluationCompleted es x).map Prod.snd

/-- The node of an experiment carries the metrics and the trust of its newest evaluation. -/
structure Measured (es : List Event) (x : String) (n : Option ExperimentNode) : Prop where
  absent : n = none → newestEvaluation es x = none
  present : ∀ m, n = some m → m.measurement =
    ((newestEvaluation es x).map fun result => result.metricSet,
      (newestEvaluation es x).map fun result => result.trust)

lemma newestEvaluation_snoc (silent : EventKind.evaluationCompleted.ofExperiment x e = none) :
    newestEvaluation (es ++ [e]) x = newestEvaluation es x := by
  rw [newestEvaluation, lastForExperiment_snoc, silent, Option.none_or]
  rfl

/-- An event other than an evaluation keeps the measurements. -/
lemma Measured.keep {n m : ExperimentNode} (h : Measured es x (some n))
    (silent : EventKind.evaluationCompleted.read e.payload = none)
    (same : m.measurement = n.measurement) : Measured (es ++ [e]) x (some m) := by
  refine ⟨fun none => (by cases none), ?_⟩
  rintro _ ⟨⟩
  rw [newestEvaluation_snoc (EventKind.ofExperiment_none silent), same, h.present n rfl]

lemma NodeStep.measured {r : Reducer} {n n' : Option ExperimentNode} (step : NodeStep es r e x n n')
    (h : Measured es x n) : Measured (es ++ [e]) x n' := by
  cases step with
  | frame other =>
    have same : newestEvaluation (es ++ [e]) x = newestEvaluation es x :=
      newestEvaluation_snoc (EventKind.ofExperiment_frame other)
    exact ⟨fun none => same.trans (h.absent none), fun m found => by rw [same, h.present m found]⟩
  | proposed payload =>
    have same : newestEvaluation (es ++ [e]) x = newestEvaluation es x :=
      newestEvaluation_snoc (EventKind.ofExperiment_none (by rw [payload]; rfl))
    refine ⟨fun none => (by cases none), ?_⟩
    rintro _ ⟨⟩
    rw [same, h.absent rfl]
    rfl
  | patchCreated payload => exact h.keep (by rw [payload]; rfl) rfl
  | patchChecked payload => exact h.keep (by rw [payload]; rfl) rfl
  | executionStarted payload => exact h.keep (by rw [payload]; rfl) rfl
  | executionFinished payload =>
    exact h.keep (by rw [payload]; rfl) (ExperimentNode.executionFinished_measurement ..)
  | adapterFailed payload => exact h.keep (by rw [payload]; rfl) rfl
  | recoveryDecided payload =>
    exact h.keep (by rw [payload]; rfl) (Reducer.recoveryNode_measurement ..)
  | outputChecked payload => exact h.keep (by rw [payload]; rfl) rfl
  | evaluationCompleted payload owner =>
    refine ⟨fun none => (by cases none), ?_⟩
    rintro _ ⟨⟩
    rw [newestEvaluation, lastForExperiment_snoc, EventKind.ofExperiment_self (by rw [payload]; rfl) owner]
    rfl
  | experimentDecided payload =>
    exact h.keep (by rw [payload]; rfl) (ExperimentNode.decided_measurement ..)

lemma ValidLedger.measured {r : Reducer} (v : ValidLedger es) (hr : TacoRank.replay es = .ok r) :
    Measured es x (r.state.experiments.get? x) := by
  refine v.node_induct (P := fun es n => Measured es x n) ⟨fun _ => rfl, fun m found => (by cases found)⟩ ?_ hr
  intro es e r n n' _ _ _ _ step ih
  exact step.measured ih

end Measured

/-! ### The scores of a decision -/

section Scores
variable {config : RunConfig} {es pre post : List Event} {e : Event} {d : ExperimentDecision} {r r' : Reducer}
  {p : Pressure}

/-- The loop has stored the evaluations of the ledger under their ids. -/
def Pressure.Stores (p : Pressure) (es : List Event) : Prop :=
  ∀ f ∈ es, ∀ result, f.payload = .evaluationCompleted result → p.evaluations.get? f.eventId = some result

lemma pressureOf_snoc : pressureOf config (es ++ [e]) = (pressureOf config es).step config e := by
  rw [pressureOf, List.foldl_append]
  rfl

lemma Pressure.step_evaluations : (p.step config e).evaluations =
    match e.payload with
    | .evaluationCompleted result => p.evaluations.set e.eventId result
    | _ => p.evaluations := by
  unfold step
  cases e.payload with
  | experimentDecided =>
    dsimp only
    split
    · rfl
    · split
      · rfl
      · split <;> rfl
  | _ => rfl

lemma ValidLedger.stores (v : ValidLedger es) : (pressureOf config es).Stores es := by
  induction es using List.reverseRecOn with
  | nil =>
    intro f mem
    cases mem
  | append_singleton es e ih =>
    intro f mem result payload
    rw [pressureOf_snoc, Pressure.step_evaluations]
    by_cases same : f.eventId = e.eventId
    · obtain rfl : f = e := v.eq_of_id mem (by simp) same
      simp only [payload]
      exact Dict.get?_set_self ..
    · have old : f ∈ es := (List.mem_append.mp mem).resolve_right fun new =>
        same (congrArg Event.eventId (List.mem_singleton.mp new))
      have stored := ih v.front f old result payload
      split
      · rwa [Dict.get?_set_ne _ _ same]
      · exact stored

/-- A decision cites a trusted full evaluation that is on the ledger. -/
def OnTrustedFull (pre : List Event) (d : ExperimentDecision) : Prop :=
  ∃ f ∈ pre, ∃ result, f.payload = .evaluationCompleted result ∧ d.evaluationEventId = some f.eventId ∧
    result.fidelity = .full ∧ result.trust.verdict = .accepted

/-- Both folds find the same score for a decision, and find one exactly when it is on a trusted full
evaluation. -/
lemma ValidLedger.decision_scores (v : ValidLedger (pre ++ e :: post)) (hr : TacoRank.replay pre = .ok r)
    (payload : e.payload = .experimentDecided d) (stores : p.Stores pre) :
    (∃ q, r.decidedScore e = some q ∧ p.trustedScore d = some q ∧ OnTrustedFull pre d) ∨
      (r.decidedScore e = none ∧ p.trustedScore d = none ∧ ¬ OnTrustedFull pre d) := by
  obtain ⟨_, n, hr', node, evidence⟩ := v.decision_inv payload
  cases hr.symm.trans hr'
  have measured := (v.front.measured hr).present n node
  have score : r.decidedScore e = convergenceScore n d := by
    simp only [Reducer.decidedScore, payload, EventPayload.decision, Option.bind_some, node]
  rw [score]
  cases evidence with
  | smoke fidelity _ uncited =>
    refine .inr ⟨?_, ?_, ?_⟩
    · unfold convergenceScore
      split
      · exact if_neg (by simp [fidelity])
      · rfl
    · exact if_neg (by simp [fidelity])
    · rintro ⟨f, _, _, _, cites, _⟩
      rw [uncited] at cites
      cases cites
  | @evaluated found fidelity _ last cited completed =>
    obtain ⟨f, result⟩ := found
    have newest : newestEvaluation pre d.experimentId = some result := by
      rw [newestEvaluation, last]
      rfl
    rw [newest] at measured
    obtain ⟨metrics, trust⟩ := Prod.mk.inj measured
    have mem : f ∈ pre := lastForExperiment_mem last
    have evaluated := (lastForExperiment_payload last).1
    have stored : d.evaluationEventId.bind p.evaluations.get? = some result := by
      rw [cited]
      exact stores f mem result evaluated
    have projected : convergenceScore n d =
        if result.fidelity = .full ∧ result.trust.verdict = .accepted then
          some result.metricSet.primaryScore
        else none := by
      unfold convergenceScore
      simp only [metrics, trust, Option.map_some, completed]
    by_cases trusted : result.fidelity = .full ∧ result.trust.verdict = .accepted
    · refine .inl ⟨result.metricSet.primaryScore, ?_, ?_, f, mem, result, evaluated, cited, trusted⟩
      · rw [projected, if_pos trusted]
      · obtain ⟨a, b, rfl⟩ := List.append_of_mem mem
        have site := v.front.evaluationSite evaluated
        have population : result.population = .publicValidation := by
          rcases site with ⟨proxy, _⟩ | ⟨_, population⟩
          · rw [trusted.1] at proxy
            cases proxy
          · exact population
        rw [Pressure.trustedScore, if_pos (completed.trans trusted.1), stored]
        exact if_pos ⟨trusted.1, population, trusted.2⟩
    · refine .inr ⟨?_, ?_, ?_⟩
      · rw [projected, if_neg trusted]
      · rw [Pressure.trustedScore, stored]
        split
        · exact if_neg fun all => trusted ⟨all.1, all.2.2⟩
        · rfl
      · rintro ⟨g, listed, result', written, cites, full, accepted⟩
        obtain rfl : g = f := v.front.eq_of_id listed mem (Option.some.inj (cites.symm.trans cited))
        rw [evaluated] at written
        cases written
        exact trusted ⟨full, accepted⟩

end Scores

/-! ### Decisions of the layer -/

/-- The canonical form of a decision that the decision layer makes on the evaluation that it cites. -/
def ByLayer (pre : List Event) (d : ExperimentDecision) : Prop :=
  ∃ f ∈ pre, ∃ result domain context decision c lesson, f.payload = .evaluationCompleted result ∧
    d.evaluationEventId = some f.eventId ∧ SameEvidence domain result.toEvaluationFields ∧
    Evaluation.decide domain context = .ok decision ∧ decision.toCanonical = .ok c ∧
    d = { c with lessonCandidate := lesson }

/-- Every decision on an evaluation is one of the decision layer. -/
def LayerDecides (es : List Event) : Prop :=
  ∀ pre e post d, es = pre ++ e :: post → e.payload = .experimentDecided d →
    d.fidelityCompleted ≠ .smoke → ByLayer pre d

section Layer
variable {pre post : List Event} {e : Event} {d : ExperimentDecision}

lemma toCanonical_decision {decision : Evaluation.ExperimentDecision} {c : ExperimentDecision}
    (canonical : decision.toCanonical = .ok c) : c.decision = decision.decision := by
  unfold Evaluation.ExperimentDecision.toCanonical at canonical
  dsimp only at canonical
  split at canonical
  · cases canonical
    rfl
  · cases canonical

/-- The decision layer calls no trusted full evaluation invalid. -/
lemma decide_ne_invalid {domain : Evaluation.EvaluationResult} {context : Evaluation.DecisionContext}
    {decision : Evaluation.ExperimentDecision} (decided : Evaluation.decide domain context = .ok decision)
    (full : domain.fidelity = .full) (population : domain.population = .publicValidation)
    (accepted : domain.trust.verdict = .accepted) : decision.decision ≠ .invalid := by
  unfold Evaluation.decide at decided
  by_cases seeds : context.seedEvidenceEventIds = domain.seedEvidenceEventIds
  · rw [if_neg (not_not_intro seeds)] at decided
    simp only [full, population, accepted, reduceCtorEq, or_self, if_false, ne_eq, not_true_eq_false] at decided
    cases decided
    unfold Evaluation.decideFull
    dsimp only
    split
    · split <;> simp [Evaluation.decision]
    · split
      · split <;> simp [Evaluation.decision]
      · split
        · simp [Evaluation.decision]
        · simp [Evaluation.decideAgainst, Evaluation.decision, accepted]
  · rw [if_pos seeds] at decided
    cases decided

lemma ByLayer.ne_invalid (v : ValidLedger (pre ++ e :: post)) (layer : ByLayer pre d)
    (trusted : OnTrustedFull pre d) : d.decision ≠ .invalid := by
  obtain ⟨f, mem, result, domain, context, decision, c, lesson, evaluated, cited, same, decided, canonical,
    written⟩ := layer
  obtain ⟨g, listed, result', evaluated', cites, full, accepted⟩ := trusted
  obtain rfl : g = f := v.front.eq_of_id listed mem (Option.some.inj (cites.symm.trans cited))
  rw [evaluated] at evaluated'
  cases evaluated'
  have population : result.population = .publicValidation := by
    obtain ⟨a, b, rfl⟩ := List.append_of_mem mem
    rcases v.front.evaluationSite evaluated with ⟨proxy, _⟩ | ⟨_, population⟩
    · rw [full] at proxy
      cases proxy
    · exact population
  have kind : d.decision = c.decision := by rw [written]
  rw [kind, toCanonical_decision canonical]
  exact decide_ne_invalid decided (same.fidelity.trans full) (same.population.trans population)
    (same.verdict.trans accepted)

end Layer

/-! ### One step -/

section Step
variable {config : RunConfig} {es : List Event} {e : Event} {r r' : Reducer} {p : Pressure}

/-- An event is no terminal decision that only the stop rule counts. -/
def Counted (pre : List Event) (e : Event) : Prop :=
  ∀ d, e.payload = .experimentDecided d → d.decision ≠ .promote → d.decision ≠ .invalid → OnTrustedFull pre d

/-- The reported counter. -/
def Reducer.counter (r : Reducer) : Nat := r.state.consecutiveNonImprovingFullEvaluations

lemma improves_eq (incumbent : p.incumbent = r.convergenceIncumbent)
    (epsilon : r.state.convergenceEpsilon = config.convergenceEpsilon) (q : ℚ) :
    p.improves config q = r.improves q := by
  cases found : r.convergenceIncumbent with
  | none => simp [Pressure.improves, Reducer.improves, incumbent, found]
  | some best => simp [Pressure.improves, Reducer.improves, incumbent, epsilon, found]

/-- What a decision does to the projection, in terms of the score that it finds. -/
lemma settle_decided {d : ExperimentDecision} (payload : e.payload = .experimentDecided d)
    (step : r.step e = .ok r') (terminal : d.decision ≠ .promote) :
    (r'.convergenceIncumbent, r'.counter) =
      match (r.decidedScore e) with
      | some q => if r.improves q then (some q, 0) else (r.convergenceIncumbent, r.counter + 1)
      | none => (r.convergenceIncumbent, r.counter) := by
  have lasting := Reducer.step_lasting step
  have incumbent := congrArg Prod.snd lasting
  have counter := congrArg (fun s => s.1.consecutiveNonImprovingFullEvaluations) lasting
  unfold Event.settle at incumbent counter
  simp only [payload, if_neg terminal] at incumbent counter
  cases score : r.decidedScore e with
  | none =>
    rw [score] at incumbent counter
    exact Prod.ext_iff.mpr ⟨incumbent, counter⟩
  | some q =>
    simp only [score, Option.elim_some] at incumbent counter ⊢
    by_cases better : r.improves q = true
    · have better' : ({ state := r.lasting.1, convergenceIncumbent := r.lasting.2 } : Reducer).improves q = true :=
        better
      rw [if_pos better'] at incumbent counter
      rw [if_pos better]
      exact Prod.ext_iff.mpr ⟨incumbent, counter⟩
    · have other : ¬ ({ state := r.lasting.1, convergenceIncumbent := r.lasting.2 } : Reducer).improves q = true :=
        better
      rw [if_neg other] at incumbent counter
      rw [if_neg better]
      exact Prod.ext_iff.mpr ⟨incumbent, counter⟩

lemma RunState.baselineVerified_counter (s : RunState) (b : BaselineVerified) :
    (s.baselineVerified b).consecutiveNonImprovingFullEvaluations = s.consecutiveNonImprovingFullEvaluations := by
  unfold baselineVerified
  dsimp only
  split <;> rfl

lemma RunState.baselineVerified_epsilon (s : RunState) (b : BaselineVerified) :
    (s.baselineVerified b).convergenceEpsilon = s.convergenceEpsilon := by
  unfold baselineVerified
  dsimp only
  split <;> rfl

variable (config) in
/-- Other events move both incumbents alike and neither counter. -/
lemma step_other (undecided : ∀ d, e.payload = .experimentDecided d → d.decision = .promote)
    (step : r.step e = .ok r') (incumbent : p.incumbent = r.convergenceIncumbent) :
    (p.step config e).incumbent = r'.convergenceIncumbent ∧
      (p.step config e).nonImproving = p.nonImproving ∧ r'.counter = r.counter := by
  have lasting := Reducer.step_lasting step
  have incumbent' : r'.convergenceIncumbent = _ := congrArg Prod.snd lasting
  have counter : r'.counter = _ := congrArg (fun s => s.1.consecutiveNonImprovingFullEvaluations) lasting
  rw [incumbent', counter]
  unfold Event.settle Pressure.step
  cases payload : e.payload with
  | experimentDecided d =>
    have promote := undecided d payload
    dsimp only
    rw [if_pos promote, if_pos promote]
    exact ⟨incumbent, rfl, rfl⟩
  | baselineVerified b =>
    exact ⟨rfl, rfl, RunState.baselineVerified_counter ..⟩
  | _ => exact ⟨incumbent, rfl, rfl⟩

/-- A terminal decision moves both incumbents alike; the counters stay together unless only the stop rule
counts it. -/
lemma step_decided {d : ExperimentDecision} (v : ValidLedger (es ++ [e])) (hr : replay es = .ok r)
    (step : r.step e = .ok r') (payload : e.payload = .experimentDecided d) (terminal : d.decision ≠ .promote)
    (stores : p.Stores es) (incumbent : p.incumbent = r.convergenceIncumbent)
    (epsilon : r.state.convergenceEpsilon = config.convergenceEpsilon)
    (layer : d.fidelityCompleted ≠ .smoke → ByLayer es d) :
    (p.step config e).incumbent = r'.convergenceIncumbent ∧
      (¬ Counted es e → (p.step config e).nonImproving = p.nonImproving + 1 ∧ r'.counter = r.counter) ∧
      (Counted es e → p.nonImproving = r.counter → (p.step config e).nonImproving = r'.counter) := by
  have settled := settle_decided payload step terminal
  rcases v.decision_scores hr payload stores with ⟨q, projected, folded, trusted⟩ | ⟨projected, folded, untrusted⟩
  · have decided : d.fidelityCompleted ≠ .smoke := by
      intro smoke
      rw [Pressure.trustedScore, smoke] at folded
      cases folded
    have valid := (layer decided).ne_invalid v trusted
    have counted : Counted es e := by
      intro d' written _ _
      rw [payload] at written
      cases written
      exact trusted
    rw [projected] at settled
    have moved : p.step config e = if p.improves config q then { p with incumbent := some q, nonImproving := 0 }
        else { p with nonImproving := p.nonImproving + 1 } := by
      unfold Pressure.step
      rw [payload]
      dsimp only
      rw [if_neg terminal, if_neg valid, folded, Option.filter_some]
      by_cases better : p.improves config q = true
      · rw [if_pos better, if_pos better]
      · rw [if_neg better, if_neg better]
    rw [moved, improves_eq incumbent epsilon]
    dsimp only at settled
    split at settled
    next better =>
      obtain ⟨incumbent', counter⟩ := Prod.mk.inj settled
      rw [if_pos better, incumbent', counter]
      exact ⟨rfl, fun uncounted => absurd counted uncounted, fun _ _ => rfl⟩
    next other =>
      obtain ⟨incumbent', counter⟩ := Prod.mk.inj settled
      rw [if_neg other, incumbent', counter]
      exact ⟨incumbent, fun uncounted => absurd counted uncounted, fun _ same => congrArg (· + 1) same⟩
  · rw [projected] at settled
    obtain ⟨incumbent', counter⟩ := Prod.mk.inj settled
    rw [incumbent', counter]
    unfold Pressure.step
    rw [payload]
    dsimp only
    rw [if_neg terminal]
    split
    next invalid =>
      refine ⟨incumbent, fun uncounted => absurd ?_ uncounted, fun _ same => same⟩
      intro d' written _ valid
      rw [payload] at written
      cases written
      exact absurd invalid valid
    next valid =>
      rw [folded]
      refine ⟨incumbent, fun _ => ⟨rfl, rfl⟩, fun counted => ?_⟩
      exact absurd (counted d payload terminal valid) untrusted

/-- Every event moves both incumbents alike; the counters stay together unless only the stop rule counts
it. -/
lemma step_counts (v : ValidLedger (es ++ [e])) (hr : replay es = .ok r) (step : r.step e = .ok r')
    (stores : p.Stores es) (incumbent : p.incumbent = r.convergenceIncumbent)
    (epsilon : es ≠ [] → r.state.convergenceEpsilon = config.convergenceEpsilon)
    (layer : ∀ d, e.payload = .experimentDecided d → d.fidelityCompleted ≠ .smoke → ByLayer es d) :
    (p.step config e).incumbent = r'.convergenceIncumbent ∧
      (¬ Counted es e → (p.step config e).nonImproving = p.nonImproving + 1 ∧ r'.counter = r.counter) ∧
      (Counted es e → p.nonImproving = r.counter → (p.step config e).nonImproving = r'.counter) := by
  by_cases terminal : ∃ d, e.payload = .experimentDecided d ∧ d.decision ≠ .promote
  · obtain ⟨d, payload, terminal⟩ := terminal
    have started : es ≠ [] := by
      rintro rfl
      have type := v.accepted.2
      rw [payload] at type
      cases type
    exact step_decided v hr step payload terminal stores incumbent (epsilon started) (layer d payload)
  · have undecided : ∀ d, e.payload = .experimentDecided d → d.decision = .promote := fun d payload =>
      not_not.mp fun other => terminal ⟨d, payload, other⟩
    obtain ⟨same, kept, counter⟩ := step_other config undecided step incumbent
    refine ⟨same, fun uncounted => absurd ?_ uncounted, fun _ equal => (kept.trans equal).trans counter.symm⟩
    exact fun d payload promote => absurd (undecided d payload) promote

lemma step_epsilon (later : e.payload.type ≠ .runStarted) (step : r.step e = .ok r') :
    r'.state.convergenceEpsilon = r.state.convergenceEpsilon := by
  have lasting := Reducer.step_lasting step
  have epsilon : r'.state.convergenceEpsilon = _ := congrArg (fun s => s.1.convergenceEpsilon) lasting
  rw [epsilon]
  unfold Event.settle
  cases payload : e.payload with
  | runStarted => exact absurd (by rw [payload]; rfl) later
  | baselineVerified b => exact RunState.baselineVerified_epsilon ..
  | experimentDecided d =>
    dsimp only
    split
    · rfl
    · cases r.decidedScore e with
      | none => rfl
      | some q =>
        dsimp only [Option.elim_some]
        split <;> rfl
  | _ => rfl

/-- The tolerance of a run is that of its contract. -/
lemma ValidLedger.epsilon (v : ValidLedger es) (hr : TacoRank.replay es = .ok r) (started : es ≠ []) :
    ∃ c, contractOf es = some c ∧ r.state.convergenceEpsilon = c.convergenceEpsilon := by
  refine v.run_induct (I := fun es r => es ≠ [] → ∃ c, contractOf es = some c ∧
    r.state.convergenceEpsilon = c.convergenceEpsilon) (absurd rfl) ?_ hr started
  intro es e r r' _ hr ok step ih _
  cases (validateTransition_ok hr).mp ok.2 with
  | first start type =>
    subst start
    cases hr
    obtain ⟨eventId, timestamp, runId, key, cause, payload, delta⟩ := e
    cases payload with
    | runStarted c =>
      cases step
      exact ⟨c, rfl, rfl⟩
    | _ => cases type
  | later started type =>
    obtain ⟨c, contract, epsilon⟩ := ih started
    exact ⟨c, contractOf_snoc contract, (step_epsilon type step).trans epsilon⟩

end Step

/-! ### Runs -/

section Runs
variable {config : RunConfig} {es pre post : List Event} {r : Reducer}

/-- The contract of a ledger freezes the tolerance of the configuration. -/
def FreezesEpsilon (config : RunConfig) (es : List Event) : Prop :=
  ∀ c ∈ contractOf es, c.convergenceEpsilon = config.convergenceEpsilon

lemma FreezesEpsilon.front (h : FreezesEpsilon config (pre ++ post)) : FreezesEpsilon config pre := by
  intro c contract
  refine h c ?_
  cases pre with
  | nil => cases contract
  | cons e pre => exact contract

lemma LayerDecides.front (h : LayerDecides (pre ++ post)) : LayerDecides pre := by
  rintro a e b d rfl payload
  exact h a e (b ++ post) d (by simp) payload

/-- The step of a run. -/
lemma ValidLedger.counts {e : Event} {r' : Reducer} (v : ValidLedger (es ++ [e]))
    (hr : TacoRank.replay es = .ok r) (step : r.step e = .ok r')
    (frozen : FreezesEpsilon config (es ++ [e])) (layer : LayerDecides (es ++ [e]))
    (incumbent : (pressureOf config es).incumbent = r.convergenceIncumbent) :
    (pressureOf config (es ++ [e])).incumbent = r'.convergenceIncumbent ∧
      (¬ Counted es e → convergencePressure (es ++ [e]) config = convergencePressure es config + 1 ∧
        r'.counter = r.counter) ∧
      (Counted es e → convergencePressure es config = r.counter →
        convergencePressure (es ++ [e]) config = r'.counter) := by
  have epsilon : es ≠ [] → r.state.convergenceEpsilon = config.convergenceEpsilon := by
    intro started
    obtain ⟨c, contract, same⟩ := v.front.epsilon hr started
    exact same.trans (frozen.front c contract)
  unfold convergencePressure
  rw [pressureOf_snoc]
  exact step_counts v hr step v.front.stores incumbent epsilon fun d => layer es e [] d rfl

/-- The incumbents of both folds agree. -/
lemma ValidLedger.incumbents (v : ValidLedger es) (hr : TacoRank.replay es = .ok r)
    (frozen : FreezesEpsilon config es) (layer : LayerDecides es) :
    (pressureOf config es).incumbent = r.convergenceIncumbent := by
  refine v.run_induct (I := fun es r => FreezesEpsilon config es → LayerDecides es →
    (pressureOf config es).incumbent = r.convergenceIncumbent) (fun _ _ => rfl) ?_ hr frozen layer
  intro es e r r' v hr ok step ih frozen layer
  have v' : ValidLedger (es ++ [e]) := .snoc v ok
  exact (v'.counts hr step frozen layer (ih frozen.front layer.front)).1

/-- The counters agree when both count every decision. -/
lemma ValidLedger.counters_eq (v : ValidLedger es) (hr : TacoRank.replay es = .ok r)
    (frozen : FreezesEpsilon config es) (layer : LayerDecides es)
    (counted : ∀ pre e post, es = pre ++ e :: post → Counted pre e) :
    convergencePressure es config = r.counter := by
  refine v.run_induct (I := fun es r => FreezesEpsilon config es → LayerDecides es →
    (∀ pre e post, es = pre ++ e :: post → Counted pre e) → convergencePressure es config = r.counter)
    (fun _ _ _ => rfl) ?_ hr frozen layer counted
  intro es e r r' v hr ok step ih frozen layer counted
  have v' : ValidLedger (es ++ [e]) := .snoc v ok
  have before : convergencePressure es config = r.counter := by
    refine ih frozen.front layer.front ?_
    rintro pre f post rfl
    exact counted pre f (post ++ [e]) (by simp)
  have incumbent := v.incumbents hr frozen.front layer.front
  exact (v'.counts hr step frozen layer incumbent).2.2 (counted es e [] rfl) before

/-- The reported counter is the one of the stop rule, so the run stops as converged only once the reported
counter has reached the patience, and does not go on from there. -/
structure CountersAgree (config : RunConfig) (es : List Event) (s : RunState) : Prop where
  counter : s.consecutiveNonImprovingFullEvaluations = convergencePressure es config
  early : ∀ fatal exhausted stop, stopDecision s es config fatal exhausted = some stop →
    stop.reasonCode = "converged" →
    config.convergencePatience ≤ s.consecutiveNonImprovingFullEvaluations
  late : config.convergencePatience ≤ s.consecutiveNonImprovingFullEvaluations →
    ∀ fatal exhausted, stopDecision s es config fatal exhausted ≠ none

lemma runtimeBudgetDecision_reason {state : RunState} {stop : StopDecision}
    (stops : runtimeBudgetDecision state config = some stop) :
    stop.reasonCode ∈ ["wall_time_budget", "token_budget", "gpu_budget"] := by
  unfold runtimeBudgetDecision at stops
  split at stops
  · cases stops
    simp
  · split at stops
    · cases stops
      simp
    · split at stops
      · cases stops
        simp
      · cases stops

lemma CountersAgree.of_counter {s : RunState}
    (counter : s.consecutiveNonImprovingFullEvaluations = convergencePressure es config) :
    CountersAgree config es s := by
  refine ⟨counter, ?_, ?_⟩
  · intro fatal exhausted stop stops converged
    unfold stopDecision at stops
    split at stops
    · cases stops
      simp [fatalIntegrityDecision] at converged
    · split at stops
      · cases stops
        simp at converged
      · cases budget : runtimeBudgetDecision s config with
        | some other =>
          rw [budget] at stops
          cases stops
          have reason := runtimeBudgetDecision_reason budget
          simp [converged] at reason
        | none =>
          rw [budget] at stops
          dsimp only [Option.orElse_none] at stops
          split at stops
          next reached => exact counter ▸ reached
          next =>
            split at stops
            · cases stops
              simp at converged
            · cases stops
  · intro reached fatal exhausted goes
    rw [counter] at reached
    unfold stopDecision at goes
    split at goes
    · cases goes
    · split at goes
      · cases goes
      · cases budget : runtimeBudgetDecision s config with
        | some other =>
          rw [budget] at goes
          cases goes
        | none =>
          rw [budget] at goes
          dsimp only [Option.orElse_none] at goes
          rw [if_pos reached] at goes
          cases goes

lemma aggregate_counter (r : Reducer) (es : List Event) :
    (r.state.aggregate es).consecutiveNonImprovingFullEvaluations = r.counter := by
  obtain ⟨_, _, eq⟩ := r.state.aggregate_eq es
  rw [eq]
  rfl

/-- In a valid ledger whose decisions the decision layer made, the counter of the projection is the one of the
stop rule after every prefix exactly when every terminal decision other than an invalid one cites a trusted
full evaluation. -/
theorem convergence_counters_agree (v : ValidLedger es) (frozen : FreezesEpsilon config es)
    (layer : LayerDecides es) :
    (∀ pre post s, es = pre ++ post → project pre = .ok s → CountersAgree config pre s) ↔
      ∀ pre e post, es = pre ++ e :: post → Counted pre e := by
  constructor
  · rintro agree pre e post rfl
    by_contra uncounted
    have split : pre ++ e :: post = pre ++ [e] ++ post := by simp
    have front := v.front
    rw [split] at v frozen layer
    obtain ⟨r, hr⟩ := front.replay
    obtain ⟨r', hr'⟩ := v.front.replay
    obtain ⟨_, again, step⟩ := replay_snoc_inv hr'
    cases hr.symm.trans again
    have incumbent := front.incumbents hr frozen.front.front layer.front.front
    obtain ⟨counts, kept⟩ := (v.front.counts hr step frozen.front layer.front incumbent).2.1 uncounted
    have before := (agree pre (e :: post) _ rfl (project_ok.mpr ⟨r, hr, rfl⟩)).counter
    have after := (agree (pre ++ [e]) post _ split (project_ok.mpr ⟨r', hr', rfl⟩)).counter
    rw [aggregate_counter] at before after
    omega
  · rintro counted pre post s rfl projected
    obtain ⟨r, hr, rfl⟩ := project_ok.mp projected
    refine .of_counter ?_
    have same := v.front.counters_eq hr frozen.front layer.front ?_
    · exact (aggregate_counter r pre).trans same.symm
    · rintro a e b rfl
      exact counted a e (b ++ post) (by simp)

end Runs

/-! ### A rejected candidate -/

section Rejected
open Scenario

/-- A layer that has made the only decision of a ledger. -/
lemma layerDecides_of_single {es : List Event} {result : EvaluationResult} {d : ExperimentDecision}
    (domain : Evaluation.EvaluationResult) (context : Evaluation.DecisionContext)
    (decision : Evaluation.ExperimentDecision) (c : ExperimentDecision) (v : ValidLedger es)
    (decisions : es.filterMap (fun e => e.payload.decision) = [d])
    (evaluations : es.filterMap (fun e => e.payload.evaluation) = [result])
    (same : SameEvidence domain result.toEvaluationFields)
    (decided : Evaluation.decide domain context = .ok decision) (canonical : decision.toCanonical = .ok c)
    (written : d = { c with lessonCandidate := none }) : LayerDecides es := by
  rintro pre e post d' rfl payload smoke
  have listed : d' ∈ (pre ++ e :: post).filterMap fun e => e.payload.decision :=
    List.mem_filterMap.mpr ⟨e, by simp, by rw [payload]; rfl⟩
  rw [decisions] at listed
  cases List.mem_singleton.mp listed
  obtain ⟨_, n, _, _, evidence⟩ := v.decision_inv payload
  cases evidence with
  | smoke fidelity => exact absurd fidelity smoke
  | @evaluated found _ _ last cited =>
    have mem := lastForExperiment_mem last
    have evaluated := (lastForExperiment_payload last).1
    have only : found.2 ∈ (pre ++ e :: post).filterMap fun e => e.payload.evaluation :=
      List.mem_filterMap.mpr ⟨found.1, List.mem_append_left _ mem, by rw [evaluated]; rfl⟩
    rw [evaluations] at only
    rw [List.mem_singleton.mp only] at evaluated
    exact ⟨found.1, mem, result, domain, context, decision, c, none, evaluated, cited, same, decided, canonical,
      written⟩

/-- A candidate that the evaluation layer has judged. -/
def judged (trust : Evaluation.TrustAssessment) : Evaluation.EvaluationResult :=
  { scoredResult 1 0 1 with trust }

/-- A regression. -/
def regression : Evaluation.TrustAssessment :=
  { verdict := .negative, stability := .notApplicable, integrity := .clean }

lemma regression_consistent : (Integrity.clean = .compromised → TrustVerdict.negative = .suspicious) ∧
    (TrustVerdict.negative = .noOp → Stability.notApplicable = .notApplicable) ∧
    (none : Option ℚ).isSome = (none : Option ℚ).isSome ∧ ((none : Option ℚ).isSome = true → 2 ≤ 1) := by
  decide

/-- The trust in it. -/
def regressionTrust : TrustAssessment where
  verdict := .negative
  stability := .notApplicable
  integrity := .clean
  validateConsistency := regression_consistent

/-- The recorded evaluation of it. -/
def regressionResult : EvaluationResult :=
  { (judged regression).fields regressionTrust with
    validateEvaluationRoute := by
      simp [EvaluationFields.RouteValid, Evaluation.EvaluationResult.fields, judged, scoredResult,
        regressionTrust] }

lemma rejection_terminal : (ExperimentDecisionKind.reject = .promote ↔ (none : Option Fidelity).isSome = true) ∧
    (false = true → Fidelity.full = .full) := by
  decide

/-- A decision against a candidate. -/
def rejection (reasonCode : String) : ExperimentDecision where
  experimentId := "exp"
  evaluationEventId := some 12
  decision := .reject
  reasonCode
  fidelityCompleted := .full
  parentEligible := false
  bestEligible := false
  nextFidelity := none
  validatePromotion := rejection_terminal

/-- The decision of the layer. -/
def layerRejection (reasonCode : String) : Evaluation.ExperimentDecision where
  experimentId := "exp"
  evaluationEventId := some 12
  decision := .reject
  reasonCode
  fidelityCompleted := .full
  parentEligible := false
  bestEligible := false
  nextFidelity := none
  supportingEventIds := []

/-- A run with one experiment, which is evaluated and rejected; one iteration is its patience. -/
def rejectedRun (result : EvaluationResult) (reasonCode : String) : List Event :=
  record ((none, .runStarted { contract 2 with convergencePatience := 1 }) :: (proposal 2 "exp").tail ++
  [ (some 6, patch "exp" 1 "a"), (some 7, gatePassed "exp" 1 "a"),
    (some 8, .executionStarted (request "exp" 1 "a" 0)), (some 9, finished "exp" 1 "a"),
    (some 10, outputPassed "exp" 1), (some 11, .evaluationCompleted result),
    (some 12, .experimentDecided (rejection reasonCode)) ])

/-- The configuration of these runs. -/
def impatientConfig : RunConfig :=
  { scenarioConfig with wallTimeLimitSeconds := 3600, convergencePatience := 1 }

lemma impatient_frozen {result : EvaluationResult} {reasonCode : String} :
    ∀ c ∈ contractOf (rejectedRun result reasonCode), c.convergenceEpsilon = impatientConfig.convergenceEpsilon ∧
      c.convergencePatience = impatientConfig.convergencePatience := by
  rintro c ⟨⟩
  exact ⟨rfl, rfl⟩

lemma regressed_valid : ValidLedger (rejectedRun regressionResult "CLEAR_REGRESSION") :=
  .of_check (by decide +kernel)

lemma regressed_layer : LayerDecides (rejectedRun regressionResult "CLEAR_REGRESSION") :=
  layerDecides_of_single (judged regression) { evaluationEventId := 12, supportingEventIds := [] }
    (layerRejection "CLEAR_REGRESSION") (rejection "CLEAR_REGRESSION") regressed_valid rfl rfl
    ⟨rfl, rfl, rfl, rfl, rfl, rfl, rfl⟩ rfl rfl rfl

/-- The stop rule counts a regression, which the projection does not report. -/
theorem regression_uncounted : ¬ ∀ es config, ValidLedger es → LayerDecides es →
    (∀ c ∈ contractOf es, c.convergenceEpsilon = config.convergenceEpsilon ∧
      c.convergencePatience = config.convergencePatience) →
    ∀ pre post s, es = pre ++ post → project pre = .ok s → CountersAgree config pre s := by
  intro agree
  obtain ⟨s, projected⟩ := regressed_valid.project
  have reported : (project (rejectedRun regressionResult "CLEAR_REGRESSION")).toOption.map
      RunState.consecutiveNonImprovingFullEvaluations = some 0 := by decide +kernel
  have counted : convergencePressure (rejectedRun regressionResult "CLEAR_REGRESSION") impatientConfig = 1 := by
    decide +kernel
  rw [projected] at reported
  have zero : s.consecutiveNonImprovingFullEvaluations = 0 := Option.some.inj reported
  have same := (agree _ impatientConfig regressed_valid regressed_layer impatient_frozen _ [] s
    (List.append_nil _).symm projected).counter
  rw [zero, counted] at same
  cases same

theorem convergence_counters_agree_spent :
    ValidLedger (rejectedRun (recordedResult 1 0 1) "CONFIRMATION_BUDGET_EXHAUSTED") ∧ ∀ pre post s,
      rejectedRun (recordedResult 1 0 1) "CONFIRMATION_BUDGET_EXHAUSTED" = pre ++ post →
      project pre = .ok s → CountersAgree impatientConfig pre s := by
  have v : ValidLedger (rejectedRun (recordedResult 1 0 1) "CONFIRMATION_BUDGET_EXHAUSTED") :=
    .of_check (by decide +kernel)
  have layer : LayerDecides (rejectedRun (recordedResult 1 0 1) "CONFIRMATION_BUDGET_EXHAUSTED") :=
    layerDecides_of_single (scoredResult 1 0 1) { evaluationEventId := 12, supportingEventIds := [] }
      (layerRejection "CONFIRMATION_BUDGET_EXHAUSTED") (rejection "CONFIRMATION_BUDGET_EXHAUSTED") v rfl rfl
      ⟨rfl, rfl, rfl, rfl, rfl, rfl, rfl⟩ rfl rfl rfl
  refine ⟨v, (convergence_counters_agree v (fun c contract => (impatient_frozen c contract).1) layer).mpr ?_⟩
  intro pre e post split d payload _ _
  have listed : d ∈ (rejectedRun (recordedResult 1 0 1) "CONFIRMATION_BUDGET_EXHAUSTED").filterMap
      fun e => e.payload.decision := by
    rw [split]
    exact List.mem_filterMap.mpr ⟨e, by simp, by rw [payload]; rfl⟩
  cases List.mem_singleton.mp listed
  obtain ⟨f, mem, result, _, _, _, _, _, evaluated, cited, _⟩ := layer pre e post _ split payload (by rintro ⟨⟩)
  have only : result ∈ (rejectedRun (recordedResult 1 0 1) "CONFIRMATION_BUDGET_EXHAUSTED").filterMap
      fun e => e.payload.evaluation := by
    rw [split]
    exact List.mem_filterMap.mpr ⟨f, List.mem_append_left _ mem, by rw [evaluated]; rfl⟩
  cases List.mem_singleton.mp only
  exact ⟨f, mem, _, evaluated, cited, rfl, rfl⟩

end Rejected
end TacoRank
