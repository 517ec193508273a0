import TacoRank.Orchestrator.Provenance
import Mathlib.Order.Bounds.Basic

/-!
# Evidence behind the best

`best.updated` is backed by two evaluations of one commit on different seeds: the decision it cites
is best eligible, so its evaluation is confirmed, so the evaluation schema makes it cite at least one
seed evaluation, which the state machine has replayed. `best_evidence` follows that chain;
`best_is_greatest` reads the incumbent score of the projection off the ledger.
-/

namespace TacoRank
open Lib Lib.Result

/-- The checks behind an accepted decision. -/
lemma ValidLedger.decision_inv {pre e post d} (v : ValidLedger (pre ++ e :: post))
    (payload : e.payload = .experimentDecided d) : ∃ r n, TacoRank.replay pre = .ok r ∧
      r.state.experiments.get? d.experimentId = some n ∧ DecisionEvidence pre n d := by
  obtain ⟨r, hr⟩ := v.front.replay
  cases (validateTransition_ok hr).mp v.accepted.2 with
  | first _ type => simp [payload, EventPayload.type] at type
  | later _ _ _ branch =>
    rw [payload] at branch
    obtain ⟨n, hn, evidence, _⟩ := validateExperimentDecided_ok.mp branch
    rw [RunState.aggregate_experiments] at hn
    exact ⟨r, n, hr, hn, evidence⟩

/-- The checks behind an accepted best update. -/
lemma ValidLedger.best_inv {pre e post b} (v : ValidLedger (pre ++ e :: post))
    (payload : e.payload = .bestUpdated b) : ∃ r n, TacoRank.replay pre = .ok r ∧
      r.state.experiments.get? b.experimentId = some n ∧
      StatusLegal r.state.status .bestUpdated ∧ BestLegal pre (r.state.aggregate pre) b n := by
  obtain ⟨r, hr⟩ := v.front.replay
  cases (validateTransition_ok hr).mp v.accepted.2 with
  | first _ type => simp [payload, EventPayload.type] at type
  | later _ _ status branch =>
    rw [payload] at status branch
    obtain ⟨n, hn, legal⟩ := validateBestUpdated_ok.mp branch
    rw [RunState.aggregate_experiments] at hn
    exact ⟨r, n, hr, hn, status, legal⟩

/-- A public full evaluation of a commit under a seed, as `_evaluation_request` resolves it. -/
structure ScoredAt (es : List Event) (x : String) (event : Event) (q : RunRequest) : Prop where
  mem : event ∈ es
  evaluation : ∃ res, event.payload = .evaluationCompleted res ∧ res.experimentId = x ∧
    res.population = .publicValidation ∧ res.fidelity = .full ∧
    evaluationRequest (eventsBefore es event) res = .ok q

/-- A best-eligible acceptance of an experiment that cites an evaluation. -/
structure AcceptedBest (es : List Event) (x : String) (event : Event) (evaluation : Event) :
    Prop where
  mem : event ∈ es
  decision : ∃ d, event.payload = .experimentDecided d ∧ d.experimentId = x ∧
    d.decision = .accept ∧ d.bestEligible = true ∧ d.evaluationEventId = some evaluation.eventId

/-- The evidence behind a best update. -/
structure BestBacked (pre : List Event) (b : BestUpdated) : Prop where
  evidence : ∃ decision first second q q',
    AcceptedBest pre b.experimentId decision second ∧
    decision.eventId = b.decisionEventId ∧
    ScoredAt pre b.experimentId first q ∧ ScoredAt pre b.experimentId second q' ∧
    [first, second, decision].Sublist pre ∧
    q.patchCommitSha = q'.patchCommitSha ∧ q.seed ≠ q'.seed
  improves : ∀ s best, project pre = .ok s → s.bestPrimaryScore = some best →
    best < b.primaryScore

lemma EventPayload.evaluation_eq {p : EventPayload} {res : EvaluationResult}
    (h : p.evaluation = some res) : p = .evaluationCompleted res := by
  cases p <;> cases h
  rfl

lemma EventPayload.decision_eq {p : EventPayload} {d : ExperimentDecision}
    (h : p.decision = some d) : p = .experimentDecided d := by
  cases p <;> cases h
  rfl

/-- An accepted evaluation is scored by its request, in every longer ledger. -/
lemma ValidLedger.scoredAt {pre e post res q} (v : ValidLedger (pre ++ e :: post))
    (payload : e.payload = .evaluationCompleted res) (population : res.population = .publicValidation)
    (fidelity : res.fidelity = .full) (request : Scored pre res q) :
    ScoredAt (pre ++ e :: post) res.experimentId e q where
  mem := by simp
  evaluation := by
    refine ⟨res, payload, rfl, population, fidelity, ?_⟩
    rw [v.eventsBefore]
    exact evaluationRequest_ok.mpr request

lemma Scored.unique {es res q q'} (h : Scored es res q) (h' : Scored es res q') : q = q' := by
  have ok := evaluationRequest_ok.mpr h
  rw [evaluationRequest_ok.mpr h'] at ok
  cases ok
  rfl

/-- A confirmed evaluation has a seed evaluation of the same commit on another seed before it. -/
lemma ValidLedger.seed_evidence {pre e post res} (v : ValidLedger (pre ++ e :: post))
    (payload : e.payload = .evaluationCompleted res) (population : res.population = .publicValidation)
    (fidelity : res.fidelity = .full) (confirmed : res.trust.stability = .confirmed) :
    ∃ first q q', first ∈ pre ∧ ScoredAt (pre ++ e :: post) res.experimentId first q ∧
      ScoredAt (pre ++ e :: post) res.experimentId e q' ∧
      q.patchCommitSha = q'.patchCommitSha ∧ q.seed ≠ q'.seed := by
  obtain ⟨r, n, q', _, _, legal⟩ := v.evaluation_inv payload
  obtain ⟨seeds, evidence, distinct⟩ := legal.seeds
  -- the schema: a confirmed evaluation has at least two seeds, one of them its own
  obtain ⟨_, _, _, _, _, counts, _⟩ := res.validateEvaluationRoute
  obtain ⟨count, enough⟩ := counts legal.notBaseline
  have two := (enough (.inl confirmed)).1
  cases ids : res.seedEvidenceEventIds with
  | nil =>
    rw [ids, List.length_nil] at count
    omega
  | cons id rest =>
    rw [ids] at evidence
    cases evidence with
    | @cons _ seedRes _ seedRest seed others =>
      obtain ⟨⟨first, found⟩, lookup, rfl, q, scored, commit⟩ := seed.event
      obtain ⟨mem, _, read⟩ := eventWithId_spec lookup
      have seedPayload := EventPayload.evaluation_eq read
      obtain ⟨a, b, rfl⟩ := List.append_of_mem mem
      have v' : ValidLedger (a ++ first :: (b ++ e :: post)) := by simpa using v
      have before : TacoRank.eventsBefore (a ++ first :: b) first = a := v.front.eventsBefore
      rw [before] at scored
      obtain ⟨_, _, q0, _, _, seedLegal⟩ := v'.evaluation_inv seedPayload
      have same : q0 = q := seedLegal.request.unique scored
      subst same
      have firstScored := v'.scoredAt seedPayload (seed.population.trans population)
        (seed.fidelity.trans fidelity) scored
      rw [seed.experimentId] at firstScored
      refine ⟨first, q0, q', by simp, by simpa using firstScored,
        v.scoredAt payload population fidelity legal.request, commit, ?_⟩
      simp only [List.map_cons, List.nodup_cons, List.mem_cons, not_or] at distinct
      rw [← seedLegal.seed, ← legal.seed]
      exact Ne.symm distinct.1.1

/-- A longer ledger scores the same request. -/
lemma ScoredAt.extend {pre post x e q} (v : ValidLedger (pre ++ post)) (h : ScoredAt pre x e q) :
    ScoredAt (pre ++ post) x e q := by
  obtain ⟨a, b, rfl⟩ := List.append_of_mem h.mem
  obtain ⟨res, payload, owner, population, fidelity, request⟩ := h.evaluation
  have v' : ValidLedger (a ++ e :: (b ++ post)) := by simpa using v
  rw [v.front.eventsBefore] at request
  subst owner
  have scored := v'.scoredAt payload population fidelity (evaluationRequest_ok.mp request)
  simpa using scored

/-- Best updates are backed by two evaluations of one commit on different seeds. -/
lemma ValidLedger.best_backed {pre e post b} (v : ValidLedger (pre ++ e :: post))
    (payload : e.payload = .bestUpdated b) : BestBacked pre b := by
  obtain ⟨r, n, hr, _, _, legal⟩ := v.best_inv payload
  obtain ⟨⟨D, d⟩, lookup, _, owner, accept, eligible⟩ := legal.decision
  obtain ⟨mem, id, read⟩ := eventWithId_spec lookup
  have decided := EventPayload.decision_eq read
  have vpre := v.front
  obtain ⟨a, c, rfl⟩ := List.append_of_mem mem
  obtain ⟨_, m, _, _, evidence⟩ := vpre.decision_inv decided
  have full : d.fidelityCompleted = .full := d.validatePromotion.2 eligible
  cases evidence with
  | smoke fidelity => simp [full] at fidelity
  | @evaluated found _ _ last cited _ best =>
    obtain ⟨V, res⟩ := found
    have eligible' := best eligible
    obtain ⟨evaluated, evaluatedOwner⟩ := lastForExperiment_payload last
    obtain ⟨a1, a2, rfl⟩ := List.append_of_mem (lastForExperiment_mem last)
    obtain ⟨first, q, q', firstMem, scored, scored', commit, seeds⟩ :=
      vpre.front.seed_evidence evaluated eligible'.population eligible'.fidelity
        eligible'.stability
    have x : res.experimentId = b.experimentId := evaluatedOwner.trans owner
    rw [x] at scored scored'
    refine ⟨⟨D, first, V, q, q', ⟨by simp, d, decided, owner, accept, eligible, cited⟩, id,
      scored.extend vpre, scored'.extend vpre, ?_, commit, seeds⟩, ?_⟩
    · have firstSub : [first].Sublist a1 := List.singleton_sublist.mpr firstMem
      have two : [first, V].Sublist (a1 ++ V :: a2) :=
        firstSub.append (List.singleton_sublist.mpr (by simp))
      exact two.append (List.singleton_sublist.mpr (by simp : D ∈ D :: c))
    · intro s best projected hb
      obtain ⟨r', hr', rfl⟩ := project_ok.mp projected
      rw [hr] at hr'
      cases hr'
      exact legal.improves best hb

/-- The baseline score and the scores of all best updates. -/
def scores (es : List Event) : List ℚ :=
  es.filterMap fun e => match e.payload with
    | .baselineVerified payload => some payload.metricSet.primaryScore
    | .bestUpdated payload => some payload.primaryScore
    | _ => none

/-- The incumbent is the greatest score on the ledger; before the baseline there is none, and the
run has neither experiments nor scores. -/
structure Incumbent (es : List Event) (r : Reducer) : Prop where
  unscored : r.state.bestPrimaryScore = none → scores es = []
  greatest : ∀ best, r.state.bestPrimaryScore = some best → IsGreatest {q | q ∈ scores es} best
  early : eventsOf EventPayload.baseline es = [] →
    r.state.status = .initializing ∧ r.state.bestPrimaryScore = none ∧
    ∀ x, r.state.experiments.get? x = none

lemma scores_snoc (es : List Event) (e : Event) :
    scores (es ++ [e]) = scores es ++ scores [e] := by
  simp [scores, List.filterMap_append]

lemma eventsOf_snoc {β} (read : EventPayload → Option β) (es : List Event) (e : Event) :
    eventsOf read (es ++ [e]) = eventsOf read es ++ eventsOf read [e] := by
  simp [eventsOf, List.filterMap_append]

/-- A strictly better score is the greatest one. -/
lemma isGreatest_snoc {l : List ℚ} {new : ℚ} (h : ∀ q ∈ l, q ≤ new) :
    IsGreatest {q | q ∈ l ++ [new]} new := by
  refine ⟨by simp, ?_⟩
  intro q hq
  rcases List.mem_append.mp hq with old | one
  · exact h q old
  · rw [List.mem_singleton.mp one]

/-- An event that leaves an experiment without a node is not its event. -/
lemma NodeWrite.unowned {r e x n n'} (h : NodeWrite r e x n n') (old : n = none) (new : n' = none) :
    e.payload.experiment ≠ some x := by
  cases h with
  | frame other => exact other
  | proposed => cases new
  | update => cases old

/-- Before the baseline nothing is proposed and nothing stops. -/
lemma early_step {es r r' e} (hr : replay es = .ok r) (ok : Accepted es e)
    (step : r.step e = .ok r') (absent : eventsOf EventPayload.baseline es = [])
    (status : r.state.status = .initializing) (nodes : ∀ x, r.state.experiments.get? x = none)
    (notBaseline : e.payload.type ≠ .baselineVerified) :
    r'.state.status = .initializing ∧ ∀ x, r'.state.experiments.get? x = none := by
  have unproposed : ∀ x, r'.state.experiments.get? x = none := by
    intro x
    have node := node_step hr ok step x
    rw [nodes x] at node
    generalize r'.state.experiments.get? x = n' at node ⊢
    cases node with
    | frame => rfl
    | proposed _ _ running => simp [status] at running
  refine ⟨?_, unproposed⟩
  rw [(Reducer.step_inv step).frame.status, status]
  cases (validateTransition_ok hr).mp ok.2 with
  | first _ type =>
    cases p : e.payload <;> simp [p, EventPayload.type] at type
    rfl
  | later _ _ _ branch =>
    cases p : e.payload with
    | runStopped =>
      rw [p] at branch
      simp [validateBranch, validateRunStopped, bind_eq_ok, absent] at branch
    | finalSelected =>
      rw [p] at branch
      simp [validateBranch, validateFinalSelected, bind_eq_ok, status] at branch
    | submissionChecked =>
      rw [p] at branch
      simp [validateBranch, status] at branch
    | experimentProposed spec =>
      have other := ((Reducer.step_inv step).nodes spec.experimentId).unowned (nodes _)
        (unproposed _)
      simp [p, EventPayload.experiment] at other
    | baselineVerified => simp [p, EventPayload.type] at notBaseline
    | _ => rfl

/-- Every accepted event keeps the incumbent the greatest score. -/
lemma Incumbent.step {es r r' e} (h : Incumbent es r) (hr : replay es = .ok r)
    (ok : Accepted es e) (step : r.step e = .ok r') : Incumbent (es ++ [e]) r' := by
  have run := Reducer.step_inv step
  cases p : e.payload with
  | baselineVerified payload =>
    cases (validateTransition_ok hr).mp ok.2 with
    | first _ type => simp [p, EventPayload.type] at type
    | later _ _ _ branch =>
      rw [p] at branch
      simp only [validateBranch, validateBaselineVerified, bind_eq_ok, require_ok] at branch
      obtain ⟨_, _, _, absent, _⟩ := branch
      obtain ⟨_, noScore, _⟩ := h.early absent
      have score : r'.state.bestPrimaryScore = some payload.metricSet.primaryScore := by
        simp only [Reducer.step, Reducer.branch, p, pure_eq_ok] at step
        subst step
        simp [RunState.baselineVerified, Reducer.observe, noScore]
      have only : scores (es ++ [e]) = [payload.metricSet.primaryScore] := by
        rw [scores_snoc, h.unscored noScore]
        simp [scores, p]
      constructor
      · intro no
        simp [score] at no
      · intro best hb
        rw [score] at hb
        cases hb
        rw [only]
        exact isGreatest_snoc (l := []) (by simp)
      · intro none
        simp [eventsOf, p, EventPayload.baseline] at none
  | bestUpdated b =>
    cases (validateTransition_ok hr).mp ok.2 with
    | first _ type => simp [p, EventPayload.type] at type
    | later _ _ _ branch =>
      rw [p] at branch
      obtain ⟨n, hn, legal⟩ := validateBestUpdated_ok.mp branch
      have score : r'.state.bestPrimaryScore = some b.primaryScore := by
        simp only [Reducer.step, Reducer.branch, p, pure_eq_ok] at step
        subst step
        rfl
      have snoc : scores (es ++ [e]) = scores es ++ [b.primaryScore] := by
        rw [scores_snoc]
        simp [scores, p]
      constructor
      · intro no
        simp [score] at no
      · intro best hb
        rw [score] at hb
        cases hb
        rw [snoc]
        apply isGreatest_snoc
        intro q hq
        cases old : r.state.bestPrimaryScore with
        | none =>
          rw [h.unscored old] at hq
          cases hq
        | some best =>
          have below := (h.greatest best old).2 hq
          have less := legal.improves best (by simpa using old)
          exact below.trans less.le
      · intro none
        rw [eventsOf_snoc, List.append_eq_nil_iff] at none
        have unproposed := (h.early none.1).2.2 b.experimentId
        rw [RunState.aggregate_experiments, unproposed] at hn
        cases hn
  | _ =>
    have silent : scores [e] = [] := by simp [scores, p]
    have notBaseline : e.payload.type ≠ .baselineVerified := by simp [p, EventPayload.type]
    have score := run.frame.bestScore notBaseline (by simp [p, EventPayload.type])
    constructor
    · rw [score, scores_snoc, silent, List.append_nil]
      exact h.unscored
    · rw [score, scores_snoc, silent, List.append_nil]
      exact h.greatest
    · intro none
      rw [eventsOf_snoc, List.append_eq_nil_iff] at none
      obtain ⟨status, noScore, nodes⟩ := h.early none.1
      obtain ⟨status', nodes'⟩ := early_step hr ok step none.1 status nodes notBaseline
      exact ⟨status', score.trans noScore, nodes'⟩

/-- The incumbent of a valid ledger. -/
lemma ValidLedger.incumbent {es r} (v : ValidLedger es) (hr : TacoRank.replay es = .ok r) :
    Incumbent es r := by
  refine v.run_induct (I := Incumbent) ⟨fun _ => rfl, nofun, fun _ => ⟨rfl, rfl, fun _ => rfl⟩⟩
    ?_ hr
  intro es e r r' _ hr ok step ih
  exact ih.step hr ok step

/-- Best updates are backed by independent seed evidence, and the best primary score of the
projection is at every point the greatest of the baseline score and the scores of the best updates
so far, so it never decreases. -/
theorem best_evidence {es} (v : ValidLedger es) :
    (∀ pre e post b, es = pre ++ e :: post → e.payload = .bestUpdated b → BestBacked pre b) ∧
    (∀ pre post s, es = pre ++ post → project pre = .ok s →
      (s.bestPrimaryScore = none ↔ scores pre = []) ∧
      ∀ best, s.bestPrimaryScore = some best → IsGreatest {q | q ∈ scores pre} best) ∧
    (∀ pre mid post s s' best, es = pre ++ mid ++ post → project pre = .ok s →
      project (pre ++ mid) = .ok s' → s.bestPrimaryScore = some best →
      ∃ best', s'.bestPrimaryScore = some best' ∧ best ≤ best') := by
  have greatest : ∀ pre post s, es = pre ++ post → project pre = .ok s →
      (s.bestPrimaryScore = none ↔ scores pre = []) ∧
      ∀ best, s.bestPrimaryScore = some best → IsGreatest {q | q ∈ scores pre} best := by
    rintro pre post s rfl projected
    obtain ⟨r, hr, rfl⟩ := project_ok.mp projected
    have incumbent := v.front.incumbent hr
    simp only [RunState.aggregate_bestPrimaryScore]
    refine ⟨⟨incumbent.unscored, fun empty => ?_⟩, incumbent.greatest⟩
    cases score : r.state.bestPrimaryScore with
    | none => rfl
    | some best =>
      have mem := (incumbent.greatest best score).1
      rw [empty] at mem
      cases mem
  refine ⟨?_, greatest, ?_⟩
  · rintro pre e post b rfl payload
    exact v.best_backed payload
  · rintro pre mid post s s' best rfl projected projected' score
    have mem := ((greatest pre (mid ++ post) s (by simp) projected).2 best score).1
    obtain ⟨unscored, bound⟩ := greatest (pre ++ mid) post s' rfl projected'
    have mem' : best ∈ scores (pre ++ mid) := by
      rw [scores, List.filterMap_append]
      exact List.mem_append_left _ mem
    cases score' : s'.bestPrimaryScore with
    | none =>
      rw [unscored.mp score'] at mem'
      cases mem'
    | some best' => exact ⟨best', rfl, (bound best' score').2 mem'⟩

open Scenario in
/-- A run whose experiment becomes the best after two seeds. -/
def bestRun : List Event := record (proposal 2 "exp" ++
  [ (some 6, patch "exp" 1 "a"), (some 7, gatePassed "exp" 1 "a"),
    (some 8, .executionStarted (request "exp" 1 "a" 0)), (some 9, finished "exp" 1 "a"),
    (some 10, outputPassed "exp" 1), (some 11, evaluation "exp" 1 0 1 (3 / 5)),
    (some 12, confirm "exp" 12), (some 13, .executionStarted (request "exp" 2 "a" 1)),
    (some 14, finished "exp" 2 "a"), (some 15, outputPassed "exp" 2),
    (some 16, confirmation "exp" 2 1 2 (3 / 5) 12), (some 17, accept "exp" 17),
    (some 18, best "exp" "a" (3 / 5) 18) ])

theorem best_evidence_run : ∃ b, BestBacked (bestRun.take 18) b ∧ b.experimentId = "exp" := by
  have v : ValidLedger bestRun := .of_check (by decide +kernel)
  have split : bestRun = bestRun.take 18 ++ bestRun.get ⟨18, by decide⟩ :: [] := by rfl
  exact ⟨_, (best_evidence v).1 _ _ _ _ split rfl, rfl⟩

end TacoRank
