import TacoRank.Orchestrator.Interleavings
import TacoRank.Orchestrator.Scenario

/-!
# Parallel lanes commute

Neighbouring events of two lanes may change places: the numbers of the events follow, and the
projection stays what it was, but for the phase and the active experiment, which belong to whichever
lane wrote last. What the projection says about experiments follows for any two schedules of the same
lanes.
-/

namespace TacoRank
open Lib Lib.Result

/-- The events that a lane writes between a proposal and the decisions on it. -/
def EventPayload.onLane : EventPayload → Bool
  | .contextCreated _ | .patchCreated _ | .patchChecked _ | .executionStarted _
  | .executionFinished _ | .adapterFailed _ | .recoveryDecided _ | .outputChecked _
  | .evaluationCompleted _ | .lessonRecorded _ _ => true
  | _ => false

/-- Events of two lanes. -/
structure Apart (a b : Event) : Prop where
  first : a.payload.onLane = true
  second : b.payload.onLane = true
  experiments : ∀ x, a.experiment = some x → b.experiment ≠ some x

/-! ### What lanes leave alone -/

/-- The state without experiments, lessons, best pointer, counters of labels, resources, and without
the fields that every event writes. -/
def RunState.lasting (s : RunState) : RunState :=
  { s with
    runId := none, phase := .notStarted
    activeExperimentId := none, activeAttempt := none, activeFidelity := none
    bestExperimentId := none, bestCommitSha := none, bestPrimaryScore := none
    fullEvaluationsCompleted := 0, publicValidationQueries := 0
    experiments := .empty, lessons := .empty, resourceTotals := {}
    lastEventAt := none, lastEventId := none, elapsedWallTime := 0 }

/-- What lasts of a reducer. -/
def Reducer.lasting (r : Reducer) : RunState × Option ℚ := (r.state.lasting, r.convergenceIncumbent)

/-- The score that a decision hands to the convergence counter. -/
def Reducer.decidedScore (r : Reducer) (e : Event) : Option ℚ :=
  e.payload.decision.bind fun decision =>
    (r.state.experiments.get? decision.experimentId).bind fun node => convergenceScore node decision

/-- What an event makes of what lasts, with the score of the decision. -/
def Event.settle (e : Event) (score : Option ℚ) (s : RunState × Option ℚ) : RunState × Option ℚ :=
  match e.payload with
  | .runStarted payload => ((s.1.runStarted e.timestamp payload).lasting, s.2)
  | .baselineVerified payload =>
    ((s.1.baselineVerified payload).lasting, some payload.metricSet.primaryScore)
  | .experimentProposed spec => ((s.1.experimentProposed spec).lasting, s.2)
  | .experimentDecided decision =>
    if decision.decision = .promote then s
    else
      score.elim s fun score =>
        if ({ state := s.1, convergenceIncumbent := s.2 } : Reducer).improves score then
          ({ s.1 with consecutiveNonImprovingFullEvaluations := 0 }, some score)
        else
          ({ s.1 with consecutiveNonImprovingFullEvaluations :=
              s.1.consecutiveNonImprovingFullEvaluations + 1 }, s.2)
  | .manualIntervention _ _ =>
    ({ s.1 with manualInterventionCount := s.1.manualInterventionCount + 1 }, s.2)
  | .runStopped reasonCode _ => ((s.1.runStopped reasonCode).lasting, s.2)
  | .finalSelected payload =>
    ({ s.1 with status := .finalizing, finalExperimentId := some payload.experimentId }, s.2)
  | .submissionChecked payload =>
    ({ s.1 with status := if payload.accepted then .finalized else .failed }, s.2)
  | _ => s

lemma Reducer.step_lasting {r r' : Reducer} {e : Event} (h : r.step e = .ok r') :
    r'.lasting = e.settle (r.decidedScore e) r.lasting := by
  unfold step branch at h
  obtain ⟨eventId, timestamp, runId, key, cause, payload, delta⟩ := e
  cases payload with
  | patchCreated d | patchChecked d | executionStarted d | executionFinished d | adapterFailed d
  | outputChecked d | evaluationCompleted d =>
    simp only [bind_eq_ok, pure_eq_ok, RunState.updateNode_ok, observe] at h
    obtain ⟨s, ⟨n, hn, rfl⟩, rfl⟩ := h
    rfl
  | recoveryDecided d =>
    simp only [bind_eq_ok, pure_eq_ok, RunState.updateNode_ok] at h
    obtain ⟨s, ⟨n, hn, rfl⟩, rfl⟩ := h
    obtain ⟨_, _, _, _, eq⟩ := Reducer.recoveryRun_eq (r.observe _) d _
    rw [eq]
    rfl
  | experimentDecided d =>
    simp only [bind_eq_ok, pure_eq_ok, RunState.updateNode_ok, RunState.node_ok, observe] at h
    obtain ⟨m, hm, s, ⟨n, hn, rfl⟩, rfl⟩ := h
    unfold Event.settle decidedScore decidedRun
    simp only [EventPayload.decision, Option.bind_some, hm]
    by_cases promoted : d.decision = .promote
    · rw [if_pos promoted, if_pos promoted]
      rfl
    · rw [if_neg promoted, if_neg promoted]
      cases score : convergenceScore m d with
      | none => rfl
      | some q =>
        simp only [Option.elim_some]
        split
        next better => exact (if_pos better).symm
        next other => exact (if_neg other).symm
  | lessonStatusChanged changed status reason =>
    simp only [observe] at h
    split at h
    · cases h
    next lesson found =>
      cases h
      rfl
  | baselineVerified payload =>
    simp only [pure_eq_ok, observe] at h
    subst h
    unfold Event.settle RunState.baselineVerified lasting
    dsimp only
    split <;> rfl
  | _ =>
    simp only [pure_eq_ok, observe] at h
    subst h
    rfl

lemma settle_onLane {e : Event} {score : Option ℚ} {s : RunState × Option ℚ}
    (lane : e.payload.onLane = true) : e.settle score s = s := by
  unfold Event.settle
  cases p : e.payload <;> rw [p] at lane <;> first | rfl | cases lane

lemma Renumbering.settle_apply {ρ : Renumbering} {e : Event} {score : Option ℚ}
    {s : RunState × Option ℚ} : (ρ.apply e).settle score s = e.settle score s := by
  unfold Event.settle apply
  cases e.payload <;> rfl

/-- Decisions hand on the same score when their nodes differ in the numbers of events only. -/
lemma Renumbering.decidedScore_apply {ρ : Renumbering} {r r' : Reducer} {e : Event}
    (nodes : ∀ x, r'.state.experiments.get? x = (r.state.experiments.get? x).map ρ.node) :
    r'.decidedScore (ρ.apply e) = r.decidedScore e := by
  unfold Reducer.decidedScore apply
  cases e.payload with
  | experimentDecided d =>
    simp only [payload, EventPayload.decision, Option.bind_some]
    rw [show (ρ.decision d).experimentId = d.experimentId from rfl, nodes]
    cases r.state.experiments.get? d.experimentId <;> rfl
  | _ => rfl

/-! ### Checks in another order -/

lemma Caused.mono {pre pre' : List Event} {e : Event} (h : Caused pre e) (sub : pre ⊆ pre') :
    Caused pre' e := by
  intro c cause
  obtain ⟨g, mem, id⟩ := h c cause
  exact ⟨g, sub mem, id⟩

lemma Grounded.mono {pre pre' : List Event} {e : Event} (h : Grounded pre e) (sub : pre ⊆ pre') :
    Grounded pre' e := by
  intro d payload
  obtain ⟨f, mem, id, owner, caused⟩ := h d payload
  exact ⟨f, sub mem, id, owner, caused.mono sub⟩

lemma Founded.mono {pre pre' : List Event} {e : Event} (h : Founded pre e) (sub : pre ⊆ pre') :
    Founded pre' e := by
  refine ⟨fun x owner => (h.1 x owner).imp_right ?_, fun lessonId status reason payload => ?_⟩
  · rintro ⟨p, mem, rest⟩
    exact ⟨p, sub mem, rest⟩
  · obtain ⟨p, mem, rest⟩ := h.2 lessonId status reason payload
    exact ⟨p, sub mem, rest⟩

lemma swap_subset {pre mid : List Event} {a b : Event} : pre ++ a :: b :: mid ⊆ pre ++ b :: a :: mid :=
  ((List.Perm.swap b a mid).append_left pre).subset

lemma Apart.grounded {pre post : List Event} {a b : Event} (apart : Apart a b)
    (caused : Log.Valid Caused (pre ++ a :: b :: post))
    (grounded : Log.Valid Grounded (pre ++ a :: b :: post)) :
    Log.Valid Grounded (pre ++ b :: a :: post) := by
  refine grounded.swap (fun h d payload => ?_) (fun h => h.mono (List.subset_append_left _ _))
    fun mid e h => h.mono swap_subset
  obtain ⟨f, mem, id, owner, _⟩ := h d payload
  rcases List.mem_append.mp mem with before | last
  · refine ⟨f, before, id, owner, ?_⟩
    obtain ⟨front, back, rfl⟩ := List.append_of_mem before
    rw [List.append_assoc, List.cons_append] at caused
    exact caused.accepted.mono (List.subset_append_left _ _)
  · -- the failure that a decision answers belongs to the experiment of the decision
    cases List.mem_singleton.mp last
    refine absurd ?_ (apart.experiments d.experimentId owner)
    unfold Event.experiment
    rw [payload]
    rfl

lemma Apart.founded {pre post : List Event} {a b : Event} (apart : Apart a b)
    (founded : Log.Valid Founded (pre ++ a :: b :: post)) :
    Log.Valid Founded (pre ++ b :: a :: post) := by
  refine founded.swap (fun h => ⟨fun x owner => ?_, fun lessonId status reason payload => ?_⟩)
    (fun h => h.mono (List.subset_append_left _ _)) fun mid e h => h.mono swap_subset
  · refine (h.1 x owner).imp_right ?_
    rintro ⟨p, mem, own, type⟩
    rcases List.mem_append.mp mem with before | last
    · exact ⟨p, before, own, type⟩
    · cases List.mem_singleton.mp last
      have lane := apart.first
      cases payload : a.payload <;> rw [payload] at type lane <;> cases type
      cases lane
  · have lane := apart.second
    rw [payload] at lane
    cases lane

namespace Renumbering
variable (ρ : Renumbering)

lemma caused_apply {pre : List Event} {e : Event} (h : Caused pre e) :
    Caused (pre.map ρ.apply) (ρ.apply e) := by
  intro number cause
  obtain ⟨c, known, rfl⟩ := Option.mem_map.mp cause
  obtain ⟨g, mem, rfl⟩ := h c known
  exact ⟨ρ.apply g, List.mem_map_of_mem mem, rfl⟩

lemma grounded_apply {pre : List Event} {e : Event} (h : Grounded pre e) :
    Grounded (pre.map ρ.apply) (ρ.apply e) := by
  intro d payload
  cases p : e.payload with
  | recoveryDecided decision =>
    simp only [apply, p, Renumbering.payload, EventPayload.recoveryDecided.injEq] at payload
    cases payload
    obtain ⟨f, mem, id, owner, caused⟩ := h decision p
    refine ⟨ρ.apply f, List.mem_map_of_mem mem, congrArg ρ.event id, ?_, ρ.caused_apply caused⟩
    exact ρ.payload_experiment.trans owner
  | _ =>
    simp only [apply, p, Renumbering.payload, reduceCtorEq] at payload

lemma founded_apply {pre : List Event} {e : Event} (h : Founded pre e) :
    Founded (pre.map ρ.apply) (ρ.apply e) := by
  refine ⟨fun x owner => ?_, fun lessonId status reason payload => ?_⟩
  · have type : (ρ.apply e).payload.type = e.payload.type := ρ.payload_type
    rw [type]
    refine (h.1 x (ρ.payload_experiment.symm.trans owner)).imp_right ?_
    rintro ⟨p, mem, own, proposal⟩
    exact ⟨ρ.apply p, List.mem_map_of_mem mem, ρ.payload_experiment.trans own,
      ρ.payload_type.trans proposal⟩
  · cases p : e.payload with
    | lessonStatusChanged changed status' reason' =>
      simp only [apply, p, Renumbering.payload, EventPayload.lessonStatusChanged.injEq] at payload
      obtain ⟨rfl, rfl, rfl⟩ := payload
      obtain ⟨q, mem, candidate, recorded⟩ := h.2 _ _ _ p
      refine ⟨ρ.apply q, List.mem_map_of_mem mem, ρ.lesson candidate, ?_⟩
      simp only [apply, recorded, Renumbering.payload]
    | _ =>
      simp only [apply, p, Renumbering.payload, reduceCtorEq] at payload

lemma numbered_apply {es : List Event} (numbered : Numbered es) : Numbered (es.map ρ.apply) := by
  unfold Numbered at *
  have ids : (es.map ρ.apply).map Event.eventId = (es.map Event.eventId).map ρ.event := by
    rw [List.map_map, List.map_map]
    rfl
  rw [ids]
  exact numbered.map ρ.event.injective

lemma interleaves_apply {es es' : List Event} (same : Log.Interleaves Event.experiment es es') :
    Log.Interleaves Event.experiment (es.map ρ.apply) (es'.map ρ.apply) where
  perm := same.perm.map _
  lanes x := by
    have lane : ∀ es : List Event, Log.lane Event.experiment x (es.map ρ.apply) =
        (Log.lane Event.experiment x es).map ρ.apply := by
      intro es
      unfold Log.lane
      rw [List.filter_map]
      congr 1
      apply List.filter_congr
      intro e _
      simp
    rw [lane, lane, same.lanes x]

@[simp] lemma apply_lesson {e : Event} : (ρ.apply e).lesson = e.lesson := by
  unfold Event.lesson apply
  cases e.payload <;> rfl

lemma lessonCell_apply {e : Event} {view : Option LessonView} :
    (ρ.apply e).lessonCell (view.map ρ.view) = (e.lessonCell view).map ρ.view := by
  unfold Event.lessonCell apply
  cases e.payload <;> cases view <;> rfl

end Renumbering

/-! ### Two schedules of the same lanes -/

/-- Two projections agree on what they say about experiments, up to the numbers of events. -/
structure SameOutcome (ρ : Renumbering) (s s' : RunState) : Prop where
  experiments : ∀ x, s'.experiments.get? x = (s.experiments.get? x).map ρ.node
  best : s'.best = s.best
  queries : s'.publicValidationQueries = s.publicValidationQueries
  fulls : s'.fullEvaluationsCompleted = s.fullEvaluationsCompleted
  resources : s'.resourceTotals = s.resourceTotals

/-- Two ledgers that hold the same history of every experiment, up to the numbers of events. -/
structure SameLanes (ρ : Renumbering) (es es' : List Event) : Prop where
  grounded : Log.Valid Grounded es
  grounded' : Log.Valid Grounded es'
  numbered : Numbered es
  numbered' : Numbered es'
  lanes : Log.Interleaves Event.experiment (es.map ρ.apply) es'

namespace SameLanes
variable {ρ : Renumbering} {es es' : List Event} {r r' : Reducer}

/-- The counters and the resources add up what the events carry. -/
lemma totals (same : SameLanes ρ es es') (hr : replay es = .ok r) (hr' : replay es' = .ok r') :
    r'.state.publicValidationQueries = r.state.publicValidationQueries ∧
      r'.state.fullEvaluationsCompleted = r.state.fullEvaluationsCompleted ∧
      aggregateResources (es'.map Event.resourceDelta) =
        aggregateResources (es.map Event.resourceDelta) := by
  obtain ⟨queries, fulls⟩ := replay_queries hr
  obtain ⟨queries', fulls'⟩ := replay_queries hr'
  have perm := same.lanes.perm.symm
  refine ⟨?_, ?_, ?_⟩
  · rw [queries, queries', (perm.map _).sum_eq, List.map_map]
    congr 2
    funext e
    exact ρ.payload_queries
  · rw [fulls, fulls', (perm.map _).sum_eq, List.map_map]
    congr 2
    funext e
    exact ρ.payload_fulls
  · rw [aggregateResources_perm (perm.map _), List.map_map]
    rfl

lemma outcome (same : SameLanes ρ es es') (hr : replay es = .ok r) (hr' : replay es' = .ok r')
    (best : r'.state.best = r.state.best) :
    SameOutcome ρ (r.state.aggregate es) (r'.state.aggregate es') := by
  obtain ⟨queries, fulls, resources⟩ := same.totals hr hr'
  have nodes := nodes_renumber same.grounded same.grounded' same.numbered same.numbered' hr hr'
    same.lanes
  have deltas : ∀ (s : RunState) (es : List Event),
      (s.aggregate es).resourceTotals = aggregateResources (es.map Event.resourceDelta) := by
    intro s es
    unfold RunState.aggregate
    dsimp only
    split <;> rfl
  refine ⟨fun x => ?_, ?_, ?_, ?_, ?_⟩
  · rw [RunState.aggregate_experiments, RunState.aggregate_experiments, nodes x]
  · unfold RunState.best at best ⊢
    simpa using best
  · simpa using queries
  · obtain ⟨_, _, eq⟩ := r.state.aggregate_eq es
    obtain ⟨_, _, eq'⟩ := r'.state.aggregate_eq es'
    rw [eq, eq']
    exact fulls
  · rw [deltas, deltas, resources]

/-- What lasts is kept when both ledgers go on with the same event. -/
lemma lasting_step {e : Event} {t t' : Reducer} (same : SameLanes ρ es es')
    (hr : replay es = .ok r) (hr' : replay es' = .ok r') (step : r.step e = .ok t)
    (step' : r'.step (ρ.apply e) = .ok t') (lasting : r'.lasting = r.lasting) :
    t'.lasting = t.lasting := by
  have nodes := nodes_renumber same.grounded same.grounded' same.numbered same.numbered' hr hr'
    same.lanes
  rw [Reducer.step_lasting step, Reducer.step_lasting step', Renumbering.settle_apply,
    Renumbering.decidedScore_apply nodes, lasting]

/-- The same ledger under other numbers. -/
lemma renumbered (grounded : Log.Valid Grounded es) (numbered : Numbered es) :
    SameLanes ρ es (es.map ρ.apply) where
  grounded := grounded
  grounded' := grounded.map fun _ _ h => ρ.grounded_apply h
  numbered := numbered
  numbered' := ρ.numbered_apply numbered
  lanes := ⟨.refl _, fun _ => rfl⟩

end SameLanes

/-- Other numbers do not change what lasts. -/
lemma lasting_renumbered {ρ : Renumbering} {es : List Event} {r r' : Reducer}
    (grounded : Log.Valid Grounded es) (numbered : Numbered es) (hr : replay es = .ok r)
    (hr' : replay (es.map ρ.apply) = .ok r') : r'.lasting = r.lasting := by
  induction es using List.reverseRecOn generalizing r r' with
  | nil =>
    cases hr
    cases hr'
    rfl
  | append_singleton es e ih =>
    obtain ⟨r0, hr0, step⟩ := replay_snoc_inv hr
    rw [List.map_append] at hr'
    obtain ⟨r0', hr0', step'⟩ := replay_snoc_inv hr'
    obtain ⟨grounded, _⟩ := grounded.snoc_inv
    have lasting := ih grounded numbered.front hr0 hr0'
    exact (SameLanes.renumbered grounded numbered.front).lasting_step hr0 hr0' step step' lasting

/-! ### Swapping neighbours -/

/-- The index of the public query of an evaluation. -/
def Event.publicQuery (e : Event) : Option Nat := e.payload.evaluation.bind (·.publicQueryIndex)

/-- Two neighbours exchange their numbers, and two public evaluations their indices as well. -/
def swapNumbers (a b : Event) : Renumbering where
  event := Equiv.swap a.eventId b.eventId
  query := a.publicQuery.elim id fun i => b.publicQuery.elim id fun j => Equiv.swap i j

/-- The ledger in which two neighbours have changed places. -/
def swapped (pre : List Event) (a b : Event) (post : List Event) : List Event :=
  (pre ++ b :: a :: post).map (swapNumbers a b).apply

/-- The numbers stand where they stood. -/
lemma swapped_ids {pre post : List Event} {a b : Event}
    (numbered : Numbered (pre ++ a :: b :: post)) :
    (swapped pre a b post).map Event.eventId = (pre ++ a :: b :: post).map Event.eventId := by
  have ids : ∀ es : List Event, (es.map (swapNumbers a b).apply).map Event.eventId =
      (es.map Event.eventId).map (Equiv.swap a.eventId b.eventId) := by
    intro es
    rw [List.map_map, List.map_map]
    rfl
  have frame : ∀ es : List Event, a.eventId ∉ es.map Event.eventId → b.eventId ∉ es.map Event.eventId →
      (es.map Event.eventId).map (Equiv.swap a.eventId b.eventId) = es.map Event.eventId := by
    intro es first second
    refine (List.map_congr_left fun i mem => ?_).trans (List.map_id _)
    exact Equiv.swap_apply_of_ne_of_ne (fun same => first (same ▸ mem)) fun same => second (same ▸ mem)
  unfold Numbered at numbered
  rw [List.map_append, List.map_cons, List.map_cons, List.nodup_append] at numbered
  obtain ⟨_, tail, apart⟩ := numbered
  obtain ⟨absent, tail⟩ := List.nodup_cons.mp tail
  obtain ⟨absent', _⟩ := List.nodup_cons.mp tail
  have front : ∀ i ∈ [a.eventId, b.eventId], i ∉ pre.map Event.eventId := by
    intro i mem before
    exact apart i before i (List.mem_append_left (post.map Event.eventId) mem) rfl
  rw [swapped, ids, List.map_append, List.map_append, List.map_append,
    frame pre (front _ (by simp)) (front _ (by simp))]
  rw [List.map_cons, List.map_cons, List.map_cons, List.map_cons, List.map_cons, List.map_cons,
    frame post (fun mem => absent (List.mem_cons_of_mem _ mem)) absent', Equiv.swap_apply_right,
    Equiv.swap_apply_left]

namespace Apart
variable {pre post : List Event} {a b : Event} {r r' : Reducer}

lemma sameLanes (apart : Apart a b) (v : ValidLedger (pre ++ a :: b :: post))
    (caused : Log.Valid Caused (pre ++ a :: b :: post)) :
    SameLanes (swapNumbers a b) (pre ++ a :: b :: post) (swapped pre a b post) where
  grounded := v.grounded caused
  grounded' := (apart.grounded caused (v.grounded caused)).map fun _ _ h =>
    (swapNumbers a b).grounded_apply h
  numbered := v.numbered
  numbered' := (swapNumbers a b).numbered_apply
    (v.numbered.perm ((List.Perm.swap b a post).append_left pre))
  lanes := (swapNumbers a b).interleaves_apply (.swap apart.experiments)

/-- The swapped ledger replays. -/
lemma replay_swapped (apart : Apart a b) (hr : replay (pre ++ a :: b :: post) = .ok r) :
    ∃ r', replay (swapped pre a b post) = .ok r' := by
  refine replay_total.mpr ((apart.founded (replay_total.mp ⟨r, hr⟩)).map fun _ _ h => ?_)
  exact (swapNumbers a b).founded_apply h

lemma silent {e : Event} (lane : e.payload.onLane = true) : e.payload.bestScore = none := by
  cases p : e.payload <;> rw [p] at lane <;> first | rfl | cases lane

lemma best_swapped (apart : Apart a b) (hr : replay (pre ++ a :: b :: post) = .ok r)
    (hr' : replay (swapped pre a b post) = .ok r') : r'.state.best = r.state.best := by
  rw [replay_best hr, replay_best hr', swapped, Renumbering.foldl_writeBest_apply,
    List.foldl_append, List.foldl_append, List.foldl_cons, List.foldl_cons, List.foldl_cons,
    List.foldl_cons, writeBest_silent (silent apart.first), writeBest_silent (silent apart.second),
    writeBest_silent (silent apart.first), writeBest_silent (silent apart.second)]

/-- Neighbours record different lessons, since the second one is checked against the first. -/
lemma lessons (apart : Apart a b) (v : ValidLedger (pre ++ a :: b :: post)) :
    ∀ lessonId, a.lesson = some lessonId → b.lesson ≠ some lessonId := by
  have recorded : ∀ {e : Event} {lessonId : String}, e.payload.onLane = true →
      e.lesson = some lessonId → ∃ candidate, e.payload = .lessonRecorded lessonId candidate := by
    intro e lessonId lane owner
    unfold Event.lesson at owner
    cases p : e.payload <;> rw [p] at lane owner <;> cases lane <;> cases owner
    exact ⟨_, rfl⟩
  intro lessonId owner owner'
  obtain ⟨candidate, first⟩ := recorded apart.first owner
  obtain ⟨candidate', second⟩ := recorded apart.second owner'
  have split : pre ++ a :: b :: post = (pre ++ [a]) ++ b :: post := by simp
  rw [split] at v
  obtain ⟨r, hr⟩ := ValidLedger.replay v.front
  obtain ⟨_, branch⟩ := v.accepted.branch hr (by simp [second, EventPayload.type])
  rw [second] at branch
  simp only [validateBranch, validateLessonRecorded, bind_eq_ok, require_ok,
    RunState.aggregate_lessons] at branch
  obtain ⟨_, fresh, _⟩ := branch
  have known := ((replay_known hr).2 lessonId).mpr ⟨a, by simp, candidate, first⟩
  rw [fresh] at known
  cases known

lemma lessons_swapped (apart : Apart a b) (v : ValidLedger (pre ++ a :: b :: post))
    (hr : replay (pre ++ a :: b :: post) = .ok r) (hr' : replay (swapped pre a b post) = .ok r')
    (lessonId : String) :
    r'.state.lessons.get? lessonId = (r.state.lessons.get? lessonId).map (swapNumbers a b).view := by
  have order : Log.Interleaves Event.lesson (pre ++ b :: a :: post) (pre ++ a :: b :: post) :=
    .swap fun k own other => apart.lessons v k other own
  rw [replay_lessons hr, replay_lessons hr', ← order.foldl_write]
  exact congrFun (Log.foldl_write_map (Option.map (swapNumbers a b).view) (fun _ => none)
    (fun _ => (swapNumbers a b).apply_lesson) fun _ _ _ => (swapNumbers a b).lessonCell_apply) lessonId

lemma lasting_swapped (apart : Apart a b) (v : ValidLedger (pre ++ a :: b :: post))
    (caused : Log.Valid Caused (pre ++ a :: b :: post))
    (hr : replay (pre ++ a :: b :: post) = .ok r) (hr' : replay (swapped pre a b post) = .ok r') :
    r'.lasting = r.lasting := by
  induction post using List.reverseRecOn generalizing r r' with
  | nil =>
    have split : pre ++ [a, b] = pre ++ [a] ++ [b] := by simp
    have split' : swapped pre a b [] = pre.map (swapNumbers a b).apply ++
        [(swapNumbers a b).apply b] ++ [(swapNumbers a b).apply a] := by simp [swapped]
    have grounded := v.grounded caused
    rw [split] at hr grounded
    rw [split'] at hr'
    obtain ⟨t, ht, second⟩ := replay_snoc_inv hr
    obtain ⟨r0, hr0, first⟩ := replay_snoc_inv ht
    obtain ⟨t', ht', first'⟩ := replay_snoc_inv hr'
    obtain ⟨r0', hr0', second'⟩ := replay_snoc_inv ht'
    have before := lasting_renumbered grounded.snoc_inv.1.snoc_inv.1 v.numbered.front hr0 hr0'
    rw [Reducer.step_lasting second, Reducer.step_lasting first, Reducer.step_lasting first',
      Reducer.step_lasting second', Renumbering.settle_apply, Renumbering.settle_apply,
      settle_onLane apart.first, settle_onLane apart.second, settle_onLane apart.first,
      settle_onLane apart.second, before]
  | append_singleton post e ih =>
    have split : pre ++ a :: b :: (post ++ [e]) = (pre ++ a :: b :: post) ++ [e] := by simp
    have split' : swapped pre a b (post ++ [e]) =
        swapped pre a b post ++ [(swapNumbers a b).apply e] := by simp [swapped]
    rw [split] at v caused hr
    rw [split'] at hr'
    obtain ⟨r0, hr0, step⟩ := replay_snoc_inv hr
    obtain ⟨r0', hr0', step'⟩ := replay_snoc_inv hr'
    obtain ⟨caused, _⟩ := caused.snoc_inv
    exact (apart.sameLanes v.front caused).lasting_step hr0 hr0' step step'
      (ih v.front caused hr0 hr0')

end Apart

@[simp] lemma RunState.aggregate_lasting {s : RunState} {es : List Event} :
    (s.aggregate es).lasting = s.lasting := by
  obtain ⟨_, _, eq⟩ := s.aggregate_eq es
  rw [eq]
  rfl

/-- Neighbouring events of two lanes may change places, and any two valid ledgers with the same
histories of every experiment say the same about them, up to the numbers of events. -/
theorem lanes_commute {es : List Event} {s : RunState} (v : ValidLedger es)
    (caused : Log.Valid Caused es) (projected : project es = .ok s) :
    (∀ pre a b post, es = pre ++ a :: b :: post → Apart a b →
      (swapped pre a b post).map Event.eventId = es.map Event.eventId ∧
      ∃ s', project (swapped pre a b post) = .ok s' ∧ SameOutcome (swapNumbers a b) s s' ∧
        (∀ lessonId, s'.lessons.get? lessonId =
          (s.lessons.get? lessonId).map (swapNumbers a b).view) ∧
        s'.lasting = s.lasting) ∧
    ∀ ρ es' s', ValidLedger es' → Log.Valid Caused es' → project es' = .ok s' →
      Log.Interleaves Event.experiment (es.map ρ.apply) es' → SameOutcome ρ s s' := by
  obtain ⟨r, hr, rfl⟩ := project_ok.mp projected
  refine ⟨fun pre a b post split apart => ?_, fun ρ es' s' v' caused' projected' lanes => ?_⟩
  · subst split
    obtain ⟨r', hr'⟩ := apart.replay_swapped hr
    have same := apart.sameLanes v caused
    refine ⟨swapped_ids v.numbered, r'.state.aggregate _, project_ok.mpr ⟨r', hr', rfl⟩, ?_, ?_, ?_⟩
    · exact same.outcome hr hr' (apart.best_swapped hr hr')
    · intro lessonId
      rw [RunState.aggregate_lessons, RunState.aggregate_lessons,
        apart.lessons_swapped v hr hr' lessonId]
    · rw [RunState.aggregate_lasting, RunState.aggregate_lasting]
      exact congrArg Prod.fst (apart.lasting_swapped v caused hr hr')
  · obtain ⟨r', hr', rfl⟩ := project_ok.mp projected'
    have same : SameLanes ρ es es' :=
      ⟨v.grounded caused, v'.grounded caused', v.numbered, v'.numbered, lanes⟩
    exact same.outcome hr hr' (best_renumber v v' hr hr' lanes.perm)

instance (pre : List Event) (e : Event) : Decidable (Caused pre e) :=
  inferInstanceAs (Decidable (∀ c ∈ e.causationEventId, ∃ g ∈ pre, g.eventId = c))

open Scenario in
/-- Two lanes: one experiment is abandoned right before the coder of the other one fails. -/
def laneRun : List Event := record (proposal 2 "one" ++
  [ (some 3, .contextCreated { contextId := "planner-2", role := .planner, experimentId := none }),
    (some 7, .experimentProposed { spec "two" with contextId := "planner-2" }),
    (some 8, .contextCreated { contextId := "coder-2", role := .coder, experimentId := some "two" }),
    (some 6, failed "one" 1 .coding), (some 10, recovery "one" 10 1 2 .abandon),
    (some 9, failed "two" 1 .coding) ])

/-- The recovery decision of the first lane, and the failure of the second one. -/
def laneEvents : Event × Event := (laneRun.get ⟨10, by decide⟩, laneRun.get ⟨11, by decide⟩)

lemma laneRun_split : laneRun = laneRun.take 10 ++ laneEvents.1 :: laneEvents.2 :: [] := by rfl

lemma laneRun_valid : ValidLedger laneRun := .of_check (by decide +kernel)

lemma laneRun_caused : Log.Valid Caused laneRun := Log.Valid.of_checkFrom .nil (by decide +kernel)

lemma laneEvents_apart : Apart laneEvents.1 laneEvents.2 where
  first := rfl
  second := rfl
  experiments x own other := by
    have one : laneEvents.1.experiment = some "one" := rfl
    have two : laneEvents.2.experiment = some "two" := rfl
    rw [own] at one
    rw [other, one] at two
    simp at two

theorem lanes_commute_run : ∃ s s', project laneRun = .ok s ∧
    project (swapped (laneRun.take 10) laneEvents.1 laneEvents.2 []) = .ok s' ∧
    s'.lasting = s.lasting ∧ SameOutcome (swapNumbers laneEvents.1 laneEvents.2) s s' := by
  obtain ⟨r, hr⟩ := laneRun_valid.replay
  have projected := project_ok.mpr ⟨r, hr, rfl⟩
  have swaps := (lanes_commute laneRun_valid laneRun_caused projected).1
  obtain ⟨_, s', projected', _, _, lasting⟩ := swaps _ _ _ _ laneRun_split laneEvents_apart
  refine ⟨_, s', projected, projected', lasting, ?_⟩
  have schedules := (lanes_commute laneRun_valid laneRun_caused projected).2
  refine schedules _ _ s' (.of_check (by decide +kernel))
    (Log.Valid.of_checkFrom .nil (by decide +kernel)) projected' ?_
  have order : Log.Interleaves Event.experiment _ (laneRun.take 10 ++ laneEvents.2 :: [laneEvents.1]) :=
    .swap laneEvents_apart.experiments
  rw [← laneRun_split] at order
  exact Renumbering.interleaves_apply _ order

/-- The event that ended an experiment carries another number after the swap. -/
theorem swapped_terminal_event : ValidLedger laneRun ∧ Log.Valid Caused laneRun ∧
    laneRun = laneRun.take 10 ++ laneEvents.1 :: laneEvents.2 :: [] ∧
    Apart laneEvents.1 laneEvents.2 ∧
    nodeOf (swapped (laneRun.take 10) laneEvents.1 laneEvents.2 []) "one" ≠ nodeOf laneRun "one" :=
  ⟨laneRun_valid, laneRun_caused, laneRun_split, laneEvents_apart, by decide +kernel⟩

end TacoRank
