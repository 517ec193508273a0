import TacoRank.Orchestrator.FinalSelection
import TacoRank.Orchestrator.Renumber
import Mathlib.Algebra.BigOperators.Group.List.Basic
import Mathlib.Algebra.GroupWithZero.Nat

/-!
# Interleavings of lanes

The lanes of a parallel round write to one ledger. The node of an experiment depends on the events of
that experiment alone, the counters and the resources on the events as a bag, and the best pointer on
the best updates, which every valid ledger holds in the order of their scores. So the projection does
not see how the lanes were scheduled: `lanes_commute`.
-/

namespace TacoRank
open Lib Lib.Result

/-! ### Nodes -/

namespace Renumbering
variable (ρ : Renumbering)

@[simp] lemma node_metricSet {n : ExperimentNode} : (ρ.node n).metricSet = n.metricSet := rfl

@[simp] lemma node_trust {n : ExperimentNode} : (ρ.node n).trust = n.trust := rfl

@[simp] lemma apply_experiment {e : Event} : (ρ.apply e).experiment = e.experiment :=
  ρ.payload_experiment

/-- A renumbered event makes the renumbered node, when retries resume alike. -/
lemma cell_apply {find find' : EventId → Option Event} {e : Event} {n : Option ExperimentNode}
    (same : ∀ d, e.payload = .recoveryDecided d → resumed find' (ρ.recovery d) = resumed find d) :
    (ρ.apply e).cell find' (n.map ρ.node) = (e.cell find n).map ρ.node := by
  obtain ⟨eventId, timestamp, runId, key, cause, payload, delta⟩ := e
  cases n with
  | none => cases payload <;> rfl
  | some n =>
    cases payload with
    | recoveryDecided d =>
      have same := same d rfl
      obtain ⟨x, failure, attempt, action, rest⟩ := d
      cases action with
      | retrySameCommit =>
        simp only [apply, Renumbering.payload, Event.cell, Option.map_some, recovery, if_true] at same ⊢
        rw [same]
        rfl
      | _ => rfl
    | executionFinished result =>
      simp only [apply, Renumbering.payload, Event.cell, Reducer.nodeUpdate, Option.map_some,
        ExperimentNode.executionFinished]
      split <;> rfl
    | experimentDecided d =>
      simp only [apply, Renumbering.payload, Event.cell, Reducer.nodeUpdate, Option.map_some,
        ExperimentNode.decided, decision]
      split
      · split <;> rfl
      · rfl
    | _ => rfl

end Renumbering

/-- A retry resumes alike in two ledgers of the same events under different numbers. -/
lemma resumed_renumber {ρ : Renumbering} {es es' : List Event} (grounded : Log.Valid Grounded es)
    (numbered : Numbered es) (numbered' : Numbered es') (same : (es.map ρ.apply).Perm es') :
    ∀ e ∈ es, ∀ d, e.payload = .recoveryDecided d →
      resumed (lookup es') (ρ.recovery d) = resumed (lookup es) d := by
  have find : ∀ f ∈ es, lookup es f.eventId = some f ∧
      lookup es' (ρ.event f.eventId) = some (ρ.apply f) := by
    intro f mem
    exact ⟨lookup_eq numbered mem,
      lookup_eq (e := ρ.apply f) numbered' (same.subset (List.mem_map_of_mem mem))⟩
  intro e mem d payload
  obtain ⟨pre, post, rfl⟩ := List.append_of_mem mem
  obtain ⟨f, before, id, _, caused⟩ := grounded.accepted d payload
  obtain ⟨found, found'⟩ := find f (List.mem_append_left _ before)
  rw [id] at found found'
  refine resumed_congr found' found ρ.payload_failureStage ?_
  cases cause : f.causationEventId with
  | none => simp [Renumbering.apply, cause]
  | some c =>
    obtain ⟨g, earlier, rfl⟩ := caused c cause
    obtain ⟨near, far⟩ := find g (List.mem_append_left _ earlier)
    have cause' : (ρ.apply f).causationEventId = some (ρ.event g.eventId) := by
      simp [Renumbering.apply, cause]
    rw [cause', Option.bind_some, Option.bind_some, near, far]
    simp [Renumbering.apply]

/-- Two ledgers with the same histories of every experiment have the same nodes. -/
lemma nodes_renumber {ρ : Renumbering} {es es' : List Event} {r r' : Reducer}
    (grounded : Log.Valid Grounded es) (grounded' : Log.Valid Grounded es')
    (numbered : Numbered es) (numbered' : Numbered es') (hr : replay es = .ok r)
    (hr' : replay es' = .ok r')
    (same : Log.Interleaves Event.experiment (es.map ρ.apply) es') (x : String) :
    r'.state.experiments.get? x = (r.state.experiments.get? x).map ρ.node := by
  rw [replay_nodes grounded' numbered' hr', replay_nodes grounded numbered hr, ← same.foldl_write]
  have resume := resumed_renumber grounded numbered numbered' same.perm
  have keys : ∀ e, (ρ.apply e).experiment = e.experiment := fun _ => ρ.apply_experiment
  have cells : ∀ e ∈ es, ∀ n, (ρ.apply e).cell (lookup es') (Option.map ρ.node n) =
      Option.map ρ.node (e.cell (lookup es) n) := fun e mem n => ρ.cell_apply (resume e mem)
  exact congrFun (Log.foldl_write_map (Option.map ρ.node) (fun _ => none) keys cells) x

/-! ### Counters and resources -/

lemma replay_queries {es : List Event} {r : Reducer} (hr : replay es = .ok r) :
    r.state.publicValidationQueries = (es.map (·.payload.queries)).sum ∧
      r.state.fullEvaluationsCompleted = (es.map (·.payload.fulls)).sum := by
  induction es using List.reverseRecOn generalizing r with
  | nil =>
    cases hr
    exact ⟨rfl, rfl⟩
  | append_singleton es e ih =>
    obtain ⟨r0, hr0, step⟩ := replay_snoc_inv hr
    obtain ⟨queries, fulls⟩ := ih hr0
    have write := Reducer.step_write step
    rw [write.queries, write.fulls, queries, fulls]
    simp

lemma total_eq_sum {f : ResourceDelta → Nat} {values : List ResourceDelta} :
    total f values = (values.map f).sum := by
  have fold : ∀ (values : List ResourceDelta) (start : Nat),
      values.foldl (fun sum item => sum + f item) start = start + (values.map f).sum := by
    intro values
    induction values with
    | nil => simp
    | cons v values ih =>
      intro start
      rw [List.foldl_cons, ih, List.map_cons, List.sum_cons, Nat.add_assoc]
  rw [total, fold, Nat.zero_add]

lemma total_perm {f : ResourceDelta → Nat} {values values' : List ResourceDelta}
    (perm : values.Perm values') : total f values = total f values' := by
  rw [total_eq_sum, total_eq_sum]
  exact (perm.map f).sum_eq

lemma peak_perm {f : ResourceDelta → Nat} {values values' : List ResourceDelta}
    (perm : values.Perm values') : peak f values = peak f values' := by
  have comm : RightCommutative fun (peak : Nat) item => Nat.max peak (f item) :=
    ⟨fun a b c => Nat.max_right_comm a (f b) (f c)⟩
  exact perm.foldl_eq 0

/-- Resources are accounted for as a bag. -/
lemma aggregateResources_perm {values values' : List ResourceDelta} (perm : values.Perm values') :
    aggregateResources values = aggregateResources values' := by
  unfold aggregateResources
  dsimp only
  simp only [total_perm perm, peak_perm perm, total_perm (perm.filter _)]

/-! ### The best pointer -/

/-- The score that an event sets as the best one. -/
def EventPayload.bestScore : EventPayload → Option ℚ
  | .bestUpdated payload => some payload.primaryScore
  | .baselineVerified payload => some payload.metricSet.primaryScore
  | _ => none

/-- The best pointer after an event. -/
def Event.writeBest (best : Option String × Option String × Option ℚ) (e : Event) :
    Option String × Option String × Option ℚ :=
  match e.payload with
  | .bestUpdated payload =>
    (some payload.experimentId, some payload.commitSha, some payload.primaryScore)
  | .baselineVerified payload =>
    if best.2.2 = none then
      (some payload.experimentId, some payload.commitSha, some payload.metricSet.primaryScore)
    else best
  | _ => best

/-- The events that write the best pointer. -/
def bestEvents (es : List Event) : List Event := es.filter (·.payload.bestScore.isSome)

lemma writeBest_silent {best : Option String × Option String × Option ℚ} {e : Event}
    (silent : e.payload.bestScore = none) : e.writeBest best = best := by
  unfold Event.writeBest
  cases p : e.payload with
  | bestUpdated payload =>
    rw [p] at silent
    cases silent
  | baselineVerified payload =>
    rw [p] at silent
    cases silent
  | _ => rfl

lemma foldl_writeBest {es : List Event} {best : Option String × Option String × Option ℚ} :
    es.foldl Event.writeBest best = (bestEvents es).foldl Event.writeBest best := by
  induction es generalizing best with
  | nil => rfl
  | cons e es ih =>
    unfold bestEvents at ih ⊢
    rw [List.foldl_cons, ih]
    cases score : e.payload.bestScore with
    | none => rw [writeBest_silent score, List.filter_cons_of_neg (by simp [score])]
    | some q => rw [List.filter_cons_of_pos (by simp [score]), List.foldl_cons]

lemma replay_best {es : List Event} {r : Reducer} (hr : replay es = .ok r) :
    r.state.best = es.foldl Event.writeBest (none, none, none) := by
  induction es using List.reverseRecOn generalizing r with
  | nil =>
    cases hr
    rfl
  | append_singleton es e ih =>
    obtain ⟨r0, hr0, step⟩ := replay_snoc_inv hr
    rw [List.foldl_append, List.foldl_cons, List.foldl_nil, ← ih hr0]
    unfold Event.writeBest
    cases p : e.payload with
    | bestUpdated payload =>
      simp only [Reducer.step, Reducer.branch, p, pure_eq_ok] at step
      subst step
      rfl
    | baselineVerified payload =>
      simp only [Reducer.step, Reducer.branch, p, pure_eq_ok] at step
      subst step
      unfold RunState.baselineVerified
      by_cases first : r0.state.bestPrimaryScore = none
      · simp [Reducer.observe, RunState.best, first]
      · simp [Reducer.observe, RunState.best, first]
    | _ => exact best_frame step (by simp [p, EventPayload.type]) (by simp [p, EventPayload.type])

namespace Renumbering
variable (ρ : Renumbering)

@[simp] lemma payload_bestScore {p : EventPayload} : (ρ.payload p).bestScore = p.bestScore := by
  cases p <;> rfl

lemma writeBest_apply {best : Option String × Option String × Option ℚ} {e : Event} :
    (ρ.apply e).writeBest best = e.writeBest best := by
  unfold Event.writeBest apply
  cases e.payload <;> rfl

lemma bestEvents_apply {es : List Event} :
    bestEvents (es.map ρ.apply) = (bestEvents es).map ρ.apply := by
  unfold bestEvents
  rw [List.filter_map]
  congr 1
  apply List.filter_congr
  intro e _
  simp [apply]

lemma foldl_writeBest_apply {es : List Event} {best : Option String × Option String × Option ℚ} :
    (es.map ρ.apply).foldl Event.writeBest best = es.foldl Event.writeBest best := by
  induction es generalizing best with
  | nil => rfl
  | cons e es ih => rw [List.map_cons, List.foldl_cons, List.foldl_cons, writeBest_apply, ih]

end Renumbering

lemma scores_bestEvents {es : List Event} {e : Event} {q : ℚ} (mem : e ∈ bestEvents es)
    (score : e.payload.bestScore = some q) : q ∈ scores es := by
  obtain ⟨listed, _⟩ := List.mem_filter.mp mem
  refine List.mem_filterMap.mpr ⟨e, listed, ?_⟩
  cases p : e.payload <;> rw [p] at score <;> cases score <;> rfl

/-- One best event comes before another when its score is lower. -/
def ScoredBelow (a b : Event) : Prop :=
  ∀ p ∈ a.payload.bestScore, ∀ q ∈ b.payload.bestScore, p < q

/-- A valid ledger sets the best pointer in the order of the scores. -/
lemma ValidLedger.bestEvents_sorted {es : List Event} (v : ValidLedger es) :
    (bestEvents es).Pairwise ScoredBelow := by
  induction v with
  | nil => exact List.Pairwise.nil
  | @snoc es e v ok ih =>
    have append : bestEvents (es ++ [e]) = bestEvents es ++ bestEvents [e] := List.filter_append ..
    rw [append, List.pairwise_append]
    refine ⟨ih, List.Pairwise.filter _ (List.pairwise_singleton _ _), ?_⟩
    intro a before b last
    obtain ⟨mem, writes⟩ := List.mem_filter.mp last
    cases List.mem_singleton.mp mem
    intro p old q new
    obtain ⟨r, hr⟩ := ValidLedger.replay v
    have listed := scores_bestEvents before old
    have incumbent := ValidLedger.incumbent v hr
    cases payload : e.payload with
    | bestUpdated update =>
      rw [payload] at new
      cases new
      obtain ⟨_, branch⟩ := ok.branch hr (by simp [payload, EventPayload.type])
      rw [payload] at branch
      obtain ⟨_, _, legal⟩ := validateBestUpdated_ok.mp branch
      cases score : r.state.bestPrimaryScore with
      | none =>
        rw [incumbent.unscored score] at listed
        cases listed
      | some best =>
        have improves := legal.improves best (by rw [RunState.aggregate_bestPrimaryScore, score])
        exact lt_of_le_of_lt ((incumbent.greatest best score).2 listed) improves
    | baselineVerified baseline =>
      obtain ⟨_, branch⟩ := ok.branch hr (by simp [payload, EventPayload.type])
      rw [payload] at branch
      simp only [validateBranch, validateBaselineVerified, bind_eq_ok, require_ok] at branch
      obtain ⟨_, _, _, absent, _⟩ := branch
      rw [incumbent.unscored (incumbent.early absent).2.1] at listed
      cases listed
    | _ =>
      rw [payload] at new
      cases new

/-- Two valid ledgers of the same events set the best pointer in the same order. -/
lemma best_renumber {ρ : Renumbering} {es es' : List Event} {r r' : Reducer} (v : ValidLedger es)
    (v' : ValidLedger es') (hr : replay es = .ok r) (hr' : replay es' = .ok r')
    (same : (es.map ρ.apply).Perm es') : r'.state.best = r.state.best := by
  have sorted : ((bestEvents es).map ρ.apply).Pairwise ScoredBelow := by
    refine List.pairwise_map.mpr (v.bestEvents_sorted.imp fun below => ?_)
    unfold ScoredBelow Renumbering.apply at *
    simpa using below
  have perm : ((bestEvents es).map ρ.apply).Perm (bestEvents es') := by
    rw [← ρ.bestEvents_apply]
    exact same.filter _
  have equal : (bestEvents es).map ρ.apply = bestEvents es' := by
    refine List.Perm.eq_of_pairwise ?_ sorted v'.bestEvents_sorted perm
    intro a b first second below above
    obtain ⟨p, score⟩ := Option.isSome_iff_exists.mp
      (List.mem_filter.mp (perm.subset first)).2
    obtain ⟨q, score'⟩ := Option.isSome_iff_exists.mp (List.mem_filter.mp second).2
    exact absurd (below p score q score') (not_lt_of_gt (above q score' p score))
  calc r'.state.best = (bestEvents es').foldl Event.writeBest (none, none, none) := by
        rw [replay_best hr', foldl_writeBest]
    _ = (bestEvents es).foldl Event.writeBest (none, none, none) := by
        rw [← equal, ρ.foldl_writeBest_apply]
    _ = r.state.best := by
        rw [replay_best hr]
        exact foldl_writeBest.symm

/-! ### Replaying a ledger in another order -/

/-- What the reducer looks up for an event: the node of its experiment, and its lesson. -/
def Founded (pre : List Event) (e : Event) : Prop :=
  (∀ x, e.payload.experiment = some x → e.payload.type = .experimentProposed ∨
    ∃ p ∈ pre, p.payload.experiment = some x ∧ p.payload.type = .experimentProposed) ∧
  (∀ lessonId status reason, e.payload = .lessonStatusChanged lessonId status reason →
    ∃ p ∈ pre, ∃ candidate, p.payload = .lessonRecorded lessonId candidate)

/-- The lesson that an event writes. -/
def Event.lesson (e : Event) : Option String :=
  match e.payload with
  | .lessonRecorded lessonId _ => some lessonId
  | .lessonStatusChanged lessonId _ _ => some lessonId
  | _ => none

/-- What an event makes of its lesson. -/
def Event.lessonCell (e : Event) (view : Option LessonView) : Option LessonView :=
  match e.payload with
  | .lessonRecorded lessonId candidate =>
    some
      { lessonId, status := .active, summary := candidate.summary, tags := candidate.tags
        sourceEventId := e.eventId }
  | .lessonStatusChanged _ status _ => view.map fun view => { view with status }
  | _ => view

lemma Reducer.step_lessons {r r' : Reducer} {e : Event} (h : r.step e = .ok r') :
    r'.state.lessons.get? =
      Log.write Event.lesson Event.lessonCell r.state.lessons.get? e := by
  unfold step branch at h
  obtain ⟨eventId, timestamp, runId, key, cause, payload, delta⟩ := e
  funext lessonId
  cases payload with
  | patchCreated d | patchChecked d | executionStarted d | executionFinished d | adapterFailed d
  | outputChecked d | evaluationCompleted d =>
    simp only [bind_eq_ok, pure_eq_ok, RunState.updateNode_ok, observe] at h
    obtain ⟨s, ⟨n, hn, rfl⟩, rfl⟩ := h
    rfl
  | recoveryDecided d =>
    simp only [bind_eq_ok, pure_eq_ok, RunState.updateNode_ok] at h
    obtain ⟨s, ⟨n, hn, rfl⟩, rfl⟩ := h
    obtain ⟨_, _, _, _, eq⟩ := Reducer.recoveryRun_eq (r.observe _) d _
    rw [eq]
    rfl
  | experimentDecided d =>
    simp only [bind_eq_ok, pure_eq_ok, RunState.updateNode_ok, RunState.node_ok, observe] at h
    obtain ⟨m, hm, s, ⟨n, hn, rfl⟩, rfl⟩ := h
    obtain ⟨_, _, _, _, _, _, eq⟩ := Reducer.decidedRun_eq _ m d
    rw [eq]
    rfl
  | baselineVerified payload =>
    simp only [pure_eq_ok, observe] at h
    subst h
    unfold RunState.baselineVerified
    dsimp only
    split <;> rfl
  | lessonRecorded recorded candidate =>
    simp only [pure_eq_ok, observe] at h
    subst h
    unfold Log.write Event.lesson Event.lessonCell
    dsimp only
    rw [Dict.get?_set]
    by_cases own : lessonId = recorded
    · rw [if_pos own, if_pos (by rw [own])]
    · rw [if_neg own, if_neg (by simpa using Ne.symm own)]
  | lessonStatusChanged changed status reason =>
    simp only [observe] at h
    split at h
    · cases h
    next lesson found =>
      cases h
      unfold Log.write Event.lesson Event.lessonCell
      dsimp only
      rw [Dict.get?_set]
      by_cases own : lessonId = changed
      · subst own
        rw [if_pos rfl, if_pos rfl, found]
        rfl
      · rw [if_neg own, if_neg (by simpa using Ne.symm own)]
  | _ =>
    simp only [pure_eq_ok, observe] at h
    subst h
    rfl

lemma replay_lessons {es : List Event} {r : Reducer} (hr : replay es = .ok r) :
    r.state.lessons.get? = es.foldl (Log.write Event.lesson Event.lessonCell) fun _ => none := by
  induction es using List.reverseRecOn generalizing r with
  | nil =>
    cases hr
    rfl
  | append_singleton es e ih =>
    obtain ⟨r0, hr0, step⟩ := replay_snoc_inv hr
    rw [Reducer.step_lessons step, ih hr0, List.foldl_append, List.foldl_cons, List.foldl_nil]

/-- The experiments and lessons that a replay knows are those that its events introduced. -/
lemma replay_known {es : List Event} {r : Reducer} (hr : replay es = .ok r) :
    (∀ x, (r.state.experiments.get? x).isSome = true ↔
      ∃ p ∈ es, p.payload.experiment = some x ∧ p.payload.type = .experimentProposed) ∧
    (∀ lessonId, (r.state.lessons.get? lessonId).isSome = true ↔
      ∃ p ∈ es, ∃ candidate, p.payload = .lessonRecorded lessonId candidate) := by
  induction es using List.reverseRecOn generalizing r with
  | nil =>
    cases hr
    refine ⟨fun x => ?_, fun lessonId => ?_⟩
    · constructor
      · intro known
        cases known
      · rintro ⟨_, mem, _⟩
        cases mem
    · constructor
      · intro known
        cases known
      · rintro ⟨_, mem, _⟩
        cases mem
  | append_singleton es e ih =>
    obtain ⟨r0, hr0, step⟩ := replay_snoc_inv hr
    obtain ⟨nodes, lessons⟩ := ih hr0
    refine ⟨fun x => ?_, fun lessonId => ?_⟩
    · have before := nodes x
      have write := (Reducer.step_inv step).nodes x
      simp only [List.mem_append, List.mem_singleton, or_and_right, exists_or, exists_eq_left]
      rw [← before]
      generalize r0.state.experiments.get? x = n at write ⊢
      generalize r.state.experiments.get? x = n' at write ⊢
      cases write with
      | frame other => simp [other]
      | proposed payload owner => simp [payload, ← owner, EventPayload.experiment, EventPayload.type]
      | update => simp
    · rw [Reducer.step_lessons step]
      simp only [List.mem_append, List.mem_singleton, or_and_right, exists_or, exists_eq_left]
      rw [← lessons lessonId]
      unfold Log.write Event.lesson Event.lessonCell
      cases p : e.payload with
      | lessonRecorded recorded candidate => by_cases own : recorded = lessonId <;> simp [own]
      | lessonStatusChanged changed status reason =>
        by_cases own : changed = lessonId <;> simp [own]
      | _ => simp

/-- A step succeeds when the event finds what it looks up. -/
lemma Reducer.step_total {r : Reducer} {e : Event} : (∃ r', r.step e = .ok r') ↔
    (∀ x, e.payload.experiment = some x → e.payload.type = .experimentProposed ∨
      (r.state.experiments.get? x).isSome = true) ∧
    (∀ lessonId status reason, e.payload = .lessonStatusChanged lessonId status reason →
      (r.state.lessons.get? lessonId).isSome = true) := by
  constructor
  · rintro ⟨r', step⟩
    refine ⟨fun x owner => ?_, fun lessonId status reason payload => ?_⟩
    · have write := (step_inv step).nodes x
      generalize r.state.experiments.get? x = n at write ⊢
      generalize r'.state.experiments.get? x = n' at write
      cases write with
      | frame other => exact absurd owner other
      | proposed payload =>
        rw [payload]
        exact .inl rfl
      | update => exact .inr rfl
    · simp only [Reducer.step, Reducer.branch, payload] at step
      split at step
      · cases step
      next found => exact Option.isSome_iff_exists.mpr ⟨_, found⟩
  · rintro ⟨nodes, lessons⟩
    unfold step branch
    cases p : e.payload with
    | patchCreated d | patchChecked d | executionStarted d | executionFinished d | adapterFailed d
    | outputChecked d | evaluationCompleted d | recoveryDecided d | experimentDecided d =>
      rw [p] at nodes
      have known := (nodes d.experimentId rfl).resolve_left (by simp [EventPayload.type])
      obtain ⟨n, node⟩ := Option.isSome_iff_exists.mp known
      have found : (r.observe e).state.experiments.get? d.experimentId = some n := node
      simp only [RunState.updateNode, RunState.node, found]
      exact ⟨_, rfl⟩
    | lessonStatusChanged lessonId status reason =>
      obtain ⟨view, known⟩ := Option.isSome_iff_exists.mp (lessons lessonId status reason p)
      have found : (r.observe e).state.lessons.get? lessonId = some view := known
      simp only [found]
      exact ⟨_, rfl⟩
    | _ => exact ⟨_, rfl⟩

/-- A ledger replays when every event finds what it looks up. -/
lemma replay_total {es : List Event} : (∃ r, replay es = .ok r) ↔ Log.Valid Founded es := by
  induction es using List.reverseRecOn with
  | nil => exact ⟨fun _ => .nil, fun _ => ⟨{}, rfl⟩⟩
  | append_singleton es e ih =>
    constructor
    · rintro ⟨r', hr'⟩
      obtain ⟨r, hr, step⟩ := replay_snoc_inv hr'
      obtain ⟨nodes, lessons⟩ := replay_known hr
      obtain ⟨owned, noted⟩ := Reducer.step_total.mp ⟨r', step⟩
      refine (ih.mp ⟨r, hr⟩).snoc ⟨fun x owner => ?_, fun lessonId status reason payload => ?_⟩
      · exact (owned x owner).imp_right (nodes x).mp
      · exact (lessons lessonId).mp (noted lessonId status reason payload)
    · intro v
      obtain ⟨before, owned, noted⟩ := v.snoc_inv
      obtain ⟨r, hr⟩ := ih.mpr before
      obtain ⟨nodes, lessons⟩ := replay_known hr
      obtain ⟨r', step⟩ := (Reducer.step_total (r := r) (e := e)).mpr
        ⟨fun x owner => (owned x owner).imp_right (nodes x).mpr,
          fun lessonId status reason payload =>
            (lessons lessonId).mpr (noted lessonId status reason payload)⟩
      exact ⟨r', by rw [replay_snoc, hr]; exact step⟩

end TacoRank
