import TacoRank.Orchestrator.FidelitySpec
import TacoRank.Orchestrator.NodeTrace

/-!
# Specification of the decisions on evaluations

A promotion opens the next round. After a terminal decision the best score is raised to the score
that was decided on: nothing is awaited between the decision and the update, so the state machine
accepts an update that the harness has found to be an improvement.
-/

namespace TacoRank
open Lib Lib.Result

/-! ### The best update after a decision -/

/-- What the state machine finds after a best-eligible decision. -/
structure Crowned (x commit : String) (metricSet : MetricSet) (decision : Event) (es : List Event) :
    Prop where
  live : ∃ status, statusOf es = some status ∧ Live status
  node : ∃ n, nodeOf es x = some n ∧ n.status = .accepted ∧ n.bestEligible = true ∧
    n.terminalEventId = some decision.eventId ∧ n.latestCommitSha = some commit ∧
    n.metricSet = some metricSet
  decided : decision ∈ es ∧ ∃ d, decision.payload = .experimentDecided d ∧ d.experimentId = x ∧
    d.decision = .accept ∧ d.bestEligible = true

section Crowned
variable {x commit : String} {metricSet : MetricSet} {es : List Event} {e : Event}
  {d : ExperimentDecision}

/-- A best-eligible decision is an acceptance. -/
lemma DecisionEvidence.accepts {n : ExperimentNode} (evidence : DecisionEvidence es n d)
    (eligible : d.bestEligible = true) : d.decision = .accept := by
  cases evidence with
  | smoke fidelity =>
    rw [d.validatePromotion.2 eligible] at fidelity
    cases fidelity
  | evaluated _ _ _ _ _ best => exact (best eligible).decision

/-- The run is live after a decision. -/
lemma Accepted.decided_live (v : ValidLedger es) (ok : Accepted es e)
    (payload : e.payload = .experimentDecided d) :
    ∃ status, statusOf (es ++ [e]) = some status ∧ Live status := by
  obtain ⟨r, hr⟩ := v.replay
  obtain ⟨r', step⟩ := ok.step hr
  have hr' : replay (es ++ [e]) = .ok r' := by
    rw [replay_snoc, hr]
    exact step
  have started : es ≠ [] := by
    rintro rfl
    have type := ok.2
    rw [payload] at type
    cases type
  have legal := ok.2
  rw [payload] at legal
  refine ⟨r'.state.status, statusOf_replay hr', ?_⟩
  rw [(Reducer.step_inv step).frame.status, payload]
  exact ((validateTransition_decided hr started).mp legal).1

lemma Accepted.crowned (v : ValidLedger es) (ok : Accepted es e)
    (payload : e.payload = .experimentDecided d) (owner : d.experimentId = x)
    (eligible : d.bestEligible = true)
    (patch : ∃ p c, newest (ofTypes [.patchCreated]) (trace x es) = some p ∧
      p.payload = .patchCreated c ∧ c.patchCommitSha = commit)
    (evaluation : ∃ f res, newest (ofTypes [.evaluationCompleted]) (trace x es) = some f ∧
      f.payload = .evaluationCompleted res ∧ res.metricSet = metricSet) :
    Crowned x commit metricSet e (es ++ [e]) := by
  obtain ⟨r, hr⟩ := v.replay
  have started : es ≠ [] := by
    rintro rfl
    have type := ok.2
    rw [payload] at type
    cases type
  have legal := ok.2
  rw [payload] at legal
  obtain ⟨_, n, node, evidence, _⟩ := (validateTransition_decided hr started).mp legal
  rw [owner] at node
  have traced := v.nodeTrace hr node
  obtain ⟨p, c, foundPatch, created, rfl⟩ := patch
  obtain ⟨f, res, foundEvaluation, evaluated, rfl⟩ := evaluation
  have accept := evidence.accepts eligible
  refine ⟨ok.decided_live v payload, ⟨_, nodeOf_update hr ok node ?_ ?_, ?_⟩,
    by simp, d, payload, owner, accept, eligible⟩
  · rw [payload]
    exact congrArg some owner
  · intro spec proposed
    rw [payload] at proposed
    cases proposed
  · simp only [Reducer.nodeUpdate, payload]
    refine ⟨?_, ?_, ?_, ?_, ?_⟩
    · rw [ExperimentNode.decided_status, accept]
      rfl
    · simp [ExperimentNode.decided, accept, eligible]
    · simp [ExperimentNode.decided, accept]
    · rw [ExperimentNode.decided_latestCommitSha]
      exact traced.commit p c foundPatch created
    · rw [ExperimentNode.decided_metricSet]
      exact traced.metrics f res foundEvaluation evaluated

/-- A lesson changes nothing of it. -/
lemma Crowned.lesson {decision : Event} (crowned : Crowned x commit metricSet decision es)
    (v : ValidLedger es) (ok : Accepted es e) (type : e.payload.type = .lessonRecorded) :
    Crowned x commit metricSet decision (es ++ [e]) := by
  obtain ⟨r, hr⟩ := v.replay
  obtain ⟨r', step⟩ := ok.step hr
  have hr' : replay (es ++ [e]) = .ok r' := by
    rw [replay_snoc, hr]
    exact step
  have silent : e.payload.experiment ≠ some x ∧ r'.state.status = r.state.status := by
    have status := (Reducer.step_inv step).frame.status
    cases payload : e.payload with
    | lessonRecorded =>
      rw [payload] at status
      exact ⟨(by simp [EventPayload.experiment]), status⟩
    | _ =>
      rw [payload] at type
      cases type
  obtain ⟨status, found, live⟩ := crowned.live
  rw [statusOf_replay hr] at found
  cases found
  refine ⟨⟨_, statusOf_replay hr', silent.2 ▸ live⟩, ?_, ?_⟩
  · rw [nodeOf_foreign v ok silent.1]
    exact crowned.node
  · exact ⟨List.mem_append_left _ crowned.decided.1, crowned.decided.2⟩

/-- A better score of the decided experiment is accepted as the best one. -/
lemma Crowned.best {decision : Event} {s : RunState} {b : BestUpdated}
    (crowned : Crowned x commit metricSet decision es) (v : ValidLedger es)
    (projected : project es = .ok s) (owner : b.experimentId = x) (same : b.commitSha = commit)
    (name : b.primaryMetricName = metricSet.primaryMetricName)
    (score : b.primaryScore = metricSet.primaryScore) (cites : b.decisionEventId = decision.eventId)
    (improves : ∀ best, s.bestPrimaryScore = some best → best < b.primaryScore) :
    validateTransition es (.bestUpdated b) = .ok () := by
  obtain ⟨r, hr, rfl⟩ := project_ok.mp projected
  obtain ⟨status, found, live⟩ := crowned.live
  rw [statusOf_replay hr] at found
  cases found
  obtain ⟨n, node, accepted, eligible, terminal, latest, metrics⟩ := crowned.node
  rw [nodeOf_replay hr] at node
  obtain ⟨mem, d, payload, decided, accept, best⟩ := crowned.decided
  refine (validateTransition_ok hr).mpr (.later ?_ (by simp [EventPayload.type]) ?_ ?_)
  · rintro rfl
    cases mem
  · exact live.legal
  · refine validateBestUpdated_ok.mpr ⟨n, ?_, accepted, eligible, ⟨(decision, d), ?_, terminal,
      decided.trans owner.symm, accept, best⟩, ?_, ⟨metricSet, metrics, name.symm, score.symm⟩,
      improves⟩
    · rw [RunState.aggregate_experiments, owner]
      exact node
    · obtain ⟨pre, post, rfl⟩ := List.append_of_mem mem
      rw [cites]
      exact v.eventWithId (by rw [payload]; rfl)
    · rw [same]
      exact latest

/-- A promotion is no best-eligible decision. -/
lemma ValidLedger.promoted_ineligible (v : ValidLedger es) (mem : e ∈ es)
    (payload : e.payload = .experimentDecided d) (promote : d.decision = .promote) :
    d.bestEligible = false := by
  obtain ⟨pre, post, rfl⟩ := List.append_of_mem mem
  obtain ⟨_, _, _, _, evidence⟩ := v.decision_inv payload
  by_contra eligible
  rw [Bool.not_eq_false] at eligible
  have accept := evidence.accepts eligible
  rw [promote] at accept
  cases accept

end Crowned

/-! ### Following a decision -/

/-- The decision on an evaluation has been recorded, and nothing of the experiment after it. -/
structure JustDecided (h : Harness) (x : String) (round : Harness.Round)
    (evaluation : EvaluationResult) (l : List ℚ) (t0 : List Event) (d : ExperimentDecision) (e : Event)
    (es : List Event) : Prop where
  split : trace x es = t0 ++ [e]
  placed : ∃ pre post, es = pre ++ e :: post ∧ TacoRank.scores pre = l
  scores : TacoRank.scores es = l
  payload : e.payload = .experimentDecided d
  attempt : e.key.attempt = round.request.attempt
  run : ∀ f, es.head? = some f → f.runId = h.config.runId
  crowned : d.bestEligible = true →
    Crowned x round.state.checked.patch.patchCommitSha evaluation.metricSet e es
  legal : ∃ s n, PromotionLegal s n d
  completed : d.fidelityCompleted = round.fidelity

/-- The evaluation that a round decides on. -/
structure DecidesOn (x : String) (round : Harness.Round) (evaluation : EvaluationResult)
    (evaluationEvent : Event) (t : List Event) : Prop where
  running : Running round 6 t
  evaluated : Evaluated evaluation t
  recorded : evaluationEvent ∈ t
  payload : evaluationEvent.payload = .evaluationCompleted evaluation
  attempt : evaluationEvent.key.attempt = round.request.attempt
  fidelity : evaluation.fidelity = round.fidelity

section Decided
variable {h : Harness} {x : String} {spec : ExperimentSpec} {round : Harness.Round} {k : Nat}
  {l : List ℚ} {t0 t : List Event} {e : Event} {d : ExperimentDecision}

/-- The decisions of an open experiment are covered, and so is one whose score was reached before or
raised the best score. -/
lemma Covered.of_decided {es : List Event} {evaluationEvent : Event} {evaluation : EvaluationResult}
    (v : ValidLedger es) (undecided : Undecided t0) (split : trace x es = t0 ++ [e])
    (placed : ∃ pre post, es = pre ++ e :: post ∧ scores pre = l)
    (payload : e.payload = .experimentDecided d)
    (cites : d.evaluationEventId = some evaluationEvent.eventId)
    (evaluated : evaluationEvent ∈ es ∧ evaluationEvent.payload = .evaluationCompleted evaluation)
    (reached : d.bestEligible = true →
      (∃ q ∈ l, evaluation.metricSet.primaryScore ≤ q) ∨ Raised x e evaluation es) :
    Covered x es := by
  intro pre e' post at_ own d' payload' eligible f listed res evaluated' cited
  have inside : e' ∈ es := by simp [at_]
  have mem : e' ∈ trace x es := mem_trace.mpr ⟨inside, own⟩
  rw [split] at mem
  rcases List.mem_append.mp mem with old | new
  · have ineligible := v.promoted_ineligible inside payload' (undecided e' old d' payload')
    rw [eligible] at ineligible
    cases ineligible
  · obtain rfl := List.mem_singleton.mp new
    rw [payload] at payload'
    cases payload'
    rw [cites] at cited
    obtain rfl := v.eq_of_id evaluated.1 listed (Option.some.inj cited)
    rw [evaluated.2] at evaluated'
    cases evaluated'
    obtain ⟨pre0, post0, at0, best⟩ := placed
    have place : pre.length = pre0.length := by
      have id := (Log.Valid.accepted (at_ ▸ v)).1
      have id0 := (Log.Valid.accepted (at0 ▸ v)).1
      have same : pre.length + 1 = pre0.length + 1 := id.symm.trans id0
      omega
    obtain rfl := (List.append_inj (at_.symm.trans at0) place).1
    rw [best]
    exact reached eligible

lemma Fidelity.order_rank {f : Fidelity} {n : Nat} (order : f.order = some n) : f.rank = n := by
  cases f <;> cases order <;> rfl

/-- The fidelity of a promotion lies above all that have been promoted from. -/
lemma Above.promoted {s : RunState} {n : ExperimentNode} {next : Fidelity}
    (above : Above t d.fidelityCompleted) (legal : PromotionLegal s n d)
    (promote : d.decision = .promote) (target : d.nextFidelity = some next)
    (payload : e.payload = .experimentDecided d) : Above (t ++ [e]) next := by
  have rises : d.fidelityCompleted.rank ≤ next.rank ∧
      (d.fidelityCompleted ≠ .full → d.fidelityCompleted.rank < next.rank) := by
    have checked := legal promote
    split at checked
    · rename_i full
      rw [target] at checked
      cases checked.1
      exact ⟨by rw [full], fun no => absurd full no⟩
    · obtain ⟨above', completed, order, order', less⟩ := checked
      rw [target, Option.bind_some] at order
      rw [Fidelity.order_rank order, Fidelity.order_rank order']
      exact ⟨less.le, fun _ => less⟩
  intro e' mem d' payload' promote' full
  rcases List.mem_append.mp mem with old | new
  · exact (above e' old d' payload' promote' full).trans_le rises.1
  · rw [List.mem_singleton.mp new, payload] at payload'
    cases payload'
    exact rises.2 full

/-- After a promotion the next round may begin. -/
lemma Running.promoted {s : RunState} {n : ExperimentNode} {queue : List Fidelity}
    (running : Running round k t0) (runs : round.Runs x)
    (payload : e.payload = .experimentDecided d) (promote : d.decision = .promote)
    (attempt : e.key.attempt = round.request.attempt) (legal : PromotionLegal s n d)
    (completed : d.fidelityCompleted = round.fidelity)
    (targets : ∀ next, queue.head? = some next → d.nextFidelity = some next) :
    Ready x { round.state with stageQueue := queue } (t0 ++ [e]) := by
  have base : Base (t0 ++ [e]) := by
    refine running.base.snoc ?_ ?_ ?_
    · intro result failed
      rw [payload] at failed
      cases failed
    · intro d' contained
      have recovery := contained.payload
      rw [payload] at recovery
      cases recovery
    · intro d' payload'
      rw [payload] at payload'
      cases payload'
      exact promote
  refine ⟨running.sealed.snoc (by simp [payload, EventPayload.type]), ⟨base, .snoc ?_, ?_⟩, ?_,
    fun template => absurd runs.template template, fun q template => ?_, fun next head => ?_⟩
  · rw [payload]
    rfl
  · intro s found
    rw [newest_own (by rw [payload]; rfl)] at found
    cases found
    simp [payload, EventPayload.type]
  · rw [← runs.attempt]
    refine running.inRound.before.snoc (fun _ => by omega) fun q request => ?_
    rw [payload] at request
    cases request
  · rw [runs.template] at template
    cases template
  · exact Above.promoted (completed ▸ running.inRound.above) legal promote (targets next head) payload

/-- A narrower reading that selects the newest event. -/
lemma newest_narrow {p q : EventPayload → Bool} {t : List Event} {e : Event}
    (narrow : ∀ y, q y = true → p y = true) (found : newest p t = some e)
    (own : q e.payload = true) : newest q t = some e := by
  obtain ⟨pre, post, rfl, _, silent⟩ := newest_split found
  rw [newest, Log.lastSome_at (b := e)]
  · rw [if_pos own]
  · intro e' mem
    rw [if_neg]
    intro selected
    have none := silent e' mem
    rw [narrow _ selected] at none
    cases none

lemma scores_silent {es : List Event} {f : Event}
    (other : f.payload.type ∉ [.baselineVerified, .bestUpdated]) :
    scores (es ++ [f]) = scores es := by
  rw [scores_snoc]
  unfold scores
  cases payload : f.payload with
  | baselineVerified => simp [payload, EventPayload.type] at other
  | bestUpdated => simp [payload, EventPayload.type] at other
  | _ => simp [payload]

/-- The decision on an evaluation is recorded. -/
lemma appendDecision_spec {evaluation : EvaluationResult} {evaluationEvent : Event}
    {decision : ExperimentDecision} {cause : Option EventId} {delta : ResourceDelta}
    (decides : DecidesOn x round evaluation evaluationEvent t0)
    (runs : round.Runs x) (owner : decision.experimentId = x)
    (cites : decision.evaluationEventId = some evaluationEvent.eventId) :
    LaneSpec h x (fun es => On x (· = t0) es ∧ scores es = l)
      (h.append (.experimentDecided decision) ⟨x, .decision round.fidelity, round.request.attempt⟩
        cause delta)
      (fun e es => JustDecided h x round evaluation l t0 decision e es ∧ ∃ pre, es = pre ++ [e])
      (Left h x Signals) := by
  have own : (EventPayload.experimentDecided decision).owner = some x := congrArg some owner
  have owned : ∀ {e : Event} {key : EventKey}, Records h key (.experimentDecided decision) e →
      e.owner = some x := by
    intro e key records
    rw [Event.owner, records.payload]
    exact own
  refine append_spec ?_ ?_ ?_
  · rintro es e v ⟨same, best⟩ ok records caused unrecorded
    have same : trace x es = t0 := same
    obtain ⟨r, hr⟩ := v.valid.replay
    have listed : evaluationEvent ∈ es := by
      have inside := decides.recorded
      rw [← same] at inside
      exact (mem_trace.mp inside).1
    have started : es ≠ [] := List.ne_nil_of_mem listed
    have legal := ok.2
    rw [records.payload] at legal
    obtain ⟨_, n, node, evidence, promotion⟩ := (validateTransition_decided hr started).mp legal
    -- the evidence is the evaluation that the decision cites
    have completed : decision.fidelityCompleted = round.fidelity := by
      cases evidence with
      | smoke _ _ none =>
        rw [cites] at none
        cases none
      | @evaluated found _ _ latest cited completed _ =>
        have mem := lastForExperiment_mem latest
        have payload := (lastForExperiment_payload latest).1
        rw [cites] at cited
        have event : found.1 = evaluationEvent :=
          v.valid.eq_of_id mem listed (Option.some.inj cited).symm
        rw [event, decides.payload] at payload
        cases payload
        rw [completed, decides.fidelity]
    have split : trace x (es ++ [e]) = t0 ++ [e] := by rw [trace_own (owned records), same]
    have silent : scores (es ++ [e]) = l := by
      rw [scores_silent (by simp [records.payload, EventPayload.type]), best]
    refine ⟨fun _ => ?_, ⟨split, ⟨es, [], rfl, best⟩, silent, records.payload, by rw [records.key],
      ?_, ?_, ⟨_, n, promotion⟩, completed⟩, es, rfl⟩
    · unfold Rule
      rw [records.payload, same]
      intro _
      obtain ⟨s, newest, payload⟩ := decides.running.inRound.undecided (le_refl 6)
      exact ⟨s, round.request, newest, payload, by rw [runs.fidelity, completed]⟩
    · intro f first
      rw [List.head?_append_of_ne_nil _ started] at first
      exact unrecorded.run f first
    · intro eligible
      refine Accepted.crowned v.valid ok records.payload owner eligible ?_ ?_
      · obtain ⟨p, found, created⟩ := decides.running.sealed.patch
        exact ⟨p, _, same ▸ found, created, rfl⟩
      · obtain ⟨f, found, evaluated⟩ := decides.evaluated
        refine ⟨f, evaluation, ?_, evaluated, rfl⟩
        rw [same]
        refine newest_narrow (fun y type => ?_) found (by rw [evaluated]; rfl)
        simp only [ofTypes, List.mem_singleton, decide_eq_true_eq] at type
        simp [ofTypes, type]
  · rintro es e v ⟨same, _⟩ mem records
    have inside : e ∈ t0 := by
      rw [← show trace x es = t0 from same]
      exact mem_trace.mpr ⟨mem, owned records⟩
    exact (decides.running.inRound.fresh inside (by rw [records.key])
      (by simp [records.payload, EventPayload.type]) (by simp [records.payload, EventPayload.place])).elim
  · rintro now es error v ⟨same, _⟩ _
    have same : trace x es = t0 := same
    exact .base (same ▸ decides.running.base.toUnclosed) (.inr (same ▸ decides.running.calm))


lemma JustDecided.lesson {evaluation : EvaluationResult} {es : List Event} {f : Event}
    (just : JustDecided h x round evaluation l t0 d e es) (v : ValidLedger es) (ok : Accepted es f)
    (type : f.payload.type = .lessonRecorded) (other : f.owner ≠ some x) :
    JustDecided h x round evaluation l t0 d e (es ++ [f]) := by
  have started : es ≠ [] := by
    rintro rfl
    have split := just.split
    simp at split
  have silent : TacoRank.scores (es ++ [f]) = l := by
    rw [scores_silent (by simp [type]), just.scores]
  obtain ⟨pre, post, rfl, best⟩ := just.placed
  refine ⟨(trace_other other).trans just.split, ⟨pre, post ++ [f], by simp, best⟩, silent, just.payload,
    just.attempt, fun f' first => ?_, fun eligible => (just.crowned eligible).lesson v ok type,
    just.legal, just.completed⟩
  rw [List.head?_append_of_ne_nil _ started] at first
  exact just.run f' first

/-- The lesson of a decision belongs to no experiment. -/
lemma decisionLesson_spec {evaluation : EvaluationResult} {candidate : LessonCandidate}
    {lessonId : String} {key : EventKey} (undecided : Undecided t0)
    (lesson : d.lessonCandidate = some candidate) :
    LaneSpec h x
      (fun es => lessonId = nextLessonId es ∧ JustDecided h x round evaluation l t0 d e es ∧
        ∃ pre, es = pre ++ [e])
      (h.append (.lessonRecorded lessonId candidate) key (some e.eventId) {})
      (fun _ => JustDecided h x round evaluation l t0 d e) (Left h x Signals) := by
  refine append_spec ?_ (fun _ _ _ hp _ _ => hp.2.1) ?_
  · rintro es f v ⟨_, just, _⟩ ok records _ _
    have other : f.owner ≠ some x := by
      rw [Event.owner, records.payload]
      simp [EventPayload.owner, EventPayload.experiment]
    exact ⟨fun own => absurd own other,
      just.lesson v.valid ok (by rw [records.payload]; rfl) other⟩
  · rintro now es error v ⟨id, just, pre, last⟩ failed
    have own : e.owner = some x := by
      have inside : e ∈ trace x es := by simp [just.split]
      exact (mem_trace.mp inside).2
    have before : trace x pre = t0 := by
      have split := just.split
      rw [last, trace_own own] at split
      exact (List.append_inj' split rfl).1
    refine .lesson ?_ undecided ⟨pre, e, candidate, _, error, last, before, own, ?_, rfl, by rw [id],
      failed, fun _ => ⟨rfl, just.run⟩⟩
    · exact append_rejects v.valid (by simp [EventPayload.type]) failed
    · rw [just.payload]
      exact lesson

lemma promoteTo_head {next fidelity : Fidelity} {queue : List Fidelity}
    (head : (Harness.promoteTo next queue).head? = some fidelity) : fidelity = next := by
  unfold Harness.promoteTo at head
  split at head
  · rename_i same
    rw [same] at head
    exact (Option.some.inj head).symm
  · exact (Option.some.inj head).symm


/-- The best score of a projection is the greatest on the ledger. -/
lemma ValidLedger.best_mem {es : List Event} {s : RunState} {best : ℚ} (v : ValidLedger es)
    (projected : TacoRank.project es = .ok s) (found : s.bestPrimaryScore = some best) :
    best ∈ scores es := by
  obtain ⟨r, hr, rfl⟩ := project_ok.mp projected
  rw [RunState.aggregate_bestPrimaryScore] at found
  exact ((v.incumbent hr).greatest best found).1

/-- The best score is raised to the score that was decided on. -/
lemma appendBest_spec {evaluation : EvaluationResult} {s : RunState} {b : BestUpdated}
    {key : EventKey} {Q : Event → List Event → Prop} {delta : ResourceDelta}
    {R : RouterError → List Event → Prop}
    (eligible : d.bestEligible = true) (owner : b.experimentId = x)
    (commit : b.commitSha = round.state.checked.patch.patchCommitSha)
    (name : b.primaryMetricName = evaluation.metricSet.primaryMetricName)
    (score : b.primaryScore = evaluation.metricSet.primaryScore)
    (cites : b.decisionEventId = e.eventId)
    (improves : ∀ best, s.bestPrimaryScore = some best → best < b.primaryScore)
    (new : ∀ es f, JustDecided h x round evaluation l t0 d e es → project es = .ok s →
      f.payload = .bestUpdated b → LaneLedger h x (es ++ [f]) → Q f (es ++ [f]))
    (again : ∀ es f, JustDecided h x round evaluation l t0 d e es → LaneLedger h x es →
      f ∈ es → f.payload = .bestUpdated b → Q f es) :
    LaneSpec h x
      (fun es => project es = .ok s ∧ JustDecided h x round evaluation l t0 d e es)
      (h.append (.bestUpdated b) key (some e.eventId) delta) Q R := by
  refine append_spec ?_ ?_ ?_
  · intro es f v ⟨projected, just⟩ ok records _ _
    have rule : f.owner = some x → Rule h x es f := fun _ => by simp [Rule, records.payload]
    exact ⟨rule, new es f just projected records.payload (Log.Valid.snoc v ⟨ok, rule⟩)⟩
  · intro es f v ⟨_, just⟩ mem records
    exact again es f just v mem records.payload
  · intro now es error v ⟨projected, just⟩ failed
    refine absurd failed (EventStore.append_ok just.run ?_ ?_)
    · rintro id same
      cases same
      exact ⟨e, (just.crowned eligible).decided.1, rfl⟩
    · exact (just.crowned eligible).best v.valid projected owner commit name score cites improves


/-- What a terminal decision leaves behind. -/
lemma JustDecided.done {evaluation : EvaluationResult} {evaluationEvent : Event} {es : List Event}
    (split : trace x es = t0 ++ [e]) (placed : ∃ pre post, es = pre ++ e :: post ∧ TacoRank.scores pre = l)
    (payload : e.payload = .experimentDecided d)
    (decides : DecidesOn x round evaluation evaluationEvent t0) (v : ValidLedger es)
    (cites : d.evaluationEventId = some evaluationEvent.eventId)
    (reached : d.bestEligible = true →
      (∃ q ∈ l, evaluation.metricSet.primaryScore ≤ q) ∨ Raised x e evaluation es) :
    Done x .state es := by
  have base := decides.running.base
  have listed : evaluationEvent ∈ es := by
    have inside : evaluationEvent ∈ trace x es := by
      rw [split]
      exact List.mem_append_left _ decides.recorded
    exact (mem_trace.mp inside).1
  refine .decided ?_ (Covered.of_decided v base.undecided split placed payload cites
    ⟨listed, decides.payload⟩ reached)
  rw [split]
  refine base.uncontained.snoc fun d' contained => ?_
  have recovery := contained.payload
  rw [payload] at recovery
  cases recovery

/-- After a terminal decision the best score reaches the score that was decided on. -/
lemma terminal_spec {evaluation : EvaluationResult} {evaluationEvent : Event} {key : EventKey}
    (decides : DecidesOn x round evaluation evaluationEvent t0)
    (cites : d.evaluationEventId = some evaluationEvent.eventId) :
    LaneSpec h x (JustDecided h x round evaluation l t0 d e)
      (if d.bestEligible = true then do
        let current ← Harness.state
        if current.bestPrimaryScore.all (· < evaluation.metricSet.primaryScore) = true then do
          let _ ← h.append (.bestUpdated
            { experimentId := x
              commitSha := round.state.checked.patch.patchCommitSha
              primaryMetricName := evaluation.metricSet.primaryMetricName
              primaryScore := evaluation.metricSet.primaryScore
              decisionEventId := e.eventId }) key (some e.eventId) {}
          pure (Sum.inr Harness.Exit.state)
        else pure (Sum.inr .state)
      else pure (Sum.inr .state))
      (GoesOn x) (Left h x Signals) := by
  split
  · rename_i eligible
    refine Meets.bind state_spec fun s => ?_
    split
    · rename_i improves
      refine Meets.bind (Q := fun _ => Done x .state)
        (appendBest_spec eligible rfl rfl rfl rfl rfl ?_ ?_ ?_) fun _ => Meets.ret fun _ _ hp => hp
      · intro best found
        simpa [found] using improves
      · intro es f just _ payload v
        have other : f.owner ≠ some x := by
          rw [Event.owner, payload]
          simp [EventPayload.owner, EventPayload.experiment]
        obtain ⟨pre, post, rfl, best⟩ := just.placed
        exact JustDecided.done ((trace_other other).trans just.split) ⟨pre, post ++ [f], by simp, best⟩
          just.payload decides v.valid cites fun _ => .inr ⟨f, by simp, _, payload, rfl, rfl, rfl⟩
      · intro es f just v mem payload
        exact JustDecided.done just.split just.placed just.payload decides v.valid cites
          fun _ => .inr ⟨f, mem, _, payload, rfl, rfl, rfl⟩
    · rename_i reached
      refine Meets.ret ?_
      rintro es v ⟨projected, just⟩
      obtain ⟨best, found, below⟩ : ∃ best, s.bestPrimaryScore = some best ∧
          evaluation.metricSet.primaryScore ≤ best := by
        cases score : s.bestPrimaryScore with
        | none => simp [score] at reached
        | some best => exact ⟨best, rfl, by simpa [score] using reached⟩
      have mem := ValidLedger.best_mem (LaneLedger.valid v) projected found
      rw [just.scores] at mem
      exact JustDecided.done just.split just.placed just.payload decides (LaneLedger.valid v) cites
        fun _ => .inl ⟨best, mem, below⟩
  · rename_i ineligible
    exact Meets.ret fun es v just => JustDecided.done just.split just.placed just.payload decides
      (LaneLedger.valid v) cites fun eligible => absurd eligible ineligible

/-- A decision is recorded and followed. -/
lemma decided_spec {evaluation : EvaluationResult} {evaluationEvent : Event}
    {decision : ExperimentDecision} {cause : EventId}
    (decides : DecidesOn spec.experimentId round evaluation evaluationEvent t0)
    (runs : round.Runs spec.experimentId) (owner : decision.experimentId = spec.experimentId) :
    LaneSpec h spec.experimentId (On spec.experimentId (· = t0))
      (h.decided spec round evaluation evaluationEvent decision cause) (GoesOn spec.experimentId)
      (Left h spec.experimentId Signals) := by
  refine Meets.fix scores fun es _ _ => ?_
  generalize scores es = l
  unfold Harness.decided
  have cites : ({ decision with evaluationEventId := some evaluationEvent.eventId } :
    ExperimentDecision).evaluationEventId = some evaluationEvent.eventId := rfl
  have owned : ({ decision with evaluationEventId := some evaluationEvent.eventId } :
    ExperimentDecision).experimentId = spec.experimentId := owner
  generalize ({ decision with evaluationEventId := some evaluationEvent.eventId } :
    ExperimentDecision) = d at cites owned ⊢
  refine Meets.bind (appendDecision_spec decides runs owned cites) fun e => ?_
  have promoted : ∀ next, d.decision = .promote → d.nextFidelity = some next →
      LaneSpec h spec.experimentId
        (JustDecided h spec.experimentId round evaluation l t0 d e)
        (pure (.inl { round.state with
          stageQueue := Harness.promoteTo next round.state.stageQueue }) : Lane Harness.Flow)
        (GoesOn spec.experimentId) (Left h spec.experimentId Signals) := by
    intro next promote target
    refine Meets.ret fun es _ just => ?_
    obtain ⟨s, n, legal⟩ := just.legal
    show Ready _ _ (trace spec.experimentId es)
    rw [just.split]
    refine decides.running.promoted runs just.payload promote just.attempt legal
      just.completed fun fidelity head => ?_
    rw [promoteTo_head head]
    exact target
  cases lesson : d.lessonCandidate with
  | none =>
    simp only
    split
    · rename_i next promote target
      exact (promoted next promote target).pre fun _ _ hp => hp.1
    · exact (terminal_spec decides cites).pre fun _ _ hp => hp.1
  | some candidate =>
    simp only
    refine events_spec.bind fun ledger => ?_
    refine Meets.bind (Q := fun _ => JustDecided h spec.experimentId round evaluation l t0 d e) ?_
      fun _ => ?_
    · refine (decisionLesson_spec decides.running.base.undecided lesson).pre ?_
      rintro es _ ⟨rfl, just⟩
      exact ⟨rfl, just⟩
    split
    · rename_i next promote target
      exact promoted next promote target
    · exact terminal_spec decides cites

end Decided
end TacoRank
