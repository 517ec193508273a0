import TacoRank.Orchestrator.ExperimentLane
import TacoRank.Orchestrator.Lessons

/-!
# Specification of the handlers

`run_one_experiment` and `_run_parallel_lane` catch what the lane raises. They record failures,
recoveries and stops, but no decision on an experiment, so what the lane established about its
decisions still holds when it has ended in whatever way.
-/

namespace TacoRank
open Lib Lib.Result

/-- The decisions on an experiment are accounted for: all of them are promotions, or they are covered,
or the lesson of the last one was rejected. -/
inductive Accounted (h : Harness) (x : String) (es : List Event) : Prop where
  | undecided (undecided : Undecided (trace x es)) : Accounted h x es
  | covered (covered : Covered x es) : Accounted h x es
  | lesson {t pre post} (split : es = pre ++ post) (undecided : Undecided t)
    (rejected : LessonRejected h x t pre) (others : trace x post = []) : Accounted h x es

section Accounted
variable {h : Harness} {x : String} {es : List Event} {error : RouterError}
  {K : RecoveryAction → List Event → Prop}

lemma Done.accounted (done : Done x .state es) : Accounted h x es := by
  cases done with
  | undecided undecided => exact .undecided undecided
  | decided _ covered => exact .covered covered
  | returned _ _ _ _ undecided => exact .undecided undecided

lemma Left.accounted (left : Left h x K error es) : Accounted h x es := by
  cases left with
  | plain undecided => exact .undecided undecided
  | broken undecided => exact .undecided undecided
  | lesson _ undecided rejected => exact .lesson (List.append_nil es).symm undecided rejected rfl

/-- Only the control plane fails after a terminal decision. -/
lemma Left.undecided_or (left : Left h x K error es) :
    error.controlPlane = true ∨ Undecided (trace x es) := by
  cases left with
  | plain undecided => exact .inr undecided
  | broken undecided => exact .inr undecided
  | lesson control => exact .inl control

lemma Covered.snoc {e : Event} (covered : Covered x es) (v : ValidLedger (es ++ [e]))
    (other : e.owner ≠ some x) : Covered x (es ++ [e]) := by
  intro pre e' post split own d payload eligible f mem result evaluated cites
  rcases split_snoc split with ⟨_, rfl, _⟩ | ⟨post', rfl, rfl⟩
  · exact absurd own other
  · have split' : pre ++ e' :: post' ++ [e] = pre ++ e' :: (post' ++ [e]) := by simp
    rw [split'] at v mem
    obtain ⟨inside, _, _⟩ := v.eligible_inv payload eligible mem evaluated cites
    rcases covered pre e' post' rfl own d payload eligible f (List.mem_append_left _ inside) result
      evaluated cites with reached | ⟨g, listed, raised⟩
    · exact .inl reached
    · exact .inr ⟨g, List.mem_append_left _ listed, raised⟩

lemma Steady.accounted : Steady x (Accounted h x) := by
  intro es e v ok other accounted
  cases accounted with
  | undecided undecided =>
    refine .undecided ?_
    rw [trace_other other]
    exact undecided
  | covered covered => exact .covered (covered.snoc (v.snoc ok) other)
  | @lesson t pre post split undecided rejected others =>
    refine .lesson (by rw [split, List.append_assoc]) undecided rejected ?_
    rw [trace_other other, others]

/-- A best-eligible decision whose lesson can be recorded raises the best score to the score that it
decided on, unless that score had been reached before. -/
lemma Accounted.covers {pre post : List Event} {e evaluationEvent : Event} {d : ExperimentDecision}
    {evaluation : EvaluationResult} (accounted : Accounted h x (pre ++ e :: post))
    (v : ValidLedger (pre ++ e :: post)) (decided : e.payload = .experimentDecided d)
    (owner : d.experimentId = x) (eligible : d.bestEligible = true)
    (mem : evaluationEvent ∈ pre ++ e :: post)
    (evaluated : evaluationEvent.payload = .evaluationCompleted evaluation)
    (cites : d.evaluationEventId = some evaluationEvent.eventId)
    (numbered : LessonsNumbered (pre ++ e :: post))
    (carries : ∀ candidate, d.lessonCandidate = some candidate →
      CarriesLesson evaluation evaluationEvent.eventId d) :
    (∃ q ∈ scores pre, evaluation.metricSet.primaryScore ≤ q) ∨
      Raised x e evaluation (pre ++ e :: post) := by
  have own : e.owner = some x := by
    rw [Event.owner, decided]
    exact congrArg some owner
  have listed : e ∈ pre ++ e :: post := by simp
  cases accounted with
  | undecided undecided =>
    have promote := undecided e (mem_trace.mpr ⟨listed, own⟩) d decided
    rw [v.promoted_ineligible listed decided promote] at eligible
    cases eligible
  | covered covered => exact covered pre e post rfl own d decided eligible evaluationEvent mem evaluation evaluated cites
  | @lesson t front rest split undecided rejected others =>
    exfalso
    obtain ⟨before, f, candidate, s, error, rfl, silent, own', lesson, _, payload, failed, last⟩ :=
      rejected
    -- the rejected lesson belongs to this decision, since all earlier ones are promotions
    have same : e = f := by
      have inside : e ∈ trace x (pre ++ e :: post) := mem_trace.mpr ⟨listed, own⟩
      rw [split] at inside
      unfold trace at inside silent others
      rw [Log.lane_append, others, List.append_nil, Log.lane_append, silent, List.mem_append] at inside
      rcases inside with old | new
      · have promote := undecided e old d decided
        rw [v.promoted_ineligible listed decided promote] at eligible
        cases eligible
      · exact List.mem_singleton.mp (List.mem_of_mem_filter new)
    subst same
    have v' : ValidLedger (before ++ [e]) := by
      rw [split] at v
      exact v.front
    have place : pre = before := by
      have split' : pre ++ e :: post = before ++ e :: rest := by simpa using split
      have id : pre.length + 1 = before.length + 1 :=
        (v.accepted.1).symm.trans (Log.Valid.accepted (split' ▸ v)).1
      exact (List.append_inj split' (by omega)).1
    subst place
    rw [decided] at lesson
    have known : evaluationEvent ∈ pre ++ [e] :=
      List.mem_append_left _ (v.eligible_inv decided eligible mem evaluated cites).1
    have accepted := lesson_accepted v' decided eligible known evaluated cites
      (Log.Valid.take (split ▸ numbered)) (carries candidate lesson) lesson
    obtain ⟨cause, run⟩ := last (by simp [decided, EventPayload.type])
    refine EventStore.append_ok run ?_ (payload ▸ accepted) failed
    intro id caused
    rw [cause] at caused
    cases caused
    exact ⟨e, by simp, rfl⟩

end Accounted

section Handlers
variable {h : Harness} {x y : String} {spec : ExperimentSpec} {fuel : Nat} {proposal : EventId}
  {t0 : List Event}

/-- The failure of an adapter is recorded, or was recorded before. -/
lemma recordAdapterFailure_own {attempt : Nat} {stage : FailureStage} {error : RouterError}
    {cause : Option EventId} (undecided : Undecided t0) :
    LaneSpec h x (On x (· = t0)) (h.recordAdapterFailure x attempt stage error cause)
      (fun f => On x fun t => Undecided t ∧ f ∈ t ∧ f.payload.type ≠ .executionStarted)
      (fun _ => Accounted h x) := by
  refine append_own rfl ?_ ?_ ?_
  · rintro es e _ rfl _ records _ _
    refine ⟨by simp [Rule, records.payload], ?_, by simp, by simp [records.payload, EventPayload.type]⟩
    intro e' mem d payload
    rcases List.mem_append.mp mem with old | new
    · exact undecided e' old d payload
    · rw [List.mem_singleton.mp new, records.payload] at payload
      cases payload
  · rintro es e _ rfl mem records
    exact ⟨undecided, mem, by simp [records.payload, EventPayload.type]⟩
  · rintro now es error' _ rfl _
    exact .undecided undecided

/-- A recovery decides nothing. -/
lemma recover_own {failure : Event} (fresh : h.FreshContexts) :
    LaneSpec h x
      (On x fun t => Undecided t ∧ failure ∈ t ∧ failure.payload.type ≠ .executionStarted)
      (h.recover failure x) (fun _ => Accounted h x) (fun _ => Accounted h x) := by
  have silent : ∀ {t : List Event}, Undecided t → ∀ (c : Event) (document : ContextDocument),
      c.payload = .contextCreated document → Undecided (t ++ [c]) := by
    intro t undecided c document context e' mem d' payload
    rcases List.mem_append.mp mem with old | new
    · exact undecided e' old d' payload
    · rw [List.mem_singleton.mp new, context] at payload
      cases payload
  have silent' : ∀ {t : List Event}, Undecided t → ∀ (c e : Event) (document : ContextDocument)
      (d : RecoveryDecision), c.payload = .contextCreated document → e.payload = .recoveryDecided d →
        Undecided (t ++ [c, e]) := by
    intro t undecided c e document d context recovery e' mem d' payload
    rw [show t ++ [c, e] = (t ++ [c]) ++ [e] by simp] at mem
    rcases List.mem_append.mp mem with old | new
    · exact silent undecided c document context e' old d' payload
    · rw [List.mem_singleton.mp new, recovery] at payload
      cases payload
  refine fix_trace fun t0 ⟨undecided, mem, type⟩ => ?_
  refine (recover_spec fresh mem type).weaken (fun _ _ same => same) ?_ ?_
  · intro r es _ from_
    obtain ⟨c, context, split | ⟨split, _⟩⟩ := from_.shape
    · exact .undecided (split ▸ silent' undecided c r.event _ _ context from_.payload)
    · exact .undecided (split ▸ silent undecided c _ context)
  · intro error es _ left
    cases left with
    | before same => exact .undecided (same ▸ undecided)
    | context payload split => exact .undecided (split ▸ silent undecided _ _ payload)
    | lesson _ payload rejected =>
      exact .lesson (List.append_nil es).symm (silent undecided _ _ payload) rejected rfl
    | integrity context split payload =>
      exact .undecided (split ▸ silent' undecided _ _ _ _ context payload)

/-- The recovery of another experiment. -/
lemma recover_other {failure : Event} {P : List Event → Prop} (steady : Steady x P) (other : y ≠ x) :
    LaneSpec h x P (h.recover failure y) (fun _ => P) (fun _ => P) := by
  have foreign : some y ≠ some x := fun same => other (Option.some.inj same)
  refine Meets.bind (Q := fun _ => P) (state_spec.post fun _ _ _ hp => hp.2) fun s => ?_
  cases s.experiments.get? y with
  | none => exact Meets.raise fun _ _ hp => hp
  | some n =>
    refine Meets.bind (Q := fun context es => context.experimentId = some y ∧ P es) ?_ fun context => ?_
    · refine Meets.bind (Q := fun _ => P) (events_spec.post fun _ _ _ hp => hp.2) fun ledger => ?_
      exact Meets.ofExcept (fun _ _ _ hp built => ⟨buildRecovery_owner built, hp⟩) fun _ _ _ hp _ => hp
    refine Meets.assuming fun owner => ?_
    refine Meets.bind (Q := fun _ => P) (append_other ?_ steady fun _ _ _ _ hp _ => hp) fun c => ?_
    · show context.experimentId ≠ some x
      rw [owner]
      exact foreign
    refine (recoveryManager_spec steady).bind fun d => ?_
    refine Meets.assuming fun ruled => ?_
    refine Meets.bind (Q := fun _ => P) (append_other ?_ steady fun _ _ _ _ hp _ => hp) fun e => ?_
    · show some d.experimentId ≠ some x
      rw [ruled.owner]
      exact foreign
    have ended : LaneSpec h x P
        (if d.reasonCode = "INTEGRITY_VIOLATION" ∧ h.parallelRoundActive = false then
          h.stop fatalIntegrityDecision >>= fun _ => pure (⟨d, context, e⟩ : Harness.Recovery)
        else pure ⟨d, context, e⟩) (fun _ => P) (fun _ => P) := by
      split
      · refine Meets.bind (Q := fun _ => P) ?_ fun _ => Meets.ret fun _ _ hp => hp
        exact (stop_spec steady).weaken (fun _ _ hp => hp) (fun _ _ _ hp => hp) fun _ _ _ hp => hp.2
      · exact Meets.ret fun _ _ hp => hp
    cases d.lessonCandidate with
    | none => exact ended
    | some candidate =>
      refine Meets.bind (Q := fun _ => P) (events_spec.post fun _ _ _ hp => hp.2) fun ledger => ?_
      refine Meets.bind (Q := fun _ => P) (append_other ?_ steady fun _ _ _ _ hp _ => hp) fun _ => ended
      simp [EventPayload.owner, EventPayload.experiment]

/-- A failure is recorded and recovered from, whichever experiment it belongs to. -/
lemma failure_spec {attempt : Nat} {stage : FailureStage} {error : RouterError}
    {cause : Option EventId} {rest : Harness.Recovery → Lane Unit} (fresh : h.FreshContexts)
    (after : ∀ r, LaneSpec h x (Accounted h x) (rest r) (fun _ => Accounted h x)
      (fun _ => Accounted h x)) :
    LaneSpec h x (On x Undecided)
      (h.recordAdapterFailure y attempt stage error cause >>= fun failure =>
        h.recover failure y >>= rest)
      (fun _ => Accounted h x) (fun _ => Accounted h x) := by
  by_cases own : y = x
  · subst own
    refine fix_trace fun t0 undecided => ?_
    exact (recordAdapterFailure_own undecided).bind fun failure =>
      (recover_own fresh).bind after
  · refine Meets.bind (Q := fun _ => On x Undecided) ?_ fun failure => Meets.bind ?_ after
    · refine (append_other ?_ Steady.on fun _ _ _ _ hp _ => hp).weaken (fun _ _ hp => hp)
        (fun _ _ _ hp => hp) fun _ _ _ undecided => .undecided undecided
      exact fun same => own (Option.some.inj same)
    · exact (recover_other Steady.on own).weaken (fun _ _ hp => hp)
        (fun _ _ _ undecided => .undecided undecided) fun _ _ _ undecided => .undecided undecided

lemma laneClosedSafely_spec {P : List Event → Prop} {R : RouterError → List Event → Prop} :
    LaneSpec h x P (Harness.laneClosedSafely y) (fun _ => P) R :=
  Meets.bind (Q := fun _ => P) (state_spec.post fun _ _ _ hp => hp.2) fun _ =>
    Meets.ret fun _ _ hp => hp

lemma stop_accounted {decision : StopDecision} :
    LaneSpec h x (Accounted h x) (h.stop decision) (fun _ => Accounted h x)
      (fun _ => Accounted h x) :=
  (stop_spec Steady.accounted).weaken (fun _ _ hp => hp) (fun _ _ _ hp => hp) fun _ _ _ hp => hp.2

/-- `_handle_unexpected_adapter_failure`. -/
lemma handleUnexpectedAdapterFailure_spec {error : RouterError} (fresh : h.FreshContexts) :
    LaneSpec h x
      (fun es => Accounted h x es ∧ (error.controlPlane = true ∨ Undecided (trace x es)))
      (h.handleUnexpectedAdapterFailure error) (fun _ => Accounted h x) (fun _ => Accounted h x) := by
  unfold Harness.handleUnexpectedAdapterFailure
  split
  · exact stop_accounted.pre fun _ _ hp => hp.1
  rename_i control
  refine Meets.bind (Q := fun _ => On x Undecided) ?_ fun s => ?_
  · exact (state_spec.post fun _ _ _ hp => hp.2).pre fun _ _ hp => hp.2.resolve_left control
  split
  · exact stop_accounted.pre fun _ _ hp => .undecided hp
  · rename_i y _
    refine Meets.bind (Q := fun _ => On x Undecided) (events_spec.post fun _ _ _ hp => hp.2)
      fun ledger => ?_
    refine failure_spec fresh fun r => ?_
    refine Meets.bind (Q := fun _ => Accounted h x) laneClosedSafely_spec fun closed => ?_
    split
    · exact Meets.ret fun _ _ hp => hp
    · exact stop_accounted

/-- `run_one_experiment` of a prepared proposal. -/
lemma runOneExperiment_spec (fresh : h.FreshContexts) :
    Spec (laneRely h spec.experimentId)
      (On spec.experimentId fun t => ∀ e ∈ t, e.payload.type = .experimentProposed)
      (h.runOneExperiment fuel spec proposal) (fun _ => Accounted h spec.experimentId)
      (fun _ => Accounted h spec.experimentId) := by
  refine Spec.catching (R := fun error es => Left h spec.experimentId Signals error es)
    (runExperiment_spec fresh).spec ?_ ?_
  · exact fun _ => Spec.ret fun _ _ done => done.accounted
  · intro error
    cases error with
    | repairWorkerUnavailable action cause =>
      dsimp only
      split
      · exact Spec.ret fun _ _ left => left.accounted
      refine Spec.bind (Q := fun _ => Accounted h spec.experimentId)
        (state_spec.spec.post fun _ _ _ hp => hp.2.accounted) fun s => ?_
      split
      · refine Spec.bind (Q := fun _ => Accounted h spec.experimentId) laneClosedSafely_spec.spec
          fun closed => ?_
        split
        · exact Spec.ret fun _ _ hp => hp
        · exact stop_accounted.spec
      · refine Spec.bind (Q := fun _ => Accounted h spec.experimentId) (Spec.ret fun _ _ hp => hp)
          fun closed => ?_
        split
        · exact Spec.ret fun _ _ hp => hp
        · exact stop_accounted.spec
    | _ =>
      refine Spec.catching (R := fun _ => Accounted h spec.experimentId)
        ((handleUnexpectedAdapterFailure_spec fresh).spec.pre fun _ _ left =>
          ⟨left.accounted, left.undecided_or⟩) ?_ ?_
      · exact fun _ => Spec.ret fun _ _ hp => hp
      · exact fun _ => stop_accounted.spec

/-- `_run_parallel_lane`. -/
lemma runParallelLane_spec (fresh : h.FreshContexts) :
    Spec (laneRely h spec.experimentId)
      (On spec.experimentId fun t => ∀ e ∈ t, e.payload.type = .experimentProposed)
      (h.runParallelLane fuel spec proposal) (fun _ => Accounted h spec.experimentId)
      (fun _ => Accounted h spec.experimentId) := by
  refine Spec.catching (R := fun error es => Left h spec.experimentId Signals error es)
    (runExperiment_spec fresh).spec ?_ ?_
  · exact fun _ => Spec.ret fun _ _ done => done.accounted
  · intro error
    dsimp only
    split
    · exact Spec.raise fun _ _ left => left.accounted
    rename_i control
    refine Spec.bind (Q := fun _ => On spec.experimentId Undecided)
      (state_spec.spec.post fun _ _ _ hp => hp.2.undecided_or.resolve_left control) fun s => ?_
    split
    · exact Spec.raise fun _ _ undecided => .undecided undecided
    · refine Spec.bind (Q := fun _ => On spec.experimentId Undecided)
        (events_spec.spec.post fun _ _ _ hp => hp.2) fun ledger => ?_
      refine (failure_spec fresh fun r => ?_).spec
      exact Meets.bind (Q := fun _ => Accounted h spec.experimentId) laneClosedSafely_spec
        fun _ => Meets.ret fun _ _ hp => hp

/-- A run of a prepared proposal on its lane, sequential or in a parallel round. -/
inductive LaneRun (h : Harness) (fuel : Nat) (spec : ExperimentSpec) (proposal : EventId)
    (w w' : World Event Submission Answer) : Prop where
  | sequential {result} :
    h.runOneExperiment fuel spec proposal w = (result, w') →
    LaneRun h fuel spec proposal w w'
  | parallel {result} :
    h.runParallelLane fuel spec proposal w = (result, w') →
    LaneRun h fuel spec proposal w w'

/-- Every run keeps the rules of its experiment. -/
lemma LaneRun.laneLedger {w w' : World Event Submission Answer} (fresh : h.FreshContexts)
    (world : LaneWorld spec.experimentId w) (run : LaneRun h fuel spec proposal w w') : LaneLedger h spec.experimentId w'.log := by
  cases run with
  | sequential ran =>
    have spec' : Spec _ _ (h.runOneExperiment fuel spec proposal) _ _ := runOneExperiment_spec fresh
    have outcome := spec' w world.admits world.proposed
    rw [ran] at outcome
    exact outcome.1.invariant
  | parallel ran =>
    have spec' : Spec _ _ (h.runParallelLane fuel spec proposal) _ _ := runParallelLane_spec fresh
    have outcome := spec' w world.admits world.proposed
    rw [ran] at outcome
    exact outcome.1.invariant

end Handlers
end TacoRank
