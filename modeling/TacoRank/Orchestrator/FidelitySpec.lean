import TacoRank.Orchestrator.BestEvidence
import TacoRank.Orchestrator.RoundSpec

/-!
# Specification of the fidelity loop

Every branch of a round ends with the next round, which may begin (`Ready`), or leaves the loop
(`Done`). The loop is left with the experiment undecided, or with its terminal decision and a best
score that is at least the one decided on, or because a repair worker gave up on a verified no-op.
-/

namespace TacoRank
open Lib Lib.Result

/-- The newest request has been evaluated as a no-op. -/
def NoOp (t : List Event) : Prop :=
  ∃ e res, newest (ofTypes [.executionStarted, .evaluationCompleted]) t = some e ∧
    e.payload = .evaluationCompleted res ∧ res.trust.verdict = .noOp

/-- The newest request has been evaluated. -/
def Evaluated (evaluation : EvaluationResult) (t : List Event) : Prop :=
  ∃ e, newest (ofTypes [.executionStarted, .evaluationCompleted]) t = some e ∧
    e.payload = .evaluationCompleted evaluation

/-- No output of the newest request passes for verified. -/
def Unverified (t : List Event) : Prop :=
  ∃ s, newest startedOrVerified t = some s ∧ s.payload.type = .executionStarted

/-- A repair worker may give an experiment back to planning, but not for a no-op. -/
def Signals (action : RecoveryAction) (t : List Event) : Prop :=
  action = .returnToPlanner → ¬ NoOp t

/-- The best score was raised to the score of a result, on the strength of a decision. -/
def Raised (x : String) (e : Event) (result : EvaluationResult) (es : List Event) : Prop :=
  ∃ f ∈ es, ∃ b, f.payload = .bestUpdated b ∧ b.experimentId = x ∧ b.decisionEventId = e.eventId ∧
    b.primaryScore = result.metricSet.primaryScore

/-- Every best-eligible decision on the experiment raised the best score to the score that it decided
on, unless that score had been reached before. -/
def Covered (x : String) (es : List Event) : Prop :=
  ∀ pre e post, es = pre ++ e :: post → e.owner = some x → ∀ d, e.payload = .experimentDecided d →
    d.bestEligible = true → ∀ e' ∈ es, ∀ result, e'.payload = .evaluationCompleted result →
      d.evaluationEventId = some e'.eventId →
        (∃ q ∈ scores pre, result.metricSet.primaryScore ≤ q) ∨ Raised x e result es

/-- How the fidelity loop is left. -/
inductive Done (x : String) : Harness.Exit → List Event → Prop where
  | undecided {es} (undecided : Undecided (trace x es)) (uncontained : Uncontained (trace x es)) :
    Done x .state es
  | decided {es} (uncontained : Uncontained (trace x es)) (covered : Covered x es) :
    Done x .state es
  | returned {es pre e d} (split : trace x es = pre ++ [e]) (payload : e.payload = .recoveryDecided d)
    (action : d.action = .returnToPlanner) (before : Uncontained pre)
    (undecided : Undecided (trace x es)) (noOp : NoOp (trace x es)) : Done x .state es
  | abandon {es attempt fidelity cause reasonCode} (undecided : Undecided (trace x es))
    (uncontained : Uncontained (trace x es)) (calm : Calm (trace x es))
    (unverified : fidelity = .smoke → Unverified (trace x es)) :
    Done x (.abandon attempt fidelity cause reasonCode) es

/-- How a branch of the loop ends. -/
def GoesOn (x : String) : Harness.Flow → List Event → Prop :=
  Continues (fun s => On x (Ready x s)) (Done x)

section Kept
variable {x : String} {round : Harness.Round} {k : Nat} {t : List Event}

/-- A reading that the events outside the execution attempts do not enter. -/
lemma Kept.newest {p : EventPayload → Bool} {Q : Option Event → Prop}
    (silent : ∀ q, q.place = 0 → p q = false) : Kept fun t => Q (newest p t) := by
  intro t e place found
  rw [newest_other (silent e.payload place)]
  exact found

lemma EventPayload.place_evaluated {p : EventPayload} (type : p.type = .evaluationCompleted) :
    p.place = 6 := by
  cases p <;> simp [EventPayload.type, place] at type ⊢

lemma evaluations_silent (q : EventPayload) (place : q.place = 0) :
    ofTypes [.executionStarted, .evaluationCompleted] q = false := by
  cases q <;> simp [EventPayload.place, ofTypes, EventPayload.type] at place ⊢

lemma Kept.evaluated (evaluation : EvaluationResult) : Kept (Evaluated evaluation) :=
  Kept.newest (Q := fun found => ∃ e, found = some e ∧ e.payload = .evaluationCompleted evaluation)
    evaluations_silent

lemma Kept.unverified : Kept Unverified := by
  refine Kept.newest (Q := fun found => ∃ s, found = some s ∧ s.payload.type = .executionStarted)
    fun q place => ?_
  cases q with
  | adapterFailed result =>
    simp only [EventPayload.place] at place
    simp only [startedOrVerified, decide_eq_false_iff_not]
    intro stage
    simp [stage, FailureStage.place] at place
  | _ => simp [EventPayload.place, startedOrVerified] at place ⊢

lemma InRound.pending (inRound : InRound round k t) (last : k ≤ 5) : Pending t := by
  obtain ⟨s, found, payload⟩ := inRound.newest (p := ofTypes [.executionStarted, .evaluationCompleted])
    rfl fun q place type => by
      simp only [ofTypes, List.mem_cons, List.not_mem_nil, or_false, decide_eq_false_iff_not, not_or]
      refine ⟨type, fun evaluated => ?_⟩
      have rank := EventPayload.place_evaluated evaluated
      omega
  exact ⟨s, found, by rw [payload]; rfl⟩

lemma InRound.unverified (inRound : InRound round k t) (last : k ≤ 3) : Unverified t := by
  obtain ⟨s, found, payload⟩ := inRound.newest (p := startedOrVerified) rfl fun q place type => by
    cases q with
    | outputChecked => simp [EventPayload.place] at place; omega
    | adapterFailed result =>
      simp only [EventPayload.place] at place
      simp only [startedOrVerified, decide_eq_false_iff_not]
      intro stage
      simp [stage, FailureStage.place] at place
      omega
    | executionStarted => simp [EventPayload.type] at type
    | _ => rfl
  exact ⟨s, found, by rw [payload]; rfl⟩

lemma Pending.notNoOp (pending : Pending t) : ¬ NoOp t := by
  rintro ⟨e, res, found, payload, _⟩
  obtain ⟨s, found', type⟩ := pending
  rw [found] at found'
  cases found'
  simp [payload, EventPayload.type] at type

lemma Evaluated.notNoOp {evaluation : EvaluationResult} (evaluated : Evaluated evaluation t)
    (verdict : evaluation.trust.verdict ≠ .noOp) : ¬ NoOp t := by
  rintro ⟨e, res, found, payload, noOp⟩
  obtain ⟨e', found', payload'⟩ := evaluated
  rw [found] at found'
  cases found'
  rw [payload] at payload'
  cases payload'
  exact verdict noOp

lemma Evaluated.noOp {evaluation : EvaluationResult} (evaluated : Evaluated evaluation t)
    (verdict : evaluation.trust.verdict = .noOp) : NoOp t := by
  obtain ⟨e, found, payload⟩ := evaluated
  exact ⟨e, evaluation, found, payload, verdict⟩

end Kept

/-! ### The next round -/

section Rounds
variable {h : Harness} {x : String} {fuel : Nat} {spec : ExperimentSpec} {proposal : EventId}
  {round : Harness.Round} {k : Nat} {t0 t : List Event}

/-- The request of a round runs again, on the same patch or on another one. -/
lemma InRound.ready (inRound : InRound round k t) (last : k ≤ 6) (runs : round.Runs x)
    {s : Harness.LoopState} (sealed : Sealed s.checked t) (settled : Settled t)
    (attempt : s.executionAttempt = round.state.executionAttempt)
    (template : ∀ q, s.nextRequestTemplate = some q → q.experimentId = x)
    (queue : s.stageQueue.head? = some round.fidelity) : Ready x s t := by
  refine ⟨sealed, settled, ?_, fun _ => inRound.rebuilt last, template, fun fidelity head => ?_⟩
  · rw [attempt, ← runs.attempt]
    exact inRound.before
  · rw [queue] at head
    cases head
    exact inRound.above

/-- The request of a round runs again on a repaired patch. -/
lemma InRound.repaired (inRound : InRound round k t) (last : k ≤ 6) (runs : round.Runs x)
    {checked : Harness.CheckedPatch} (sealed : Sealed checked t) (settled : Settled t) :
    Ready x (round.repaired checked) t := by
  refine inRound.ready last runs sealed settled rfl ?_ rfl
  intro q same
  cases same
  exact runs.owner

lemma retryTemplate_owner {request : RunRequest} {adjustments : List (String × RuntimeValue)} :
    (h.retryTemplate request adjustments).experimentId = request.experimentId := by
  unfold Harness.retryTemplate
  split <;> rfl

/-- The exceptions of the runtime adjustments are those of the control plane. -/
lemma validateRuntimeAdjustments_controlPlane {adjustments : List (String × RuntimeValue)} :
    Raises (fun error => error.controlPlane = true)
      (h.validateRuntimeAdjustments adjustments) := by
  unfold Harness.validateRuntimeAdjustments
  refine Raises.forM fun item _ => ?_
  obtain ⟨name, value⟩ := item
  simp only
  cases h.config.allowedRuntimeAdjustments.lookup name with
  | none => exact Raises.error rfl
  | some approved =>
    simp only
    split
    · exact Raises.error rfl
    split
    · exact Raises.error rfl
    · exact .pure _

/-- The request of a round runs again on the same patch. -/
lemma resume_spec {failure : Event} {r : Harness.Recovery} (runs : round.Runs x) (last : k ≤ 6)
    (answered : AnsweredIn x round k failure r t0 t)
    (stays : r.decision.action.isCodeRecovery = false) :
    LaneSpec h x (On x (· = t)) (h.resume round r) (GoesOn x) (Left h x Signals) := by
  refine Meets.bind (Q := fun _ => On x (· = t)) (Meets.ofExcept (fun _ _ _ same _ => same) ?_)
    fun _ => Meets.ret fun es _ same => ?_
  · rintro error es _ rfl failed
    exact .base answered.answered.base.toUnclosed
      (.inl (validateRuntimeAdjustments_controlPlane error failed))
  · have calm := answered.answered.calm stays
    show Ready x _ (trace x es)
    rw [show trace x es = t from same]
    refine answered.inRound.ready last runs answered.sealed
      ⟨answered.answered.base, calm, answered.licensed⟩ rfl ?_ rfl
    intro q same
    cases same
    rw [retryTemplate_owner]
    exact runs.owner

/-- One repair in a round. -/
lemma repairOnce_spec {P : List Event → Prop} {r : Harness.Recovery} {rejected other : Harness.Exit}
    (fresh : h.FreshContexts) (runs : round.Runs x) (kept : Kept P)
    (inRound : ∀ t, P t → InRound round 6 t) (site : ∀ action t, P t → Signals action t)
    (exits : ∀ exit, exit = rejected ∨ exit = other → ∀ es, Base (trace x es) →
      Calm (trace x es) → P (trace x es) → Done x exit es) :
    LaneSpec h x (On x fun t => Answered x r t ∧ P t)
      (h.repairOnce round proposal r rejected other) (GoesOn x) (Left h x Signals) := by
  unfold Harness.repairOnce
  cases code : r.decision.action.isCodeRecovery with
  | false =>
    refine Meets.ret fun es _ ⟨answered, hp⟩ => ?_
    exact exits other (.inr rfl) es answered.base (answered.calm code) hp
  | true =>
    refine Meets.bind ((executeCodeRepair_spec fresh kept site).pre
      fun _ _ ⟨answered, hp⟩ => ⟨answered.called code, hp⟩) fun checked => ?_
    refine Meets.ret fun es _ ⟨sealed, settled, hp⟩ => ?_
    split
    · exact (inRound _ hp).repaired (le_refl 6) runs sealed settled
    · exact exits rejected (.inl rfl) es settled.base settled.calm hp

/-- The repairs of a round, and what follows them. -/
lemma repairRound_spec {P : List Event → Prop} {r : Harness.Recovery} {checkBudget : Bool}
    {gaveUp : Harness.Exit} {f : Harness.RepairOutcome → Lane Harness.Flow}
    (fresh : h.FreshContexts) (runs : round.Runs x) (kept : Kept P)
    (inRound : ∀ t, P t → InRound round 6 t) (site : ∀ action t, P t → Signals action t)
    (accepted : ∀ checked, f (.accepted checked) = pure (.inl (round.repaired checked)))
    (exhausted : f .exhausted = pure (.inr .state)) (ended : f .gaveUp = pure (.inr gaveUp))
    (exits : ∀ es, Base (trace x es) → Calm (trace x es) → P (trace x es) → Done x gaveUp es) :
    LaneSpec h x (On x fun t => Answered x r t ∧ P t)
      (h.repairLoop fuel checkBudget x proposal r >>= f) (GoesOn x) (Left h x Signals) := by
  refine (repairLoop_spec fresh kept site).bind fun outcome => ?_
  cases outcome with
  | accepted checked =>
    rw [accepted]
    refine Meets.ret fun es _ repaired => ?_
    obtain ⟨sealed, licensed⟩ := repaired.accepted checked rfl
    exact (inRound _ repaired.kept).repaired (le_refl 6) runs sealed
      ⟨repaired.base, repaired.calm, licensed⟩
  | exhausted =>
    rw [exhausted]
    exact Meets.ret fun es _ repaired =>
      .undecided repaired.base.undecided repaired.base.uncontained
  | gaveUp =>
    rw [ended]
    exact Meets.ret fun es _ repaired => exits es repaired.base repaired.calm repaired.kept

/-- A recorded failure of an adapter is recovered. -/
lemma FailedIn.recover_spec {stage : FailureStage} {failure : Event} (fresh : h.FreshContexts) (failed : FailedIn round k stage t0 failure t) (last : k ≤ 6)
    (ranked : 0 < stage.place) :
    LaneSpec h x (On x (· = t)) (h.recover failure x)
      (fun r => On x (AnsweredIn x round (max k stage.place) failure r t)) (Left h x Signals) := by
  obtain ⟨result, payload, same⟩ := failed.payload
  refine answerInRound_spec fresh failed.running ?_ ?_ ?_ failed.attempt ?_ ?_
  · cases stage <;> simp only [FailureStage.place] <;> omega
  · rcases failed.shape with split | ⟨split, mem⟩
    · simp [split]
    · exact split ▸ mem
  · simpa [payload, EventPayload.place, same] using ranked
  · simp [payload, EventPayload.type]
  · rw [payload]
    rintro coding
    cases coding.symm.trans (congrArg some same)
    cases ranked

/-- The failure of the runner. -/
lemma executionFailed_spec {started : Event} {error : RouterError} (fresh : h.FreshContexts) (runs : round.Runs spec.experimentId)
    (running : Running round 1 t0) :
    LaneSpec h spec.experimentId (On spec.experimentId (· = t0))
      (h.executionFailed fuel spec proposal round started error) (GoesOn spec.experimentId)
      (Left h spec.experimentId Signals) := by
  refine (roundFailure_spec runs running (by omega) (by decide)).bind
    fun failure => ?_
  refine fix_trace fun t1 failed => ?_
  refine (failed.recover_spec fresh (by omega) (by decide)).bind fun r => ?_
  refine fix_trace fun t2 answered => ?_
  split
  · exact resume_spec runs (by decide) answered (by simp [*, RecoveryAction.isCodeRecovery])
  · exact resume_spec runs (by decide) answered (by simp [*, RecoveryAction.isCodeRecovery])
  refine (repairRound_spec (P := InRound round 2) fresh runs (InRound.kept (by decide))
    (fun t inRound => inRound.mono (by decide)) ?_ (fun _ => rfl) rfl rfl ?_).pre ?_
  · exact fun action t inRound _ => (inRound.pending (by decide)).notNoOp
  · exact fun es base _ _ => .undecided base.undecided base.uncontained
  · rintro es _ rfl
    exact ⟨answered.answered, answered.inRound⟩

end Rounds
end TacoRank
