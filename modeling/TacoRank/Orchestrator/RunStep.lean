import TacoRank.Orchestrator.NodeStep

/-!
# Run-level steps

`NodeStep` says what an event does to one experiment; `RunWrite` says what it does to the rest of the
state that the laws of this development read: the counters of the public labels, the active
experiment, the phase, and the table of experiments as a whole.
-/

namespace TacoRank
open Lib Lib.Result

/-- How many public labels an event spends. -/
def EventPayload.queries : EventPayload → Nat
  | .evaluationCompleted result => if result.population = .publicValidation then 1 else 0
  | _ => 0

/-- How many full evaluations an event completes. -/
def EventPayload.fulls : EventPayload → Nat
  | .evaluationCompleted result => if result.fidelity = .full then 1 else 0
  | _ => 0

/-- The active experiment that an event leaves. -/
def EventPayload.active (active : Option String) : EventPayload → Option String
  | .experimentProposed spec => some spec.experimentId
  | .planningFailed _ | .runStopped _ _ => none
  | .recoveryDecided decision =>
    match decision.action with
    | .abandon | .rollback => none
    | _ => active
  | .experimentDecided decision => if decision.decision = .promote then active else none
  | _ => active

/-- What an event does to the table of experiments. -/
inductive TableWrite (r : Reducer) (e : Event) (d : Dict String ExperimentNode) :
    Dict String ExperimentNode → Prop where
  | frame (none : e.payload.experiment = none) : TableWrite r e d d
  | proposed {spec} (payload : e.payload = .experimentProposed spec) :
    TableWrite r e d (d.set spec.experimentId (.ofSpec spec))
  | update {x n} (owner : e.payload.experiment = some x)
    (old : ∀ spec, e.payload ≠ .experimentProposed spec) (node : d.get? x = some n) :
    TableWrite r e d (d.set x (r.nodeUpdate e n))

/-- What every step of the reducer does to the run. -/
structure RunWrite (r r' : Reducer) (e : Event) : Prop where
  queries : r'.state.publicValidationQueries =
    r.state.publicValidationQueries + e.payload.queries
  fulls : r'.state.fullEvaluationsCompleted = r.state.fullEvaluationsCompleted + e.payload.fulls
  active : r'.state.activeExperimentId = e.payload.active r.state.activeExperimentId
  phase : ∀ context, e.payload = .contextCreated context → r'.state.phase = .context context.role
  bestCommit : e.payload.type ≠ .baselineVerified → e.payload.type ≠ .bestUpdated →
    r'.state.bestCommitSha = r.state.bestCommitSha
  table : TableWrite r e r.state.experiments r'.state.experiments

/-- The active experiment after a recovery decision. -/
lemma Reducer.recoveryRun_active (r : Reducer) (d : RecoveryDecision) (s : RunState) :
    (r.recoveryRun d s).activeExperimentId =
      (EventPayload.recoveryDecided d).active s.activeExperimentId := by
  simp only [recoveryRun, EventPayload.active]
  cases d.action <;> rfl

/-- The active experiment after a decision on an experiment. -/
lemma Reducer.decidedRun_active (r : Reducer) (n : ExperimentNode) (d : ExperimentDecision) :
    (r.decidedRun n d).state.activeExperimentId =
      (EventPayload.experimentDecided d).active r.state.activeExperimentId := by
  simp only [decidedRun, EventPayload.active]
  split
  · rfl
  · split
    · rfl
    · split <;> rfl

/-- Inversion of a reducer step at the level of the run. -/
lemma Reducer.step_write {r r' : Reducer} {e : Event} (h : r.step e = .ok r') : RunWrite r r' e := by
  unfold step branch at h
  obtain ⟨eventId, timestamp, runId, key, cause, payload, delta⟩ := e
  cases payload with
  | patchCreated d | patchChecked d | executionStarted d | executionFinished d | adapterFailed d
  | outputChecked d | evaluationCompleted d =>
    simp only [bind_eq_ok, pure_eq_ok, RunState.updateNode_ok, observe] at h
    obtain ⟨s, ⟨n, hn, rfl⟩, rfl⟩ := h
    exact ⟨rfl, rfl, rfl, (by simp), fun _ _ => rfl, .update rfl (by simp) hn⟩
  | recoveryDecided d =>
    simp only [bind_eq_ok, pure_eq_ok, RunState.updateNode_ok] at h
    obtain ⟨s, ⟨n, hn, rfl⟩, rfl⟩ := h
    have active := Reducer.recoveryRun_active
      (r.observe ⟨eventId, timestamp, runId, key, cause, .recoveryDecided d, delta⟩) d
    obtain ⟨_, _, _, _, eq⟩ := Reducer.recoveryRun_eq (r.observe _) d _
    refine ⟨?_, ?_, active _, (by simp), fun _ _ => ?_, ?_⟩
    · rw [eq]
      rfl
    · rw [eq]
      rfl
    · rw [eq]
      rfl
    · rw [eq]
      exact .update rfl (by simp) hn
  | experimentDecided d =>
    simp only [bind_eq_ok, pure_eq_ok, RunState.updateNode_ok, RunState.node_ok, observe] at h
    obtain ⟨m, hm, s, ⟨n, hn, rfl⟩, rfl⟩ := h
    obtain ⟨_, _, _, _, _, _, eq⟩ := Reducer.decidedRun_eq _ m d
    refine ⟨?_, ?_, Reducer.decidedRun_active _ _ _, (by simp), fun _ _ => ?_, ?_⟩
    · rw [eq]
      rfl
    · rw [eq]
      rfl
    · rw [eq]
    · rw [eq]
      exact .update rfl (by simp) hn
  | experimentProposed spec =>
    simp only [pure_eq_ok, observe] at h
    subst h
    exact ⟨rfl, rfl, rfl, (by simp), fun _ _ => rfl, .proposed rfl⟩
  | lessonStatusChanged lessonId status reason =>
    simp only at h
    split at h
    · cases h
    · cases h
      exact ⟨rfl, rfl, rfl, (by simp), fun _ _ => rfl, .frame rfl⟩
  | baselineVerified payload =>
    simp only [pure_eq_ok, observe] at h
    subst h
    unfold RunState.baselineVerified
    dsimp only
    split
    · exact ⟨rfl, rfl, rfl, (by simp), fun other => absurd rfl other, .frame rfl⟩
    · exact ⟨rfl, rfl, rfl, (by simp), fun _ _ => rfl, .frame rfl⟩
  | bestUpdated payload =>
    simp only [pure_eq_ok, observe] at h
    subst h
    exact ⟨rfl, rfl, rfl, (by simp), fun _ other => absurd rfl other, .frame rfl⟩
  | contextCreated context =>
    simp only [pure_eq_ok, observe] at h
    subst h
    refine ⟨rfl, rfl, rfl, ?_, fun _ _ => rfl, .frame rfl⟩
    rintro _ ⟨⟩
    rfl
  | _ =>
    simp only [pure_eq_ok, observe] at h
    subst h
    exact ⟨rfl, rfl, rfl, (by simp), fun _ _ => rfl, .frame rfl⟩

/-- An accepted event that is not the first one passed the checks of its branch. -/
lemma Accepted.branch {es r e} (hr : replay es = .ok r) (ok : Accepted es e)
    (later : e.payload.type ≠ .runStarted) :
    StatusLegal r.state.status e.payload.type ∧
      validateBranch es (r.state.aggregate es) e.payload = .ok () := by
  cases (validateTransition_ok hr).mp ok.2 with
  | first _ type => exact absurd type later
  | later _ _ status branch => exact ⟨status, branch⟩

end TacoRank
