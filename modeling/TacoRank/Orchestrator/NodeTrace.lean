import TacoRank.Orchestrator.RepairSpec

/-!
# The node of a trace

What the trace of an experiment says of its node: the commit is that of the newest patch, the metrics
are those of the newest evaluation, and the output passes for verified only when an accepted check or
the failure of an evaluation is newer than the newest request.
-/

namespace TacoRank
open Lib Lib.Result

/-- An output passes for verified. -/
def Verified (t : List Event) : Prop :=
  ∃ s, newest startedOrVerified t = some s ∧ s.payload.type ≠ .executionStarted

/-- What the trace of an experiment says of its node. -/
structure NodeTrace (x : String) (es : List Event) (n : ExperimentNode) : Prop where
  commit : ∀ e c, newest (ofTypes [.patchCreated]) (trace x es) = some e →
    e.payload = .patchCreated c → n.latestCommitSha = some c.patchCommitSha
  metrics : ∀ e res, newest (ofTypes [.evaluationCompleted]) (trace x es) = some e →
    e.payload = .evaluationCompleted res → n.metricSet = some res.metricSet
  verified : n.status = .outputVerified → Verified (trace x es)
  recovering : n.status = .recovering → ∀ f, latestRecoverableFailure es x = some f →
    f.payload.failureStage = some .evaluation → Verified (trace x es)

section NodeTrace
variable {x : String} {es : List Event} {e : Event} {n m : ExperimentNode}

/-- A context that is built for the experiment is not read. -/
lemma newest_frame {p : EventPayload → Bool} (other : e.payload.experiment ≠ some x)
    (contexts : ∀ context, p (.contextCreated context) = false) :
    newest p (trace x (es ++ [e])) = newest p (trace x es) := by
  by_cases own : e.owner = some x
  · rw [trace_own own, newest_snoc]
    have context : p e.payload = false := by
      cases payload : e.payload with
      | contextCreated context => exact contexts context
      | _ =>
        rw [Event.owner, payload] at own
        rw [payload] at other
        exact absurd own other
    rw [context]
    rfl
  · rw [trace_other own]

lemma newest_own_trace {p : EventPayload → Bool} (own : e.payload.experiment = some x) :
    newest p (trace x (es ++ [e])) =
      if p e.payload then some e else newest p (trace x es) := by
  rw [trace_own (EventPayload.owner_experiment own), newest_snoc]

/-- An event of the experiment that moves neither its commit nor its metrics. -/
lemma NodeTrace.other (h : NodeTrace x es n) (own : e.payload.experiment = some x)
    (type : e.payload.type ∉ [.patchCreated, .evaluationCompleted])
    (commit : m.latestCommitSha = n.latestCommitSha) (metrics : m.metricSet = n.metricSet)
    (verified : m.status = .outputVerified → Verified (trace x (es ++ [e])))
    (recovering : m.status = .recovering → ∀ f, latestRecoverableFailure (es ++ [e]) x = some f →
      f.payload.failureStage = some .evaluation → Verified (trace x (es ++ [e]))) :
    NodeTrace x (es ++ [e]) m := by
  simp only [List.mem_cons, List.not_mem_nil, or_false, not_or] at type
  refine ⟨fun e' c found payload => ?_, fun e' res found payload => ?_, verified, recovering⟩
  · rw [newest_own_trace own, if_neg (by simp [ofTypes, type])] at found
    rw [commit]
    exact h.commit e' c found payload
  · rw [newest_own_trace own, if_neg (by simp [ofTypes, type])] at found
    rw [metrics]
    exact h.metrics e' res found payload

/-- A silent event leaves an output verified. -/
lemma Verified.snoc (h : Verified (trace x es)) (own : e.payload.experiment = some x)
    (type : e.payload.type ≠ .executionStarted) : Verified (trace x (es ++ [e])) := by
  obtain ⟨s, found, verified⟩ := h
  unfold Verified
  rw [newest_own_trace own]
  split
  · exact ⟨e, rfl, type⟩
  · exact ⟨s, found, verified⟩

lemma Verified.own (own : e.payload.experiment = some x) (selected : startedOrVerified e.payload = true)
    (type : e.payload.type ≠ .executionStarted) : Verified (trace x (es ++ [e])) := by
  refine ⟨e, ?_, type⟩
  rw [newest_own_trace own, if_pos selected]

@[simp] lemma ExperimentNode.decided_metricSet (n : ExperimentNode) (id d) :
    (n.decided id d).metricSet = n.metricSet := by
  unfold decided
  split
  · split <;> rfl
  · rfl

/-- Every step of the node keeps what the trace says of it. -/
lemma NodeTrace.step {r : Reducer} {n' : Option ExperimentNode} (v : ValidLedger es)
    (hr : replay es = .ok r) (ok : Accepted es e) (step : NodeStep es r e x (some n) n') (h : NodeTrace x es n) :
    ∀ m, n' = some m → NodeTrace x (es ++ [e]) m := by
  intro m found
  cases step with
  | frame other =>
    cases found
    have silent : latestRecoverableFailure (es ++ [e]) x = latestRecoverableFailure es x := by
      rw [latestRecoverableFailure_snoc, if_neg]
      exact fun failure => other (EventPayload.recoverableFailure_owned failure)
    have verified : Verified (trace x (es ++ [e])) ↔ Verified (trace x es) := by
      unfold Verified
      rw [newest_frame other fun _ => rfl]
    refine ⟨?_, ?_, fun status => verified.mpr (h.verified status), ?_⟩
    · rw [newest_frame other fun _ => rfl]
      exact h.commit
    · rw [newest_frame other fun _ => rfl]
      exact h.metrics
    · rw [silent, verified]
      exact h.recovering
  | @patchCreated c _ payload owner legal =>
    cases found
    have own : e.payload.experiment = some x := by rw [payload]; exact congrArg some owner
    refine ⟨fun e' c' newer payload' => ?_, fun e' res newer payload' => ?_, (by rintro ⟨⟩), (by rintro ⟨⟩)⟩
    · rw [newest_own_trace own, if_pos (by rw [payload]; rfl)] at newer
      cases newer
      rw [payload] at payload'
      cases payload'
      rfl
    · rw [newest_own_trace own, if_neg (by simp [payload, ofTypes, EventPayload.type])] at newer
      exact h.metrics e' res newer payload'
  | @evaluationCompleted res q _ payload owner legal =>
    cases found
    have own : e.payload.experiment = some x := by rw [payload]; exact congrArg some owner
    refine ⟨fun e' c' newer payload' => ?_, fun e' res' newer payload' => ?_, ?_, ?_⟩
    · rw [newest_own_trace own, if_neg (by simp [payload, ofTypes, EventPayload.type])] at newer
      exact h.commit e' c' newer payload'
    · rw [newest_own_trace own, if_pos (by rw [payload]; rfl)] at newer
      cases newer
      rw [payload] at payload'
      cases payload'
      rfl
    · intro status
      simp only [ExperimentNode.evaluationCompleted] at status
      split at status <;> cases status
    · intro _ f latest stage
      exact (h.verified legal.status).snoc own (by simp [payload, EventPayload.type])
  | @patchChecked c _ payload owner legal =>
    cases found
    have own : e.payload.experiment = some x := by rw [payload]; exact congrArg some owner
    refine h.other own (by simp [payload, EventPayload.type]) rfl rfl ?_ ?_
    · intro status
      simp only [ExperimentNode.patchChecked] at status
      split at status <;> cases status
    · intro status f latest stage
      have rejected : c.accepted = false := by
        by_contra accepted
        simp [ExperimentNode.patchChecked, accepted] at status
      rw [latestRecoverableFailure_snoc, if_pos (by simp [payload, EventPayload.recoverableFailure,
        rejected, owner])] at latest
      cases latest
      simp [payload, EventPayload.failureStage] at stage
  | @executionStarted q _ payload owner legal =>
    cases found
    have own : e.payload.experiment = some x := by rw [payload]; exact congrArg some owner
    exact h.other own (by simp [payload, EventPayload.type]) rfl rfl (by rintro ⟨⟩) (by rintro ⟨⟩)
  | @executionFinished res _ payload owner legal =>
    cases found
    have own : e.payload.experiment = some x := by rw [payload]; exact congrArg some owner
    refine h.other own (by simp [payload, EventPayload.type])
      (ExperimentNode.executionFinished_latestCommitSha ..) ?_ ?_ ?_
    · unfold ExperimentNode.executionFinished
      split <;> rfl
    · intro status
      simp only [ExperimentNode.executionFinished] at status
      split at status <;> cases status
    · intro status f latest stage
      have failed : res.outcome ≠ .success := by
        intro success
        simp [ExperimentNode.executionFinished, success] at status
      rw [latestRecoverableFailure_snoc, if_pos (by simp [payload, EventPayload.recoverableFailure,
        failed, owner])] at latest
      cases latest
      simp [payload, EventPayload.failureStage] at stage
  | @adapterFailed res _ payload owner legal =>
    cases found
    have own : e.payload.experiment = some x := by rw [payload]; exact congrArg some owner
    refine h.other own (by simp [payload, EventPayload.type]) rfl rfl (by rintro ⟨⟩) ?_
    intro _ f latest stage
    rw [latestRecoverableFailure_snoc, if_pos (by simp [payload, EventPayload.recoverableFailure,
      owner])] at latest
    cases latest
    refine .own own ?_ (by simp [payload, EventPayload.type])
    simpa [payload, startedOrVerified, EventPayload.failureStage] using stage
  | @recoveryDecided d _ payload owner legal =>
    cases found
    have own : e.payload.experiment = some x := by rw [payload]; exact congrArg some owner
    have silent : latestRecoverableFailure (es ++ [e]) x = latestRecoverableFailure es x := by
      rw [latestRecoverableFailure_snoc, if_neg (by simp [payload, EventPayload.recoverableFailure])]
    refine h.other own (by simp [payload, EventPayload.type])
      (Reducer.recoveryNode_latestCommitSha ..) ?_ ?_ ?_
    · unfold Reducer.recoveryNode ExperimentNode.recoveryCounted
      cases d.action <;> rfl
    · intro status
      obtain ⟨f, latest, failure⟩ := legal.failureEvent v hr ok
      rw [owner] at latest
      refine Verified.snoc (h.recovering legal.status f latest ?_) own
        (by simp [payload, EventPayload.type])
      rw [Reducer.recoveryNode_status, Reducer.recoveryStatus] at status
      cases action : d.action with
      | retrySameCommit =>
        simp only [action, failure, Reducer.retryTarget_some] at status
        cases stage : f.payload.failureStage with
        | none =>
          rw [stage] at status
          cases status
        | some st =>
          rw [stage] at status
          cases st with
          | evaluation => rfl
          | _ => cases status
      | _ =>
        rw [action] at status
        cases status
    · intro _ f latest stage
      rw [silent] at latest
      exact (h.recovering legal.status f latest stage).snoc own (by simp [payload, EventPayload.type])
  | @outputChecked out _ payload owner legal =>
    cases found
    have own : e.payload.experiment = some x := by rw [payload]; exact congrArg some owner
    refine h.other own (by simp [payload, EventPayload.type]) rfl rfl ?_ ?_
    · intro status
      refine .own own ?_ (by simp [payload, EventPayload.type])
      simp only [ExperimentNode.outputChecked] at status
      split at status
      · simpa [payload, startedOrVerified] using ‹_›
      · cases status
    · intro status f latest stage
      have rejected : out.accepted = false := by
        by_contra accepted
        simp [ExperimentNode.outputChecked, accepted] at status
      rw [latestRecoverableFailure_snoc, if_pos (by simp [payload, EventPayload.recoverableFailure,
        rejected, owner])] at latest
      cases latest
      simp [payload, EventPayload.failureStage] at stage
  | @experimentDecided d _ payload owner evidence promotion =>
    cases found
    have own : e.payload.experiment = some x := by rw [payload]; exact congrArg some owner
    refine h.other own (by simp [payload, EventPayload.type])
      (ExperimentNode.decided_latestCommitSha ..) (ExperimentNode.decided_metricSet ..) ?_ ?_
    · intro status
      rw [ExperimentNode.decided_status] at status
      cases kind : d.decision <;> rw [kind] at status <;> cases status
    · intro status
      rw [ExperimentNode.decided_status] at status
      cases kind : d.decision <;> rw [kind] at status <;> cases status

/-- What the ledger says of a node, and of one that does not exist yet. -/
structure Traced (x : String) (es : List Event) (n : Option ExperimentNode) : Prop where
  absent : n = none → ∀ e ∈ es, e.payload.experiment ≠ some x
  present : ∀ m, n = some m → NodeTrace x es m

/-- A proposal writes a node of which the trace says nothing yet. -/
lemma NodeTrace.proposed {spec : ExperimentSpec} (payload : e.payload = .experimentProposed spec)
    (absent : ∀ e ∈ es, e.payload.experiment ≠ some x) : NodeTrace x (es ++ [e]) (.ofSpec spec) := by
  have unread : ∀ e' ∈ trace x (es ++ [e]), ∀ y, e'.payload.experiment = some y →
      e'.payload = .experimentProposed spec := by
    intro e' mem y own
    obtain ⟨listed, owner⟩ := mem_trace.mp mem
    rcases List.mem_append.mp listed with old | new
    · rw [Event.owner, EventPayload.owner_experiment own] at owner
      exact absurd (own.trans owner) (absent e' old)
    · rw [List.mem_singleton.mp new]
      exact payload
  refine ⟨fun e' c found created => ?_, fun e' res found evaluated => ?_, (by rintro ⟨⟩), (by rintro ⟨⟩)⟩
  · have proposal := unread e' (newest_mem found).1 c.experimentId (by rw [created]; rfl)
    rw [created] at proposal
    cases proposal
  · have proposal := unread e' (newest_mem found).1 res.experimentId (by rw [evaluated]; rfl)
    rw [evaluated] at proposal
    cases proposal

lemma NodeStep.traced {r : Reducer} {n n' : Option ExperimentNode} (v : ValidLedger es)
    (hr : replay es = .ok r) (ok : Accepted es e) (step : NodeStep es r e x n n')
    (h : Traced x es n) : Traced x (es ++ [e]) n' := by
  cases n with
  | some before =>
    refine ⟨fun none => ?_, (h.present before rfl).step v hr ok step⟩
    cases step <;> cases none
  | none =>
    have absent := h.absent rfl
    cases step with
    | frame other =>
      refine ⟨fun _ e' mem => ?_, fun m found => ?_⟩
      · rcases List.mem_append.mp mem with old | new
        · exact absent e' old
        · rw [List.mem_singleton.mp new]
          exact other
      · cases found
    | proposed payload =>
      refine ⟨fun none => ?_, fun m found => ?_⟩
      · cases none
      · cases found
        exact .proposed payload absent

/-- The node of an experiment in a valid ledger, as its trace tells. -/
lemma ValidLedger.nodeTrace {r : Reducer} (v : ValidLedger es) (hr : TacoRank.replay es = .ok r)
    (node : r.state.experiments.get? x = some n) : NodeTrace x es n := by
  have traced : Traced x es (r.state.experiments.get? x) := by
    refine v.node_induct (P := Traced x) ⟨fun _ _ mem => ?_, fun _ found => ?_⟩ ?_ hr
    · cases mem
    · cases found
    · intro es e r n n' v hr ok _ step ih
      exact step.traced v hr ok ih
  exact traced.present n node

/-- An experiment with an event has a node. -/
lemma ValidLedger.node_of_event {r : Reducer} (v : ValidLedger es) (hr : TacoRank.replay es = .ok r) {f : Event}
    (mem : f ∈ es) (owned : f.payload.experiment = some x) : ∃ n, r.state.experiments.get? x = some n := by
  refine v.node_induct (P := fun es n => (∃ f ∈ es, f.payload.experiment = some x) → ∃ m, n = some m)
    ?_ ?_ hr ⟨f, mem, owned⟩
  · rintro ⟨f, mem, _⟩
    cases mem
  · rintro es e r n n' _ _ _ _ step ih ⟨f, mem, owned⟩
    cases step with
    | frame other =>
      rcases List.mem_append.mp mem with old | new
      · exact ih ⟨f, old, owned⟩
      · rw [List.mem_singleton.mp new] at owned
        exact absurd owned other
    | _ => exact ⟨_, rfl⟩

end NodeTrace
end TacoRank
