import TacoRank.Orchestrator.NodeStep
import TacoRank.Orchestrator.Scenario

/-!
# Evaluation provenance

The state machine looks up the last event of a kind whenever it needs evidence. `Evidence` is the
invariant that ties these lookups to the status of the node: a running experiment has a gated
request, a node with an output a successful execution of it, a node with a verified output an
accepted check of that execution's prediction. Recovery may send a node back to the status in which
an output gate or evaluator failure was recorded, so the invariant is stated for the status a retry
would restore (`standing`).
-/

namespace TacoRank
open Lib Lib.Result

/-- The status of a node, or the one that a retry restores after a failed gate or evaluator. -/
def standing (es : List Event) (x : String) (n : ExperimentNode) : ExperimentStatus :=
  if n.status = .recovering then
    match (latestRecoverableFailure es x).bind (·.payload.failureStage) with
    | some .outputGate => .outputReady
    | some .evaluation => .outputVerified
    | _ => .recovering
  else
    n.status

/-- The last request of an experiment and the gate receipt it runs under. -/
structure GatedRun (es : List Event) (x : String) (c s : Event) (q : RunRequest) : Prop where
  order : [c, s].Sublist es
  gate : ∃ check, c.payload = .patchChecked check ∧ check.experimentId = x ∧ Gated check q
  started : lastForExperiment .executionStarted es x = some (s, q)

/-- A gated run with its last result, a success. -/
structure FinishedRun (es : List Event) (x : String) (c s f : Event) (q : RunRequest)
    (res : RunResult) : Prop where
  run : GatedRun es x c s q
  order : [c, s, f].Sublist es
  finished : lastForExperiment .executionFinished es x = some (f, res)
  success : res.outcome = .success
  answers : Answers res q

/-- A finished run whose prediction passed the last output check. -/
structure VerifiedRun (es : List Event) (x : String) (c s f o : Event) (q : RunRequest)
    (res : RunResult) (out : OutputCheckResult) : Prop where
  run : FinishedRun es x c s f q res
  order : [c, s, f, o].Sublist es
  checked : lastForExperiment .outputChecked es x = some (o, out)
  accepted : out.accepted = true
  examined : Examined res out

/-- The evidence behind a status. -/
def EvidenceFor (es : List Event) (x : String) : ExperimentStatus → Prop
  | .running => ∃ c s q, GatedRun es x c s q
  | .outputReady => ∃ c s f q res, FinishedRun es x c s f q res
  | .outputVerified | .evaluated => ∃ c s f o q res out, VerifiedRun es x c s f o q res out
  | _ => True

/-- The evidence behind the standing of the node of an experiment. -/
def Evidence (es : List Event) (x : String) (n : Option ExperimentNode) : Prop :=
  ∀ m, n = some m → EvidenceFor es x (standing es x m)

section Carry
variable {es : List Event} {e : Event} {x : String}

/-- No execution and no output check of the experiment. -/
structure RunSilent (e : Event) (x : String) : Prop where
  started : EventKind.executionStarted.ofExperiment x e = none
  finished : EventKind.executionFinished.ofExperiment x e = none
  checked : EventKind.outputChecked.ofExperiment x e = none

lemma RunSilent.frame (other : e.payload.experiment ≠ some x) : RunSilent e x :=
  ⟨EventKind.ofExperiment_frame other, EventKind.ofExperiment_frame other,
    EventKind.ofExperiment_frame other⟩

lemma RunSilent.of_read (started : EventKind.executionStarted.read e.payload = none)
    (finished : EventKind.executionFinished.read e.payload = none)
    (checked : EventKind.outputChecked.read e.payload = none) : RunSilent e x :=
  ⟨EventKind.ofExperiment_none started, EventKind.ofExperiment_none finished,
    EventKind.ofExperiment_none checked⟩

lemma sublist_snoc {l : List Event} (h : l.Sublist es) : l.Sublist (es ++ [e]) :=
  h.trans (List.sublist_append_left es [e])

lemma sublist_snoc_snoc {l : List Event} (h : l.Sublist es) : (l ++ [e]).Sublist (es ++ [e]) :=
  h.append (List.Sublist.refl [e])

lemma GatedRun.snoc {c s q} (h : GatedRun es x c s q)
    (silent : EventKind.executionStarted.ofExperiment x e = none) :
    GatedRun (es ++ [e]) x c s q where
  order := sublist_snoc h.order
  gate := h.gate
  started := by rw [lastForExperiment_snoc, silent, Option.none_or, h.started]

lemma FinishedRun.snoc {c s f q res} (h : FinishedRun es x c s f q res)
    (started : EventKind.executionStarted.ofExperiment x e = none)
    (finished : EventKind.executionFinished.ofExperiment x e = none) :
    FinishedRun (es ++ [e]) x c s f q res where
  run := h.run.snoc started
  order := sublist_snoc h.order
  finished := by rw [lastForExperiment_snoc, finished, Option.none_or, h.finished]
  success := h.success
  answers := h.answers

lemma VerifiedRun.snoc {c s f o q res out} (h : VerifiedRun es x c s f o q res out)
    (silent : RunSilent e x) : VerifiedRun (es ++ [e]) x c s f o q res out where
  run := h.run.snoc silent.started silent.finished
  order := sublist_snoc h.order
  checked := by rw [lastForExperiment_snoc, silent.checked, Option.none_or, h.checked]
  accepted := h.accepted
  examined := h.examined

lemma EvidenceFor.snoc {st} (h : EvidenceFor es x st) (silent : RunSilent e x) :
    EvidenceFor (es ++ [e]) x st := by
  cases st with
  | running =>
    obtain ⟨c, s, q, h⟩ := h
    exact ⟨c, s, q, h.snoc silent.started⟩
  | outputReady =>
    obtain ⟨c, s, f, q, res, h⟩ := h
    exact ⟨c, s, f, q, res, h.snoc silent.started silent.finished⟩
  | outputVerified | evaluated =>
    obtain ⟨c, s, f, o, q, res, out, h⟩ := h
    exact ⟨c, s, f, o, q, res, out, h.snoc silent⟩
  | _ => trivial

end Carry

lemma standing_of_status {es x} {n : ExperimentNode} (h : n.status ≠ .recovering) :
    standing es x n = n.status :=
  if_neg h

/-- The standing after a failure event. -/
lemma standing_failed {es e x} {n : ExperimentNode} (status : n.status = .recovering)
    (failure : e.payload.recoverableFailure = some x) :
    standing (es ++ [e]) x n =
      match e.payload.failureStage with
      | some .outputGate => .outputReady
      | some .evaluation => .outputVerified
      | _ => .recovering := by
  rw [standing, if_pos status, latestRecoverableFailure_snoc, if_pos failure]
  rfl

/-- The standing after an event that is no failure. -/
lemma standing_other {es e x} {n : ExperimentNode}
    (silent : e.payload.recoverableFailure ≠ some x) :
    standing (es ++ [e]) x n = standing es x n := by
  simp only [standing, latestRecoverableFailure_snoc, if_neg silent]

section Standing
variable {es : List Event} {e : Event} {x : String} {n : ExperimentNode} {P : ExperimentStatus → Prop}

/-- An adapter failure was recorded in the status that a retry restores. What holds of this status is
stated by a predicate that says nothing of the statuses in which no request is worked on. -/
lemma standing_adapterFailed {res : AdapterFailureResult}
    (rest : ∀ st, st ∉ [.running, .outputReady, .outputVerified, .evaluated] → P st)
    (verified : P .evaluated → P .outputVerified)
    (payload : e.payload = .adapterFailed res) (owner : res.experimentId = x)
    (legal : n.status ∈ allowedFailureStates es res) (h : P (standing es x n)) :
    P (standing (es ++ [e]) x (n.adapterFailed res)) := by
  have failure : e.payload.recoverableFailure = some x := by
    simp [payload, EventPayload.recoverableFailure, owner]
  have stage : e.payload.failureStage = some res.failureStage := by
    simp [payload, EventPayload.failureStage]
  have allowed := mem_allowedFailureStates legal
  rw [standing_failed rfl failure, stage]
  cases hs : res.failureStage with
  | outputGate =>
    simp only [hs, FailureStage.expectedStates, List.mem_singleton, reduceCtorEq, false_and,
      and_false, or_false] at allowed
    rw [standing_of_status (by simp [allowed]), allowed] at h
    exact h
  | evaluation =>
    simp only [hs, FailureStage.expectedStates, List.mem_cons, List.not_mem_nil, reduceCtorEq,
      false_and, and_false, or_false] at allowed
    rcases allowed with status | status
    · rw [standing_of_status (by simp [status]), status] at h
      exact h
    · rw [standing_of_status (by simp [status]), status] at h
      exact verified h
  | _ => exact rest _ (by simp)

/-- A recovery decision restores at most the standing of the node. -/
lemma standing_recovered {d : RecoveryDecision} {f : Event} {r : Reducer}
    (rest : ∀ st, st ∉ [.running, .outputReady, .outputVerified, .evaluated] → P st)
    (evaluated : P .outputVerified → P .evaluated)
    (payload : e.payload = .recoveryDecided d) (status : n.status = .recovering)
    (latest : latestRecoverableFailure es x = some f)
    (found : (r.observe e).eventById d.failureEventId = some f) (h : P (standing es x n)) :
    P (standing (es ++ [e]) x ((r.observe e).recoveryNode e.eventId d n)) := by
  have silent : e.payload.recoverableFailure ≠ some x := by
    simp [payload, EventPayload.recoverableFailure]
  rw [standing_other silent]
  rw [standing, if_pos status, latest, Option.bind_some] at h
  by_cases recovering : ((r.observe e).recoveryNode e.eventId d n).status = .recovering
  · rw [standing, if_pos recovering, latest, Option.bind_some]
    exact h
  · rw [standing_of_status recovering]
    rw [Reducer.recoveryNode_status] at recovering ⊢
    unfold Reducer.recoveryStatus at recovering ⊢
    cases action : d.action with
    | retrySameCommit =>
      simp only [found, Reducer.retryTarget_some]
      cases stage : f.payload.failureStage with
      | none => exact rest _ (by simp)
      | some st =>
        rw [stage] at h
        cases st with
        | outputGate => exact h
        | evaluation =>
          dsimp only
          split
          · exact evaluated h
          · exact h
        | _ => exact rest _ (by simp)
    | _ => exact rest _ (by simp)

end Standing

/-- No evidence is needed where no request is worked on. -/
lemma EvidenceFor.rest {es x st} (idle : st ∉ [.running, .outputReady, .outputVerified, .evaluated]) :
    EvidenceFor es x st := by
  cases st <;> trivial

/-- Every accepted event keeps the evidence. -/
lemma NodeStep.evidence {es e x n n'} {r : Reducer} (step : NodeStep es r e x n n')
    (v : ValidLedger es) (hr : replay es = .ok r) (ok : Accepted es e) (h : Evidence es x n) :
    Evidence (es ++ [e]) x n' := by
  cases step with
  | frame other =>
    intro m hm
    have silent : e.payload.recoverableFailure ≠ some x := fun failure =>
      other (EventPayload.recoverableFailure_owned failure)
    rw [standing_other silent]
    exact (h m hm).snoc (.frame other)
  | proposed payload =>
    rintro _ ⟨⟩
    rw [standing_of_status (by simp [ExperimentNode.ofSpec])]
    trivial
  | patchCreated payload =>
    rintro _ ⟨⟩
    rw [standing_of_status (by simp [ExperimentNode.patchCreated])]
    trivial
  | @patchChecked c m payload owner =>
    rintro _ ⟨⟩
    cases accepted : c.accepted with
    | true =>
      rw [standing_of_status (by simp [ExperimentNode.patchChecked, accepted])]
      simp only [ExperimentNode.patchChecked, accepted]
      trivial
    | false =>
      rw [standing_failed (by simp [ExperimentNode.patchChecked, accepted])
        (by simp [payload, EventPayload.recoverableFailure, owner, accepted])]
      simp only [payload, EventPayload.failureStage]
      trivial
  | @executionStarted q m payload owner legal =>
    rintro _ ⟨⟩
    rw [standing_of_status (by simp [ExperimentNode.executionStarted])]
    obtain ⟨⟨c, check⟩, hc, gated⟩ := legal.receipt
    obtain ⟨written, checkOwner⟩ := lastForExperiment_payload hc
    refine ⟨c, e, q, ?_, ⟨check, written, checkOwner.trans owner, gated⟩, ?_⟩
    · have mem : [c].Sublist es := List.singleton_sublist.mpr (lastForExperiment_mem hc)
      exact sublist_snoc_snoc mem
    · rw [lastForExperiment_snoc, EventKind.ofExperiment_self (by rw [payload]; rfl) owner]
      rfl
  | @executionFinished res m payload owner legal =>
    rintro _ ⟨⟩
    by_cases success : res.outcome = .success
    · rw [standing_of_status (by simp [success])]
      simp only [ExperimentNode.executionFinished, if_pos success]
      have running := h m rfl
      rw [standing_of_status (by simp [legal.status]), legal.status] at running
      obtain ⟨c, s, q, run⟩ := running
      obtain ⟨⟨s', q'⟩, hs, answers⟩ := legal.request
      rw [owner, run.started] at hs
      cases hs
      have silent : EventKind.executionStarted.ofExperiment x e = none :=
        EventKind.ofExperiment_none (by rw [payload]; rfl)
      refine ⟨c, s, e, q, res, run.snoc silent, sublist_snoc_snoc run.order, ?_, success, answers⟩
      rw [lastForExperiment_snoc, EventKind.ofExperiment_self (by rw [payload]; rfl) owner]
      rfl
    · rw [standing_failed (by simp [success])
        (by simp [payload, EventPayload.recoverableFailure, owner, success])]
      simp only [payload, EventPayload.failureStage]
      trivial
  | adapterFailed payload owner legal =>
    rintro _ ⟨⟩
    exact (standing_adapterFailed (fun _ => EvidenceFor.rest) id payload owner legal (h _ rfl)).snoc
      (.of_read (by rw [payload]; rfl) (by rw [payload]; rfl) (by rw [payload]; rfl))
  | recoveryDecided payload owner legal =>
    rintro _ ⟨⟩
    obtain ⟨f, latest, found⟩ := legal.failureEvent v hr ok
    rw [owner] at latest
    exact (standing_recovered (fun _ => EvidenceFor.rest) id payload legal.status latest found (h _ rfl)).snoc
      (.of_read (by rw [payload]; rfl) (by rw [payload]; rfl) (by rw [payload]; rfl))
  | @outputChecked out m payload owner legal =>
    rintro _ ⟨⟩
    cases accepted : out.accepted with
    | true =>
      rw [standing_of_status (by simp [ExperimentNode.outputChecked, accepted])]
      simp only [ExperimentNode.outputChecked, accepted]
      have ready := h m rfl
      rw [standing_of_status (by simp [legal.status]), legal.status] at ready
      obtain ⟨c, s, f, q, res, run⟩ := ready
      obtain ⟨⟨f', res'⟩, hf, examined⟩ := legal.finished
      rw [owner, run.finished] at hf
      cases hf
      have run' : FinishedRun (es ++ [e]) x c s f q res :=
        run.snoc (EventKind.ofExperiment_none (by rw [payload]; rfl))
          (EventKind.ofExperiment_none (by rw [payload]; rfl))
      refine ⟨c, s, f, e, q, res, out, run', sublist_snoc_snoc run.order, ?_, accepted, examined⟩
      rw [lastForExperiment_snoc, EventKind.ofExperiment_self (by rw [payload]; rfl) owner]
      rfl
    | false =>
      rw [standing_failed (by simp [ExperimentNode.outputChecked, accepted])
        (by simp [payload, EventPayload.recoverableFailure, owner, accepted])]
      simp only [payload, EventPayload.failureStage]
      trivial
  | @evaluationCompleted res q m payload owner legal =>
    rintro _ ⟨⟩
    by_cases noOp : res.trust.verdict = .noOp
    · rw [standing_failed (by simp [ExperimentNode.evaluationCompleted, noOp])
        (by simp [payload, EventPayload.recoverableFailure, owner, noOp])]
      simp only [payload, EventPayload.failureStage]
      trivial
    · rw [standing_of_status (by simp [ExperimentNode.evaluationCompleted, noOp])]
      simp only [ExperimentNode.evaluationCompleted, if_neg noOp]
      have verified := h m rfl
      rw [standing_of_status (by simp [legal.status]), legal.status] at verified
      have evaluated : EvidenceFor es x .evaluated := verified
      exact evaluated.snoc
        (.of_read (by rw [payload]; rfl) (by rw [payload]; rfl) (by rw [payload]; rfl))
  | @experimentDecided d m payload =>
    rintro _ ⟨⟩
    have status : (m.decided e.eventId d).status = d.decision.status := m.decided_status _ d
    rw [standing_of_status (by rw [status]; cases d.decision <;> simp [ExperimentDecisionKind.status]),
      status]
    cases d.decision <;> trivial

/-- The evidence of a valid ledger. -/
lemma ValidLedger.evidence {es r} (v : ValidLedger es) (hr : TacoRank.replay es = .ok r)
    (x : String) : Evidence es x (r.state.experiments.get? x) := by
  refine v.run_induct (I := fun es r => Evidence es x (r.state.experiments.get? x)) ?_ ?_ hr
  · rintro _ ⟨⟩
  · intro es e r r' v hr ok step ih
    exact (node_step hr ok step x).evidence v hr ok ih

/-- The events behind an evaluation: an accepted gate check, a request under its receipt, a successful
execution of the request, and an accepted check of the prediction of that execution. -/
structure EvaluationProvenance (pre : List Event) (res : EvaluationResult) (c s f o : Event)
    (check : PatchCheckResult) (q : RunRequest) (run : RunResult) (out : OutputCheckResult) :
    Prop where
  order : [c, s, f, o].Sublist pre
  checked : c.payload = .patchChecked check ∧ check.experimentId = res.experimentId ∧
    check.accepted = true
  started : s.payload = .executionStarted q ∧ q.experimentId = res.experimentId ∧
    q.attempt = res.attempt
  receipt : check.receiptId = some q.patchReceiptId ∧ check.patchCommitSha = q.patchCommitSha
  finished : f.payload = .executionFinished run ∧ run.experimentId = res.experimentId ∧
    run.attempt = res.attempt ∧ run.outcome = .success
  verified : o.payload = .outputChecked out ∧ out.experimentId = res.experimentId ∧
    out.attempt = res.attempt ∧ out.accepted = true
  prediction : ∃ artifact, run.predictionArtifact = some artifact ∧
    artifact.artifactId = out.predictionArtifact.artifactId
  request : evaluationRequest pre res = .ok q

/-- A verified run is what an evaluation of it scores. -/
lemma VerifiedRun.provenance {pre x c s f o q run out} {res : EvaluationResult}
    (h : VerifiedRun pre x c s f o q run out) (owner : res.experimentId = x)
    (attempt : q.attempt = res.attempt) :
    ∃ check, EvaluationProvenance pre res c s f o check q run out := by
  subst owner
  obtain ⟨check, payload, checkOwner, accepted, receipt⟩ := h.run.run.gate
  have started := lastForExperiment_payload h.run.run.started
  have finished := lastForExperiment_payload h.run.finished
  have checked := lastForExperiment_payload h.checked
  obtain ⟨success, outAttempt, prediction⟩ := h.examined
  have answers := h.run.answers
  have outputAttempt : out.attempt = res.attempt := by rw [← outAttempt, answers.1, attempt]
  refine ⟨check, h.order, ⟨payload, checkOwner, accepted⟩,
    ⟨started.1, started.2, attempt⟩, receipt,
    ⟨finished.1, finished.2, answers.1.trans attempt, success⟩,
    ⟨checked.1, checked.2, outputAttempt, h.accepted⟩, prediction, ?_⟩
  exact evaluationRequest_ok.mpr ⟨⟨_, h.checked, h.accepted, outputAttempt⟩,
    ⟨_, h.run.finished, success, answers⟩, ⟨_, h.run.run.started, rfl⟩, attempt⟩

/-- The node and the checks behind an accepted evaluation. -/
lemma ValidLedger.evaluation_inv {pre e post res} (v : ValidLedger (pre ++ e :: post))
    (payload : e.payload = .evaluationCompleted res) : ∃ r n q, TacoRank.replay pre = .ok r ∧
      r.state.experiments.get? res.experimentId = some n ∧
      EvaluationLegal pre (r.state.aggregate pre) res n q := by
  obtain ⟨r, hr⟩ := v.front.replay
  cases (validateTransition_ok hr).mp v.accepted.2 with
  | first _ type => simp [payload, EventPayload.type] at type
  | later _ _ _ branch =>
    rw [payload] at branch
    obtain ⟨n, q, hn, legal⟩ := validateEvaluationCompleted_ok.mp branch
    rw [RunState.aggregate_experiments] at hn
    exact ⟨r, n, q, hr, hn, legal⟩

/-- The events behind the request that an accepted evaluation scores. -/
lemma EvaluationLegal.provenance {pre r s n q} {res : EvaluationResult}
    (legal : EvaluationLegal pre s res n q) (v : ValidLedger pre) (hr : replay pre = .ok r)
    (node : r.state.experiments.get? res.experimentId = some n) :
    ∃ c s f o check run out, EvaluationProvenance pre res c s f o check q run out := by
  have verified := v.evidence hr res.experimentId n node
  rw [standing_of_status (by simp [legal.status]), legal.status] at verified
  obtain ⟨c, s, f, o, q', run, out, verified⟩ := verified
  obtain ⟨found, hs, same⟩ := legal.request.started
  rw [verified.run.run.started] at hs
  cases hs
  cases same
  obtain ⟨check, provenance⟩ := verified.provenance rfl legal.request.attempt
  exact ⟨c, s, f, o, check, run, out, provenance⟩

/-- Evaluation provenance: every evaluation of a valid ledger scores a successful execution whose
commit passed the patch gate and whose prediction passed the output gate. -/
theorem evaluation_provenance {pre e post res} (v : ValidLedger (pre ++ e :: post))
    (payload : e.payload = .evaluationCompleted res) :
    ∃ c s f o check q run out, EvaluationProvenance pre res c s f o check q run out := by
  obtain ⟨r, n, q, hr, node, legal⟩ := v.evaluation_inv payload
  obtain ⟨c, s, f, o, check, run, out, provenance⟩ := legal.provenance v.front hr node
  exact ⟨c, s, f, o, check, q, run, out, provenance⟩

open Scenario in
/-- A run whose first evaluation follows an output gate failure and its retry. -/
def evaluatedRun : List Event := record (proposal 2 "exp" ++
  [ (some 6, patch "exp" 1 "a"), (some 7, gatePassed "exp" 1 "a"),
    (some 8, .executionStarted (request "exp" 1 "a" 0)), (some 9, finished "exp" 1 "a"),
    (some 10, failed "exp" 1 .outputGate), (some 11, recovery "exp" 11 1 2 .retrySameCommit),
    (some 12, outputPassed "exp" 1), (some 13, evaluation "exp" 1 0 1 (3 / 5)) ])

theorem evaluation_provenance_run : ∃ c s f o check q run out res,
    EvaluationProvenance (evaluatedRun.take 13) res c s f o check q run out ∧
    res.experimentId = "exp" := by
  have v : ValidLedger (evaluatedRun.take 13 ++ evaluatedRun.get ⟨13, by decide⟩ :: []) :=
    .of_check (by decide +kernel)
  obtain ⟨c, s, f, o, check, q, run, out, h⟩ := evaluation_provenance v rfl
  exact ⟨c, s, f, o, check, q, run, out, _, h, rfl⟩

end TacoRank
