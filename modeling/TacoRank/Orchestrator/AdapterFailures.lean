import TacoRank.Orchestrator.ActiveExperiment
import TacoRank.Orchestrator.ExperimentLane

/-!
# Adapter failures

An exception that leaves a lane is recorded as `adapter.failed` with the stage that
`adapterFailureStage` infers from the ledger, and the state machine accepts it when the stage fits the
status of the experiment. Three calls of adapters can raise such an exception: the second call of a
repair worker, the patch gate of a repair, and the recovery manager. `Paired` is the assertion that holds
at each of them, on every ledger whose recovery contexts belong to recoveries. The exceptions of all
other calls are caught by the lane, so an exception enters recovery wherever it is raised.

A failure that repeats an earlier one word for word is acknowledged but not recorded. If the decision on
the first one is the newest evidence, no recovery context can be built: the exception of the context
builder leaves the lane, and the inferred stage does not fit.
-/

namespace TacoRank
open Lib Lib.Result

/-- The inferred stage is one that the state machine expects in the status of the experiment. -/
def StageFits (x : String) (es : List Event) : Prop :=
  ∃ n, nodeOf es x = some n ∧ n.status ∈ (adapterFailureStage es x).expectedStates

/-- The inferred stage fits, if the recovery contexts belong to recoveries. -/
def Paired (x : String) (es : List Event) : Prop := ContextsRecover x es → StageFits x es

section Stage
variable {x : String} {es : List Event} {e : Event} {n : ExperimentNode}

/-- An event of another owner leaves the inferred stage alone. -/
lemma adapterFailureStage_foreign (owner : e.payload.owner ≠ some x) :
    adapterFailureStage (es ++ [e]) x = adapterFailureStage es x := by
  unfold adapterFailureStage
  simp only [Log.lastSome_snoc]
  cases p : e.payload <;> simp_all [EventPayload.owner, EventPayload.experiment]

lemma adapterFailureStage_context (recovers : e.payload.recoversIn x = true) :
    adapterFailureStage (es ++ [e]) x = .recovery := by
  obtain ⟨context, payload, role, owner⟩ := EventPayload.recoversIn_iff.mp recovers
  simp [adapterFailureStage, payload, role, owner]

lemma adapterFailureStage_recovery {d : RecoveryDecision} (payload : e.payload = .recoveryDecided d)
    (owner : d.experimentId = x) : adapterFailureStage (es ++ [e]) x = .coding := by
  simp [adapterFailureStage, payload, owner]

lemma adapterFailureStage_patch {c : PatchCandidate} (payload : e.payload = .patchCreated c)
    (owner : c.experimentId = x) : adapterFailureStage (es ++ [e]) x = .patchGate := by
  simp [adapterFailureStage, payload, owner]

/-- The owner of a payload is its experiment, except that a context names one without writing to it. -/
lemma EventPayload.experiment_of_owner {p : EventPayload} (owner : p.owner ≠ some x) :
    p.experiment ≠ some x :=
  fun own => owner (EventPayload.owner_experiment own)

/-- Nobody else unpairs the stage and the status. -/
lemma Paired.foreign (v : ValidLedger es) (ok : Accepted es e) (owner : e.payload.owner ≠ some x)
    (paired : Paired x es) : Paired x (es ++ [e]) := by
  intro met
  obtain ⟨n, node, fits⟩ := paired met.take
  refine ⟨n, ?_, ?_⟩
  · rw [nodeOf_foreign v ok (EventPayload.experiment_of_owner owner)]
    exact node
  · rw [adapterFailureStage_foreign owner]
    exact fits

end Stage

/-! ### Exceptions that leave a lane -/

/-- What a lane relies on: a valid ledger, to which the others add no event of its experiment. -/
def failureRely (x : String) : Rely Event Submission where
  invariant := ValidLedger
  submits s := s.payload.owner ≠ some x

/-- The exception of an adapter leaves a paired ledger behind. -/
def Escapes (x : String) (error : RouterError) (es : List Event) : Prop :=
  ∀ err, error = .adapter err → Paired x es

/-- No accepted event of another owner disturbs the assertion. -/
def Undisturbed (x : String) (P : List Event → Prop) : Prop :=
  ∀ es e, ValidLedger es → Accepted es e → e.payload.owner ≠ some x → P es → P (es ++ [e])

section Rules
variable {x : String} {α β σ : Type} {P : List Event → Prop} {Q : α → List Event → Prop}

lemma Undisturbed.true : Undisturbed x fun _ => True := fun _ _ _ _ _ _ => trivial

lemma Undisturbed.paired : Undisturbed x (Paired x) := fun _ _ v ok owner => Paired.foreign v ok owner

lemma Undisturbed.implies {fact : Prop} (u : Undisturbed x P) : Undisturbed x fun es => fact → P es :=
  fun es e v ok owner hp hf => u es e v ok owner (hp hf)

lemma Undisturbed.and {P' : List Event → Prop} (u : Undisturbed x P) (u' : Undisturbed x P') :
    Undisturbed x fun es => P es ∧ P' es :=
  fun es e v ok owner ⟨hp, hp'⟩ => ⟨u es e v ok owner hp, u' es e v ok owner hp'⟩

lemma Undisturbed.mem (f : Event) : Undisturbed x fun es => f ∈ es :=
  fun _ _ _ _ _ mem => List.mem_append_left _ mem

lemma Undisturbed.stable (u : Undisturbed x P) : Spec.Stable (failureRely x) interfere P := by
  intro es s owner v hp
  unfold interfere
  cases ok : EventStore.append es s with
  | error error => exact ⟨v, hp⟩
  | ok result =>
    obtain ⟨e, es'⟩ := result
    cases EventStore.append_inv ok with
    | again => exact ⟨v, hp⟩
    | recorded _ _ accepted => exact ⟨v.snoc accepted, u es _ v accepted owner hp⟩

namespace Escapes

/-- The exceptions of the harness itself are not those of an adapter. -/
lemma python {error : PyError} {es : List Event} : Escapes x (.python error) es := by
  intro err same
  cases same

lemma orchestration {message : String} {es : List Event} :
    Escapes x (.orchestrationError message) es := by
  intro err same
  cases same

lemma unavailable {action : RecoveryAction} {cause : String} {es : List Event} :
    Escapes x (.repairWorkerUnavailable action cause) es := by
  intro err same
  cases same

/-- Recording a payload: a new event, or the one that has acknowledged it before. -/
lemma append {h : Harness} {payload : EventPayload} {key : EventKey} {cause : Option EventId}
    {delta : ResourceDelta} {Q : Event → List Event → Prop}
    (new : ∀ es e, ValidLedger es → P es → Accepted es e → e.payload = payload → Q e (es ++ [e]))
    (again : ∀ es e, P es → e ∈ es → e.payload = payload → Q e es) :
    Spec (failureRely x) P (h.append payload key cause delta) Q (Escapes x) := by
  refine Spec.transact ?_ ?_
  · intro now es e es' v hp ok
    cases result : EventStore.append es ⟨h.config.runId, key, payload, cause, delta, now⟩ with
    | error error =>
      rw [result] at ok
      cases ok
    | ok r =>
      rw [result] at ok
      cases ok
      cases EventStore.append_inv result with
      | again mem same => exact ⟨v, again es e hp mem same.2.2⟩
      | recorded _ _ accepted => exact ⟨v.snoc accepted, new es _ v hp accepted rfl⟩
  · intro now error es _ _ failed
    cases result : EventStore.append es ⟨h.config.runId, key, payload, cause, delta, now⟩ with
    | error error' =>
      rw [result] at failed
      cases failed
      exact python
    | ok r =>
      rw [result] at failed
      cases failed

/-- The answer to a call, or the exception of its adapter. -/
lemma call {answer : Answer → Option (Except RouterError α)} (u : Undisturbed x P) :
    Spec (failureRely x) P (call answer)
      (fun a es => (∃ reply, answer reply = some (.ok a)) ∧ P es) (fun _ es => P es) :=
  Spec.await u.stable (fun _ reply _ _ hp answered => ⟨⟨reply, answered⟩, hp⟩) fun _ _ _ hp => hp

lemma codingWorker {y : String} (u : Undisturbed x P) :
    Spec (failureRely x) P (codingWorker y)
      (fun candidate es => candidate.experimentId = y ∧ P es) (fun _ es => P es) := by
  refine (call u).post fun candidate es _ ⟨⟨reply, answered⟩, hp⟩ => ⟨?_, hp⟩
  cases reply <;> cases answered
  rfl

lemma events : Spec (failureRely x) P Harness.events (fun ledger es => ledger = es ∧ P es)
    (Escapes x) :=
  Spec.inspect fun _ _ hp => ⟨rfl, hp⟩

lemma state : Spec (failureRely x) P Harness.state (fun s es => project es = .ok s ∧ P es) (Escapes x) := by
  refine events.bind fun ledger => ?_
  cases projected : project ledger with
  | ok s =>
    refine Spec.ret ?_
    rintro es _ ⟨rfl, hp⟩
    exact ⟨projected, hp⟩
  | error error => exact Spec.raise fun _ _ _ => python

end Escapes

/-- An exception that no adapter has raised. -/
def NotAdapter (error : RouterError) : Prop := ∀ err, error ≠ .adapter err

lemma NotAdapter.mapError {result : Except AdapterError α} :
    Raises NotAdapter (result.mapError .internal) := by
  intro error failed err same
  subst same
  cases result <;> cases failed

/-- From any ledger, the program lets the exception of an adapter escape on paired ledgers only. -/
def Harmless (x : String) (m : Lane α) : Prop :=
  Spec (failureRely x) (fun _ => True) m (fun _ _ => True) (Escapes x)

namespace Harmless
variable {m : Lane α} {f : α → Lane β}

lemma ret (a : α) : Harmless x (pure a) := Spec.ret fun _ _ _ => trivial

lemma bind (first : Harmless x m) (rest : ∀ a, Harmless x (f a)) : Harmless x (m >>= f) :=
  Spec.bind first rest

lemma of_spec (spec : Spec (failureRely x) (fun _ => True) m Q (Escapes x)) : Harmless x m :=
  spec.post fun _ _ _ _ => trivial

/-- A harmless program may be run anywhere. -/
lemma anywhere (harmless : Harmless x m) :
    Spec (failureRely x) P m (fun _ _ => True) (Escapes x) :=
  harmless.pre fun _ _ _ => trivial

lemma ofExcept {result : Except RouterError α} (raises : Raises NotAdapter result) :
    Harmless x (Program.ofExcept result) :=
  Spec.ofExcept (fun _ _ _ _ _ => trivial)
    fun error _ _ _ failed err same => absurd same (raises error failed err)

/-- The exceptions of a caught program do not escape. -/
lemma catching {R : RouterError → List Event → Prop} {f : Except RouterError α → Lane β}
    (spec : Spec (failureRely x) (fun _ => True) m Q R) (rest : ∀ result, Harmless x (f result)) :
    Harmless x (Program.attempt m >>= f) :=
  Spec.bind (Q := fun _ _ => True)
    (Spec.post (Spec.attempt spec) fun _ _ _ _ => trivial) rest

lemma loop {body : σ → Lane (σ ⊕ α)} (step : ∀ s, Harmless x (body s)) (fuel : Nat) (s : σ) :
    Harmless x (Program.loop body fuel s) := by
  refine Spec.loop (J := fun _ _ => True) (fun s => ?_) fuel s
  refine Spec.post (step s) fun result es _ _ => ?_
  cases result <;> trivial

lemma append {h : Harness} {payload : EventPayload} {key : EventKey} {cause : Option EventId}
    {delta : ResourceDelta} : Harmless x (h.append payload key cause delta) :=
  Escapes.append (fun _ _ _ _ _ _ => trivial) fun _ _ _ _ _ => trivial

lemma events : Harmless x Harness.events := of_spec Escapes.events

lemma state : Harmless x Harness.state := of_spec Escapes.state

end Harmless
end Rules

/-! ### Recovery and repair -/

/-- The newest event of the experiment is the context of its recovery. -/
def AtRecovery (x : String) (es : List Event) : Prop :=
  ContextsRecover x es → Recovering x es ∧ adapterFailureStage es x = .recovery

section Recovery
variable {h : Harness} {x : String}

lemma Undisturbed.atRecovery : Undisturbed x (AtRecovery x) := by
  intro es e v ok owner at_ met
  obtain ⟨⟨n, node, status⟩, stage⟩ := at_ met.take
  refine ⟨⟨n, ?_, status⟩, ?_⟩
  · rw [nodeOf_foreign v ok (EventPayload.experiment_of_owner owner)]
    exact node
  · rw [adapterFailureStage_foreign owner]
    exact stage

lemma AtRecovery.paired {es : List Event} (at_ : AtRecovery x es) : Paired x es := by
  intro met
  obtain ⟨⟨n, node, status⟩, stage⟩ := at_ met
  refine ⟨n, node, ?_⟩
  rw [stage, status]
  exact List.mem_singleton_self _

/-- A recovery context is recorded once, and in a recovery if all of them are. -/
lemma AtRecovery.context {es : List Event} {e : Event} (v : ValidLedger es) (ok : Accepted es e)
    (recovers : e.payload.recoversIn x = true) : AtRecovery x (es ++ [e]) := by
  intro met
  obtain ⟨n, node, status⟩ := met.last recovers
  refine ⟨⟨n, ?_, status⟩, adapterFailureStage_context recovers⟩
  obtain ⟨context, payload, _, _⟩ := EventPayload.recoversIn_iff.mp recovers
  rw [nodeOf_foreign v ok (by simp [payload, EventPayload.experiment])]
  exact node

/-- The statuses in which a decision hands the experiment to the coder. -/
lemma Paired.decision {es : List Event} {e failure : Event} {d : RecoveryDecision}
    (v : ValidLedger es) (ok : Accepted es e) (payload : e.payload = .recoveryDecided d)
    (owner : d.experimentId = x) (cites : d.failureEventId = failure.eventId)
    (coder : d.action.isCodeRecovery = true ∨
      failure ∈ es ∧ failure.payload.failureStage = some .coding ∧ d.action = .retrySameCommit) :
    Paired x (es ++ [e]) := by
  intro _
  obtain ⟨r, hr⟩ := v.replay
  have branch := (ok.branch hr (by simp [payload, EventPayload.type])).2
  rw [payload] at branch
  obtain ⟨n, hn, legal⟩ := validateRecoveryDecided_ok.mp branch
  rw [RunState.aggregate_experiments, owner] at hn
  refine ⟨_, nodeOf_update hr ok hn (by simp [payload, EventPayload.experiment, owner])
    (by simp [payload]), ?_⟩
  rw [adapterFailureStage_recovery payload owner]
  simp only [Reducer.nodeUpdate, payload, Reducer.recoveryNode_status]
  unfold Reducer.recoveryStatus
  rcases coder with code | ⟨mem, stage, retry⟩
  · cases action : d.action <;> simp [action, RecoveryAction.isCodeRecovery] at code ⊢ <;>
      simp [FailureStage.expectedStates]
  · obtain ⟨f, latest, found⟩ := legal.failureEvent v hr ok
    obtain ⟨f', latest', id⟩ := legal.failure
    rw [latest] at latest'
    cases latest'
    have same : f = failure :=
      v.eq_of_id (latestRecoverableFailure_mem latest).1 mem (by rw [← id, cites])
    subst same
    simp only [retry, found, Reducer.retryTarget_some, stage, FailureStage.expectedStates,
      List.mem_cons, true_or]

/-- A replacement patch is ready for its gate. -/
lemma Paired.patch {es : List Event} {e : Event} {c : PatchCandidate} (v : ValidLedger es)
    (ok : Accepted es e) (payload : e.payload = .patchCreated c) (owner : c.experimentId = x) :
    Paired x (es ++ [e]) := by
  intro _
  obtain ⟨r, hr⟩ := v.replay
  have branch := (ok.branch hr (by simp [payload, EventPayload.type])).2
  rw [payload] at branch
  obtain ⟨n, hn, _⟩ := validatePatchCreated_ok.mp branch
  rw [RunState.aggregate_experiments, owner] at hn
  refine ⟨_, nodeOf_update hr ok hn (by simp [payload, EventPayload.experiment, owner])
    (by simp [payload]), ?_⟩
  rw [adapterFailureStage_patch payload owner]
  simp only [Reducer.nodeUpdate, payload]
  exact List.mem_singleton_self _

/-- An event of another owner is recorded next to any undisturbed assertion. -/
lemma Escapes.append_foreign {P : List Event → Prop} {payload : EventPayload} {key : EventKey}
    {cause : Option EventId} {delta : ResourceDelta} (u : Undisturbed x P)
    (owner : payload.owner ≠ some x) :
    Spec (failureRely x) P (h.append payload key cause delta) (fun _ es => P es) (Escapes x) := by
  refine Escapes.append (fun es e v hp ok same => ?_) fun _ _ hp _ _ => hp
  exact u es e v ok (by rw [same]; exact owner) hp

/-- The event of a recorded failure is in the ledger. -/
lemma Escapes.recordAdapterFailure {attempt : Nat} {stage : FailureStage} {error : RouterError}
    {cause : Option EventId} {P : List Event → Prop} :
    Spec (failureRely x) P (h.recordAdapterFailure x attempt stage error cause)
      (fun e es => e.payload.failureStage = some stage ∧ e ∈ es) (Escapes x) := by
  refine Escapes.append ?_ ?_
  · intro es e _ _ _ same
    exact ⟨by rw [same]; rfl, List.mem_append_right _ (List.mem_singleton_self e)⟩
  · intro es e _ mem same
    exact ⟨by rw [same]; rfl, mem⟩

lemma Escapes.stop {decision : StopDecision} {P : List Event → Prop} (u : Undisturbed x P) :
    Spec (failureRely x) P (h.stop decision) (fun _ es => P es) (Escapes x) := by
  refine Escapes.events.bind fun ledger => ?_
  refine Spec.bind (Q := fun _ es => P es) ?_ fun _ => Spec.ret fun _ _ hp => hp
  refine (Escapes.append_foreign u (by simp [EventPayload.owner, EventPayload.experiment])).pre ?_
  exact fun _ _ hp => hp.2

/-- The context builder raises no exception of an adapter. -/
lemma buildRecovery_internal {es : List Event} {remaining : Nat} :
    Raises NotAdapter (buildRecovery h.writeRecovery es x remaining) := by
  unfold buildRecovery
  refine .bind (fun error failed err same => ?_) fun s _ => ?_
  · subst same
    cases projected : project (visibleDevelopmentEvents es) <;> rw [projected] at failed <;> cases failed
  split
  · exact .error (by simp [NotAdapter, contextBuildError])
  split
  · exact .error (by simp [NotAdapter, contextBuildError])
  split
  · exact .error (by simp [NotAdapter, contextBuildError])
  split
  · exact .error (by simp [NotAdapter, contextBuildError])
  · exact NotAdapter.mapError.bind fun document _ => .pure _

/-- The context that a recovery starts from. -/
lemma Escapes.recoveryContext {remaining : Nat} {s : RunState} {n : ExperimentNode}
    {P : List Event → Prop} (fresh : h.FreshContexts) (node : s.experiments.get? x = some n) :
    Spec (failureRely x) (fun es => project es = .ok s ∧ P es) (h.recoveryContext x remaining)
      (fun context es => (context.role = .recovery ∧ context.experimentId = some x ∧
        ∀ e ∈ es, e.payload ≠ .contextCreated context.toContextDocument) ∧ P es) (Escapes x) := by
  refine Escapes.events.bind fun ledger => Spec.ofExcept ?_ ?_
  · rintro context es v ⟨rfl, projected, hp⟩ built
    have builds := buildRecovery_ok v projected node built
    exact ⟨⟨builds.role, builds.owner, fun e mem same => builds.fresh fresh e mem _ same rfl⟩, hp⟩
  · exact fun error es _ _ failed err same => absurd same (buildRecovery_internal error failed err)

/-- The decision sends the experiment to its coder, or retries a failure of the coder. -/
def Recalls (failure : Event) (known : Prop) (d : RecoveryDecision) : Prop :=
  d.action.isCodeRecovery = true ∨
    known ∧ failure.payload.failureStage = some .coding ∧ d.action = .retrySameCommit

/-- `_recover`: the recovery manager is called in a recovery, and where its decision calls a coder
again the ledger stays paired. -/
lemma Escapes.recover {failure : Event} (known : Prop) (fresh : h.FreshContexts) :
    Spec (failureRely x) (fun es => known → failure ∈ es) (h.recover failure x)
      (fun recovery es => recovery.decision.experimentId = x ∧
        (Recalls failure known recovery.decision → Paired x es)) (Escapes x) := by
  refine Escapes.state.bind fun s => ?_
  cases node : s.experiments.get? x with
  | none => exact Spec.raise fun _ _ _ => Escapes.python
  | some n =>
    refine (Escapes.recoveryContext fresh node).bind fun context => ?_
    -- the context is new, so the recovery it belongs to is the one of this failure
    refine Spec.bind (Q := fun _ es => AtRecovery x es ∧ (known → failure ∈ es)) ?_ fun event => ?_
    · refine Escapes.append ?_ ?_
      · rintro es e v ⟨⟨role, owner, _⟩, mem⟩ ok same
        exact ⟨AtRecovery.context v ok (EventPayload.recoversIn_iff.mpr ⟨_, same, role, owner⟩),
          fun hk => List.mem_append_left _ (mem hk)⟩
      · rintro es e ⟨⟨_, _, new⟩, _⟩ mem same
        exact absurd same (new e mem)
    refine Spec.bind (Q := fun decision es => (decision.experimentId = x ∧
      decision.failureEventId = failure.eventId) ∧ AtRecovery x es ∧ (known → failure ∈ es))
      ?_ fun decision => ?_
    · refine (Escapes.call (Undisturbed.atRecovery.and (Undisturbed.mem failure).implies)).weaken
        (fun _ _ hp => hp) ?_ fun _ _ _ hp _ _ => hp.1.paired
      rintro decision es _ ⟨⟨reply, answered⟩, hp⟩
      refine ⟨?_, hp⟩
      cases reply with
      | recovery ruling =>
        simp only at answered
        split at answered <;> cases answered
        exact ⟨rfl, rfl⟩
      | _ => cases answered
    refine Spec.bind (Q := fun _ es => decision.experimentId = x ∧
      (Recalls failure known decision → Paired x es)) ?_ fun decisionEvent => ?_
    · refine Escapes.append ?_ ?_
      · rintro es e v ⟨⟨owner, cites⟩, _, mem⟩ ok same
        refine ⟨owner, fun recalls => Paired.decision v ok same owner cites ?_⟩
        exact recalls.imp id fun retries => ⟨mem retries.1, retries.2⟩
      · rintro es e ⟨⟨owner, _⟩, at_, _⟩ _ _
        exact ⟨owner, fun _ => at_.paired⟩
    have kept : Undisturbed x fun es => decision.experimentId = x ∧
        (Recalls failure known decision → Paired x es) := by
      rintro es e v ok other ⟨owner, paired⟩
      exact ⟨owner, Undisturbed.paired.implies es e v ok other paired⟩
    have ended : Spec (failureRely x) (fun es => decision.experimentId = x ∧
        (Recalls failure known decision → Paired x es))
        (if decision.reasonCode = "INTEGRITY_VIOLATION" ∧ h.parallelRoundActive = false then
          h.stop fatalIntegrityDecision >>= fun _ =>
            pure (⟨decision, context, decisionEvent⟩ : Harness.Recovery)
        else pure ⟨decision, context, decisionEvent⟩)
        (fun recovery es => recovery.decision.experimentId = x ∧
          (Recalls failure known recovery.decision → Paired x es)) (Escapes x) := by
      split
      · exact (Escapes.stop kept).bind fun _ => Spec.ret fun _ _ hp => hp
      · exact Spec.ret fun _ _ hp => hp
    cases decision.lessonCandidate with
    | none => exact ended
    | some candidate =>
      refine Escapes.events.bind fun ledger => ?_
      refine Spec.bind (Q := fun _ es => decision.experimentId = x ∧
        (Recalls failure known decision → Paired x es)) ?_ fun _ => ended
      refine (Escapes.append_foreign kept ?_).pre fun _ _ hp => hp.2
      simp [EventPayload.owner, EventPayload.experiment]

/-- What a recovery leaves for the repair that it decides on. -/
def Recovered (x : String) (recovery : Harness.Recovery) (es : List Event) : Prop :=
  recovery.decision.experimentId = x ∧
    (recovery.decision.action.isCodeRecovery = true → Paired x es)

lemma Harmless.recover {failure : Event} {β : Type} {f : Harness.Recovery → Lane β}
    (fresh : h.FreshContexts)
    (rest : ∀ recovery, Spec (failureRely x) (Recovered x recovery) (f recovery) (fun _ _ => True)
      (Escapes x)) : Harmless x (h.recover failure x >>= f) := by
  refine Spec.bind (Spec.pre (Escapes.recover False fresh) fun _ _ _ => False.elim) ?_
  intro recovery
  exact (rest recovery).pre fun _ _ ⟨owner, paired⟩ => ⟨owner, fun code => paired (.inl code)⟩

/-- The gate of a repair is called on its patch, or where a coder was called before. -/
lemma Escapes.sealRepair {decision : RecoveryDecision} {contextId : String}
    {decisionEventId proposal : EventId} {candidate : PatchCandidate} :
    Spec (failureRely x) (fun es => candidate.experimentId = x ∧ Paired x es)
      (h.sealRepair decision contextId decisionEventId proposal candidate)
      (fun _ _ => True) (Escapes x) := by
  refine Spec.assuming fun owner => ?_
  refine Spec.bind (Q := fun _ es => Paired x es) ?_ fun patchEvent => ?_
  · refine Escapes.append ?_ fun _ _ paired _ _ => paired
    intro es e v _ ok same
    exact Paired.patch v ok same owner
  refine Spec.bind (Q := fun _ _ => True) ?_ fun check => ?_
  · exact (Escapes.call Undisturbed.paired).weaken (fun _ _ paired => paired)
      (fun _ _ _ _ => trivial) fun _ _ _ paired _ _ => paired
  exact Harmless.append.bind fun event => .ret _

/-- `_execute_code_repair` calls a repair worker in a recovery, and once more after the recovery of
its own failure. -/
lemma Escapes.executeCodeRepair {recovery : Harness.Recovery} {proposal : EventId}
    (fresh : h.FreshContexts) :
    Spec (failureRely x) (Recovered x recovery) (h.executeCodeRepair recovery proposal)
      (fun _ _ => True) (Escapes x) := by
  refine Spec.assuming fun owner => ?_
  unfold Harness.executeCodeRepair
  simp only
  split
  · exact Spec.raise fun _ _ _ => Escapes.orchestration
  rename_i code
  have worker := Escapes.codingWorker (x := x) (y := recovery.decision.experimentId)
    (Undisturbed.paired (x := x))
  refine Spec.bind (Q := fun result es => ∀ candidate, result = .ok candidate →
    candidate.experimentId = x ∧ Paired x es) ?_ fun result => ?_
  · refine ((Spec.attempt worker).weaken (fun _ _ paired => paired (by simpa using code)) ?_
      fun _ _ _ r => r)
    intro result es _ post candidate same
    subst same
    exact ⟨post.1.trans owner, post.2⟩
  cases result with
  | ok candidate => exact Escapes.sealRepair.pre fun _ _ post => post candidate rfl
  | error error =>
    rw [owner]
    refine Spec.bind (Spec.pre Escapes.recordAdapterFailure fun _ _ _ => trivial) fun failure => ?_
    refine Spec.assuming fun stage => ?_
    refine Spec.bind (Spec.pre (Escapes.recover True fresh) fun _ _ mem _ => mem)
      fun retry => ?_
    refine Spec.assuming fun retryOwner => ?_
    split
    · exact Spec.raise fun _ _ _ => Escapes.unavailable
    rename_i again
    have recalls : Recalls failure True retry.decision :=
      .inr ⟨trivial, stage, by simpa using again⟩
    refine Spec.bind (Q := fun candidate es => candidate.experimentId = x ∧ Paired x es) ?_
      fun candidate => Escapes.sealRepair
    refine (Escapes.codingWorker Undisturbed.paired).weaken (fun _ _ paired => paired recalls)
      (fun _ _ _ post => post) fun _ _ _ paired _ _ => paired

end Recovery

/-! ### The lane -/

namespace Harmless
variable {h : Harness} {x : String} {fuel : Nat} {proposal : EventId} {recovery : Harness.Recovery}

lemma recordAdapterFailure {attempt : Nat} {stage : FailureStage} {error : RouterError}
    {cause : Option EventId} :
    Harmless x (h.recordAdapterFailure x attempt stage error cause) :=
  append

lemma stop {decision : StopDecision} : Harmless x (h.stop decision) := Escapes.stop .true

lemma stopIfRuntimeBudgetExhausted : Harmless x h.stopIfRuntimeBudgetExhausted := by
  refine state.bind fun s => ?_
  cases runtimeBudgetDecision s h.config with
  | none => exact ret _
  | some decision =>
    cases h.parallelRoundActive with
    | true => exact ret _
    | false => exact stop.bind fun _ => ret _

lemma resume {round : Harness.Round} : Harmless x (h.resume round recovery) := by
  refine (ofExcept (.forM fun setting _ => ?_)).bind fun _ => ret _
  obtain ⟨name, value⟩ := setting
  simp only
  cases h.config.allowedRuntimeAdjustments.lookup name with
  | none => exact .error (by simp [NotAdapter])
  | some approved =>
    simp only
    split
    · exact .error (by simp [NotAdapter])
    split
    · exact .error (by simp [NotAdapter])
    · exact .pure _

lemma repairLoop {checkBudget : Bool} (fresh : h.FreshContexts) :
    Spec (failureRely x) (Recovered x recovery)
      (h.repairLoop fuel checkBudget x proposal recovery) (fun _ _ => True) (Escapes x) := by
  refine Spec.loop (J := Recovered x) (fun recovery => ?_) fuel recovery
  simp only
  split
  · exact Spec.ret fun _ _ _ => trivial
  refine (Escapes.executeCodeRepair fresh).bind fun checked => ?_
  have ended (exhausted : Bool) : Spec (failureRely x) (fun _ => True)
      (if exhausted = true then pure (Sum.inr .exhausted)
        else if checked.check.accepted = true then pure (Sum.inr (.accepted checked))
        else h.recover checked.event x >>= fun recovery => pure (Sum.inl recovery))
      (fun (result : Harness.Recovery ⊕ Harness.RepairOutcome) es => match result with
        | .inl recovery => Recovered x recovery es
        | .inr _ => True) (Escapes x) := by
    split
    · exact Spec.ret fun _ _ _ => trivial
    split
    · exact Spec.ret fun _ _ _ => trivial
    refine Spec.bind (Spec.pre (Escapes.recover False fresh) fun _ _ _ => False.elim) ?_
    intro recovery
    exact Spec.ret fun _ _ ⟨owner, paired⟩ => ⟨owner, fun code => paired (.inl code)⟩
  refine Spec.post (Q := fun (result : Harness.Recovery ⊕ Harness.RepairOutcome) es =>
    match result with
      | .inl recovery => Recovered x recovery es
      | .inr _ => True) ?_ fun result es _ post => ?_
  · cases checkBudget with
    | true => exact Spec.bind stopIfRuntimeBudgetExhausted ended
    | false => exact Spec.bind (ret false) ended
  · cases result <;> exact post

lemma repairOnce {round : Harness.Round} {rejected other : Harness.Exit} (fresh : h.FreshContexts) :
    Spec (failureRely x) (Recovered x recovery)
      (h.repairOnce round proposal recovery rejected other) (fun _ _ => True) (Escapes x) := by
  unfold Harness.repairOnce
  split
  · exact (Escapes.executeCodeRepair fresh).bind fun checked => ret _
  · exact (ret _).anywhere

section Internal

lemma validateMetricSet_internal {metricSet : MetricSet} :
    Raises NotAdapter (h.validateMetricSet metricSet) := by
  unfold Harness.validateMetricSet
  split
  · exact .ok _
  · exact .error (by simp [NotAdapter])

lemma metricOf_internal {summary : List (String × ℚ)} {name : String} :
    Raises NotAdapter (metricOf summary name) := by
  unfold metricOf
  split
  · exact .ok _
  · exact .error (by simp [NotAdapter])

lemma baselineMetrics_internal {es : List Event} : Raises NotAdapter (baselineMetrics es) := by
  unfold baselineMetrics
  split
  · exact .ok _
  · exact .error (by simp [NotAdapter])

lemma referenceMetrics_internal {es : List Event} {reference : Option String}
    {fidelity : Fidelity} : Raises NotAdapter (referenceMetrics es reference fidelity) := by
  unfold referenceMetrics
  split
  · exact baselineMetrics_internal
  · exact baselineMetrics_internal
  · exact baselineMetrics_internal
  split
  · exact .ok _
  · exact .error (by simp [NotAdapter])

lemma executionSeed_internal {es : List Event} {fidelity : Fidelity} {commit : String} :
    Raises NotAdapter (h.executionSeed es x fidelity commit) := by
  unfold Harness.executionSeed
  split
  · split
    · exact .pure _
    · exact .error (by simp [NotAdapter])
  refine .bind (.foldlM fun completed found _ => ?_) fun completed _ => ?_
  · split
    · split
      · exact .error (by simp [NotAdapter])
      · exact .pure _
    · exact .pure _
  · split
    · exact .pure _
    · exact .error (by simp [NotAdapter])

end Internal

section Round
variable {spec : ExperimentSpec} {round : Harness.Round}

lemma executionFailed {started : Event} {error : RouterError} (fresh : h.FreshContexts) :
    Harmless spec.experimentId (h.executionFailed fuel spec proposal round started error) := by
  refine recordAdapterFailure.bind fun failure => recover fresh fun recovery => ?_
  split
  · exact resume.anywhere
  · exact resume.anywhere
  refine (repairLoop fresh).bind fun outcome => ?_
  cases outcome <;> exact ret _

lemma executionUnsuccessful {finished : Event} (fresh : h.FreshContexts) :
    Harmless spec.experimentId (h.executionUnsuccessful fuel spec proposal round finished) := by
  refine recover fresh fun recovery => ?_
  split
  · exact resume.anywhere
  · exact resume.anywhere
  refine (repairLoop fresh).bind fun outcome => ?_
  cases outcome <;> exact ret _

lemma decided {evaluation : EvaluationResult} {evaluationEvent : Event}
    {decision : ExperimentDecision} {cause : EventId} :
    Harmless spec.experimentId
      (h.decided spec round evaluation evaluationEvent decision cause) := by
  refine append.bind fun decisionEvent => ?_
  cases decision.lessonCandidate
  case' some candidate => refine events.bind fun ledger => append.bind fun _ => ?_
  -- a promotion continues; the other decisions may select a new best
  all_goals
    dsimp only
    split
    · exact ret _
    split
    · refine state.bind fun current => ?_
      split
      · exact append.bind fun _ => ret _
      · exact ret _
    · exact ret _

lemma decisionFailed {evaluation : EvaluationResult} {evaluationEvent : Event}
    {error : RouterError} (fresh : h.FreshContexts) :
    Harmless spec.experimentId
      (h.decisionFailed spec proposal round evaluation evaluationEvent error) := by
  refine recordAdapterFailure.bind fun failure => recover fresh fun recovery => ?_
  split
  · refine Harmless.anywhere (catching (Escapes.call .true) fun result => ?_)
    cases result with
    | ok decision => exact decided
    | error retryError =>
      exact recordAdapterFailure.bind fun retryFailure =>
        recover fresh fun retry => (ret _).anywhere
  · exact resume.anywhere
  · exact repairOnce fresh

lemma noOpRecovery {evaluationEvent : Event} (fresh : h.FreshContexts) :
    Harmless spec.experimentId (h.noOpRecovery fuel spec proposal round evaluationEvent) := by
  refine recover fresh fun recovery => ?_
  refine Spec.bind (Spec.attempt (repairLoop fresh)) fun result => ?_
  cases result with
  | ok outcome => cases outcome <;> exact (ret _).anywhere
  | error error =>
    cases error with
    | repairWorkerUnavailable action cause =>
      cases action with
      | returnToPlanner => exact (ret _).anywhere
      | _ => exact Spec.raise fun _ _ escapes => escapes
    | _ => exact Spec.raise fun _ _ escapes => escapes

lemma evaluated {request : EvaluationRequest} {evaluation : EvaluationResult} {cause : EventId}
    (fresh : h.FreshContexts) :
    Harmless spec.experimentId (h.evaluated fuel spec proposal round request evaluation cause) := by
  refine (ofExcept validateMetricSet_internal).bind fun _ => append.bind fun evaluationEvent => ?_
  refine stopIfRuntimeBudgetExhausted.bind fun exhausted => ?_
  split
  · exact ret _
  split
  · exact noOpRecovery fresh
  refine (ofExcept metricOf_internal).bind fun _ => (ofExcept metricOf_internal).bind fun _ => ?_
  refine (ofExcept metricOf_internal).bind fun _ => ?_
  refine catching (Escapes.call .true) fun result => ?_
  cases result with
  | ok decision => exact decided
  | error error => exact decisionFailed fresh

lemma evaluationRequestFor {output : OutputCheckResult} {outputEvent : Event}
    {baseline parent : List (String × ℚ)} :
    Harmless spec.experimentId
      (h.evaluationRequestFor spec round output outputEvent baseline parent) :=
  state.bind fun _ => events.bind fun _ => (ofExcept referenceMetrics_internal).bind fun _ => ret _

/-- The exceptions of an evaluation are caught. -/
lemma evaluate {request : EvaluationRequest} {cause : EventId} {β : Type}
    {f : Except RouterError EvaluationResult → Lane β}
    (rest : ∀ result, Harmless spec.experimentId (f result)) :
    Harmless spec.experimentId (Program.attempt (h.evaluate spec round request cause) >>= f) := by
  refine catching (Q := fun _ _ => True) (R := fun _ _ => True) ?_ rest
  refine Spec.bind (Spec.post (Escapes.call .true) fun _ _ _ _ => trivial) fun evaluation => ?_
  have recorded : Harmless spec.experimentId (Program.ofExcept (h.validateMetricSet
      evaluation.metricSet) >>= fun _ => h.appendEvaluation spec round evaluation cause >>= fun _ =>
        pure evaluation) :=
    (ofExcept validateMetricSet_internal).bind fun _ => append.bind fun _ => ret _
  exact Spec.weaken recorded (fun _ _ _ => trivial) (fun _ _ _ q => q) fun _ _ _ _ => trivial

lemma evaluationFailed {request : Option EvaluationRequest} {outputEvent : Event}
    {error : RouterError} (fresh : h.FreshContexts) :
    Harmless spec.experimentId
      (h.evaluationFailed fuel spec proposal round request outputEvent error) := by
  refine recordAdapterFailure.bind fun failure => recover fresh fun recovery => ?_
  dsimp only
  split
  · cases request with
    | none => exact (ret _).anywhere
    | some request =>
      refine Harmless.anywhere (evaluate fun result => ?_)
      cases result with
      | ok evaluation => exact evaluated fresh
      | error retryError =>
        exact recordAdapterFailure.bind fun retryFailure =>
          recover fresh fun retry => repairOnce fresh
  · exact resume.anywhere
  · exact repairOnce fresh

lemma evaluationStage {output : OutputCheckResult} {outputEvent : Event} (fresh : h.FreshContexts) :
    Harmless spec.experimentId
      (h.evaluationStage fuel spec proposal round output outputEvent) := by
  refine events.bind fun ledger => (ofExcept baselineMetrics_internal).bind fun baseline => ?_
  refine events.bind fun ledger => (ofExcept referenceMetrics_internal).bind fun parent => ?_
  refine catching evaluationRequestFor fun result => ?_
  cases result with
  | error error => exact evaluationFailed fresh
  | ok request =>
    refine evaluate fun result => ?_
    cases result with
    | error error => exact evaluationFailed fresh
    | ok evaluation => exact evaluated fresh

lemma outputChecked {output : OutputCheckResult} {cause : EventId} (fresh : h.FreshContexts) :
    Harmless spec.experimentId (h.outputChecked fuel spec proposal round output cause) := by
  refine append.bind fun outputEvent => ?_
  split
  · refine recover fresh fun recovery => (repairLoop fresh).bind fun outcome => ?_
    cases outcome <;> exact ret _
  split
  · exact append.bind fun _ => ret _
  · exact evaluationStage fresh

lemma outputStage {finished : Event} {result : RunResult} (fresh : h.FreshContexts) :
    Harmless spec.experimentId (h.outputStage fuel spec proposal round finished result) := by
  refine catching (Escapes.call .true) fun answer => ?_
  cases answer with
  | ok output => exact outputChecked fresh
  | error error =>
    refine recordAdapterFailure.bind fun failure => recover fresh fun recovery => ?_
    split
    · refine Harmless.anywhere (catching (Escapes.call .true) fun retried => ?_)
      cases retried with
      | ok output => exact outputChecked fresh
      | error retryError =>
        exact recordAdapterFailure.bind fun retryFailure =>
          recover fresh fun retry => repairOnce fresh
    · exact repairOnce fresh

lemma nextRequest {s : Harness.LoopState} {fidelity : Fidelity} :
    Harmless spec.experimentId (h.nextRequest spec s fidelity) := by
  unfold Harness.nextRequest
  dsimp only
  split
  · exact ret _
  · exact events.bind fun ledger => (ofExcept executionSeed_internal).bind fun seed => ret _

lemma fidelityRound {s : Harness.LoopState} (fresh : h.FreshContexts) :
    Harmless spec.experimentId (h.fidelityRound fuel spec proposal s) := by
  unfold Harness.fidelityRound
  cases s.stageQueue with
  | nil => exact ret _
  | cons fidelity queue =>
    refine nextRequest.bind fun request => append.bind fun started => ?_
    refine catching (Escapes.call .true) fun answer => ?_
    cases answer with
    | error error => exact executionFailed fresh
    | ok result =>
      refine append.bind fun finished => stopIfRuntimeBudgetExhausted.bind fun exhausted => ?_
      split
      · exact ret _
      split
      · exact executionUnsuccessful fresh
      · exact outputStage fresh

lemma initialPatch (fresh : h.FreshContexts) :
    Harmless spec.experimentId (h.initialPatch spec proposal) := by
  refine Harmless.bind ?_ fun context => append.bind fun contextEvent => ?_
  · exact events.bind fun ledger => (ofExcept .mapError).bind fun context => ret _
  refine catching (Escapes.call .true) fun answer => ?_
  cases answer with
  | ok patch => exact ret _
  | error error =>
    refine recordAdapterFailure.bind fun failure => recover fresh fun recovery => ?_
    split
    · exact (ret _).anywhere
    refine Harmless.anywhere (catching (Escapes.call .true) fun retried => ?_)
    cases retried with
    | ok patch => exact ret _
    | error retryError =>
      exact recordAdapterFailure.bind fun retryFailure =>
        recover fresh fun retry => (ret _).anywhere

lemma appendCheck {patch : PatchCandidate} {check : PatchCheckResult} {cause : EventId} :
    Harmless x (h.appendCheck spec patch check cause) :=
  append.bind fun _ => ret _

lemma initialCheck {patch : PatchCandidate} {patchEvent : Event} (fresh : h.FreshContexts) :
    Harmless spec.experimentId (h.initialCheck spec proposal patch patchEvent) := by
  refine catching (Escapes.call .true) fun answer => ?_
  cases answer with
  | ok check => exact appendCheck
  | error error =>
    refine recordAdapterFailure.bind fun failure => recover fresh fun recovery => ?_
    split
    · refine Harmless.anywhere (catching (Escapes.call .true) fun retried => ?_)
      cases retried with
      | ok check => exact appendCheck
      | error retryError =>
        refine recordAdapterFailure.bind fun retryFailure => recover fresh fun retry => ?_
        split
        · exact (Escapes.executeCodeRepair fresh).bind fun checked => ret _
        · exact (ret _).anywhere
    split
    · exact (Escapes.executeCodeRepair fresh).bind fun checked => ret _
    · exact (stop.bind fun _ => ret _).anywhere

lemma gateLoop {checked : Harness.CheckedPatch} (fresh : h.FreshContexts) :
    Harmless spec.experimentId (h.gateLoop fuel spec proposal checked) := by
  refine loop (fun checked => ?_) fuel checked
  split
  · exact ret _
  refine recover fresh fun recovery => ?_
  split
  · exact (ret _).anywhere
  refine (Escapes.executeCodeRepair fresh).bind fun repaired => ?_
  refine stopIfRuntimeBudgetExhausted.bind fun exhausted => ?_
  split
  · exact ret _
  · exact ret _

lemma developExperiment (fresh : h.FreshContexts) :
    Harmless spec.experimentId (h.developExperiment fuel spec proposal) := by
  refine (initialPatch fresh).bind fun created => ?_
  cases created with
  | none => exact ret _
  | some created =>
    refine append.bind fun patchEvent => stopIfRuntimeBudgetExhausted.bind fun exhausted => ?_
    split
    · exact ret _
    refine (initialCheck fresh).bind fun checked => ?_
    cases checked with
    | none => exact ret _
    | some checked =>
      refine (gateLoop fresh).bind fun accepted => ?_
      cases accepted with
      | none => exact ret _
      | some accepted => exact loop (fun s => fidelityRound fresh) fuel _

lemma runExperiment (fresh : h.FreshContexts) :
    Harmless spec.experimentId (h.runExperiment fuel spec proposal) := by
  refine (developExperiment fresh).bind fun exit => ?_
  cases exit with
  | state => exact ret _
  | abandon attempt fidelity cause reasonCode =>
    refine events.bind fun ledger => ?_
    split
    · exact ret _
    · exact append.bind fun _ => ret _

end Round
end Harmless

/-! ### The handlers -/

section Handlers
variable {h : Harness} {fuel : Nat} {spec : ExperimentSpec} {proposal : EventId}
  {w w' : World Event Submission Answer} {err : AdapterError}

/-- What the handlers go on from. -/
lemma attempt_raised (escaped : h.runExperiment fuel spec proposal w = (.error (.raised (.adapter err)), w')) :
    Program.attempt (h.runExperiment fuel spec proposal) w = (.ok (.error (.adapter err)), w') := by
  simp only [Program.attempt, escaped]

lemma Paired.fits (paired : Paired spec.experimentId w.log)
    (met : ContextsRecover spec.experimentId w.log) :
    ∀ n, nodeOf w.log spec.experimentId = some n →
      n.status ∈ (adapterFailureStage w.log spec.experimentId).expectedStates := by
  intro n node
  obtain ⟨n', node', expected⟩ := paired met
  rw [node] at node'
  cases node'
  exact expected

/-- The handler of a parallel round records the exception that leaves its lane. -/
lemma runParallelLane_enters {n : ExperimentNode} (fresh : h.FreshContexts)
    (escaped : h.runExperiment fuel spec proposal w = (.error (.raised (.adapter err)), w'))
    (v : ValidLedger w'.log) (script : w'.script = []) (recoverable : Recoverable h spec.experimentId w'.log)
    (paired : Paired spec.experimentId w'.log) (node : nodeOf w'.log spec.experimentId = some n) :
    EntersRecovery spec.experimentId w'.log
      (h.adapterFailure spec.experimentId n.attemptCount (adapterFailureStage w'.log spec.experimentId)
        (.adapter err))
      fun log => WaitsAt log (h.runParallelLane fuel spec proposal w) := by
  obtain ⟨r, hr⟩ := v.replay
  have known : (r.state.aggregate w'.log).experiments.get? spec.experimentId = some n := by
    rw [RunState.aggregate_experiments, ← nodeOf_replay hr]
    exact node
  have enters := failure_enters
    (g := fun _ _ => Harness.laneClosedSafely spec.experimentId >>= fun _ => pure ()) n.attemptCount err
    (Log.lastSome (fun event =>
      if event.payload.owner = some spec.experimentId then some event.eventId else none) w'.log) fresh v script recoverable (paired.fits recoverable.contexts) ?_
  swap
  · intro id found
    obtain ⟨e, mem, own⟩ := Log.lastSome_mem found
    split at own <;> cases own
    exact ⟨e, mem, rfl⟩
  refine enters.mono fun log waits => ?_
  unfold Harness.runParallelLane
  rw [Program.run_bind_ok (attempt_raised escaped)]
  dsimp only
  rw [if_neg (by simp [RouterError.controlPlane]), Program.run_bind_ok (state_run (project_ok.mpr ⟨r, hr, rfl⟩))]
  simp only [known]
  rw [Program.run_bind_ok (events_run w')]
  exact waits

/-- The handler of a sequential run records the exception of the active experiment. -/
lemma runOneExperiment_enters {r : Reducer} (fresh : h.FreshContexts)
    (escaped : h.runExperiment fuel spec proposal w = (.error (.raised (.adapter err)), w'))
    (v : ValidLedger w'.log) (script : w'.script = []) (recoverable : Recoverable h spec.experimentId w'.log)
    (paired : Paired spec.experimentId w'.log) (hr : replay w'.log = .ok r)
    (active : activeOf w'.log = some spec.experimentId) :
    EntersRecovery spec.experimentId w'.log
      (h.adapterFailure spec.experimentId ((r.state.aggregate w'.log).activeAttempt.getD 1)
        (adapterFailureStage w'.log spec.experimentId) (.adapter err))
      fun log => WaitsAt log (h.runOneExperiment fuel spec proposal w) := by
  obtain ⟨n, node⟩ := recoverable.proposed
  have current : (r.state.aggregate w'.log).activeExperimentId = some spec.experimentId := by
    simpa only [activeOf, project_ok.mpr ⟨r, hr, rfl⟩] using active
  have known : ((r.state.aggregate w'.log).experiments.get? spec.experimentId).isSome = true := by
    rw [RunState.aggregate_experiments, ← nodeOf_replay hr, node]
    rfl
  have enters := failure_enters
    (g := fun _ recovery => Harness.laneClosedSafely spec.experimentId >>= fun closed =>
      if closed then pure () else
        h.stop ⟨"ADAPTER_FAILURE_" ++ recovery.decision.action.value.toUpper,
          "The " ++ (adapterFailureStage w'.log spec.experimentId).value ++
            " adapter failed; recovery recorded " ++ recovery.decision.action.value ++
            " and the run was stopped safely."⟩)
    ((r.state.aggregate w'.log).activeAttempt.getD 1) err
    (w'.log.getLast?.map Event.eventId) fresh v script recoverable (paired.fits recoverable.contexts) ?_
  swap
  · intro id found
    obtain ⟨e, last, same⟩ := Option.map_eq_some_iff.mp found
    exact ⟨e, List.mem_of_getLast? last, same⟩
  refine enters.mono fun log waits => ?_
  unfold Harness.runOneExperiment
  rw [Program.run_bind_ok (attempt_raised escaped)]
  dsimp only
  refine WaitsAt.bind (WaitsAt.attempt ?_)
  unfold Harness.handleUnexpectedAdapterFailure
  rw [if_neg (by simp [RouterError.controlPlane]), Program.run_bind_ok (state_run (project_ok.mpr ⟨r, hr, rfl⟩)), current]
  simp only [Option.filter_some, known, if_true]
  rw [Program.run_bind_ok (events_run w')]
  exact waits

end Handlers

/-- How the exception that leaves a lane is handled: by `run_one_experiment`, or by `_run_parallel_lane`. -/
inductive LaneHandler
  | sequential
  | parallel

/-- The lane of a proposal with its handler. -/
def LaneHandler.lane (handler : LaneHandler) (h : Harness) (fuel : Nat) (spec : ExperimentSpec)
    (proposal : EventId) : Lane Unit :=
  match handler with
  | .sequential => h.runOneExperiment fuel spec proposal
  | .parallel => h.runParallelLane fuel spec proposal

/-- A sequential run recovers the active experiment, a parallel one the experiment of the lane. -/
def LaneHandler.Finds (handler : LaneHandler) (x : String) (es : List Event) : Prop :=
  handler = .sequential → activeOf es = some x

lemma LaneHandler.waits {handler : LaneHandler} {h : Harness} {fuel : Nat} {spec : ExperimentSpec}
    {proposal : EventId} {w : World Event Submission Answer} {log : List Event}
    (waits : WaitsAt log (h.runExperiment fuel spec proposal w)) :
    WaitsAt log (handler.lane h fuel spec proposal w) := by
  cases handler with
  | sequential => exact waits.attempt.bind
  | parallel => exact waits.attempt.bind

section Runs
open Scenario

/-- The configuration of the scenarios. -/
def scenarioConfig : RunConfig where
  runId := ""
  commandIds := ["candidate_full"]
  metricNames := ["auc"]
  primaryMetricName := "auc"
  dataManifestSha256 := "data"
  evaluatorSha256 := "evaluator"
  maxRepairsPerExperiment := 1
  seedSchedule := [0, 1, 2]
  repairLimit := by decide
  validateCommands := by simp
  validateSeeds := by simp

/-- The ids of the contexts in a ledger, in one text. -/
def contextIds (es : List Event) : List Char :=
  es.flatMap fun e => match e.payload with
    | .contextCreated context => context.contextId.toList
    | _ => []

/-- A harness whose recovery contexts have an id that is longer than all earlier ones. -/
def scenarioHarness : Harness where
  config := scenarioConfig
  contractSha256 := "contract"
  buildCoder _ _ := .ok { contextId := "coder", role := .coder, experimentId := none }
  writeRecovery visible _ _ _ _ := .ok
    { contextId := String.ofList ('+' :: contextIds visible), role := .recovery, experimentId := none }
  normalizeText text := text
  fingerprintFailure errorClass summary := errorClass ++ summary

lemma scenarioHarness_fresh : scenarioHarness.FreshContexts := by
  intro es node spec failure remaining document written e mem earlier payload same
  cases written
  have part : earlier.contextId.toList.Sublist (contextIds es) := by
    have found := List.sublist_flatten_of_mem (List.mem_map_of_mem (f := fun e : Event =>
      match e.payload with
      | .contextCreated context => context.contextId.toList
      | _ => []) mem)
    simpa [payload, contextIds, List.flatMap] using found
  have shorter := part.length_le
  rw [same] at shorter
  simp only [String.toList_ofList, List.length_cons] at shorter
  omega

/-- The world of a proposed experiment whose adapters answer one after the other. -/
def scenarioWorld (answers : List Answer) : World Event Submission Answer :=
  { log := record ((proposal 2 "exp").take 5), script := answers.map fun answer => { answer } }

lemma scenarioWorld_lane (answers : List Answer) : LaneWorld "exp" (scenarioWorld answers) := by
  refine ⟨.of_check ?_, ?_, ?_⟩
  · show Log.checkFrom Accepted [] (record ((proposal 2 "exp").take 5)) = true
    decide +kernel
  · show ∀ e ∈ trace "exp" (record ((proposal 2 "exp").take 5)), e.payload.type = .experimentProposed
    decide +kernel
  · intro turn mem s submitted
    obtain ⟨answer, _, rfl⟩ := List.mem_map.mp mem
    cases submitted

/-- The exception of an adapter that is out of reach. -/
def unavailable (adapter : String) : AdapterError := ⟨"RuntimeError", adapter ++ " unavailable", {}, ""⟩

/-- The runner and then the recovery manager are out of reach. -/
def managerFails : List Answer :=
  [ .patch
      { experimentId := "", attempt := 1, experimentSpecEventId := 0, contextId := "coder"
        patchCommitSha := "a", diffSha256 := "a" },
    .check
      { experimentId := "", attempt := 1, patchCommitSha := "a", diffSha256 := "a"
        accepted := true, receiptId := some "receipt-a", validateReceipt := by decide },
    .raised (.adapter (unavailable "runner")),
    .raised (.adapter (unavailable "manager")) ]

/-- A successful execution. -/
def succeeded (attempt : Nat) : Answer :=
  .execution
    { experimentId := "", attempt, fidelity := .full, patchCommitSha := "a"
      outcome := .success, predictionArtifact := some { prediction attempt with path := "scores" }
      validateOutcomeArtifacts := fun _ => rfl }

/-- The output gate raises the same exception again after a retry. -/
def verifierRepeats : List Answer :=
  managerFails.take 2 ++
  [ succeeded 1,
    .raised (.adapter (unavailable "verifier")),
    .recovery { action := .retrySameCommit, reasonCode := "OWNER_RETRY", validateActionAdjustment := rfl },
    .raised (.adapter (unavailable "verifier")) ]

/-- The lane of the experiment in a world. -/
def laneOf (answers : List Answer) : Except (Halt RouterError) Unit × World Event Submission Answer :=
  scenarioHarness.runExperiment 3 (spec "exp") 5 (scenarioWorld answers)

end Runs
end TacoRank
