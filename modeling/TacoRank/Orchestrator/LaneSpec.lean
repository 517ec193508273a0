import TacoRank.Orchestrator.Exceptions

/-!
# Specifications of the harness operations

A part of the harness is specified by what it does to the ledger of its lane, and mostly to the trace
of its experiment. Assertions on the trace are stable: the other lanes extend the ledger while a call
is awaited, but not the trace. The rules follow the constructs of `Lib.Program`; the operations that
every lane is made of have one specification each.
-/

namespace TacoRank
open Lib Lib.Result

/-- What the lane of an experiment relies on: the others record nothing that belongs to it. -/
def laneRely (h : Harness) (x : String) : Rely Event Submission where
  invariant := LaneLedger h x
  submits s := s.payload.owner ≠ some x

/-- The specification of a part of the lane of an experiment. -/
abbrev LaneSpec {α : Type} (h : Harness) (x : String) (P : List Event → Prop) (m : Lane α)
    (Q : α → List Event → Prop) (R : RouterError → List Event → Prop) : Prop :=
  Meets (laneRely h x) (laneTrouble h x) P m Q R

/-- An assertion that no event of another owner disturbs. -/
def Steady (x : String) (P : List Event → Prop) : Prop :=
  ∀ es e, ValidLedger es → Accepted es e → e.owner ≠ some x → P es → P (es ++ [e])

/-- An assertion on the trace. -/
def On (x : String) (P : List Event → Prop) (es : List Event) : Prop := P (trace x es)

section Steady
variable {h : Harness} {x : String} {P P' : List Event → Prop}

lemma Steady.on : Steady x (On x P) := by
  intro es e _ _ other hp
  rw [On, trace_other other]
  exact hp

lemma Steady.stable (steady : Steady x P) : Spec.Stable (laneRely h x) interfere P := by
  intro es s other inv hp
  unfold interfere
  cases ok : EventStore.append es s with
  | error error => exact ⟨inv, hp⟩
  | ok result =>
    obtain ⟨e, es'⟩ := result
    cases EventStore.append_inv ok with
    | again => exact ⟨inv, hp⟩
    | recorded _ _ accepted =>
      refine ⟨Log.Valid.snoc inv ⟨accepted, fun own => absurd own other⟩, ?_⟩
      exact steady es _ inv.valid accepted other hp

end Steady

section Operations
variable {h : Harness} {x : String} {α : Type} {P : List Event → Prop}

/-- The trace at the beginning is a parameter of the specification. -/
lemma fix_trace {m : Lane α} {Q : α → List Event → Prop} {R : RouterError → List Event → Prop}
    (spec : ∀ t0, P t0 → LaneSpec h x (On x (· = t0)) m Q R) :
    LaneSpec h x (On x P) m Q R :=
  Meets.fix (trace x) fun es _ hp => (spec (trace x es) hp).pre fun _ _ same => same.2

/-- A program whose exceptions are recorded as failures of a stage and recovered from. The stage is
expected where they arrive, so the last one is handled. -/
lemma catching_spec {β : Type} {m : Lane α} {f : Except RouterError α → Lane β} {Q : α → List Event → Prop}
    {U : β → List Event → Prop} {R : RouterError → List Event → Prop} {t0 : List Event} {stage : FailureStage}
    {attempt : Nat} {cause : Event} {g : RouterError → Event → Harness.Recovery → Lane β}
    (fresh : h.FreshContexts) (first : LaneSpec h x P m Q (fun _ => On x (· = t0)))
    (expects : Expects x stage t0) (caused : cause ∈ t0)
    (handler : ∀ error, f (.error error) =
      h.recordAdapterFailure x attempt stage error (some cause.eventId) >>= fun failure =>
        h.recover failure x >>= g error failure)
    (ok : ∀ a, LaneSpec h x (Q a) (f (.ok a)) U R)
    (err : ∀ error, LaneSpec h x (On x (· = t0)) (f (.error error)) U R) :
    LaneSpec h x P (Program.attempt m >>= f) U R := by
  refine Meets.catching first ok err fun w admits script arrived => ?_
  have same : trace x w.log = t0 := arrived (.raised (.adapter ⟨"", "", {}, ""⟩)) _ ⟨_, rfl, rfl⟩
  simp only [handler]
  refine failure_handled fresh admits.invariant.valid script (expects w.log admits.invariant.valid same) ?_
  rintro id ⟨⟩
  exact ⟨cause, (mem_trace.mp (same ▸ caused)).1, rfl⟩

/-! ### Calls -/

/-- A call answers in the presence of the other lanes. -/
lemma call_spec {answer : Answer → Option (Except RouterError α)} (steady : Steady x P)
    (raised : ∀ error, answer (.raised error) = some (.error error)) :
    LaneSpec h x P (call answer)
      (fun a es => (∃ reply, answer reply = some (.ok a)) ∧ P es) (fun _ es => P es) := by
  refine Meets.await (T := laneTrouble h x) steady.stable
    (fun _ reply _ _ hp answered => ⟨⟨reply, answered⟩, hp⟩) (fun _ _ _ hp => hp) ?_
  rintro reply error ⟨err, rfl, rfl⟩
  exact raised _

lemma codingWorker_spec {y : String} (steady : Steady x P) :
    LaneSpec h x P (codingWorker y)
      (fun candidate es => candidate.experimentId = y ∧ P es) (fun _ es => P es) := by
  refine (call_spec steady fun _ => rfl).post fun candidate es _ ⟨⟨reply, answered⟩, hp⟩ => ⟨?_, hp⟩
  cases reply <;> cases answered
  rfl

lemma patchGate_spec {candidate : PatchCandidate} (steady : Steady x P) :
    LaneSpec h x P (patchGate candidate)
      (fun result es => result.experimentId = candidate.experimentId ∧ P es) (fun _ es => P es) := by
  refine (call_spec steady fun _ => rfl).post fun result es _ ⟨⟨reply, answered⟩, hp⟩ => ⟨?_, hp⟩
  cases reply <;> cases answered
  rfl

lemma runner_spec {request : RunRequest} (steady : Steady x P) :
    LaneSpec h x P (runner request)
      (fun result es => result.experimentId = request.experimentId ∧ P es) (fun _ es => P es) := by
  refine (call_spec steady fun _ => rfl).post fun result es _ ⟨⟨reply, answered⟩, hp⟩ => ⟨?_, hp⟩
  cases reply <;> cases answered
  rfl

lemma outputGate_spec {result : RunResult} (steady : Steady x P) :
    LaneSpec h x P (outputGate result)
      (fun output es => output.experimentId = result.experimentId ∧ P es) (fun _ es => P es) := by
  refine (call_spec steady fun _ => rfl).post fun output es _ ⟨⟨reply, answered⟩, hp⟩ => ⟨?_, hp⟩
  cases reply <;> cases answered
  rfl

lemma evaluator_spec {request : EvaluationRequest} (steady : Steady x P) :
    LaneSpec h x P (evaluator request)
      (fun result es => (result.experimentId = request.experimentId ∧
        result.fidelity = request.fidelity) ∧ P es) (fun _ es => P es) := by
  refine (call_spec steady fun _ => rfl).post fun result es _ ⟨⟨reply, answered⟩, hp⟩ => ⟨?_, hp⟩
  cases reply with
  | evaluation report =>
    simp only at answered
    split at answered <;> cases answered
    exact ⟨rfl, rfl⟩
  | _ => cases answered

lemma decider_spec {evaluation : EvaluationResult} (steady : Steady x P) :
    LaneSpec h x P (decider evaluation)
      (fun decision es => decision.experimentId = evaluation.experimentId ∧ P es)
      (fun _ es => P es) := by
  refine (call_spec steady fun _ => rfl).post fun decision es _ ⟨⟨reply, answered⟩, hp⟩ => ⟨?_, hp⟩
  cases reply <;> cases answered
  rfl

/-! ### Reading -/

lemma events_spec {R : RouterError → List Event → Prop} :
    LaneSpec h x P Harness.events (fun ledger es => ledger = es ∧ P es) R :=
  Meets.inspect fun _ _ hp => ⟨rfl, hp⟩

/-- A valid ledger always projects. -/
lemma state_spec {R : RouterError → List Event → Prop} :
    LaneSpec h x P Harness.state (fun s es => project es = .ok s ∧ P es) R := by
  refine Meets.bind (Q := fun ledger es => ledger = es ∧ P es) events_spec fun ledger => ?_
  cases projected : project ledger with
  | ok s =>
    refine Meets.ret fun es _ ⟨same, hp⟩ => ⟨?_, hp⟩
    rw [← same]
    exact projected
  | error error =>
    refine Meets.raise fun es inv ⟨same, _⟩ => ?_
    obtain ⟨r, hr⟩ := (LaneLedger.valid inv).replay
    have ok : project ledger = .ok (r.state.aggregate es) := by
      rw [same]
      exact project_ok.mpr ⟨r, hr, rfl⟩
    rw [projected] at ok
    cases ok

/-! ### Recording -/

/-- An event that records a payload under a key. -/
structure Records (h : Harness) (key : EventKey) (payload : EventPayload) (e : Event) : Prop where
  runId : e.runId = h.config.runId
  key : e.key = key
  payload : e.payload = payload

/-- No event has recorded a payload under a key, and the ledger is one of the run. -/
structure Unrecorded (h : Harness) (key : EventKey) (payload : EventPayload) (es : List Event) :
    Prop where
  absent : ∀ e ∈ es, ¬ Records h key payload e
  run : ∀ e, es.head? = some e → e.runId = h.config.runId

/-- What `_append` hands on: a new event, or the one that has acknowledged the payload before. -/
lemma append_spec {payload : EventPayload} {key : EventKey} {cause : Option EventId}
    {delta : ResourceDelta} {Q : Event → List Event → Prop} {R : RouterError → List Event → Prop}
    (new : ∀ es e, LaneLedger h x es → P es → Accepted es e → Records h key payload e →
      e.causationEventId = cause → Unrecorded h key payload es →
      (e.owner = some x → Rule h x es e) ∧ Q e (es ++ [e]))
    (again : ∀ es e, LaneLedger h x es → P es → e ∈ es → Records h key payload e → Q e es)
    (fail : ∀ now es error, LaneLedger h x es → P es →
      EventStore.append es ⟨h.config.runId, key, payload, cause, delta, now⟩ = .error error →
      R (.python error) es) :
    LaneSpec h x P (h.append payload key cause delta) Q R := by
  refine Meets.transact ?_ ?_
  · intro now es e es' inv hp ok
    cases result : EventStore.append es ⟨h.config.runId, key, payload, cause, delta, now⟩ with
    | error error =>
      rw [result] at ok
      cases ok
    | ok r =>
      rw [result] at ok
      cases ok
      cases EventStore.append_inv result with
      | again mem same => exact ⟨inv, again es e inv hp mem ⟨same.1, same.2.1, same.2.2⟩⟩
      | recorded fresh run accepted =>
        obtain ⟨rule, post⟩ := new es _ inv hp accepted ⟨rfl, rfl, rfl⟩ rfl
          ⟨fun e' mem records => fresh e' mem ⟨records.runId, records.key, records.payload⟩, run⟩
        exact ⟨Log.Valid.snoc inv ⟨accepted, rule⟩, post⟩
  · intro now error es inv hp failed
    cases result : EventStore.append es ⟨h.config.runId, key, payload, cause, delta, now⟩ with
    | error error' =>
      rw [result] at failed
      cases failed
      exact fail now es error' inv hp result
    | ok r =>
      rw [result] at failed
      cases failed

/-- Recording a payload of the experiment, as the trace sees it. -/
lemma append_own {payload : EventPayload} {key : EventKey} {cause : Option EventId}
    {delta : ResourceDelta} {P : List Event → Prop} {Q : Event → List Event → Prop}
    {R : RouterError → List Event → Prop} (own : payload.owner = some x)
    (new : ∀ es e, LaneLedger h x es → P (trace x es) → Accepted es e → Records h key payload e →
      e.causationEventId = cause → (∀ e' ∈ trace x es, ¬ Records h key payload e') →
      Rule h x es e ∧ Q e (trace x es ++ [e]))
    (again : ∀ es e, LaneLedger h x es → P (trace x es) → e ∈ trace x es →
      Records h key payload e → Q e (trace x es))
    (fail : ∀ now es error, LaneLedger h x es → P (trace x es) →
      EventStore.append es ⟨h.config.runId, key, payload, cause, delta, now⟩ = .error error →
      R (.python error) es) :
    LaneSpec h x (On x P) (h.append payload key cause delta) (fun e => On x (Q e)) R := by
  have owned : ∀ {e : Event}, Records h key payload e → e.owner = some x := by
    intro e records
    rw [Event.owner, records.payload]
    exact own
  refine append_spec ?_ ?_ fail
  · intro es e inv hp ok records caused fresh
    obtain ⟨rule, post⟩ := new es e inv hp ok records caused
      fun e' mem => fresh.absent e' (mem_trace.mp mem).1
    refine ⟨fun _ => rule, ?_⟩
    rw [On, trace_own (owned records)]
    exact post
  · intro es e inv hp mem records
    exact again es e inv hp (mem_trace.mpr ⟨mem, owned records⟩) records

/-- Recording a payload that belongs to no experiment, or to another one. -/
lemma append_other {payload : EventPayload} {key : EventKey} {cause : Option EventId}
    {delta : ResourceDelta} {R : RouterError → List Event → Prop} (other : payload.owner ≠ some x)
    (steady : Steady x P)
    (fail : ∀ now es error, LaneLedger h x es → P es →
      EventStore.append es ⟨h.config.runId, key, payload, cause, delta, now⟩ = .error error →
      R (.python error) es) :
    LaneSpec h x P (h.append payload key cause delta) (fun _ => P) R := by
  refine append_spec ?_ (fun _ _ _ hp _ _ => hp) fail
  intro es e inv hp ok records _ _
  have foreign : e.owner ≠ some x := by
    rw [Event.owner, records.payload]
    exact other
  exact ⟨fun own => absurd own foreign, steady es e inv.valid ok foreign hp⟩

/-- A payload that the schema and the promotion rule let pass is rejected by the control plane. -/
lemma append_controlPlane {es : List Event} {s : Submission} (v : ValidLedger es)
    (schema : s.payload.SchemaValid) (listed : ¬ PromotesToFinal es s.payload) :
    Raises (fun error => (RouterError.python error).controlPlane = true)
      (EventStore.append es s) := by
  have validated : Raises (fun error => (RouterError.python error).controlPlane = true)
      (validateTransition es s.payload) := by
    intro error failed
    obtain ⟨message, rfl⟩ := validateTransition_guarded v schema listed error failed
    rfl
  unfold EventStore.append
  split
  · exact .pure _
  · dsimp only
    split
    · exact Raises.error rfl
    · split
      · exact Raises.error rfl
      · exact validated.bind fun _ _ => .pure _

/-- Only proposals and decisions on experiments can be rejected otherwise. -/
lemma append_rejects {es : List Event} {s : Submission} {error : PyError} (v : ValidLedger es)
    (type : s.payload.type ∉ [.experimentProposed, .experimentDecided])
    (failed : EventStore.append es s = .error error) :
    (RouterError.python error).controlPlane = true := by
  refine append_controlPlane v ?_ ?_ error failed
  · intro spec payload
    simp [payload, EventPayload.type] at type
  · rintro ⟨d, _, _, payload, _⟩
    simp [payload, EventPayload.type] at type

/-- A stop is an event of the run. -/
lemma stop_spec {decision : StopDecision} (steady : Steady x P) :
    LaneSpec h x P (h.stop decision) (fun _ => P)
      (fun error es => error.controlPlane = true ∧ P es) := by
  refine Meets.bind (Q := fun ledger es => ledger = es ∧ P es) events_spec fun ledger => ?_
  refine Meets.bind (Q := fun _ => P) ?_ fun _ => Meets.ret fun _ _ hp => hp
  refine (append_other (by simp [EventPayload.owner, EventPayload.experiment]) steady ?_).pre
    fun _ _ hp => hp.2
  intro now es error inv hp failed
  exact ⟨append_rejects inv.valid (by simp [EventPayload.type]) failed, hp⟩

lemma stopIfRuntimeBudgetExhausted_spec (steady : Steady x P) :
    LaneSpec h x P h.stopIfRuntimeBudgetExhausted (fun _ => P)
      (fun error es => error.controlPlane = true ∧ P es) := by
  refine Meets.bind (Q := fun s es => project es = .ok s ∧ P es) state_spec fun s => ?_
  cases runtimeBudgetDecision s h.config with
  | none => exact Meets.ret fun _ _ hp => hp.2
  | some decision =>
    cases h.parallelRoundActive with
    | true => exact Meets.ret fun _ _ hp => hp.2
    | false =>
      refine Meets.bind (Q := fun _ => P) ?_ fun _ => Meets.ret fun _ _ hp => hp
      exact (stop_spec steady).pre fun _ _ hp => hp.2

end Operations
end TacoRank
