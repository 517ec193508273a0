import TacoRank.Lib.Interleaving
import TacoRank.Orchestrator.Budgets
import TacoRank.Orchestrator.PublicLabels
import TacoRank.Orchestrator.Router

/-!
# The discipline of a lane

What the harness writes beyond what the state machine demands: the causes of the events, the attempts
and the seeds of the requests, the attempts of the patches. The rules are stated on the `trace` of an
experiment, the part of the ledger that belongs to it, which no other lane extends. A `LaneLedger` is
a valid ledger that keeps the rules of one experiment; the programs of the harness are verified
against it.
-/

namespace TacoRank
open Lib Lib.Result

/-! ### The context builder -/

/-- The context builder never writes a context whose id is in the ledger: the id hashes the last event. -/
def Harness.FreshContexts (h : Harness) : Prop :=
  ∀ visible node spec failure remaining document,
    h.writeRecovery visible node spec failure remaining = .ok document →
      ∀ e ∈ visible, ∀ earlier, e.payload = .contextCreated earlier →
        earlier.contextId ≠ document.contextId

/-- What `build_recovery` returns on a valid ledger. -/
structure Builds (h : Harness) (es : List Event) (x : String) (n : ExperimentNode)
    (context : RecoveryContext) : Prop where
  role : context.role = .recovery
  owner : context.experimentId = some x
  number : context.repairAttempt = n.repairCount + 1
  written : ∃ spec failure remaining document, h.writeRecovery es n spec failure remaining = .ok document ∧
    document.contextId = context.contextId

/-- `build_recovery` sees a valid ledger as a whole. -/
lemma buildRecovery_ok {h : Harness} {es : List Event} {x : String} {remaining : Nat} {s : RunState}
    {n : ExperimentNode} {context : RecoveryContext} (v : ValidLedger es) (projected : project es = .ok s)
    (node : s.experiments.get? x = some n)
    (built : buildRecovery h.writeRecovery es x remaining = .ok context) : Builds h es x n context := by
  unfold buildRecovery at built
  simp only [v.visible, projected, Except.mapError, ok_bind, node] at built
  split at built
  · cases built
  split at built
  · cases built
  split at built
  · cases built
  cases written : h.writeRecovery es n _ _ remaining with
  | error error =>
    rw [written] at built
    cases built
  | ok document =>
    rw [written] at built
    cases built
    exact ⟨rfl, rfl, rfl, _, _, _, document, written, rfl⟩

lemma buildRecovery_owner {write : RecoveryWriter} {es : List Event} {x : String} {remaining : Nat}
    {context : RecoveryContext} (built : buildRecovery write es x remaining = .ok context) :
    context.experimentId = some x := by
  obtain ⟨s, _, built⟩ := bind_eq_ok.mp built
  split at built
  · cases built
  split at built
  · cases built
  split at built
  · cases built
  split at built
  · cases built
  obtain ⟨document, _, last⟩ := bind_eq_ok.mp built
  cases last
  rfl

/-- The id of a recovery context is new. -/
lemma Builds.fresh {h : Harness} {es : List Event} {x : String} {n : ExperimentNode}
    {context : RecoveryContext} (builds : Builds h es x n context) (fresh : h.FreshContexts) :
    ∀ e ∈ es, ∀ document, e.payload = .contextCreated document →
      document.contextId ≠ context.contextId := by
  obtain ⟨spec, failure, remaining, written, made, same⟩ := builds.written
  rw [← same]
  exact fresh es n spec failure remaining written made

/-! ### Looking events up -/

/-- The event with an id. -/
lemma ValidLedger.findEvent {es : List Event} {e : Event} (v : ValidLedger es) (mem : e ∈ es) : TacoRank.eventById es e.eventId = some e := by
  rw [TacoRank.eventById, Option.bind_some]
  cases found : es.find? (·.eventId = e.eventId) with
  | none => exact absurd (List.find?_eq_none.mp found e mem) (by simp)
  | some f =>
    have id := List.find?_some found
    exact congrArg some (v.eq_of_id (List.mem_of_find?_eq_some found) mem (of_decide_eq_true id))

/-! ### Traces -/

/-- `_event_experiment_id` of an event. -/
def Event.owner (e : Event) : Option String := e.payload.owner

/-- An event that writes to an experiment belongs to it. -/
lemma EventPayload.owner_experiment {x : String} {p : EventPayload} (own : p.experiment = some x) :
    p.owner = some x := by
  cases p with
  | contextCreated => cases own
  | _ => exact own

/-- The events of an experiment, with the contexts that were built for it. -/
def trace (x : String) (es : List Event) : List Event := Log.lane Event.owner x es

section Trace
variable {x : String} {es : List Event} {e : Event}

@[simp] lemma trace_nil : trace x [] = [] := rfl

lemma trace_own (own : e.owner = some x) : trace x (es ++ [e]) = trace x es ++ [e] := by
  rw [trace, Log.lane_append, Log.lane_cons_of_eq own, Log.lane_nil]
  rfl

lemma trace_other (other : e.owner ≠ some x) : trace x (es ++ [e]) = trace x es := by
  rw [trace, Log.lane_append, Log.lane_cons_of_ne other, Log.lane_nil, List.append_nil]
  rfl

lemma mem_trace : e ∈ trace x es ↔ e ∈ es ∧ e.owner = some x := by
  simp [trace, Log.lane]

/-- An event of the trace splits the ledger and the trace alike. -/
lemma trace_split {pre post : List Event} (own : e.owner = some x) :
    trace x (pre ++ e :: post) = trace x pre ++ e :: trace x post := by
  rw [trace, Log.lane_append, Log.lane_cons_of_eq own]
  rfl

/-- A split of the trace comes from a split of the ledger. -/
lemma split_of_trace {t t' : List Event} (split : trace x es = t ++ e :: t') :
    ∃ pre post, es = pre ++ e :: post ∧ trace x pre = t ∧ trace x post = t' := by
  unfold trace Log.lane at *
  obtain ⟨pre, rest, rfl, front, back⟩ := List.filter_eq_append_iff.mp split
  obtain ⟨mid, post, rfl, silent, _, last⟩ := List.filter_eq_cons_iff.mp back
  refine ⟨pre ++ mid, post, by simp, ?_, last⟩
  rw [List.filter_append, front, List.filter_eq_nil_iff.mpr silent, List.append_nil]

end Trace

/-! ### Reading a trace -/

/-- The payloads of some types. -/
def ofTypes (types : List EventType) (p : EventPayload) : Bool := decide (p.type ∈ types)

/-- A recovery decision that calls for a new patch. -/
def EventPayload.repairs : EventPayload → Bool
  | .recoveryDecided decision => decision.action.isCodeRecovery
  | _ => false

/-- A patch, or a decision that calls for one. -/
def patchOrRepair (p : EventPayload) : Bool := p.repairs || ofTypes [.patchCreated] p

/-- A request, or what lets an output pass for verified. -/
def startedOrVerified : EventPayload → Bool
  | .executionStarted _ => true
  | .outputChecked out => out.accepted
  | .adapterFailed result => result.failureStage = .evaluation
  | _ => false

/-- The last event whose payload is selected. -/
def newest (p : EventPayload → Bool) (t : List Event) : Option Event :=
  Log.lastSome (fun e => if p e.payload then some e else none) t

@[simp] lemma newest_nil (p : EventPayload → Bool) : newest p [] = none := rfl

lemma newest_snoc (p : EventPayload → Bool) (t : List Event) (e : Event) :
    newest p (t ++ [e]) = if p e.payload then some e else newest p t := by
  rw [newest, Log.lastSome_snoc]
  split <;> rfl

/-- The newest event of a trace with a continuation. -/
lemma newest_append (p : EventPayload → Bool) (t t' : List Event) :
    newest p (t ++ t') = (newest p t').or (newest p t) := by
  induction t' using List.reverseRecOn with
  | nil => simp
  | append_singleton t' e ih =>
    rw [← List.append_assoc, newest_snoc, newest_snoc, ih]
    split <;> rfl

/-- The newest selected event splits the trace. -/
lemma newest_split {p : EventPayload → Bool} {t : List Event} {e : Event}
    (h : newest p t = some e) : ∃ pre post, t = pre ++ e :: post ∧ p e.payload = true ∧
      ∀ e' ∈ post, p e'.payload = false := by
  obtain ⟨pre, e0, post, rfl, he, silent⟩ := Log.lastSome_split h
  split at he
  · cases he
    refine ⟨pre, post, rfl, ‹_›, fun e' mem => ?_⟩
    simpa using silent e' mem
  · cases he

lemma newest_mem {p : EventPayload → Bool} {t : List Event} {e : Event}
    (h : newest p t = some e) : e ∈ t ∧ p e.payload = true := by
  obtain ⟨pre, post, rfl, selected, _⟩ := newest_split h
  exact ⟨by simp, selected⟩

lemma newest_none {p : EventPayload → Bool} {t : List Event} :
    newest p t = none ↔ ∀ e ∈ t, p e.payload = false := by
  simp [newest, Log.lastSome_eq_none]

/-- The decisions that called for a patch. -/
def codes (t : List Event) : Nat := t.countP fun e => e.payload.repairs

/-- The newest recovery decision grants a retry. -/
def retried (t : List Event) : Bool :=
  (newest (ofTypes [.recoveryDecided]) t).any fun e => match e.payload with
    | .recoveryDecided decision => decision.action = .retrySameCommit
    | _ => false

/-- No patch yet. -/
def Unpatched (t : List Event) : Prop := ∀ e ∈ t, e.payload.type ≠ .patchCreated

/-- A request may follow: there is none yet, or a decision came after the last one. -/
def Licensed (t : List Event) : Prop :=
  ∀ s, newest (ofTypes [.executionStarted, .recoveryDecided, .experimentDecided]) t = some s →
    s.payload.type ≠ .executionStarted

/-- A request was started and no decision on the experiment followed it. -/
def Rebuilt (t : List Event) : Prop :=
  ∃ s, newest (ofTypes [.executionStarted, .experimentDecided]) t = some s ∧
    s.payload.type = .executionStarted

/-- A request was started and not evaluated since. -/
def Pending (t : List Event) : Prop :=
  ∃ s, newest (ofTypes [.executionStarted, .evaluationCompleted]) t = some s ∧
    s.payload.type = .executionStarted

/-- The cause of an event is the newest selected one before it. -/
def CausedBy (p : EventPayload → Bool) (t : List Event) (e : Event) : Prop :=
  ∃ cause, newest p t = some cause ∧ e.causationEventId = some cause.eventId

/-- The place of a fidelity in `fidelity_order`, with the final one behind. -/
def Fidelity.rank : Fidelity → Nat
  | .smoke => 0
  | .proxy => 1
  | .full => 2
  | .final => 3

/-- A fidelity lies above all those that have been promoted from. -/
def Above (t : List Event) (fidelity : Fidelity) : Prop :=
  ∀ e ∈ t, ∀ d, e.payload = .experimentDecided d → d.decision = .promote →
    d.fidelityCompleted ≠ .full → d.fidelityCompleted.rank < fidelity.rank

/-- The first patch: the coder was retried once at most, and nothing was repaired. -/
structure FirstPatch (t : List Event) : Prop where
  unpatched : Unpatched t
  granted : t.filter (fun e => ofTypes [.recoveryDecided] e.payload) = [] ∨
    ∃ s d f, t.filter (fun e => ofTypes [.recoveryDecided] e.payload) = [s] ∧
      s.payload = .recoveryDecided d ∧ d.action = .retrySameCommit ∧ f ∈ t ∧
      d.failureEventId = f.eventId ∧ f.payload.failureStage = some .coding

/-- A replacement patch answers a decision that called for it, and takes its number. -/
structure Replaces (candidate : PatchCandidate) (t : List Event) : Prop where
  called : ∃ s, newest patchOrRepair t = some s ∧ s.payload.type = .recoveryDecided
  attempt : candidate.attempt = codes t + 1 + (retried t).toNat

/-- A request of the fidelity loop. -/
structure Requested (h : Harness) (x : String) (es : List Event) (request : RunRequest) : Prop where
  licensed : Licensed (trace x es)
  seed : Rebuilt (trace x es) ∨
    h.executionSeed es x request.fidelity request.patchCommitSha = .ok request.seed
  later : ∀ e ∈ trace x es, ∀ q, e.payload = .executionStarted q → q.attempt < request.attempt
  above : Above (trace x es) request.fidelity

/-- What the harness records for an experiment, by the type of the event. -/
def Rule (h : Harness) (x : String) (es : List Event) (e : Event) : Prop :=
  match e.payload with
  | .contextCreated context => context.role = .recovery →
      ∃ f ∈ trace x es, e.causationEventId = some f.eventId ∧ f.payload.type ≠ .executionStarted
  | .recoveryDecided _ =>
      ∃ c ∈ trace x es, e.causationEventId = some c.eventId ∧
        ∃ context, c.payload = .contextCreated context ∧ context.role = .recovery
  | .patchCreated candidate =>
      if e.key.stage = .patchCreated then FirstPatch (trace x es)
      else Replaces candidate (trace x es)
  | .executionStarted request => Requested h x es request
  | .executionFinished _ => CausedBy (ofTypes [.executionStarted]) (trace x es) e
  | .outputChecked _ =>
      CausedBy (ofTypes [.executionFinished, .recoveryDecided]) (trace x es) e
  | .evaluationCompleted _ =>
      CausedBy (ofTypes [.outputChecked, .recoveryDecided]) (trace x es) e ∧ Pending (trace x es)
  | .experimentDecided decision => decision.decision = .promote →
      ∃ s q, newest (ofTypes [.executionStarted, .experimentDecided]) (trace x es) = some s ∧
        s.payload = .executionStarted q ∧ q.fidelity = decision.fidelityCompleted
  | _ => True

/-- A valid ledger that keeps the rules of one experiment. -/
abbrev LaneLedger (h : Harness) (x : String) (es : List Event) : Prop :=
  Log.Valid (fun es e => Accepted es e ∧ (e.owner = some x → Rule h x es e)) es

section LaneLedger
variable {h : Harness} {x : String} {es pre post : List Event} {e : Event}

lemma LaneLedger.valid (v : LaneLedger h x es) : ValidLedger es := by
  induction v with
  | nil => exact .nil
  | snoc _ ok ih => exact ih.snoc ok.1

lemma LaneLedger.front (v : LaneLedger h x (pre ++ post)) : LaneLedger h x pre := Log.Valid.take v

lemma LaneLedger.rule (v : LaneLedger h x (pre ++ e :: post)) (own : e.owner = some x) :
    Rule h x pre e :=
  v.accepted.2 own

/-- A valid ledger keeps the rules of an experiment that has only been proposed. -/
lemma ValidLedger.laneLedger (v : ValidLedger es)
    (proposed : ∀ e ∈ trace x es, e.payload.type = .experimentProposed) : LaneLedger h x es := by
  induction v with
  | nil => exact .nil
  | @snoc es e _ ok ih =>
    have front : ∀ f ∈ trace x es, f.payload.type = .experimentProposed := by
      intro f mem
      obtain ⟨listed, own⟩ := mem_trace.mp mem
      exact proposed f (mem_trace.mpr ⟨List.mem_append_left _ listed, own⟩)
    refine (ih front).snoc ⟨ok, fun own => ?_⟩
    have type := proposed e (mem_trace.mpr ⟨by simp, own⟩)
    unfold Rule
    cases p : e.payload with
    | experimentProposed => trivial
    | _ =>
      rw [p] at type
      cases type

end LaneLedger

/-- The repairs of an experiment are those of its trace. -/
lemma repairs_trace {x : String} {es : List Event} : repairs es x = codes (trace x es) := by
  unfold repairs codes trace Log.lane
  rw [List.countP_filter]
  congr 1
  funext e
  unfold recoveryOf EventPayload.repairs
  cases p : e.payload with
  | recoveryDecided d =>
    have same : d.action.consumesRepair = d.action.isCodeRecovery := by cases d.action <;> rfl
    simp [Event.owner, EventPayload.owner, EventPayload.experiment, p, same, Bool.and_comm]
  | _ => simp

/-! ### Appending -/

/-- What `EventStore.append` does: it returns the event that has acknowledged the submission, or
records a new one. -/
inductive Appended (s : Submission) (es : List Event) : Event → List Event → Prop where
  | again {e}
    (mem : e ∈ es)
    (same : e.runId = s.runId ∧ e.key = s.key ∧ e.payload = s.payload) : Appended s es e es
  | recorded
    (fresh : ∀ e ∈ es, ¬ (e.runId = s.runId ∧ e.key = s.key ∧ e.payload = s.payload))
    (run : ∀ e, es.head? = some e → e.runId = s.runId)
    (accepted : Accepted es (s.event es)) : Appended s es (s.event es) (es ++ [s.event es])

lemma EventStore.append_inv {s : Submission} {es es' : List Event} {e : Event}
    (ok : EventStore.append es s = .ok (e, es')) : Appended s es e es' := by
  unfold EventStore.append at ok
  cases existing : s.existing es with
  | some found =>
    simp only [existing, pure_eq_ok, Prod.mk.injEq] at ok
    obtain ⟨rfl, rfl⟩ := ok
    have same := List.find?_some existing
    exact .again (List.mem_of_find?_eq_some existing) (by simpa using same)
  | none =>
    have fresh := List.find?_eq_none.mp existing
    simp only [existing] at ok
    split at ok
    · cases ok
    · rename_i run
      split at ok
      · cases ok
      · simp only [bind_eq_ok, pure_eq_ok, Prod.mk.injEq] at ok
        obtain ⟨⟨⟩, valid, rfl, rfl⟩ := ok
        refine .recorded (by simpa using fresh) (fun e first => ?_) ⟨rfl, valid⟩
        simpa [first] using run

/-- A transition that the state machine allows is recorded or acknowledged. -/
lemma EventStore.append_ok {s : Submission} {es : List Event} {error : PyError}
    (run : ∀ f, es.head? = some f → f.runId = s.runId)
    (cause : ∀ id, s.causationEventId = some id → ∃ f ∈ es, f.eventId = id)
    (valid : validateTransition es s.payload = .ok ()) : EventStore.append es s ≠ .error error := by
  intro failed
  unfold EventStore.append at failed
  cases existing : s.existing es with
  | some found =>
    rw [existing] at failed
    cases failed
  | none =>
    simp only [existing] at failed
    split at failed
    · rename_i foreign
      cases first : es.head? with
      | none => simp [first] at foreign
      | some f => simp [first, run f first] at foreign
    split at failed
    · rename_i missing
      cases caused : s.causationEventId with
      | none => simp [caused] at missing
      | some id =>
        obtain ⟨f, mem, same⟩ := cause id caused
        simp only [caused, Option.any_some, decide_eq_true_eq, List.mem_map, not_exists,
          not_and] at missing
        exact missing f mem same
    · rw [valid] at failed
      cases failed

lemma events_run (w : World Event Submission Answer) : Harness.events w = (.ok w.log, w) := rfl

lemma state_run {w : World Event Submission Answer} {s : RunState} (state : project w.log = .ok s) :
    Harness.state w = (.ok s, w) := by
  unfold Harness.state
  rw [Program.run_bind_ok (events_run w), state]
  rfl

/-- An unrecorded payload that the state machine allows is recorded. -/
lemma Harness.append_run {h : Harness} {payload : EventPayload} {key : EventKey} {cause : Option EventId}
    {delta : ResourceDelta} {w : World Event Submission Answer} (new : ∀ e ∈ w.log, e.payload ≠ payload)
    (run : ∀ e, w.log.head? = some e → e.runId = h.config.runId)
    (caused : ∀ id, cause = some id → ∃ e ∈ w.log, e.eventId = id)
    (valid : validateTransition w.log payload = .ok ()) :
    ∃ e, h.append payload key cause delta w = (.ok e, { w with log := w.log ++ [e] }) ∧
      e.payload = payload ∧ Accepted w.log e := by
  cases appended : EventStore.append w.log ⟨h.config.runId, key, payload, cause, delta, w.now⟩ with
  | error error => exact absurd appended (EventStore.append_ok run caused valid)
  | ok found =>
    obtain ⟨e, log⟩ := found
    have made : h.append payload key cause delta w = (.ok e, { w with log }) :=
      Program.run_transact_ok (by rw [appended]; rfl)
    cases EventStore.append_inv appended with
    | again mem same => exact absurd same.2.2 (new e mem)
    | recorded _ _ accepted => exact ⟨_, made, rfl, accepted⟩

end TacoRank
