import TacoRank.Orchestrator.LaneSpec
import TacoRank.Orchestrator.PublicLabels

/-!
# Specifications of recovery and repair

`_recover` records the context of a failure and the decision on it, and `_execute_code_repair` the
patch that such a decision calls for. Their specifications say which events they add to the trace of
the experiment. A failure that repeats an earlier one is acknowledged and not recorded, and so is the
decision on it; a decision that calls for a patch is always new, because it takes a repair slot.

`Base` collects what holds of the trace wherever the lane is, `Left` what is known where an exception
leaves it.
-/

namespace TacoRank
open Lib Lib.Result

/-! ### The trace of a lane -/

/-- Recovery actions that close the experiment. -/
def RecoveryAction.closes : RecoveryAction → Bool
  | .abandon | .rollback | .returnToPlanner => true
  | _ => false

/-- The failure of a repair worker: a failure of the coder, caused by the decision that called it. -/
def RepairFailed (t : List Event) (f : Event) : Prop :=
  f.payload.failureStage = some .coding ∧
    ∃ c ∈ t, f.causationEventId = some c.eventId ∧ c.payload.repairs = true

/-- A decision after a trace that closes the experiment for the failure of a repair worker. -/
structure Contained (t : List Event) (e : Event) (d : RecoveryDecision) : Prop where
  payload : e.payload = .recoveryDecided d
  closes : d.action.closes = true
  failure : ∃ f ∈ t, d.failureEventId = f.eventId ∧ RepairFailed t f

/-- No decision has closed the experiment for the failure of a repair worker. -/
def Uncontained (t : List Event) : Prop :=
  ∀ pre e post d, t = pre ++ e :: post → ¬ Contained pre e d

/-- The decisions on the experiment have all been promotions. -/
def Undecided (t : List Event) : Prop :=
  ∀ e ∈ t, ∀ d, e.payload = .experimentDecided d → d.decision = .promote

/-- The attempts of the failures of the coder are bounded. -/
def CodingBelow (k : Nat) (t : List Event) : Prop :=
  ∀ e ∈ t, ∀ result, e.payload = .adapterFailed result → result.failureStage = .coding →
    result.attempt ≤ k

/-- The experiment has not been closed. -/
structure Unclosed (t : List Event) : Prop where
  uncontained : Uncontained t
  undecided : Undecided t

/-- What holds of the trace wherever the lane is. -/
structure Base (t : List Event) : Prop extends Unclosed t where
  coding : CodingBelow (codes t + 1) t

/-- The trace does not end with a decision that calls for a patch. -/
def Calm (t : List Event) : Prop := ∀ e, t.getLast? = some e → e.payload.repairs = false

section Trace
variable {t : List Event} {e : Event}

@[simp] lemma codes_snoc (t : List Event) (e : Event) :
    codes (t ++ [e]) = codes t + e.payload.repairs.toNat := by
  unfold codes
  rw [List.countP_append, List.countP_singleton]
  cases e.payload.repairs <;> rfl

lemma Calm.snoc (other : e.payload.repairs = false) : Calm (t ++ [e]) := by
  intro e' last
  rw [List.getLast?_concat] at last
  cases last
  exact other

/-- A split of an extended trace is one of the trace, or at its new event. -/
lemma split_snoc {pre post : List Event} {e' : Event} (split : t ++ [e] = pre ++ e' :: post) :
    (pre = t ∧ e' = e ∧ post = []) ∨ ∃ post', t = pre ++ e' :: post' ∧ post = post' ++ [e] := by
  cases post using List.reverseRecOn with
  | nil =>
    obtain ⟨rfl, same⟩ := List.append_inj' split rfl
    cases same
    exact .inl ⟨rfl, rfl, rfl⟩
  | append_singleton post last =>
    rw [← List.cons_append, ← List.append_assoc] at split
    obtain ⟨rfl, same⟩ := List.append_inj' split rfl
    cases same
    exact .inr ⟨post, rfl, rfl⟩

lemma Uncontained.snoc (h : Uncontained t) (new : ∀ d, ¬ Contained t e d) :
    Uncontained (t ++ [e]) := by
  intro pre e' post d split
  rcases split_snoc split with ⟨rfl, rfl, _⟩ | ⟨post', split, _⟩
  · exact new d
  · exact h pre e' post' d split

lemma Unclosed.snoc (open_ : Unclosed t) (recovery : ∀ d, ¬ Contained t e d)
    (decision : ∀ d, e.payload = .experimentDecided d → d.decision = .promote) :
    Unclosed (t ++ [e]) := by
  refine ⟨open_.uncontained.snoc recovery, fun e' mem d payload => ?_⟩
  rcases List.mem_append.mp mem with old | new
  · exact open_.undecided e' old d payload
  · rw [List.mem_singleton.mp new] at payload
    exact decision d payload

lemma CodingBelow.snoc (low : CodingBelow (codes t + 1) t)
    (coding : ∀ result, e.payload = .adapterFailed result → result.failureStage = .coding →
      result.attempt ≤ codes t + 1) :
    CodingBelow (codes (t ++ [e]) + 1) (t ++ [e]) := by
  intro e' mem result payload stage
  rw [codes_snoc]
  rcases List.mem_append.mp mem with old | new
  · have bound := low e' old result payload stage
    omega
  · rw [List.mem_singleton] at new
    subst new
    have bound := coding result payload stage
    omega

lemma Base.snoc (base : Base t)
    (coding : ∀ result, e.payload = .adapterFailed result → result.failureStage = .coding →
      result.attempt ≤ codes t + 1)
    (recovery : ∀ d, ¬ Contained t e d)
    (decision : ∀ d, e.payload = .experimentDecided d → d.decision = .promote) :
    Base (t ++ [e]) := by
  exact ⟨base.toUnclosed.snoc recovery decision, base.coding.snoc coding⟩

/-- Events of most types keep the assertion. -/
lemma Base.plain (base : Base t)
    (type : e.payload.type ∉ [.adapterFailed, .recoveryDecided, .experimentDecided]) :
    Base (t ++ [e]) := by
  refine base.snoc ?_ ?_ ?_
  · intro result payload
    simp [payload, EventPayload.type] at type
  · intro d contained
    simp [contained.payload, EventPayload.type] at type
  · intro d payload
    simp [payload, EventPayload.type] at type

/-- The failure of an adapter other than the coder keeps the assertion. -/
lemma Base.failed (base : Base t) {result : AdapterFailureResult}
    (payload : e.payload = .adapterFailed result)
    (coding : result.failureStage = .coding → result.attempt ≤ codes t + 1) : Base (t ++ [e]) := by
  refine base.snoc ?_ ?_ ?_
  · intro result' payload'
    rw [payload] at payload'
    cases payload'
    exact coding
  · intro d contained
    have same := contained.payload
    rw [payload] at same
    cases same
  · intro d payload'
    rw [payload] at payload'
    cases payload'

end Trace

/-! ### Exceptions -/

/-- The lesson of a recovery decision or of a decision on the experiment. -/
def EventPayload.lesson : EventPayload → Option LessonCandidate
  | .recoveryDecided decision => decision.lessonCandidate
  | .experimentDecided decision => decision.lessonCandidate
  | _ => none

/-- The ledger ends with a decision whose lesson it does not accept; `t` is the trace before it. -/
def LessonRejected (h : Harness) (x : String) (t es : List Event) : Prop :=
  ∃ pre e candidate s error, es = pre ++ [e] ∧ trace x pre = t ∧ e.owner = some x ∧
    e.payload.lesson = some candidate ∧ s.runId = h.config.runId ∧
    s.payload = .lessonRecorded (nextLessonId es) candidate ∧
    EventStore.append es s = .error error ∧
    (e.payload.type ≠ .recoveryDecided → s.causationEventId = some e.eventId ∧
      ∀ f, es.head? = some f → f.runId = s.runId)

/-- The trace ends with a new recovery decision, and the exception belongs to it: the signal of an
unavailable repair worker, or a rejected stop. -/
inductive Broken (h : Harness) (K : RecoveryAction → List Event → Prop) (error : RouterError)
    (t : List Event) : Prop where
  | signal {pre e d cause}
    (split : t = pre ++ [e])
    (payload : e.payload = .recoveryDecided d)
    (before : Uncontained pre)
    (signalled : error = .repairWorkerUnavailable d.action cause)
    (site : K d.action t) : Broken h K error t
  | integrity {pre e d}
    (split : t = pre ++ [e])
    (payload : e.payload = .recoveryDecided d)
    (before : Uncontained pre)
    (controlPlane : error.controlPlane = true)
    (integrity : d.reasonCode = "INTEGRITY_VIOLATION" ∧ h.parallelRoundActive = false) :
    Broken h K error t

/-- What is known where an exception leaves a part of the lane; `K` holds where a repair worker is
unavailable. -/
inductive Left (h : Harness) (x : String) (K : RecoveryAction → List Event → Prop)
    (error : RouterError) (es : List Event) : Prop where
  | plain (undecided : Undecided (trace x es)) (uncontained : Uncontained (trace x es))
    (calm : error.controlPlane = true ∨ Calm (trace x es)) : Left h x K error es
  | broken (undecided : Undecided (trace x es)) (broken : Broken h K error (trace x es)) :
    Left h x K error es
  | lesson {t} (controlPlane : error.controlPlane = true) (undecided : Undecided t)
    (rejected : LessonRejected h x t es) : Left h x K error es

section Left
variable {h : Harness} {x : String} {K K' : RecoveryAction → List Event → Prop}
  {error : RouterError} {es : List Event}

lemma Left.base (open_ : Unclosed (trace x es))
    (calm : error.controlPlane = true ∨ Calm (trace x es)) : Left h x K error es :=
  .plain open_.undecided open_.uncontained calm

end Left

/-! ### Recovery -/

/-- What `_recover` leaves behind a trace: the context of the failure, and the decision on it. -/
structure RecoveredFrom (x : String) (t0 : List Event) (failure : Event) (r : Harness.Recovery)
    (t : List Event) : Prop where
  payload : r.event.payload = .recoveryDecided r.decision
  owner : r.decision.experimentId = x
  cites : r.decision.failureEventId = failure.eventId
  recovers : r.context.role = .recovery ∧ r.context.experimentId = some x
  number : r.context.repairAttempt = codes t0 + 1
  unused : ∀ e ∈ t0, ∀ c, e.payload = .patchCreated c → c.contextId ≠ r.context.contextId
  counted : r.decision.action.isCodeRecovery = true → r.decision.repairAttempt = codes t
  shape : ∃ c, c.payload = .contextCreated r.context.toContextDocument ∧
    (t = t0 ++ [c, r.event] ∨ t = t0 ++ [c] ∧ r.decision.action.isCodeRecovery = false ∧
      ∃ pre post, t0 = pre ++ failure :: post ∧ r.event ∈ post)

/-- Where the exceptions of `_recover` leave it. -/
inductive RecoverLeft (h : Harness) (x : String) (t0 : List Event) (error : RouterError)
    (es : List Event) : Prop where
  | before (same : trace x es = t0) : RecoverLeft h x t0 error es
  | context {c document} (payload : c.payload = .contextCreated document)
    (split : trace x es = t0 ++ [c]) : RecoverLeft h x t0 error es
  | lesson {c document} (controlPlane : error.controlPlane = true)
    (payload : c.payload = .contextCreated document) (rejected : LessonRejected h x (t0 ++ [c]) es) :
    RecoverLeft h x t0 error es
  | integrity {c document e d}
    (context : c.payload = .contextCreated document)
    (split : trace x es = t0 ++ [c, e])
    (payload : e.payload = .recoveryDecided d)
    (controlPlane : error.controlPlane = true)
    (integrity : d.reasonCode = "INTEGRITY_VIOLATION" ∧ h.parallelRoundActive = false) :
    RecoverLeft h x t0 error es

section Recovery
variable {h : Harness} {x : String}

/-- The fields of a decision of the recovery manager that the state machine checks. -/
structure Ruled (y : String) (failure : EventId) (remaining : Nat) (d : RecoveryDecision) : Prop where
  owner : d.experimentId = y
  cites : d.failureEventId = failure
  budget : d.action.consumesRepair = true → d.remainingRepairBudget + 1 = remaining

lemma recoveryManager_spec {P : List Event → Prop} {y : String} {failure : EventId}
    {maxRepairs repairCount remaining : Nat} (steady : Steady x P) :
    LaneSpec h x P (recoveryManager y failure maxRepairs repairCount remaining)
      (fun d es => Ruled y failure remaining d ∧ P es) (fun _ es => P es) := by
  refine (call_spec steady fun _ => rfl).post fun d es _ ⟨⟨reply, answered⟩, hp⟩ => ⟨?_, hp⟩
  cases reply with
  | recovery ruling =>
    simp only at answered
    split at answered
    · cases answered
    · rename_i room
      cases answered
      refine ⟨rfl, rfl, fun repair => ?_⟩
      have left : remaining ≠ 0 := fun none => room ⟨repair, none⟩
      simp only at repair ⊢
      rw [repair]
      simp only [Bool.toNat_true]
      omega
  | _ => cases answered

lemma RecoveryAction.consumesRepair_eq (action : RecoveryAction) :
    action.consumesRepair = action.isCodeRecovery := by
  cases action <;> rfl

/-- The repair counter of a projected node. -/
lemma ValidLedger.repairCount {es : List Event} {s : RunState} {n : ExperimentNode}
    (v : ValidLedger es) (projected : TacoRank.project es = .ok s) (node : s.experiments.get? x = some n) :
    ∃ c, contractOf es = some c ∧ s.maxRepairsPerExperiment = c.maxRepairsPerExperiment ∧
      n.repairCount = codes (trace x es) := by
  obtain ⟨r, hr, rfl⟩ := project_ok.mp projected
  rw [RunState.aggregate_experiments] at node
  have started : es ≠ [] := by
    rintro rfl
    cases hr
    cases node
  obtain ⟨c, hc, limit, _⟩ := v.contract hr started
  have counted := (v.counters hr hc x).repairs
  rw [node, repairs_trace] at counted
  refine ⟨c, hc, ?_, counted.symm⟩
  rw [RunState.aggregate_maxRepairsPerExperiment]
  exact limit

/-- A recorded decision that calls for a patch takes the next repair slot of its experiment. -/
lemma ValidLedger.repairSlot {pre post : List Event} {e : Event} {d : RecoveryDecision}
    {c : RunStarted} (v : ValidLedger (pre ++ e :: post)) (payload : e.payload = .recoveryDecided d)
    (code : d.action.isCodeRecovery = true) (contract : contractOf (pre ++ e :: post) = some c) :
    d.repairAttempt = codes (trace d.experimentId pre) + 1 ∧
      d.remainingRepairBudget + (codes (trace d.experimentId pre) + 1) =
        c.maxRepairsPerExperiment := by
  obtain ⟨r, n, hr, node, legal⟩ := v.recovery_inv payload
  have projected : TacoRank.project pre = .ok (r.state.aggregate pre) := project_ok.mpr ⟨r, hr, rfl⟩
  have node' : (r.state.aggregate pre).experiments.get? d.experimentId = some n := by
    rw [RunState.aggregate_experiments]
    exact node
  obtain ⟨c', hc, limit, count⟩ := v.front.repairCount projected node'
  have same : contractOf (pre ++ e :: post) = some c' := by
    cases pre with
    | nil => cases hc
    | cons e0 pre => exact hc
  rw [contract] at same
  cases same
  rw [← RecoveryAction.consumesRepair_eq] at code
  obtain ⟨attempt, _, budget⟩ := legal.slot code
  rw [limit, count] at budget
  rw [count] at attempt
  exact ⟨attempt, budget⟩

/-- The failure that a recorded decision cites is recorded before it. -/
lemma LaneLedger.cited {es : List Event} {e failure : Event} {d : RecoveryDecision}
    (v : LaneLedger h x es) (mem : e ∈ trace x es) (payload : e.payload = .recoveryDecided d)
    (cites : d.failureEventId = failure.eventId) (recorded : failure ∈ trace x es) :
    ∃ pre post, trace x es = pre ++ failure :: post ∧ e ∈ post := by
  obtain ⟨listed, own⟩ := mem_trace.mp mem
  obtain ⟨pre, post, rfl⟩ := List.append_of_mem listed
  obtain ⟨r, n, _, _, legal⟩ := v.valid.recovery_inv payload
  obtain ⟨f, latest, id⟩ := legal.failure
  have early := (latestRecoverableFailure_mem latest).1
  have same : f = failure := by
    refine v.valid.eq_of_id (List.mem_append_left _ early) (mem_trace.mp recorded).1 ?_
    rw [← id, cites]
  subst same
  have inside : f ∈ trace x pre := mem_trace.mpr ⟨early, (mem_trace.mp recorded).2⟩
  obtain ⟨a, b, split⟩ := List.append_of_mem inside
  refine ⟨a, b ++ e :: trace x post, ?_, by simp⟩
  rw [trace_split own, split]
  simp

/-- A patch names a context of the ledger. -/
lemma ValidLedger.patchContext {pre post : List Event} {e : Event} {c : PatchCandidate}
    (v : ValidLedger (pre ++ e :: post)) (payload : e.payload = .patchCreated c) :
    ∃ e' ∈ pre, ∃ document, e'.payload = .contextCreated document ∧
      document.contextId = c.contextId := by
  obtain ⟨r, hr⟩ := v.front.replay
  have branch := (v.accepted.branch hr (by simp [payload, EventPayload.type])).2
  rw [payload] at branch
  obtain ⟨n, _, legal⟩ := validatePatchCreated_ok.mp branch
  obtain ⟨found, listed, same, _⟩ := legal.context
  obtain ⟨e', mem, read⟩ := List.mem_filterMap.mp listed
  refine ⟨e', mem, ?_⟩
  cases p : e'.payload with
  | contextCreated document =>
    simp only [EventPayload.context, p, Option.map_some, Option.some.injEq] at read
    subst read
    exact ⟨document, rfl, same⟩
  | _ => simp [EventPayload.context, p] at read

/-- The context of a recovery is new, and it numbers the next repair. -/
structure Prepared (x : String) (t0 : List Event) (n : Nat) (context : RecoveryContext)
    (es : List Event) : Prop where
  role : context.role = .recovery
  owner : context.experimentId = some x
  number : context.repairAttempt = n + 1
  unused : ∀ e ∈ es, ∀ document, e.payload = .contextCreated document →
    document.contextId ≠ context.contextId
  trace : trace x es = t0

lemma recoveryContext_spec {t0 : List Event} {s : RunState} {n : ExperimentNode} {remaining : Nat}
    (fresh : h.FreshContexts) (node : s.experiments.get? x = some n) :
    LaneSpec h x (fun es => project es = .ok s ∧ trace x es = t0)
      (h.recoveryContext x remaining)
      (fun context es => project es = .ok s ∧ Prepared x t0 n.repairCount context es)
      (RecoverLeft h x t0) := by
  refine Meets.bind events_spec fun ledger => ?_
  refine Meets.ofExcept ?_ fun _ _ _ hp _ => .before hp.2.2
  rintro context es v ⟨rfl, projected, same⟩ built
  have builds := buildRecovery_ok v.valid projected node built
  exact ⟨projected, builds.role, builds.owner, builds.number, builds.fresh fresh, same⟩

/-- The decision of a recovery: what has been recorded when the recovery manager answers. -/
structure Deciding (x : String) (t0 : List Event) (c : Event) (maxRepairs : Nat)
    (context : RecoveryContext) (es : List Event) : Prop where
  trace : trace x es = t0 ++ [c]
  payload : c.payload = .contextCreated context.toContextDocument
  role : context.role = .recovery
  owner : context.experimentId = some x
  number : context.repairAttempt = codes t0 + 1
  unused : ∀ e ∈ t0, ∀ candidate, e.payload = .patchCreated candidate →
    candidate.contextId ≠ context.contextId
  contract : ∃ k, contractOf es = some k ∧ maxRepairs = k.maxRepairsPerExperiment

lemma Steady.deciding {t0 : List Event} {c : Event} {maxRepairs : Nat} {context : RecoveryContext} :
    Steady x (Deciding x t0 c maxRepairs context) := by
  intro es e v ok other d
  obtain ⟨k, hk, limit⟩ := d.contract
  refine ⟨?_, d.payload, d.role, d.owner, d.number, d.unused, k, contractOf_snoc hk, limit⟩
  rw [trace_other other]
  exact d.trace

/-- The context of a recovery is recorded. -/
lemma appendContext_spec {t0 : List Event} {s : RunState} {n : ExperimentNode} {failure : Event}
    {context : RecoveryContext} {key : EventKey} (mem : failure ∈ t0)
    (started : failure.payload.type ≠ .executionStarted)
    (node : s.experiments.get? x = some n) :
    LaneSpec h x (fun es => project es = .ok s ∧ Prepared x t0 n.repairCount context es)
      (h.append (.contextCreated context.toContextDocument) key (some failure.eventId) {})
      (fun c es => n.repairCount = codes t0 ∧
        Deciding x t0 c s.maxRepairsPerExperiment context es)
      (RecoverLeft h x t0) := by
  refine append_spec ?_ ?_ fun _ _ _ _ hp _ => .before hp.2.trace
  · intro es c v ⟨projected, p⟩ ok records caused _
    have own : c.owner = some x := by
      rw [Event.owner, records.payload]
      exact p.owner
    obtain ⟨k, hk, limit, count⟩ := v.valid.repairCount projected node
    rw [p.trace] at count
    refine ⟨fun _ => ?_, count, ⟨?_, records.payload, p.role, p.owner, ?_, ?_, k, contractOf_snoc hk, limit⟩⟩
    · unfold Rule
      rw [records.payload, p.trace]
      exact fun _ => ⟨failure, mem, caused, started⟩
    · rw [trace_own own, p.trace]
    · rw [p.number, count]
    · intro e listed candidate payload
      rw [← p.trace] at listed
      obtain ⟨pre, post, rfl⟩ := List.append_of_mem (mem_trace.mp listed).1
      obtain ⟨e', early, document, same, id⟩ := v.valid.patchContext payload
      rw [← id]
      exact p.unused e' (List.mem_append_left _ early) document same
  · intro es c _ ⟨_, p⟩ listed records
    exact absurd rfl (p.unused c listed _ records.payload)

/-- The decision is new, at the end of the ledger, or it has been recorded before. -/
structure Ends (x : String) (t0 : List Event) (c e : Event) (es : List Event) : Prop where
  context : ∃ document, c.payload = .contextCreated document
  place : (∃ pre, es = pre ++ [e]) ∧ trace x es = t0 ++ [c, e] ∨ trace x es = t0 ++ [c]

/-- A decision that has been recorded before comes after its failure and calls for no patch: the repair
budget that it leaves is smaller than that of all earlier ones. -/
lemma decision_recorded {t0 es : List Event} {c e failure : Event} {context : RecoveryContext}
    {maxRepairs n : Nat} {d : RecoveryDecision} (hp : Deciding x t0 c maxRepairs context es)
    (v : LaneLedger h x es) (mem : failure ∈ t0) (ruled : Ruled x failure.eventId (maxRepairs - n) d)
    (count : n = codes t0) (listed : e ∈ es) (payload : e.payload = .recoveryDecided d) :
    d.action.isCodeRecovery = false ∧ ∃ pre post, t0 = pre ++ failure :: post ∧ e ∈ post := by
  have own : e.owner = some x := by
    rw [Event.owner, payload]
    exact congrArg some ruled.owner
  have mem' : failure ∈ trace x es := by
    rw [hp.trace]
    exact List.mem_append_left _ mem
  constructor
  · by_contra code
    rw [Bool.not_eq_false] at code
    obtain ⟨pre, post, rfl⟩ := List.append_of_mem listed
    obtain ⟨k, hk, limit⟩ := hp.contract
    obtain ⟨_, slot⟩ := v.valid.repairSlot payload code hk
    have budget := ruled.budget (by rw [RecoveryAction.consumesRepair_eq, code])
    rw [ruled.owner] at slot
    have later : codes (trace x pre) + 1 ≤ codes t0 := by
      have whole := congrArg codes hp.trace
      rw [trace_split own, codes_snoc, hp.payload] at whole
      simp only [codes, List.countP_append, List.countP_cons, payload, EventPayload.repairs, code, if_true,
        Bool.toNat_false] at whole ⊢
      omega
    omega
  · obtain ⟨pre, post, split, inside⟩ :=
      v.cited (mem_trace.mpr ⟨listed, own⟩) payload ruled.cites mem'
    rw [hp.trace] at split
    rcases split_snoc split with ⟨_, _, rfl⟩ | ⟨post', split', rfl⟩
    · cases inside
    · refine ⟨pre, post', split', ?_⟩
      rcases List.mem_append.mp inside with early | last
      · exact early
      · rw [List.mem_singleton.mp last, hp.payload] at payload
        cases payload

/-- The decision of a recovery is recorded. -/
lemma appendRecovery_spec {t0 : List Event} {c failure : Event} {context : RecoveryContext}
    {maxRepairs n : Nat} {d : RecoveryDecision} {key : EventKey} {delta : ResourceDelta}
    (mem : failure ∈ t0) (ruled : Ruled x failure.eventId (maxRepairs - n) d)
    (count : n = codes t0) :
    LaneSpec h x (Deciding x t0 c maxRepairs context)
      (h.append (.recoveryDecided d) key (some c.eventId) delta)
      (fun e es => RecoveredFrom x t0 failure ⟨d, context, e⟩ (trace x es) ∧ Ends x t0 c e es)
      (RecoverLeft h x t0) := by
  refine append_spec ?_ ?_ fun _ _ _ _ hp _ => .context hp.payload hp.trace
  · intro es e v hp ok records caused _
    have own : e.owner = some x := by
      rw [Event.owner, records.payload]
      exact congrArg some ruled.owner
    have split : trace x (es ++ [e]) = t0 ++ [c, e] := by
      rw [trace_own own, hp.trace]
      simp
    refine ⟨fun _ => ?_, ⟨records.payload, ruled.owner, ruled.cites, ⟨hp.role, hp.owner⟩, hp.number, hp.unused,
      ?_, c, hp.payload, .inl split⟩, ⟨_, hp.payload⟩, .inl ⟨⟨es, rfl⟩, split⟩⟩
    · unfold Rule
      rw [records.payload, hp.trace]
      exact ⟨c, by simp, caused, _, hp.payload, hp.role⟩
    · intro code
      obtain ⟨k, hk, _⟩ := hp.contract
      have slot := ValidLedger.repairSlot (v.valid.snoc ok) records.payload code
        (contractOf_snoc hk)
      rw [ruled.owner] at slot
      rw [trace_own own, codes_snoc, records.payload, EventPayload.repairs, code]
      exact slot.1
  · intro es e v hp listed records
    obtain ⟨notCode, place⟩ :=
      decision_recorded hp v mem ruled count listed records.payload
    refine ⟨⟨records.payload, ruled.owner, ruled.cites, ⟨hp.role, hp.owner⟩, hp.number, hp.unused, ?_, c,
      hp.payload, .inr ⟨hp.trace, notCode, place⟩⟩, ⟨_, hp.payload⟩, .inr hp.trace⟩
    intro code
    rw [notCode] at code
    cases code

/-- The lesson of a recovery belongs to no experiment. -/
lemma appendLesson_spec {t0 : List Event} {c e : Event} {P : List Event → Prop}
    {candidate : LessonCandidate} {lessonId : String} {key : EventKey} {cause : Option EventId}
    (steady : Steady x P) (own : e.owner = some x) (lesson : e.payload.lesson = some candidate)
    (recovery : e.payload.type = .recoveryDecided) :
    LaneSpec h x (fun es => lessonId = nextLessonId es ∧ P es ∧ Ends x t0 c e es)
      (h.append (.lessonRecorded lessonId candidate) key cause {}) (fun _ => P)
      (RecoverLeft h x t0) := by
  have foreign : (EventPayload.lessonRecorded lessonId candidate).owner ≠ some x := by
    simp [EventPayload.owner, EventPayload.experiment]
  refine append_spec ?_ (fun _ _ _ hp _ _ => hp.2.1) ?_
  · rintro es e' v ⟨_, hp, _⟩ ok records _ _
    have other : e'.owner ≠ some x := by
      rw [Event.owner, records.payload]
      exact foreign
    exact ⟨fun own => absurd own other, steady es e' v.valid ok other hp⟩
  · rintro now es error v ⟨id, _, ends⟩ failed
    obtain ⟨⟨document, payload⟩, ⟨⟨pre, last⟩, split⟩ | split⟩ := ends
    · have before : trace x pre = t0 ++ [c] := by
        rw [last, trace_own own] at split
        exact (List.append_inj' (split.trans (by simp : t0 ++ [c, e] = (t0 ++ [c]) ++ [e])) rfl).1
      refine .lesson ?_ payload ⟨pre, e, candidate, _, error, last, before, own, lesson, rfl, by rw [id],
        failed, fun other => absurd recovery other⟩
      exact append_rejects v.valid (by simp [EventPayload.type]) failed
    · exact .context payload split

/-- `_recover`. -/
lemma recover_spec {t0 : List Event} {failure : Event} (fresh : h.FreshContexts) (mem : failure ∈ t0)
    (started : failure.payload.type ≠ .executionStarted) :
    LaneSpec h x (On x (· = t0)) (h.recover failure x)
      (fun r => On x (RecoveredFrom x t0 failure r)) (RecoverLeft h x t0) := by
  refine state_spec.bind fun s => ?_
  cases node : s.experiments.get? x with
  | none => exact Meets.raise fun _ _ hp => .before hp.2
  | some n =>
    refine (recoveryContext_spec fresh node).bind fun context => ?_
    refine (appendContext_spec mem started node).bind fun c => ?_
    refine Meets.assuming fun count => ?_
    refine Meets.bind (Q := fun d es =>
      Ruled x failure.eventId (s.maxRepairsPerExperiment - n.repairCount) d ∧
        Deciding x t0 c s.maxRepairsPerExperiment context es) ?_ fun d => ?_
    · exact (recoveryManager_spec Steady.deciding).weaken (fun _ _ hp => hp) (fun _ _ _ hp => hp)
        fun _ _ _ hp => .context hp.payload hp.trace
    refine Meets.assuming fun ruled => ?_
    refine (appendRecovery_spec mem ruled count).bind fun e => ?_
    have stable : Steady x (On x (RecoveredFrom x t0 failure ⟨d, context, e⟩)) := Steady.on
    have ended : LaneSpec h x (On x (RecoveredFrom x t0 failure ⟨d, context, e⟩))
        (if d.reasonCode = "INTEGRITY_VIOLATION" ∧ h.parallelRoundActive = false then
          h.stop fatalIntegrityDecision >>= fun _ => pure (⟨d, context, e⟩ : Harness.Recovery)
        else pure ⟨d, context, e⟩)
        (fun r => On x (RecoveredFrom x t0 failure r)) (RecoverLeft h x t0) := by
      split
      · rename_i integrity
        refine Meets.bind ((stop_spec stable).weaken (fun _ _ hp => hp) (fun _ _ _ hp => hp) ?_)
          fun _ => Meets.ret fun _ _ hp => hp
        rintro error es _ ⟨control, settled⟩
        obtain ⟨c, payload, split | ⟨split, _⟩⟩ := settled.shape
        · exact .integrity payload split settled.payload control integrity
        · exact .context payload split
      · exact Meets.ret fun _ _ hp => hp
    cases lesson : d.lessonCandidate with
    | none => exact ended.pre fun _ _ hp => hp.1
    | some candidate =>
      refine events_spec.bind fun ledger => ?_
      refine Meets.bind (Q := fun _ => On x (RecoveredFrom x t0 failure ⟨d, context, e⟩)) ?_
        fun _ => ended
      refine Meets.given (fun es _ hp => And.intro hp.2.1.payload hp.2.1.owner) fun known => ?_
      obtain ⟨payload, owner⟩ := known
      have own : e.owner = some x := by
        rw [Event.owner, payload]
        exact congrArg some owner
      refine (appendLesson_spec (c := c) stable own (by rw [payload]; exact lesson) (by rw [payload]; rfl)).pre ?_
      exact fun es _ hp => ⟨by rw [hp.1], hp.2⟩

/-- The ids of a trace are unique. -/
lemma LaneLedger.same {es : List Event} {e e' : Event} (v : LaneLedger h x es)
    (mem : e ∈ trace x es) (mem' : e' ∈ trace x es) (id : e.eventId = e'.eventId) : e = e' :=
  v.valid.eq_of_id (mem_trace.mp mem).1 (mem_trace.mp mem').1 id

lemma Base.context {t : List Event} {c : Event} {document : ContextDocument} (base : Base t)
    (payload : c.payload = .contextCreated document) : Base (t ++ [c]) :=
  base.plain (by simp [payload, EventPayload.type])

lemma Unclosed.context {t : List Event} {c : Event} {document : ContextDocument}
    (open_ : Unclosed t) (payload : c.payload = .contextCreated document) : Unclosed (t ++ [c]) := by
  refine open_.snoc ?_ ?_
  · intro d contained
    simp [contained.payload] at payload
  · intro d decided
    simp [decided] at payload

lemma Calm.context {t : List Event} {c : Event} {document : ContextDocument}
    (payload : c.payload = .contextCreated document) : Calm (t ++ [c]) :=
  .snoc (by rw [payload]; rfl)

lemma RecoverLeft.left {K : RecoveryAction → List Event → Prop} {t0 : List Event}
    {error : RouterError} {es : List Event} (left : RecoverLeft h x t0 error es)
    (open_ : Unclosed t0) (calm : Calm t0) : Left h x K error es := by
  cases left with
  | before same => exact .base (same ▸ open_) (.inr (same ▸ calm))
  | context payload split => exact .base (split ▸ open_.context payload) (.inr (split ▸ .context payload))
  | lesson controlPlane payload rejected =>
    exact .lesson controlPlane (open_.context payload).undecided rejected
  | @integrity c document e d context split payload controlPlane integrity =>
    have split' : trace x es = (t0 ++ [c]) ++ [e] := by
      rw [split]
      simp
    refine .broken ?_ (.integrity split' payload (open_.context context).uncontained controlPlane
      integrity)
    rw [split']
    intro e' mem d' payload'
    rcases List.mem_append.mp mem with old | new
    · exact (open_.context context).undecided e' old d' payload'
    · rw [List.mem_singleton.mp new, payload] at payload'
      cases payload'

/-- The decision on the failure of anything but a repair worker leaves the experiment open, and so
does a decision that does not close it. -/
lemma RecoveredFrom.unclosed {t0 : List Event} {failure : Event} {r : Harness.Recovery}
    {es : List Event} (from_ : RecoveredFrom x t0 failure r (trace x es)) (v : LaneLedger h x es)
    (open_ : Unclosed t0) (mem : failure ∈ t0)
    (other : r.decision.action.closes = true → ¬ RepairFailed t0 failure) :
    Unclosed (trace x es) := by
  obtain ⟨c, context, split | ⟨split, _⟩⟩ := from_.shape
  · have split' : trace x es = (t0 ++ [c]) ++ [r.event] := by
      rw [split]
      simp
    have inside : ∀ e ∈ t0 ++ [c], e ∈ trace x es := by
      intro e mem
      rw [split']
      exact List.mem_append_left _ mem
    rw [split']
    refine (open_.context context).snoc ?_ ?_
    · intro d contained
      have same := contained.payload
      rw [from_.payload] at same
      cases same
      obtain ⟨f, listed, id, stage, c', cause, caused, code⟩ := contained.failure
      rw [from_.cites] at id
      obtain rfl := v.same (inside failure (List.mem_append_left _ mem)) (inside f listed) id
      refine other contained.closes ⟨stage, c', ?_, caused, code⟩
      rcases List.mem_append.mp cause with old | new
      · exact old
      · rw [List.mem_singleton.mp new, context] at code
        cases code
    · intro d payload
      rw [from_.payload] at payload
      cases payload
  · rw [split]
    exact open_.context context

lemma RecoveredFrom.base {t0 : List Event} {failure : Event} {r : Harness.Recovery}
    {es : List Event} (from_ : RecoveredFrom x t0 failure r (trace x es)) (v : LaneLedger h x es)
    (base : Base t0) (mem : failure ∈ t0)
    (other : r.decision.action.closes = true → ¬ RepairFailed t0 failure) :
    Base (trace x es) := by
  refine ⟨from_.unclosed v base.toUnclosed mem other, ?_⟩
  obtain ⟨c, context, split | ⟨split, _⟩⟩ := from_.shape
  · rw [split, show t0 ++ [c, r.event] = (t0 ++ [c]) ++ [r.event] by simp]
    refine (base.context context).coding.snoc fun result payload => ?_
    rw [from_.payload] at payload
    cases payload
  · rw [split]
    exact (base.context context).coding

end Recovery
end TacoRank
