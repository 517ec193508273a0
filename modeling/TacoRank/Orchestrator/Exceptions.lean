import TacoRank.Lib.Trouble
import TacoRank.Orchestrator.Discipline
import TacoRank.Orchestrator.Rejections

/-!
# Exceptions of adapters

Where a lane catches the exception of an adapter it records `adapter.failed` with the stage of the call,
records the context of the recovery and asks the recovery manager. `laneTrouble` says so for the programs
of `Lib.Meets`, on the ledgers that are `Recoverable`. The state machine accepts the event where it
expects the stage in the status of the experiment; `Expects` is that assertion on a trace.

A failure that repeats an earlier one word for word is acknowledged and not recorded, and the context
that follows it is then the one of an experiment that is not recovering.
-/

namespace TacoRank
open Lib Lib.Result

/-! ### Recovery contexts -/

/-- The experiment is recovering. -/
def Recovering (x : String) (es : List Event) : Prop :=
  ∃ n, nodeOf es x = some n ∧ n.status = .recovering

instance {x : String} {es : List Event} : Decidable (Recovering x es) :=
  decidable_of_iff ((nodeOf es x).map ExperimentNode.status = some .recovering)
    Option.map_eq_some_iff

/-- The context of a recovery of the experiment. -/
def EventPayload.recoversIn (p : EventPayload) (x : String) : Bool :=
  match p with
  | .contextCreated context => context.role = .recovery ∧ context.experimentId = some x
  | _ => false

lemma EventPayload.recoversIn_iff {p : EventPayload} {x : String} : p.recoversIn x = true ↔
    ∃ context, p = .contextCreated context ∧ context.role = .recovery ∧
      context.experimentId = some x := by
  cases p <;> simp [recoversIn]

/-- Every recovery context of the experiment was recorded while it was recovering. -/
def ContextsRecover (x : String) (es : List Event) : Prop :=
  ∀ pre c post, es = pre ++ c :: post → c.payload.recoversIn x = true → Recovering x pre

instance {x : String} {es : List Event} : Decidable (ContextsRecover x es) :=
  decidable_of_iff
    (∀ i : Fin es.length, (es.get i).payload.recoversIn x = true → Recovering x (es.take i))
    (Log.forall_split (P := fun pre c => c.payload.recoversIn x = true → Recovering x pre)).symm

lemma ContextsRecover.take {x : String} {es post : List Event} (met : ContextsRecover x (es ++ post)) :
    ContextsRecover x es := by
  intro pre c rest split recovers
  exact met pre c (rest ++ post) (by simp [split]) recovers

lemma ContextsRecover.last {x : String} {es : List Event} {e : Event} (met : ContextsRecover x (es ++ [e]))
    (recovers : e.payload.recoversIn x = true) : Recovering x es :=
  met es e [] rfl recovers

/-! ### What becomes of an exception -/

/-- The experiment has been proposed, the run is live, the recovery contexts belong to recoveries, and the
context of the next recovery can be written. -/
structure Recoverable (h : Harness) (x : String) (es : List Event) : Prop where
  proposed : ∃ n, nodeOf es x = some n
  live : ∃ status, statusOf es = some status ∧ Live status
  contexts : ContextsRecover x es
  run : ∀ e, es.head? = some e → e.runId = h.config.runId
  writes : ∀ f node spec remaining,
    ∃ document, h.writeRecovery (es ++ [f]) node spec f remaining = .ok document

/-- The state machine accepts a failure. Unless the ledger holds it already it is recorded: the
experiment recovers, the context of its recovery is recorded, and the lane waits for a decision. -/
structure EntersRecovery (x : String) (es : List Event) (failure : AdapterFailureResult)
    (waits : List Event → Prop) : Prop where
  accepted : validateTransition es (.adapterFailed failure) = .ok ()
  recorded : (∀ e ∈ es, e.payload ≠ .adapterFailed failure) →
    ∃ f c, f.payload = .adapterFailed failure ∧ Recovering x (es ++ [f]) ∧
      c.payload.recoversIn x = true ∧ waits (es ++ [f, c])

lemma EntersRecovery.mono {x : String} {es : List Event} {failure : AdapterFailureResult}
    {waits waits' : List Event → Prop} (enters : EntersRecovery x es failure waits)
    (weaker : ∀ log, waits log → waits' log) : EntersRecovery x es failure waits' := by
  refine ⟨enters.accepted, fun new => ?_⟩
  obtain ⟨f, c, payload, recovering, recovers, waiting⟩ := enters.recorded new
  exact ⟨f, c, payload, recovering, recovers, weaker _ waiting⟩

/-- The exceptions of adapters, and what a lane makes of those that it catches: the stage and the attempt
of the failure do not depend on the exception. -/
def laneTrouble (h : Harness) (x : String) : Trouble Event Submission Answer RouterError where
  submit := interfere
  raises reply error := ∃ err, error = .adapter err ∧ reply = .raised error
  handled es waits := Recoverable h x es → ∃ stage attempt, ∀ err,
    EntersRecovery x es (h.adapterFailure x attempt stage (.adapter err)) (waits (.adapter err))
  mono := by
    intro es waits waits' weaker handled recoverable
    obtain ⟨stage, attempt, enters⟩ := handled recoverable
    exact ⟨stage, attempt, fun err => (enters err).mono fun log => weaker (.adapter err) log⟩

/-! ### Recording a failure -/

section Failure
variable {h : Harness} {x : String} {es : List Event} {e : Event} {stage : FailureStage}

/-- A failure whose stage the status expects is accepted while the run is live, and begins a recovery. -/
lemma failure_accepted (res : AdapterFailureResult) (v : ValidLedger es)
    (live : ∃ status, statusOf es = some status ∧ Live status) (owner : res.experimentId = x)
    (fits : ∃ n, nodeOf es x = some n ∧ n.status ∈ res.failureStage.expectedStates) :
    validateTransition es (.adapterFailed res) = .ok () ∧
      ∀ e, Accepted es e → e.payload = .adapterFailed res → Recovering x (es ++ [e]) := by
  obtain ⟨n, node, expected⟩ := fits
  obtain ⟨r, hr⟩ := v.replay
  rw [nodeOf_replay hr] at node
  have allowed : n.status ∈ allowedFailureStates es res := by
    unfold allowedFailureStates
    -- A retried initial coder may fail in one status more.
    split
    · exact List.mem_append_left _ expected
    · exact expected
  constructor
  · obtain ⟨status, current, live⟩ := live
    rw [statusOf_replay hr] at current
    cases current
    refine (validateTransition_ok hr).mpr (.later ?_ (by simp [EventPayload.type]) live.legal ?_)
    · rintro rfl
      cases hr
      simp at node
    · exact validateAdapterFailed_ok.mpr
        ⟨n, by rw [RunState.aggregate_experiments, owner]; exact node, allowed⟩
  · intro e ok payload
    refine ⟨_, nodeOf_update hr ok node (by simp [payload, EventPayload.experiment, owner])
      (by simp [payload]), ?_⟩
    simp [Reducer.nodeUpdate, payload, ExperimentNode.adapterFailed]

/-- An experiment has been proposed. -/
lemma ValidLedger.proposal_of_node {n : ExperimentNode} (v : ValidLedger es) (node : nodeOf es x = some n) :
    ∃ e ∈ es, ∃ spec, e.payload = .experimentProposed spec ∧ spec.experimentId = x := by
  obtain ⟨r, hr⟩ := v.replay
  rw [nodeOf_replay hr] at node
  -- Only a proposal makes a node; every other event finds it or leaves it.
  refine v.node_induct (x := x) (P := fun es n => (∃ m, n = some m) →
    ∃ e ∈ es, ∃ spec, e.payload = .experimentProposed spec ∧ spec.experimentId = x) ?_ ?_ hr ⟨n, node⟩
  · rintro ⟨m, none⟩
    cases none
  · intro es e r n n' _ _ _ _ step ih known
    cases step with
    | proposed payload owner => exact ⟨e, by simp, _, payload, owner⟩
    | frame other =>
      obtain ⟨f, mem, proposed⟩ := ih known
      exact ⟨f, List.mem_append_left _ mem, proposed⟩
    | _ =>
      obtain ⟨f, mem, proposed⟩ := ih ⟨_, rfl⟩
      exact ⟨f, List.mem_append_left _ mem, proposed⟩

/-- The newest event of a failure chain. -/
lemma failureChain_snoc (own : e.payload.experiment = some x) (type : e.payload.type.inFailureChain = true) :
    (failureChain (es ++ [e]) x).getLast? = some e := by
  have whole : (es ++ [e]).filter (fun event =>
      event.payload.experiment = some x ∧ event.payload.type.inFailureChain = true) =
      es.filter (fun event =>
        event.payload.experiment = some x ∧ event.payload.type.inFailureChain = true) ++ [e] := by
    rw [List.filter_append, List.filter_cons_of_pos (by simp [own, type])]
    rfl
  unfold failureChain
  simp only [whole]
  rw [List.drop_append_of_le_length (by simp), List.getLast?_concat]

/-- After the failure of an adapter its recovery context can be built. -/
lemma buildRecovery_total {f : Event} {res : AdapterFailureResult} {s : RunState} {n : ExperimentNode}
    (remaining : Nat) (v : ValidLedger (es ++ [f])) (payload : f.payload = .adapterFailed res)
    (owner : res.experimentId = x) (projected : project (es ++ [f]) = .ok s)
    (node : s.experiments.get? x = some n)
    (writes : ∀ node spec remaining,
      ∃ document, h.writeRecovery (es ++ [f]) node spec f remaining = .ok document) :
    ∃ context, buildRecovery h.writeRecovery (es ++ [f]) x remaining = .ok context := by
  have own : f.payload.experiment = some x := by
    rw [payload]
    exact congrArg some owner
  have type : f.payload.type = .adapterFailed := by rw [payload]; rfl
  have chain : (failureChain (es ++ [f]) x).getLast? = some f := failureChain_snoc own (by rw [type]; rfl)
  have found : ∃ found, ((eventsOf EventPayload.spec (es ++ [f])).find? fun found =>
      found.2.experimentId = x) = some found := by
    have known : nodeOf (es ++ [f]) x = some n := by
      simp only [nodeOf, projected, node]
    obtain ⟨e, mem, spec, proposed, same⟩ := v.proposal_of_node known
    rw [← Option.isSome_iff_exists, List.find?_isSome]
    refine ⟨(e, spec), ?_, by simpa using same⟩
    simp only [eventsOf, List.mem_filterMap, Option.map_eq_some_iff]
    exact ⟨e, mem, spec, by rw [proposed]; rfl, rfl⟩
  obtain ⟨⟨_, spec⟩, found⟩ := found
  obtain ⟨document, written⟩ := writes n spec remaining
  unfold buildRecovery
  simp only [v.visible, projected, Except.mapError, ok_bind, node, chain, found, type]
  -- The chain ends with the failure, not with a decision, so `build_recovery` has a result to show.
  rw [if_neg (by decide), written]
  exact ⟨_, rfl⟩

/-- The context of a recovery is accepted while the run is live. -/
lemma context_accepted {n : ExperimentNode} {context : ContextDocument} (v : ValidLedger es)
    (live : ∃ status, statusOf es = some status ∧ Live status) (node : nodeOf es x = some n) :
    validateTransition es (.contextCreated context) = .ok () := by
  obtain ⟨r, hr⟩ := v.replay
  obtain ⟨status, current, live⟩ := live
  rw [statusOf_replay hr] at current
  cases current
  rw [nodeOf_replay hr] at node
  have baseline := (v.contract_of_node hr node).2
  refine (validateTransition_ok hr).mpr (.later ?_ (by simp [EventPayload.type]) live.legal ?_)
  · rintro rfl
    exact baseline rfl
  · simp only [validateBranch, validateContextCreated, bind_eq_ok, require_ok]
    refine ⟨(), baseline, ?_⟩
    rw [RunState.aggregate_status]
    intro stopped
    cases status : r.state.status <;> rw [status] at live stopped <;> first
      | exact live.elim
      | simp at stopped

/-- `_recover` after a recorded failure: the context is recorded, and the recovery manager is asked. -/
lemma recover_waits {w : World Event Submission Answer} {f : Event} {res : AdapterFailureResult}
    (fresh : h.FreshContexts) (v : ValidLedger (es ++ [f])) (log : w.log = es ++ [f]) (script : w.script = [])
    (payload : f.payload = .adapterFailed res) (owner : res.experimentId = x)
    (live : ∃ status, statusOf (es ++ [f]) = some status ∧ Live status)
    (recovering : Recovering x (es ++ [f]))
    (run : ∀ e, (es ++ [f]).head? = some e → e.runId = h.config.runId)
    (writes : ∀ node spec remaining,
      ∃ document, h.writeRecovery (es ++ [f]) node spec f remaining = .ok document) :
    ∃ c, c.payload.recoversIn x = true ∧ WaitsAt (es ++ [f, c]) (h.recover f x w) := by
  obtain ⟨n, node, _⟩ := recovering
  obtain ⟨r, hr⟩ := v.replay
  have projected : project (es ++ [f]) = .ok (r.state.aggregate (es ++ [f])) := project_ok.mpr ⟨r, hr, rfl⟩
  have known : (r.state.aggregate (es ++ [f])).experiments.get? x = some n := by
    rw [RunState.aggregate_experiments, ← nodeOf_replay hr]
    exact node
  generalize r.state.aggregate (es ++ [f]) = s at projected known
  have state : Harness.state w = (.ok s, w) := state_run (by rw [log]; exact projected)
  -- `_recover` reads the state, builds the context and records it, in this order.
  obtain ⟨context, built⟩ := buildRecovery_total (s.maxRepairsPerExperiment - n.repairCount) v
    payload owner projected known writes
  have builds := buildRecovery_ok v projected known built
  have prepared : h.recoveryContext x (s.maxRepairsPerExperiment - n.repairCount) w = (.ok context, w) := by
    unfold Harness.recoveryContext
    rw [Program.run_bind_ok (events_run w), log, built]
    rfl
  obtain ⟨c, recorded, created, _⟩ : ∃ c, h.append (.contextCreated context.toContextDocument)
      ⟨x, .recoveryContext, n.repairCount + 1⟩ (some f.eventId) {} w = (.ok c, { w with log := w.log ++ [c] }) ∧
      c.payload = .contextCreated context.toContextDocument ∧ Accepted w.log c := Harness.append_run
    (by rw [log]; exact fun e mem same => builds.fresh fresh e mem _ same rfl) (by rw [log]; exact run)
    (by rintro id ⟨⟩; exact ⟨f, by rw [log]; simp, rfl⟩)
    (by rw [log]; exact context_accepted v live node)
  refine ⟨c, EventPayload.recoversIn_iff.mpr ⟨_, created, builds.role, builds.owner⟩, ?_⟩
  unfold Harness.recover
  rw [Program.run_bind_ok state]
  simp only [known]
  rw [Program.run_bind_ok prepared, Program.run_bind_ok recorded]
  -- No turn is left, so the call of the recovery manager is where the lane waits.
  refine WaitsAt.bind ?_
  unfold recoveryManager call Program.await
  simp only [script, log, List.append_assoc, List.cons_append, List.nil_append]
  exact ⟨rfl, rfl⟩

/-- Where the state machine expects the stage, an exception enters recovery. -/
lemma failure_enters {α : Type} {w : World Event Submission Answer} {g : Event → Harness.Recovery → Lane α}
    (attempt : Nat) (err : AdapterError) (cause : Option EventId) (fresh : h.FreshContexts)
    (v : ValidLedger w.log) (script : w.script = []) (recoverable : Recoverable h x w.log)
    (fits : ∀ n, nodeOf w.log x = some n → n.status ∈ stage.expectedStates)
    (caused : ∀ id, cause = some id → ∃ e ∈ w.log, e.eventId = id) :
    EntersRecovery x w.log (h.adapterFailure x attempt stage (.adapter err)) fun log =>
      WaitsAt log ((h.recordAdapterFailure x attempt stage (.adapter err) cause >>= fun f =>
        h.recover f x >>= g f) w) := by
  obtain ⟨n, node⟩ := recoverable.proposed
  obtain ⟨accepted, begins⟩ := failure_accepted (h.adapterFailure x attempt stage (.adapter err)) v
    recoverable.live rfl ⟨n, node, fits n node⟩
  refine ⟨accepted, fun new => ?_⟩
  obtain ⟨f, recorded, payload, ok⟩ : ∃ f, h.recordAdapterFailure x attempt stage (.adapter err) cause w =
      (.ok f, { w with log := w.log ++ [f] }) ∧
      f.payload = .adapterFailed (h.adapterFailure x attempt stage (.adapter err)) ∧ Accepted w.log f :=
    Harness.append_run new recoverable.run caused accepted
  have v' : ValidLedger (w.log ++ [f]) := v.snoc ok
  have started : w.log ≠ [] := by
    intro none
    have type := ok.2
    rw [none, payload] at type
    cases type
  -- A failure writes the node and leaves the status of the run as it was.
  have live : ∃ status, statusOf (w.log ++ [f]) = some status ∧ Live status := by
    obtain ⟨status, found, live⟩ := recoverable.live
    obtain ⟨r, hr⟩ := v.replay
    obtain ⟨r', step⟩ := ok.step hr
    have hr' : replay (w.log ++ [f]) = .ok r' := by
      rw [replay_snoc, hr]
      exact step
    rw [statusOf_replay hr] at found
    cases found
    refine ⟨_, statusOf_replay hr', ?_⟩
    rw [(Reducer.step_inv step).frame.status, payload]
    exact live
  obtain ⟨c, recovers, waits⟩ := recover_waits (w := { w with log := w.log ++ [f] }) fresh v' rfl script payload rfl
    live (begins f ok payload)
    (fun e first => recoverable.run e (by rwa [List.head?_append_of_ne_nil _ started] at first))
    (recoverable.writes f)
  refine ⟨f, c, payload, begins f ok payload, recovers, ?_⟩
  rw [Program.run_bind_ok recorded]
  exact waits.bind

/-- The handler of an exception where the state machine expects its stage. -/
lemma failure_handled {α : Type} {w : World Event Submission Answer} {attempt : Nat} {cause : Option EventId}
    {g : RouterError → Event → Harness.Recovery → Lane α} (fresh : h.FreshContexts) (v : ValidLedger w.log)
    (script : w.script = [])
    (fits : ContextsRecover x w.log → ∀ n, nodeOf w.log x = some n → n.status ∈ stage.expectedStates)
    (caused : ∀ id, cause = some id → ∃ e ∈ w.log, e.eventId = id) :
    (laneTrouble h x).Handles (fun error =>
      h.recordAdapterFailure x attempt stage error cause >>= fun f => h.recover f x >>= g error f) w := by
  refine .waits fun recoverable => ⟨stage, attempt, fun err => ?_⟩
  have enters := failure_enters (g := g (.adapter err)) attempt err cause fresh v script
    recoverable (fits recoverable.contexts) caused
  exact enters.mono fun log waits reply _ => waits

end Failure

/-! ### What a trace expects -/

/-- Wherever an experiment has this trace, its status is one in which a failure of the stage is expected, if
its recovery contexts belong to recoveries. -/
def Expects (x : String) (stage : FailureStage) (t : List Event) : Prop :=
  ∀ es, ValidLedger es → trace x es = t → ContextsRecover x es →
    ∀ n, nodeOf es x = some n → n.status ∈ stage.expectedStates

/-- The stages that check a commit, and check it again after a retry. -/
def FailureStage.checks : FailureStage → Bool
  | .patchGate | .outputGate | .evaluation => true
  | _ => false

lemma FailureStage.checks_inv {stage : FailureStage} (checks : stage.checks = true) :
    .recovering ∉ stage.expectedStates ∧ stage ≠ .execution ∧ stage ≠ .recovery := by
  cases stage <;> simp [FailureStage.checks, expectedStates] at checks ⊢

section Expects
variable {x : String} {es : List Event} {stage stage' : FailureStage} {t : List Event} {e : Event}

/-- An event of an experiment has a node to write to, unless it proposes it. -/
lemma Accepted.node {r : Reducer} (ok : Accepted es e) (hr : replay es = .ok r)
    (own : e.payload.experiment = some x) (old : ∀ spec, e.payload ≠ .experimentProposed spec) :
    ∃ n, r.state.experiments.get? x = some n := by
  obtain ⟨r', step⟩ := ok.step hr
  have write := node_step hr ok step x
  cases found : r.state.experiments.get? x with
  | some n => exact ⟨n, rfl⟩
  | none =>
    rw [found] at write
    generalize r'.state.experiments.get? x = n' at write
    cases write with
    | frame other => exact absurd own other
    | proposed payload => exact absurd payload (old _)

/-- The newest event of a trace decides. -/
lemma Expects.snoc (newest : ∀ pre, ValidLedger pre → Accepted pre e → trace x pre = t → e.owner = some x →
      ContextsRecover x (pre ++ [e]) →
      ∀ n, nodeOf (pre ++ [e]) x = some n → n.status ∈ stage.expectedStates) :
    Expects x stage (t ++ [e]) := by
  intro es v split met n node
  -- Behind the newest event of the trace nothing concerns the experiment.
  obtain ⟨pre, post, rfl, before, silent⟩ := split_of_trace (show trace x es = t ++ e :: [] from split)
  have own : e.owner = some x := by
    have mem : e ∈ trace x (pre ++ e :: post) := by simp [split]
    exact (mem_trace.mp mem).2
  have whole : pre ++ e :: post = (pre ++ [e]) ++ post := by simp
  rw [whole] at v met node
  have front := Log.Valid.take v
  refine newest pre front.snoc_inv.1 front.snoc_inv.2 before own met.take n ?_
  rw [← nodeOf_append_foreign v fun s mem own => ?_]
  · exact node
  have listed : s ∈ trace x post := mem_trace.mpr ⟨mem, EventPayload.owner_experiment own⟩
  rw [silent] at listed
  cases listed

/-- An event of the experiment that writes its status. -/
lemma Expects.update (own : e.payload.experiment = some x) (old : ∀ spec, e.payload ≠ .experimentProposed spec)
    (status : ∀ pre r n, ValidLedger pre → replay pre = .ok r → Accepted pre e → trace x pre = t →
      (r.nodeUpdate e n).status ∈ stage.expectedStates) : Expects x stage (t ++ [e]) := by
  refine .snoc fun pre v ok before _ _ n' node' => ?_
  obtain ⟨r, hr⟩ := v.replay
  obtain ⟨n, node⟩ := ok.node hr own old
  rw [nodeOf_update hr ok node own old] at node'
  cases node'
  exact status pre r n v hr ok before

/-- A context changes no status. -/
lemma Expects.context {document : ContextDocument} (expects : Expects x stage t)
    (payload : e.payload = .contextCreated document) : Expects x stage (t ++ [e]) := by
  refine .snoc fun pre v ok before _ met n node => ?_
  rw [nodeOf_foreign v ok (by simp [payload, EventPayload.experiment])] at node
  exact expects pre v before met.take n node

/-- A recovery context where the experiment is not recovering: nothing is promised from there on. -/
lemma Expects.misplaced {rest : List Event} (expects : Expects x stage t)
    (other : ExperimentStatus.recovering ∉ stage.expectedStates) (recovers : e.payload.recoversIn x = true) :
    Expects x stage' (t ++ e :: rest) := by
  intro es v split met
  obtain ⟨pre, post, rfl, before, _⟩ := split_of_trace split
  obtain ⟨n, node, recovering⟩ := met pre e post rfl recovers
  have expected := expects pre v.front before met.take n node
  rw [recovering] at expected
  exact absurd expected other

/-- A proposed experiment waits for its coder. -/
lemma Expects.proposed (proposed : ∀ e ∈ t, e.payload.type = .experimentProposed) : Expects x .coding t := by
  rcases List.eq_nil_or_concat' t with rfl | ⟨front, e, rfl⟩
  · intro es v none _ n node
    obtain ⟨e, mem, spec, payload, owner⟩ := v.proposal_of_node node
    have listed : e ∈ trace x es := mem_trace.mpr ⟨mem, by rw [Event.owner, payload]; exact congrArg some owner⟩
    rw [none] at listed
    cases listed
  have type := proposed e (by simp)
  refine .snoc fun pre v ok _ own _ n' node => ?_
  obtain ⟨r, hr⟩ := v.replay
  obtain ⟨r', step⟩ := ok.step hr
  have hr' : replay (pre ++ [e]) = .ok r' := by
    rw [replay_snoc, hr]
    exact step
  have write := node_step hr ok step x
  rw [nodeOf_replay hr'] at node
  rw [node] at write
  generalize r.state.experiments.get? x = n at write
  cases payload : e.payload with
  -- The proposal is the only event of the experiment that finds no node.
  | experimentProposed spec =>
    cases write with
    | frame other =>
      rw [Event.owner, payload] at own
      rw [payload] at other
      exact absurd own other
    | proposed => exact List.mem_cons_self
    | _ => simp_all
  | _ => simp [payload, EventPayload.type] at type

/-- A patch waits for its gate. -/
lemma Expects.patch {c : PatchCandidate} (payload : e.payload = .patchCreated c) (owner : c.experimentId = x) :
    Expects x .patchGate (t ++ [e]) := by
  refine .update (by rw [payload]; exact congrArg some owner) (by simp [payload]) fun pre r n _ _ _ _ => ?_
  simp [Reducer.nodeUpdate, payload, ExperimentNode.patchCreated, FailureStage.expectedStates]

/-- A request runs. -/
lemma Expects.execution {q : RunRequest} (payload : e.payload = .executionStarted q) (owner : q.experimentId = x) :
    Expects x .execution (t ++ [e]) := by
  refine .update (by rw [payload]; exact congrArg some owner) (by simp [payload]) fun pre r n _ _ _ _ => ?_
  simp [Reducer.nodeUpdate, payload, ExperimentNode.executionStarted, FailureStage.expectedStates]

/-- The output of a successful execution waits for its gate. -/
lemma Expects.output {result : RunResult} (payload : e.payload = .executionFinished result)
    (owner : result.experimentId = x) (success : result.outcome = .success) :
    Expects x .outputGate (t ++ [e]) := by
  refine .update (by rw [payload]; exact congrArg some owner) (by simp [payload]) fun pre r n _ _ _ _ => ?_
  simp [Reducer.nodeUpdate, payload, ExperimentNode.executionFinished, success, FailureStage.expectedStates]

/-- A verified output waits for its evaluation. -/
lemma Expects.verified {output : OutputCheckResult} (payload : e.payload = .outputChecked output)
    (owner : output.experimentId = x) (accepted : output.accepted = true) :
    Expects x .evaluation (t ++ [e]) := by
  refine .update (by rw [payload]; exact congrArg some owner) (by simp [payload]) fun pre r n _ _ _ _ => ?_
  simp [Reducer.nodeUpdate, payload, ExperimentNode.outputChecked, accepted, FailureStage.expectedStates]

/-- An evaluation waits for its decision. -/
lemma Expects.evaluated {result : EvaluationResult} (payload : e.payload = .evaluationCompleted result)
    (owner : result.experimentId = x) (verdict : result.trust.verdict ≠ .noOp) :
    Expects x .evaluation (t ++ [e]) := by
  refine .update (by rw [payload]; exact congrArg some owner) (by simp [payload]) fun pre r n _ _ _ _ => ?_
  simp [Reducer.nodeUpdate, payload, ExperimentNode.evaluationCompleted, verdict, FailureStage.expectedStates]

/-- A repair waits for its coder. -/
lemma Expects.repair {d : RecoveryDecision} (payload : e.payload = .recoveryDecided d) (owner : d.experimentId = x)
    (code : d.action.isCodeRecovery = true) : Expects x .coding (t ++ [e]) := by
  refine .update (by rw [payload]; exact congrArg some owner) (by simp [payload]) fun pre r n _ _ _ _ => ?_
  simp only [Reducer.nodeUpdate, payload, Reducer.recoveryNode_status, Reducer.recoveryStatus]
  cases action : d.action <;> simp [action, RecoveryAction.isCodeRecovery] at code ⊢ <;>
    simp [FailureStage.expectedStates]

/-- After a retry the stage of the failure is expected again. -/
lemma Expects.retry {d : RecoveryDecision} {f : Event} (payload : e.payload = .recoveryDecided d)
    (owner : d.experimentId = x) (action : d.action = .retrySameCommit) (cites : d.failureEventId = f.eventId)
    (mem : f ∈ t) (failed : f.payload.failureStage = some stage)
    (other : stage ≠ .execution ∧ stage ≠ .recovery) : Expects x stage (t ++ [e]) := by
  refine .update (by rw [payload]; exact congrArg some owner) (by simp [payload]) fun pre r n v hr ok before => ?_
  have branch := (ok.branch hr (by simp [payload, EventPayload.type])).2
  rw [payload] at branch
  obtain ⟨n', _, legal⟩ := validateRecoveryDecided_ok.mp branch
  obtain ⟨g, latest, found⟩ := legal.failureEvent v hr ok
  obtain ⟨g', latest', id⟩ := legal.failure
  rw [latest] at latest'
  cases latest'
  have listed : f ∈ pre := (mem_trace.mp (before ▸ mem)).1
  -- The decision cites the newest failure, and ids are unique: it is `f`.
  obtain rfl : g = f := v.eq_of_id (latestRecoverableFailure_mem latest).1 listed (by rw [← id, cites])
  simp only [Reducer.nodeUpdate, payload, Reducer.recoveryNode_status, Reducer.recoveryStatus, action, found,
    Reducer.retryTarget_some, failed]
  cases stage with
  | execution => exact absurd rfl other.1
  | recovery => exact absurd rfl other.2
  | evaluation =>
    simp only [FailureStage.expectedStates]
    split <;> simp
  | _ => simp [FailureStage.expectedStates]

end Expects
end TacoRank
