import TacoRank.Orchestrator.StateMachine
import TacoRank.Lib.Result
import Mathlib.Data.List.TakeWhile

/-!
# Valid ledgers

An event list is a valid ledger when every event carries the next sequence number and its payload
passed `validateTransition` against the events before it, which is what `EventStore.append` and
`EventStore._read_locked` enforce. `NodeStep` says once what an accepted event does to one experiment
node; `ValidLedger.induct` and `ValidLedger.node_induct` carry invariants over whole ledgers.
-/

namespace TacoRank
open Lib Lib.Result

/-- The store accepts an event after a prefix. -/
def Accepted (events : List Event) (event : Event) : Prop :=
  event.eventId = events.length + 1 ∧ validateTransition events event.payload = .ok ()

instance (events : List Event) (event : Event) : Decidable (Accepted events event) :=
  inferInstanceAs (Decidable (_ ∧ _))

/-- Every event was accepted against the events before it. -/
abbrev ValidLedger (events : List Event) : Prop := Log.Valid Accepted events

/-! ### The guard idioms -/

@[simp] lemma require_ok {condition : Prop} [Decidable condition] {message u} :
    require condition message = .ok u ↔ condition := by
  unfold require
  by_cases h : condition <;> simp [h]

@[simp] lemma requireSome_ok {α} {x : Option α} {condition : α → Prop} [DecidablePred condition]
    {message a} : requireSome x condition message = .ok a ↔ x = some a ∧ condition a := by
  cases x with
  | none => simp [requireSome]
  | some b =>
    by_cases h : condition b
    · simp only [requireSome, h, if_true, Except.ok.injEq, Option.some.injEq]
      constructor
      · rintro rfl
        exact ⟨rfl, h⟩
      · exact And.left
    · simp only [requireSome, h, if_false, reduceCtorEq, Option.some.injEq, false_iff, not_and]
      rintro rfl
      exact h

/-- The front of a valid ledger is a valid ledger. -/
lemma ValidLedger.front {pre post : List Event} (v : ValidLedger (pre ++ post)) :
    ValidLedger pre :=
  Log.Valid.take v

/-! ### Event ids -/

/-- The event at a position carries that position as its id. -/
lemma ValidLedger.eventId {pre post : List Event} {e : Event}
    (v : ValidLedger (pre ++ e :: post)) : e.eventId = pre.length + 1 :=
  v.accepted.1

/-- Event ids are unique: they determine the prefix before the event. -/
lemma ValidLedger.unique {pre post pre' post' : List Event} {e e' : Event}
    (v : ValidLedger (pre ++ e :: post))
    (same : pre ++ e :: post = pre' ++ e' :: post')
    (ids : e.eventId = e'.eventId) : pre = pre' ∧ e = e' ∧ post = post' := by
  have id := v.eventId
  have v' := v
  rw [same] at v'
  have id' := v'.eventId
  have length : pre.length = pre'.length := Nat.succ.inj (id.symm.trans (ids.trans id'))
  obtain ⟨h1, h2⟩ := List.append_inj same length
  cases h2
  exact ⟨h1, rfl, rfl⟩

/-- Events with the same id are the same event. -/
lemma ValidLedger.eq_of_id {es : List Event} {e e' : Event} (v : ValidLedger es) (mem : e ∈ es)
    (mem' : e' ∈ es) (ids : e.eventId = e'.eventId) : e = e' := by
  obtain ⟨a, b, rfl⟩ := List.append_of_mem mem
  obtain ⟨a', b', split⟩ := List.append_of_mem mem'
  exact (v.unique split ids).2.1

/-- What comes before an event does not depend on what comes after it. -/
lemma eventsBefore_append {es post : List Event} {e : Event} (mem : e ∈ es) :
    eventsBefore (es ++ post) e = eventsBefore es e := by
  unfold eventsBefore
  rw [List.takeWhile_append, if_neg]
  intro whole
  have all := (List.takeWhile_eq_self_iff.mp
    ((List.takeWhile_sublist _).eq_of_length whole)) e mem
  simp at all

/-- The events before an event, as `events.index` computes them. -/
lemma ValidLedger.eventsBefore {pre post : List Event} {e : Event}
    (v : ValidLedger (pre ++ e :: post)) : eventsBefore (pre ++ e :: post) e = pre := by
  have later : ∀ e' ∈ pre, e' ≠ e := by
    intro e' mem same
    obtain ⟨a, b, rfl⟩ := List.append_of_mem mem
    have id := v.eventId
    have v' : ValidLedger (a ++ e' :: (b ++ e :: post)) := by simpa using v
    have id' := v'.eventId
    rw [same, id] at id'
    simp at id'
  unfold TacoRank.eventsBefore
  rw [List.takeWhile_append_of_pos (by simpa using later)]
  simp

/-- Looking an id up finds exactly the event that carries it. -/
lemma eventWithId_spec {β} {read : EventPayload → Option β} {events : List Event} {eventId}
    {found : Event × β} (h : eventWithId read events eventId = some found) :
    found.1 ∈ events ∧ found.1.eventId = eventId ∧ read found.1.payload = some found.2 := by
  have id := List.find?_some h
  have mem := List.mem_of_find?_eq_some h
  simp only [eventsOf, List.mem_filterMap, Option.map_eq_some_iff] at mem
  obtain ⟨e, he, b, hb, rfl⟩ := mem
  exact ⟨he, by simpa using id, hb⟩

lemma ValidLedger.eventWithId {β} {read : EventPayload → Option β} {pre post : List Event}
    {e : Event} {data : β} (v : ValidLedger (pre ++ e :: post)) (h : read e.payload = some data) :
    TacoRank.eventWithId read (pre ++ e :: post) e.eventId = some (e, data) := by
  cases found : TacoRank.eventWithId read (pre ++ e :: post) e.eventId with
  | none =>
    have absent := List.find?_eq_none.mp found (e, data)
    simp [eventsOf, h] at absent
  | some f =>
    obtain ⟨mem, id, hf⟩ := eventWithId_spec found
    obtain ⟨a, b, split⟩ := List.append_of_mem mem
    obtain ⟨_, rfl, _⟩ := v.unique split id.symm
    rw [h] at hf
    cases hf
    rfl

/-! ### Readers -/

lemma EventKind.ofExperiment_ok {β} {kind : EventKind β} {x : String} {e : Event}
    {found : Event × β} : kind.ofExperiment x e = some found ↔
      found.1 = e ∧ kind.read e.payload = some found.2 ∧ kind.experimentId found.2 = x := by
  obtain ⟨e', data⟩ := found
  unfold ofExperiment
  cases h : kind.read e.payload with
  | none => simp
  | some d =>
    simp only [Option.ite_none_right_eq_some, Option.some.injEq, Prod.mk.injEq]
    constructor
    · rintro ⟨owner, rfl, rfl⟩
      exact ⟨rfl, rfl, owner⟩
    · rintro ⟨rfl, rfl, owner⟩
      exact ⟨owner, rfl, rfl⟩

/-- An event of the kind is read for its experiment. -/
lemma EventKind.ofExperiment_self {β} {kind : EventKind β} {x : String} {e : Event} {data : β}
    (read : kind.read e.payload = some data) (owner : kind.experimentId data = x) :
    kind.ofExperiment x e = some (e, data) :=
  ofExperiment_ok.mpr ⟨rfl, read, owner⟩

/-- An event of another kind is not read. -/
lemma EventKind.ofExperiment_none {β} {kind : EventKind β} {x : String} {e : Event}
    (read : kind.read e.payload = none) : kind.ofExperiment x e = none := by
  unfold ofExperiment
  rw [read]

/-- An event of another experiment is not read. -/
lemma EventKind.ofExperiment_frame {β} {kind : EventKind β} {x : String} {e : Event}
    (other : e.payload.experiment ≠ some x) : kind.ofExperiment x e = none := by
  cases h : kind.ofExperiment x e with
  | none => rfl
  | some found =>
    obtain ⟨_, read, owner⟩ := ofExperiment_ok.mp h
    have owned := kind.owned found.2
    rw [← kind.read_eq read, owner] at owned
    exact absurd owned other

@[simp] lemma lastForExperiment_nil {β} (kind : EventKind β) (x : String) :
    lastForExperiment kind [] x = none := rfl

@[simp] lemma lastForExperiment_snoc {β} (kind : EventKind β) (es : List Event) (e : Event)
    (x : String) : lastForExperiment kind (es ++ [e]) x =
      (kind.ofExperiment x e).or (lastForExperiment kind es x) :=
  Log.lastSome_snoc _ _ _

/-- What `lastForExperiment` finds: an event of the experiment, and none of its kind after it. -/
lemma lastForExperiment_split {β} {kind : EventKind β} {es : List Event} {x : String}
    {found : Event × β} (h : lastForExperiment kind es x = some found) :
    ∃ pre post, es = pre ++ found.1 :: post ∧ kind.read found.1.payload = some found.2 ∧
      kind.experimentId found.2 = x ∧ ∀ e ∈ post, kind.ofExperiment x e = none := by
  obtain ⟨pre, e, post, rfl, he, hpost⟩ := Log.lastSome_split h
  obtain ⟨rfl, read, owner⟩ := EventKind.ofExperiment_ok.mp he
  exact ⟨pre, post, rfl, read, owner, hpost⟩

/-- The payload that `lastForExperiment` found. -/
lemma lastForExperiment_payload {β} {kind : EventKind β} {es : List Event} {x : String}
    {found : Event × β} (h : lastForExperiment kind es x = some found) :
    found.1.payload = kind.write found.2 ∧ kind.experimentId found.2 = x := by
  obtain ⟨_, _, _, read, owner, _⟩ := lastForExperiment_split h
  exact ⟨kind.read_eq read, owner⟩

lemma lastForExperiment_mem {β} {kind : EventKind β} {es : List Event} {x : String}
    {found : Event × β} (h : lastForExperiment kind es x = some found) : found.1 ∈ es := by
  obtain ⟨_, _, rfl, _⟩ := lastForExperiment_split h
  simp

@[simp] lemma latestRecoverableFailure_nil (x : String) :
    latestRecoverableFailure [] x = none := rfl

@[simp] lemma latestRecoverableFailure_snoc (es : List Event) (e : Event) (x : String) :
    latestRecoverableFailure (es ++ [e]) x =
      if e.payload.recoverableFailure = some x then some e else latestRecoverableFailure es x := by
  rw [latestRecoverableFailure, Log.lastSome_snoc]
  split <;> rfl

lemma latestRecoverableFailure_mem {es : List Event} {x : String} {f : Event}
    (h : latestRecoverableFailure es x = some f) :
    f ∈ es ∧ f.payload.recoverableFailure = some x := by
  obtain ⟨e, mem, he⟩ := Log.lastSome_mem h
  split at he
  · cases he
    exact ⟨mem, ‹_›⟩
  · cases he

/-- A recoverable failure belongs to the experiment whose node it writes. -/
lemma EventPayload.recoverableFailure_owned {p : EventPayload} {x : String}
    (h : p.recoverableFailure = some x) : p.experiment = some x := by
  cases p with
  | patchChecked result | executionFinished result | outputChecked result =>
    exact (Option.ite_none_left_eq_some.mp h).2
  | evaluationCompleted result => exact (Option.ite_none_right_eq_some.mp h).2
  | adapterFailed result => exact h
  | _ => cases h

/-! ### Replaying -/

lemma replay_snoc (es : List Event) (e : Event) :
    replay (es ++ [e]) = replay es >>= fun r => r.step e :=
  foldlM_snoc

lemma project_ok {es : List Event} {s : RunState} :
    project es = .ok s ↔ ∃ r, replay es = .ok r ∧ r.state.aggregate es = s := by
  simp only [project, bind_eq_ok, pure_eq_ok]

section Aggregate
variable (s : RunState) (es : List Event)

/-- The aggregates touch nothing that the state machine reads. -/
lemma RunState.aggregate_eq : ∃ totals elapsed,
    s.aggregate es = { s with resourceTotals := totals, elapsedWallTime := elapsed } := by
  unfold aggregate
  dsimp only
  split
  · exact ⟨_, _, rfl⟩
  · exact ⟨_, s.elapsedWallTime, rfl⟩

@[simp] lemma RunState.aggregate_experiments : (s.aggregate es).experiments = s.experiments := by
  obtain ⟨t, w, h⟩ := s.aggregate_eq es
  rw [h]

@[simp] lemma RunState.aggregate_status : (s.aggregate es).status = s.status := by
  obtain ⟨t, w, h⟩ := s.aggregate_eq es
  rw [h]

@[simp] lemma RunState.aggregate_bestExperimentId :
    (s.aggregate es).bestExperimentId = s.bestExperimentId := by
  obtain ⟨t, w, h⟩ := s.aggregate_eq es
  rw [h]

@[simp] lemma RunState.aggregate_lessons : (s.aggregate es).lessons = s.lessons := by
  obtain ⟨t, w, h⟩ := s.aggregate_eq es
  rw [h]

@[simp] lemma RunState.aggregate_bestPrimaryScore :
    (s.aggregate es).bestPrimaryScore = s.bestPrimaryScore := by
  obtain ⟨t, w, h⟩ := s.aggregate_eq es
  rw [h]

@[simp] lemma RunState.aggregate_bestCommitSha :
    (s.aggregate es).bestCommitSha = s.bestCommitSha := by
  obtain ⟨t, w, h⟩ := s.aggregate_eq es
  rw [h]

@[simp] lemma RunState.aggregate_maxRepairsPerExperiment :
    (s.aggregate es).maxRepairsPerExperiment = s.maxRepairsPerExperiment := by
  obtain ⟨t, w, h⟩ := s.aggregate_eq es
  rw [h]

@[simp] lemma RunState.aggregate_maxConfirmationAttempts :
    (s.aggregate es).maxConfirmationAttempts = s.maxConfirmationAttempts := by
  obtain ⟨t, w, h⟩ := s.aggregate_eq es
  rw [h]

@[simp] lemma RunState.aggregate_publicValidationQueries :
    (s.aggregate es).publicValidationQueries = s.publicValidationQueries := by
  obtain ⟨t, w, h⟩ := s.aggregate_eq es
  rw [h]

end Aggregate

lemma RunState.node_ok {s : RunState} {x : String} {n : ExperimentNode} :
    s.node x = .ok n ↔ s.experiments.get? x = some n := by
  unfold node
  cases s.experiments.get? x <;> simp

lemma RunState.updateNode_ok {s s' : RunState} {x : String} {f : ExperimentNode → ExperimentNode} :
    s.updateNode x f = .ok s' ↔ ∃ n, s.experiments.get? x = some n ∧
      { s with experiments := s.experiments.set x (f n) } = s' := by
  simp only [updateNode, bind_eq_ok, pure_eq_ok, node_ok]

/-- The run status that an event leaves. -/
def RunStatus.after (status : RunStatus) : EventPayload → RunStatus
  | .runStarted _ => .initializing
  | .baselineVerified _ => .ready
  | .experimentProposed _ => .running
  | .runStopped reasonCode _ => if isFinalizableStopReason reasonCode then .stopped else .failed
  | .finalSelected _ => .finalizing
  | .submissionChecked payload => if payload.accepted then .finalized else .failed
  | _ => status

/-- What an event makes of the node of its experiment. -/
def Reducer.nodeUpdate (r : Reducer) (e : Event) (n : ExperimentNode) : ExperimentNode :=
  match e.payload with
  | .patchCreated candidate => n.patchCreated candidate
  | .patchChecked result => n.patchChecked result
  | .executionStarted request => n.executionStarted request
  | .executionFinished result => n.executionFinished result
  | .adapterFailed result => n.adapterFailed result
  | .recoveryDecided decision => (r.observe e).recoveryNode e.eventId decision n
  | .outputChecked result => n.outputChecked result
  | .evaluationCompleted result => n.evaluationCompleted result
  | .experimentDecided decision => n.decided e.eventId decision
  | _ => n

/-- The three ways an event can treat the node of an experiment. -/
inductive NodeWrite (r : Reducer) (e : Event) (x : String) :
    Option ExperimentNode → Option ExperimentNode → Prop where
  | frame {n} (other : e.payload.experiment ≠ some x) : NodeWrite r e x n n
  | proposed {n spec} (payload : e.payload = .experimentProposed spec)
    (owner : spec.experimentId = x) : NodeWrite r e x n (some (.ofSpec spec))
  | update {n} (owner : e.payload.experiment = some x)
    (old : ∀ spec, e.payload ≠ .experimentProposed spec) :
    NodeWrite r e x (some n) (some (r.nodeUpdate e n))

/-- Fields that only `run.started` resp. the best events write, and the status. -/
structure RunFrame (s s' : RunState) (p : EventPayload) : Prop where
  status : s'.status = s.status.after p
  repairs : p.type ≠ .runStarted → s'.maxRepairsPerExperiment = s.maxRepairsPerExperiment
  confirmations : p.type ≠ .runStarted → s'.maxConfirmationAttempts = s.maxConfirmationAttempts
  bestId : p.type ≠ .baselineVerified → p.type ≠ .bestUpdated →
    s'.bestExperimentId = s.bestExperimentId
  bestScore : p.type ≠ .baselineVerified → p.type ≠ .bestUpdated →
    s'.bestPrimaryScore = s.bestPrimaryScore

/-- The run-level part of `recovery.decided` writes the active attempt and the phase only. -/
lemma Reducer.recoveryRun_eq (r : Reducer) (d : RecoveryDecision) (s : RunState) :
    ∃ x a f p, r.recoveryRun d s = { s with
      activeExperimentId := x, activeAttempt := a, activeFidelity := f, phase := p } := by
  unfold recoveryRun
  split
  · exact ⟨_, _, _, _, rfl⟩
  · exact ⟨_, _, _, _, rfl⟩
  · exact ⟨s.activeExperimentId, s.activeAttempt, s.activeFidelity, _, rfl⟩
  · exact ⟨s.activeExperimentId, s.activeAttempt, s.activeFidelity, _, rfl⟩
  · exact ⟨s.activeExperimentId, s.activeAttempt, s.activeFidelity, _, rfl⟩
  · exact ⟨s.activeExperimentId, s.activeAttempt, s.activeFidelity, _, rfl⟩
  · exact ⟨s.activeExperimentId, s.activeAttempt, s.activeFidelity, _, rfl⟩

/-- The run-level part of `experiment.decided` writes the active attempt, the phase and the
convergence counter only. -/
lemma Reducer.decidedRun_eq (r : Reducer) (n : ExperimentNode) (d : ExperimentDecision) :
    ∃ x a f p k c, r.decidedRun n d = { r with
      convergenceIncumbent := c
      state := { r.state with
        activeExperimentId := x, activeAttempt := a, activeFidelity := f, phase := p
        consecutiveNonImprovingFullEvaluations := k } } := by
  unfold decidedRun
  split
  · exact ⟨r.state.activeExperimentId, r.state.activeAttempt, _, _,
      r.state.consecutiveNonImprovingFullEvaluations, r.convergenceIncumbent, rfl⟩
  · split
    · exact ⟨_, _, _, _, r.state.consecutiveNonImprovingFullEvaluations, r.convergenceIncumbent,
        rfl⟩
    · split
      · exact ⟨_, _, _, _, _, _, rfl⟩
      · exact ⟨_, _, _, _, _, r.convergenceIncumbent, rfl⟩

/-- The nodes after a write to one experiment. -/
lemma nodeWrite_set {r : Reducer} {e : Event} {x y : String} {d d' : Dict String ExperimentNode}
    {n : ExperimentNode} (owner : e.payload.experiment = some y)
    (old : ∀ spec, e.payload ≠ .experimentProposed spec)
    (eq : d' = d.set y (r.nodeUpdate e n)) (hn : d.get? y = some n) :
    NodeWrite r e x (d.get? x) (d'.get? x) := by
  subst eq
  by_cases same : x = y
  · subst same
    rw [Dict.get?_set_self, hn]
    exact .update owner old
  · rw [Dict.get?_set_ne _ _ same]
    refine .frame fun h => same ?_
    rw [owner] at h
    exact (Option.some.inj h).symm

/-- What every step of the reducer does. -/
structure RunStep (r r' : Reducer) (e : Event) : Prop where
  byId : r'.eventsById = e :: r.eventsById
  frame : RunFrame r.state r'.state e.payload
  nodes : ∀ x, NodeWrite r e x (r.state.experiments.get? x) (r'.state.experiments.get? x)

/-- Inversion of a reducer step. -/
lemma Reducer.step_inv {r r' : Reducer} {e : Event} (h : r.step e = .ok r') : RunStep r r' e := by
  unfold step branch at h
  obtain ⟨eventId, timestamp, runId, key, cause, payload, delta⟩ := e
  cases payload with
  | patchCreated d | patchChecked d | executionStarted d | executionFinished d | adapterFailed d
  | outputChecked d | evaluationCompleted d =>
    simp only [bind_eq_ok, pure_eq_ok, RunState.updateNode_ok, observe] at h
    obtain ⟨s, ⟨n, hn, rfl⟩, rfl⟩ := h
    refine ⟨rfl, ⟨rfl, ?_, ?_, ?_, ?_⟩, fun x => nodeWrite_set rfl (by simp) rfl hn⟩
    all_goals intros; rfl
  | recoveryDecided d =>
    simp only [bind_eq_ok, pure_eq_ok, RunState.updateNode_ok] at h
    obtain ⟨s, ⟨n, hn, rfl⟩, rfl⟩ := h
    obtain ⟨_, _, _, _, eq⟩ := Reducer.recoveryRun_eq (r.observe _) d _
    rw [eq]
    refine ⟨rfl, ⟨rfl, ?_, ?_, ?_, ?_⟩, fun x => nodeWrite_set rfl (by simp) rfl hn⟩
    all_goals intros; rfl
  | experimentDecided d =>
    simp only [bind_eq_ok, pure_eq_ok, RunState.updateNode_ok, RunState.node_ok, observe] at h
    obtain ⟨m, hm, s, ⟨n, hn, rfl⟩, rfl⟩ := h
    obtain ⟨_, _, _, _, _, _, eq⟩ := Reducer.decidedRun_eq _ m d
    rw [eq]
    refine ⟨rfl, ⟨rfl, ?_, ?_, ?_, ?_⟩, fun x => nodeWrite_set rfl (by simp) rfl hn⟩
    all_goals intros; rfl
  | experimentProposed spec =>
    simp only [pure_eq_ok, observe] at h
    subst h
    refine ⟨rfl, ⟨rfl, ?_, ?_, ?_, ?_⟩, fun x => ?_⟩
    · intros; rfl
    · intros; rfl
    · intros; rfl
    · intros; rfl
    · by_cases same : x = spec.experimentId
      · subst same
        simp only [RunState.experimentProposed, Dict.get?_set_self]
        exact .proposed rfl rfl
      · simp only [RunState.experimentProposed]
        rw [Dict.get?_set_ne _ _ same]
        exact .frame fun h => same (Option.some.inj h).symm
  | lessonStatusChanged lessonId status reason =>
    simp only at h
    split at h
    · cases h
    · cases h
      refine ⟨rfl, ⟨rfl, ?_, ?_, ?_, ?_⟩, fun x => .frame (by simp [EventPayload.experiment])⟩
      all_goals intros; rfl
  | baselineVerified payload =>
    simp only [pure_eq_ok, observe] at h
    subst h
    unfold RunState.baselineVerified
    dsimp only
    split
    · refine ⟨rfl, ⟨rfl, ?_, ?_, ?_, ?_⟩, fun x => .frame (by simp [EventPayload.experiment])⟩
      all_goals simp [EventPayload.type]
    · refine ⟨rfl, ⟨rfl, ?_, ?_, ?_, ?_⟩, fun x => .frame (by simp [EventPayload.experiment])⟩
      all_goals simp [EventPayload.type]
  | _ =>
    simp only [pure_eq_ok, observe] at h
    subst h
    refine ⟨rfl, ⟨rfl, ?_, ?_, ?_, ?_⟩, fun x => .frame (by simp [EventPayload.experiment])⟩
    all_goals first | (intros; rfl) | simp [EventPayload.type]

end TacoRank
