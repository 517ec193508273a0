import TacoRank.Lib.Interleaving
import TacoRank.Orchestrator.RunStep
import Mathlib.Logic.Equiv.Basic

/-!
# Renumbered ledgers

An event is referred to by its number, so moving events in a ledger renumbers them. A `Renumbering`
gives the new numbers of the events and of the public queries; it acts on every payload that refers
to an event, and on the nodes of the projection. `Reducer.nodeUpdate` reads the ledger only to find
the failure that a retry answers; with that lookup as an argument, a node is the result of the events
of its own experiment: `replay_nodes`.
-/

namespace TacoRank
open Lib Lib.Result

/-- New numbers for the events and for the public queries of a ledger. -/
structure Renumbering where
  event : Equiv.Perm EventId
  query : Nat → Nat

namespace Renumbering
variable (ρ : Renumbering)

def lesson (candidate : LessonCandidate) : LessonCandidate :=
  { candidate with sourceEventIds := candidate.sourceEventIds.map ρ.event }

def spec (spec : ExperimentSpec) : ExperimentSpec :=
  { spec with evidenceEventIds := spec.evidenceEventIds.map ρ.event }

def patch (candidate : PatchCandidate) : PatchCandidate :=
  { candidate with experimentSpecEventId := ρ.event candidate.experimentSpecEventId }

def recovery (decision : RecoveryDecision) : RecoveryDecision :=
  { decision with
    failureEventId := ρ.event decision.failureEventId
    lessonCandidate := decision.lessonCandidate.map ρ.lesson }

/-- The fields of a renumbered evaluation. -/
def fields (result : EvaluationFields) : EvaluationFields :=
  { result with
    publicQueryIndex := result.publicQueryIndex.map ρ.query
    seedEvidenceEventIds := result.seedEvidenceEventIds.map ρ.event }

lemma fields_valid {result : EvaluationFields} (valid : result.RouteValid) :
    (ρ.fields result).RouteValid := by
  obtain ⟨full, others, proxy, audit, final, seeds, nodup⟩ := valid
  refine ⟨fun population => ?_, fun population => ?_, proxy, audit, final, ?_, ?_⟩
  · obtain ⟨fidelity, index⟩ := full population
    exact ⟨fidelity, by rw [fields, Option.isSome_map, index]⟩
  · rw [fields, others population]
    rfl
  · rw [fields, List.length_map]
    exact seeds
  · exact nodup.map ρ.event.injective

def evaluation (result : EvaluationResult) : EvaluationResult where
  toEvaluationFields := ρ.fields result.toEvaluationFields
  validateEvaluationRoute := ρ.fields_valid result.validateEvaluationRoute

def decision (decision : ExperimentDecision) : ExperimentDecision :=
  { decision with
    evaluationEventId := decision.evaluationEventId.map ρ.event
    supportingEventIds := decision.supportingEventIds.map ρ.event
    lessonCandidate := decision.lessonCandidate.map ρ.lesson }

/-- A payload whose references follow the new numbers. -/
def payload : EventPayload → EventPayload
  | .baselineVerified payload =>
    .baselineVerified { payload with evaluation := ρ.evaluation payload.evaluation }
  | .experimentProposed spec => .experimentProposed (ρ.spec spec)
  | .patchCreated candidate => .patchCreated (ρ.patch candidate)
  | .recoveryDecided decision => .recoveryDecided (ρ.recovery decision)
  | .evaluationCompleted result => .evaluationCompleted (ρ.evaluation result)
  | .experimentDecided decision => .experimentDecided (ρ.decision decision)
  | .bestUpdated payload =>
    .bestUpdated { payload with decisionEventId := ρ.event payload.decisionEventId }
  | .lessonRecorded lessonId candidate => .lessonRecorded lessonId (ρ.lesson candidate)
  | .finalSelected payload =>
    .finalSelected { payload with
      reproductionEvaluationEventId := ρ.event payload.reproductionEvaluationEventId }
  | payload => payload

/-- A renumbered event. -/
def apply (e : Event) : Event :=
  { e with
    eventId := ρ.event e.eventId
    causationEventId := e.causationEventId.map ρ.event
    payload := ρ.payload e.payload }

/-- A node whose references follow the new numbers. -/
def node (n : ExperimentNode) : ExperimentNode :=
  { n with
    terminalEventId := n.terminalEventId.map ρ.event
    evidenceEventIds := n.evidenceEventIds.map ρ.event }

/-- A lesson whose source follows the new numbers. -/
def view (lesson : LessonView) : LessonView :=
  { lesson with sourceEventId := ρ.event lesson.sourceEventId }

@[simp] lemma payload_type {p : EventPayload} : (ρ.payload p).type = p.type := by
  cases p <;> rfl

@[simp] lemma payload_experiment {p : EventPayload} : (ρ.payload p).experiment = p.experiment := by
  cases p <;> rfl

@[simp] lemma payload_failureStage {p : EventPayload} :
    (ρ.payload p).failureStage = p.failureStage := by
  cases p <;> rfl

@[simp] lemma payload_queries {p : EventPayload} : (ρ.payload p).queries = p.queries := by
  cases p <;> rfl

@[simp] lemma payload_fulls {p : EventPayload} : (ρ.payload p).fulls = p.fulls := by
  cases p <;> rfl

end Renumbering

/-! ### Looking events up -/

/-- The status in which a retry resumes, with a lookup of events. -/
def resumed (find : EventId → Option Event) (decision : RecoveryDecision) : ExperimentStatus :=
  let failure := find decision.failureEventId
  let cause := (failure.bind (·.causationEventId)).bind find
  let stage := failure.bind (·.payload.failureStage)
  if stage = some .coding then .proposed
  else if stage = some .patchGate then .patchReady
  else if stage = some .outputGate then .outputReady
  else if stage = some .evaluation then
    if cause.map (·.payload.type) = some .evaluationCompleted then .evaluated else .outputVerified
  else .readyToRun

lemma retryTarget_resumed {r : Reducer} {decision : RecoveryDecision} :
    (r.retryTarget (r.eventById decision.failureEventId)).1 = resumed r.eventById decision := by
  unfold Reducer.retryTarget resumed Reducer.causedByEvaluation
  dsimp only
  generalize (r.eventById decision.failureEventId).bind (·.payload.failureStage) = stage
  generalize ((r.eventById decision.failureEventId).bind (·.causationEventId)).bind r.eventById = cause
  cases stage with
  | none => rfl
  | some stage =>
    cases stage with
    | evaluation =>
      cases cause with
      | none => rfl
      | some cause => by_cases type : cause.payload.type = .evaluationCompleted <;> simp [type]
    | _ => rfl

/-- A retry resumes alike wherever the failure is found with the same stage and kind of cause. -/
lemma resumed_congr {find find' : EventId → Option Event} {d d' : RecoveryDecision} {f f' : Event}
    (found : find d.failureEventId = some f) (found' : find' d'.failureEventId = some f')
    (stage : f.payload.failureStage = f'.payload.failureStage)
    (cause : (f.causationEventId.bind find).map (·.payload.type) =
      (f'.causationEventId.bind find').map (·.payload.type)) :
    resumed find d = resumed find' d' := by
  unfold resumed
  simp only [found, found', Option.bind_some, stage, cause]

/-- What an event makes of the node of its experiment, with a lookup of events. -/
def Event.cell (find : EventId → Option Event) (e : Event) (n : Option ExperimentNode) :
    Option ExperimentNode :=
  match e.payload with
  | .experimentProposed spec => some (.ofSpec spec)
  | .recoveryDecided decision =>
    n.map fun node =>
      if decision.action = .retrySameCommit then
        { node.recoveryCounted decision with status := resumed find decision }
      else ({} : Reducer).recoveryNode e.eventId decision node
  | _ => n.map (({} : Reducer).nodeUpdate e)

lemma nodeUpdate_cell {r : Reducer} {e : Event} {n : ExperimentNode}
    (old : ∀ spec, e.payload ≠ .experimentProposed spec) :
    some (r.nodeUpdate e n) = e.cell (r.observe e).eventById (some n) := by
  unfold Reducer.nodeUpdate Event.cell
  cases p : e.payload with
  | experimentProposed spec => exact absurd p (old spec)
  | recoveryDecided decision =>
    simp only [Option.map_some, Option.some.injEq]
    unfold Reducer.recoveryNode
    rw [retryTarget_resumed]
    cases decision.action <;> rfl
  | _ => simp only [Option.map_some, Reducer.nodeUpdate, p]

/-- The experiment whose node an event writes is its key. -/
def Event.experiment (e : Event) : Option String := e.payload.experiment

/-- A step writes to the cell of one experiment. -/
lemma RunStep.write {r r' : Reducer} {e : Event} (step : RunStep r r' e) :
    r'.state.experiments.get? =
      Log.write Event.experiment (Event.cell (r.observe e).eventById) r.state.experiments.get? e := by
  funext x
  have write := step.nodes x
  unfold Log.write Event.experiment
  generalize r.state.experiments.get? x = n at write ⊢
  generalize r'.state.experiments.get? x = n' at write ⊢
  cases write with
  | frame other => rw [if_neg other]
  | @proposed n spec payload owner =>
    rw [if_pos (by rw [payload, ← owner]; rfl), Event.cell, payload]
  | update owner old => rw [if_pos owner, nodeUpdate_cell old]

/-! ### Ledgers -/

/-- The events carry different numbers. -/
def Numbered (es : List Event) : Prop := (es.map Event.eventId).Nodup

/-- `events_by_id.get` on a whole ledger. -/
def lookup (es : List Event) (eventId : EventId) : Option Event := es.find? (·.eventId = eventId)

lemma lookup_eq {es : List Event} {e : Event} (numbered : Numbered es) (mem : e ∈ es) :
    lookup es e.eventId = some e := by
  induction es with
  | nil => cases mem
  | cons first rest ih =>
    obtain ⟨fresh, numbered⟩ := List.nodup_cons.mp numbered
    rcases List.mem_cons.mp mem with rfl | mem
    · simp [lookup]
    · have other : first.eventId ≠ e.eventId := by
        intro same
        exact fresh (same ▸ List.mem_map_of_mem mem)
      rw [lookup, List.find?_cons_of_neg (by simpa using other)]
      exact ih numbered mem

lemma Numbered.perm {es es' : List Event} (numbered : Numbered es) (perm : es.Perm es') :
    Numbered es' :=
  (perm.map Event.eventId).nodup_iff.mp numbered

lemma Numbered.front {pre post : List Event} (numbered : Numbered (pre ++ post)) : Numbered pre := by
  unfold Numbered at numbered
  rw [List.map_append] at numbered
  exact (List.nodup_append.mp numbered).1

/-- The events of a valid ledger are numbered from one. -/
lemma ValidLedger.ids {es : List Event} (v : ValidLedger es) :
    es.map Event.eventId = List.range' 1 es.length := by
  induction v with
  | nil => rfl
  | snoc _ ok ih =>
    rw [List.map_append, ih, List.map_singleton, ok.1, List.length_append, List.length_singleton,
      List.range'_1_concat, Nat.add_comm 1]

lemma ValidLedger.numbered {es : List Event} (v : ValidLedger es) : Numbered es := by
  unfold Numbered
  rw [v.ids]
  exact List.nodup_range'

/-- An event is caused by an event before it, as the schema of an event demands. -/
def Caused (pre : List Event) (e : Event) : Prop :=
  ∀ c ∈ e.causationEventId, ∃ g ∈ pre, g.eventId = c

/-- A recovery decision answers a failure of its experiment before it, whose cause is known. -/
def Grounded (pre : List Event) (e : Event) : Prop :=
  ∀ d, e.payload = .recoveryDecided d → ∃ f ∈ pre, f.eventId = d.failureEventId ∧
    f.payload.experiment = some d.experimentId ∧ Caused pre f

lemma ValidLedger.grounded {es : List Event} (v : ValidLedger es) (caused : Log.Valid Caused es) :
    Log.Valid Grounded es := by
  induction v with
  | nil => exact .nil
  | @snoc es e v ok ih =>
    obtain ⟨caused, _⟩ := caused.snoc_inv
    refine (ih caused).snoc fun d payload => ?_
    obtain ⟨r, hr⟩ := ValidLedger.replay v
    obtain ⟨_, branch⟩ := ok.branch hr (by simp [payload, EventPayload.type])
    rw [payload] at branch
    obtain ⟨n, _, legal⟩ := validateRecoveryDecided_ok.mp branch
    obtain ⟨f, latest, same⟩ := legal.failure
    obtain ⟨mem, owned⟩ := latestRecoverableFailure_mem latest
    refine ⟨f, mem, same.symm, EventPayload.recoverableFailure_owned owned, fun c cause => ?_⟩
    obtain ⟨front, back, rfl⟩ := List.append_of_mem mem
    obtain ⟨g, before, found⟩ := caused.accepted c cause
    exact ⟨g, List.mem_append_left _ before, found⟩

lemma replay_eventsById {es : List Event} {r : Reducer} (hr : replay es = .ok r) :
    r.eventsById = es.reverse := by
  induction es using List.reverseRecOn generalizing r with
  | nil =>
    cases hr
    rfl
  | append_singleton es e ih =>
    obtain ⟨r0, hr0, step⟩ := replay_snoc_inv hr
    rw [(Reducer.step_inv step).byId, ih hr0, List.reverse_concat]

/-- While a ledger is replayed, a retry finds what it finds in the whole ledger. -/
lemma resumed_lookup {pre post : List Event} {e : Event} {r : Reducer} {d : RecoveryDecision}
    (numbered : Numbered (pre ++ e :: post)) (hr : replay pre = .ok r) (grounded : Grounded pre e)
    (payload : e.payload = .recoveryDecided d) :
    resumed (r.observe e).eventById d = resumed (lookup (pre ++ e :: post)) d := by
  have split : pre ++ e :: post = (pre ++ [e]) ++ post := by simp
  have order : (e :: pre.reverse).Perm (pre ++ [e]) := by
    have reversed := List.reverse_perm (pre ++ [e])
    rwa [List.reverse_concat] at reversed
  have near : Numbered (e :: pre.reverse) := by
    rw [split] at numbered
    exact numbered.front.perm order.symm
  have agree : ∀ f ∈ pre, (r.observe e).eventById f.eventId = some f ∧
      lookup (pre ++ e :: post) f.eventId = some f := by
    intro f mem
    have here : (r.observe e).eventById f.eventId = lookup (e :: pre.reverse) f.eventId := by
      unfold Reducer.eventById Reducer.observe
      rw [replay_eventsById hr]
      rfl
    rw [here]
    exact ⟨lookup_eq near (by simp [mem]), lookup_eq numbered (by simp [mem])⟩
  obtain ⟨f, mem, same, _, caused⟩ := grounded d payload
  obtain ⟨found, found'⟩ := agree f mem
  rw [same] at found found'
  refine resumed_congr found found' rfl ?_
  cases cause : f.causationEventId with
  | none => rfl
  | some c =>
    obtain ⟨g, before, rfl⟩ := caused c cause
    obtain ⟨near, far⟩ := agree g before
    rw [Option.bind_some, Option.bind_some, near, far]

lemma cell_congr {find find' : EventId → Option Event} {e : Event}
    (same : ∀ d, e.payload = .recoveryDecided d → resumed find d = resumed find' d) :
    e.cell find = e.cell find' := by
  funext n
  unfold Event.cell
  cases p : e.payload with
  | recoveryDecided d => simp only [same d p]
  | _ => rfl

/-- The nodes of a replay: every experiment has the events of its own. -/
theorem replay_nodes {es : List Event} {r : Reducer} (grounded : Log.Valid Grounded es)
    (numbered : Numbered es) (hr : replay es = .ok r) :
    r.state.experiments.get? =
      es.foldl (Log.write Event.experiment (Event.cell (lookup es))) fun _ => none := by
  have front : ∀ pre post r, es = pre ++ post → replay pre = .ok r → r.state.experiments.get? =
      pre.foldl (Log.write Event.experiment (Event.cell (lookup es))) fun _ => none := by
    intro pre
    induction pre using List.reverseRecOn with
    | nil =>
      intro _ _ _ hr
      cases hr
      rfl
    | append_singleton pre e ih =>
      intro post r split hr
      obtain ⟨r0, hr0, step⟩ := replay_snoc_inv hr
      rw [List.append_assoc, List.singleton_append] at split
      have before := ih (e :: post) r0 split hr0
      subst split
      rw [(Reducer.step_inv step).write, List.foldl_append, List.foldl_cons, List.foldl_nil, before]
      have same : e.cell (r0.observe e).eventById = e.cell (lookup (pre ++ e :: post)) :=
        cell_congr fun d payload => resumed_lookup numbered hr0 grounded.accepted payload
      funext x
      unfold Log.write
      rw [same]
  exact front es [] r (by simp) hr

end TacoRank
