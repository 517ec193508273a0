import TacoRank.Orchestrator.ActiveExperiment

/-!
# Experiment timing

`experiment_timing` of `reporting/results.py` finds the event that ended an experiment by a scan of its own. The
scan knows decisions, abandonments and rollbacks. It does not know `RETURN_TO_PLANNER`, after which the projection
says `no_op`, and it does not see that a clean reproduction after the stop starts the node again.
`timing_agrees_iff` states which ledgers are free of both.
-/

namespace TacoRank
open Lib Lib.Result

/-- The `experiment_id` entries of a payload and of the dicts in it, in `experiment_events`. -/
def EventPayload.experimentIds : EventPayload → List String
  | .baselineVerified payload => [payload.experimentId, payload.evaluation.experimentId]
  | .contextCreated context => context.experimentId.toList
  | .bestUpdated payload => [payload.experimentId]
  | .finalSelected payload => [payload.experimentId]
  | payload => payload.experiment.toList

/-- `experiment_events`. -/
def experimentEvents (events : List Event) (experimentId : String) : List Event :=
  events.filter fun event => experimentId ∈ event.payload.experimentIds

/-- `_duration_seconds`. -/
def durationSeconds (start finish : Event) : ℚ :=
  max 0 ((finish.timestamp - start.timestamp : Int) / (10 ^ 6 : Nat))

/-- Seconds between starts and ends, such as `coding_seconds` and `coding_start`. -/
structure Stopwatch where
  seconds : ℚ := 0
  start : Option Event := none
deriving DecidableEq

def Stopwatch.started (watch : Stopwatch) (event : Event) : Stopwatch := { watch with start := some event }

def Stopwatch.stopped (watch : Stopwatch) (event : Event) : Stopwatch :=
  match watch.start with
  | some start => { seconds := watch.seconds + durationSeconds start event, start := none }
  | none => watch

/-- `coding_seconds` and `coding_start` after an event. -/
def codingWatch (watch : Stopwatch) (event : Event) : Stopwatch :=
  match event.payload with
  | .contextCreated context => if context.role = .coder then watch.started event else watch
  | .recoveryDecided decision => if decision.action = .traeRepair then watch.started event else watch
  | .patchCreated _ => watch.stopped event
  | .adapterFailed result => if result.failureStage = .coding then watch.stopped event else watch
  | _ => watch

/-- `execution_seconds` and `execution_start` after an event. -/
def executionWatch (watch : Stopwatch) (event : Event) : Stopwatch :=
  match event.payload with
  | .executionStarted _ => watch.started event
  | .executionFinished _ => watch.stopped event
  | .adapterFailed result => if result.failureStage = .execution then watch.stopped event else watch
  | _ => watch

/-- What a recovery decision adds to `recovery_seconds`. -/
def recoverySeconds (selected : List Event) (event : Event) : ℚ :=
  match event.payload with
  | .recoveryDecided decision =>
    match selected.reverse.find? (·.eventId = decision.failureEventId) with
    | some failure => durationSeconds failure event
    | none => 0
  | _ => 0

/-- The events that `experiment_timing` takes as the end of an experiment. -/
def EventPayload.endsTiming : EventPayload → Bool
  | .experimentDecided decision => decision.decision ≠ .promote
  | .recoveryDecided decision => decision.action ∈ [.abandon, .rollback]
  | _ => false

/-- The entries of `experiment_timing`. -/
structure ExperimentTiming where
  proposedAt : Option Int
  terminalAt : Option Int
  terminalEventId : Option EventId
  loopTimeSeconds : Option ℚ
  traeCodingTimeSeconds : ℚ
  executionTimeSeconds : ℚ
  recoveryTimeSeconds : ℚ
deriving DecidableEq

/-- `experiment_timing`. -/
def experimentTiming (events : List Event) (experimentId : String) : ExperimentTiming :=
  let selected := experimentEvents events experimentId
  let proposal := selected.find? (·.payload.type = .experimentProposed)
  let terminal := selected.find? (·.payload.endsTiming)
  { proposedAt := proposal.map (·.timestamp)
    terminalAt := terminal.map (·.timestamp)
    terminalEventId := terminal.map (·.eventId)
    loopTimeSeconds := proposal.bind fun start => terminal.map (durationSeconds start)
    traeCodingTimeSeconds := (selected.foldl codingWatch {}).seconds
    executionTimeSeconds := (selected.foldl executionWatch {}).seconds
    recoveryTimeSeconds := (selected.map (recoverySeconds selected)).sum }

/-! ### The law -/

/-- The node of an experiment is in a terminal status. -/
def TerminalAt (es : List Event) (x : String) : Prop :=
  ∃ n, nodeOf es x = some n ∧ n.status.terminal = true

/-- The node stays terminal from an event on. -/
def StaysTerminal (x : String) (pre : List Event) (e : Event) (post : List Event) : Prop :=
  ∀ a b, post = a ++ b → TerminalAt (pre ++ e :: a) x

/-- The timing of an experiment agrees with the projection on its end: the event it reports is the first one
from which on the node stays terminal. -/
structure TimingAgrees (es : List Event) (x : String) : Prop where
  reported : (experimentTiming es x).terminalEventId.isSome = true ↔ TerminalAt es x
  first : ∀ id, (experimentTiming es x).terminalEventId = some id →
    ∃ pre e post, es = pre ++ e :: post ∧ e.eventId = id ∧ StaysTerminal x pre e post ∧
      ∀ pre' e' post', es = pre' ++ e' :: post' → StaysTerminal x pre' e' post' → pre.length ≤ pre'.length

/-- An event that ends an experiment. -/
def Closes (x : String) (e : Event) : Prop := e.payload.experiment = some x ∧ e.payload.closes = true

/-- A request that runs an experiment. -/
def Requests (x : String) (e : Event) : Prop := ∃ q, e.payload = .executionStarted q ∧ q.experimentId = x

/-- The experiment was returned to the planner. -/
def ReturnedToPlanner (es : List Event) (x : String) : Prop :=
  ∃ e ∈ es, e.payload.experiment = some x ∧ e.payload.returnsToPlanner = true

/-- An execution of the experiment started after its end. -/
def Reopened (es : List Event) (x : String) : Prop :=
  ∃ pre e post, es = pre ++ e :: post ∧ Closes x e ∧ ∃ s ∈ post, Requests x s

/-! ### The end of an experiment -/

section Ledger
variable {es pre post : List Event} {e t : Event} {x : String}

/-- What an event does to a node that has ended: only a request after the stop writes to it. -/
lemma NodeStep.ended {r : Reducer} {m : ExperimentNode} {n' : Option ExperimentNode}
    (step : NodeStep es r e x (some m) n') (ended : m.status.terminal = true) :
    n' = some m ∧ e.payload.experiment ≠ some x ∨
      Requests x e ∧ r.state.status = .stopped ∧ ∃ m', n' = some m' ∧ m'.status.terminal = false := by
  have refuted {st : ExperimentStatus} {P : Prop} (status : m.status = st)
      (live : st.terminal = false) : P := by
    rw [status, live] at ended
    cases ended
  cases step with
  | frame other => exact .inl ⟨rfl, other⟩
  | patchCreated _ _ legal =>
    rcases legal.status with status | status | ⟨status, _⟩
    · exact refuted status rfl
    · exact refuted status rfl
    · exact refuted status rfl
  | patchChecked _ _ legal => exact refuted legal.status rfl
  | executionStarted payload owner legal =>
    by_cases stopped : r.state.status = .stopped
    · exact .inr ⟨⟨_, payload, owner⟩, stopped, _, rfl, rfl⟩
    · exact refuted (legal.runnable (by simpa using stopped)) rfl
  | executionFinished _ _ legal => exact refuted legal.status rfl
  | adapterFailed _ _ legal =>
    rcases mem_allowedFailureStates legal with status | ⟨status, _⟩
    · exact refuted rfl (FailureStage.expected_live status)
    · exact refuted status rfl
  | recoveryDecided _ _ legal => exact refuted legal.status rfl
  | outputChecked _ _ legal => exact refuted legal.status rfl
  | evaluationCompleted _ _ legal => exact refuted legal.status rfl
  | experimentDecided _ _ evidence _ =>
    cases evidence with
    | smoke _ status => exact refuted status rfl
    | evaluated _ status => exact refuted status rfl

lemma NodeStep.foreign {r : Reducer} {n n' : Option ExperimentNode} (step : NodeStep es r e x n n')
    (other : e.payload.experiment ≠ some x) : n' = n := by
  cases step with
  | frame => rfl
  | proposed payload owner | patchCreated payload owner | patchChecked payload owner
  | executionStarted payload owner | executionFinished payload owner | adapterFailed payload owner
  | recoveryDecided payload owner | outputChecked payload owner | evaluationCompleted payload owner
  | experimentDecided payload owner =>
    refine absurd ?_ other
    rw [payload, ← owner]
    rfl

/-- An event that ends an experiment leaves its node in a terminal status. -/
lemma NodeStep.closed {r : Reducer} {n n' : Option ExperimentNode} (step : NodeStep es r e x n n')
    (closes : Closes x e) : ∃ m, n' = some m ∧ m.status.terminal = true := by
  obtain ⟨own, closes⟩ := closes
  cases step with
  | frame other => exact absurd own other
  | @recoveryDecided d m payload =>
    refine ⟨_, rfl, ?_⟩
    rw [payload] at closes
    rw [Reducer.recoveryNode_status]
    unfold Reducer.recoveryStatus
    cases action : d.action with
    | abandon | rollback | returnToPlanner => rfl
    | _ => simp [EventPayload.closes, action] at closes
  | @experimentDecided d m payload =>
    refine ⟨_, rfl, ?_⟩
    rw [payload] at closes
    rw [ExperimentNode.decided_status]
    cases decision : d.decision with
    | promote => simp [EventPayload.closes, decision] at closes
    | _ => rfl
  | proposed payload | patchCreated payload | patchChecked payload | executionStarted payload
  | executionFinished payload | adapterFailed payload | outputChecked payload
  | evaluationCompleted payload =>
    rw [payload] at closes
    cases closes

/-- No experiment ends after the stop. -/
lemma dead_open {r : Reducer} (hr : replay es = .ok r) (ok : Accepted es e)
    (dead : ¬ Live r.state.status) : e.payload.closes = false := by
  have type := dead_type hr ok dead
  cases p : e.payload with
  | recoveryDecided d | experimentDecided d =>
    rw [p] at type
    rcases type with ⟨_, type⟩ | type <;> cases type
  | _ => rfl

/-- The one event of a ledger that ends the experiment, and what surrounds it. -/
structure ClosedBy (x : String) (es pre : List Event) (t : Event) (post : List Event) : Prop where
  split : es = pre ++ t :: post
  closes : Closes x t
  before : ∀ e ∈ pre, ¬ Closes x e
  after : ∀ e ∈ post, ¬ Closes x e

lemma ClosedBy.snoc (h : ClosedBy x es pre t post) (other : ¬ Closes x e) :
    ClosedBy x (es ++ [e]) pre t (post ++ [e]) := by
  obtain ⟨rfl, closes, before, after⟩ := h
  refine ⟨by simp, closes, before, fun g mem => ?_⟩
  rcases List.mem_append.mp mem with mem | mem
  · exact after g mem
  · rw [List.mem_singleton.mp mem]
    exact other

/-- The course of an experiment: it is open, or ended by one event, or started again after the stop. -/
inductive Course (x : String) (es : List Event) (status : RunStatus) : Option ExperimentNode → Prop where
  | fresh {n}
    (quiet : ∀ e ∈ es, ¬ Closes x e)
    (live : ∀ m, n = some m → m.status.terminal = false) : Course x es status n
  | closed {m pre t post}
    (by_ : ClosedBy x es pre t post)
    (idle : ∀ s ∈ post, ¬ Requests x s)
    (ended : m.status.terminal = true) : Course x es status (some m)
  | reopened {n pre t post s}
    (by_ : ClosedBy x es pre t post)
    (mem : s ∈ post)
    (requests : Requests x s)
    (live : ∀ m, n = some m → m.status.terminal = false)
    (dead : ¬ Live status) : Course x es status n

/-- An accepted event continues the course. -/
lemma Course.step {r r' : Reducer} {n n' : Option ExperimentNode} (h : Course x es r.state.status n)
    (hr : replay es = .ok r) (ok : Accepted es e) (step : r.step e = .ok r')
    (node : NodeStep es r e x n n') : Course x (es ++ [e]) r'.state.status n' := by
  have dies (dead : ¬ Live r.state.status) : ¬ Live r'.state.status :=
    fun live => dead (live_back hr ok step live)
  cases h with
  | fresh quiet live =>
    by_cases closes : Closes x e
    · obtain ⟨m, rfl, ended⟩ := node.closed closes
      have closed : ClosedBy x (es ++ [e]) es e [] := ⟨rfl, closes, quiet, by simp⟩
      exact .closed closed (by simp) ended
    · refine .fresh (fun g mem => ?_) ?_
      · rcases List.mem_append.mp mem with mem | mem
        · exact quiet g mem
        · rw [List.mem_singleton.mp mem]
          exact closes
      · by_cases own : e.payload.experiment = some x
        · exact node.live live (by simpa [Closes, own] using closes)
        · rw [node.foreign own]
          exact live
  | closed by_ idle ended =>
    rcases node.ended ended with ⟨rfl, other⟩ | ⟨requests, stopped, m', rfl, live⟩
    · refine .closed (by_.snoc fun closes => other closes.1) (fun s mem => ?_) ended
      rcases List.mem_append.mp mem with mem | mem
      · exact idle s mem
      · rw [List.mem_singleton.mp mem]
        rintro ⟨q, payload, owner⟩
        exact other (by rw [payload, ← owner]; rfl)
    · have dead : ¬ Live r.state.status := by simp [stopped, Live]
      refine .reopened (by_.snoc fun closes => ?_) (List.mem_append_right _ (by simp)) requests ?_ (dies dead)
      · have quiet := dead_open hr ok dead
        rw [closes.2] at quiet
        cases quiet
      · rintro _ ⟨⟩
        exact live
  | reopened by_ mem requests live dead =>
    have quiet := dead_open hr ok dead
    refine .reopened (by_.snoc fun closes => ?_) (List.mem_append_left _ mem) requests
      (node.live live quiet) (dies dead)
    rw [closes.2] at quiet
    cases quiet

lemma ValidLedger.course {r : Reducer} (v : ValidLedger es) (hr : TacoRank.replay es = .ok r) :
    Course x es r.state.status (r.state.experiments.get? x) := by
  refine v.run_induct (I := fun es r => Course x es r.state.status (r.state.experiments.get? x)) ?_ ?_ hr
  · exact .fresh (by simp) (by rintro _ ⟨⟩)
  · intro es e r r' _ hr ok step course
    exact course.step hr ok step (node_step hr ok step x)

/-- The event that ended an experiment stands at one place of the ledger. -/
lemma ClosedBy.unique {pre' post' : List Event} {t' : Event} (h : ClosedBy x es pre t post)
    (v : ValidLedger es) (split : es = pre' ++ t' :: post') (closes : Closes x t') :
    pre' = pre ∧ t' = t ∧ post' = post := by
  have mem : t' ∈ pre ++ t :: post := by
    rw [← h.split, split]
    simp
  have same : t' = t := by
    rcases List.mem_append.mp mem with mem | mem
    · exact absurd closes (h.before t' mem)
    · rcases List.mem_cons.mp mem with same | mem
      · exact same
      · exact absurd closes (h.after t' mem)
  subst same
  have here := (h.split ▸ v : ValidLedger (pre ++ t' :: post)).eventId
  have there := (split ▸ v : ValidLedger (pre' ++ t' :: post')).eventId
  rw [here] at there
  have lengths : pre'.length = pre.length := by
    simpa using there.symm
  obtain ⟨front, back⟩ := List.append_inj (split.symm.trans h.split) lengths
  exact ⟨front, rfl, (List.cons.inj back).2⟩

/-- A ledger that ends an experiment ends it once. -/
lemma ValidLedger.closedBy (v : ValidLedger es) (split : es = pre ++ t :: post) (closes : Closes x t) :
    ClosedBy x es pre t post := by
  obtain ⟨r, hr⟩ := v.replay
  have mem : t ∈ es := by
    rw [split]
    simp
  have course := v.course (x := x) hr
  generalize r.state.experiments.get? x = n at course
  cases course with
  | fresh quiet => exact absurd closes (quiet t mem)
  | closed by_ | reopened by_ =>
    obtain ⟨rfl, rfl, rfl⟩ := by_.unique v split closes
    exact by_

/-- An experiment is terminal when an event ended it and no execution of it started since. -/
lemma terminalAt_iff (v : ValidLedger es) : TerminalAt es x ↔
    ∃ pre t post, es = pre ++ t :: post ∧ Closes x t ∧ ∀ s ∈ post, ¬ Requests x s := by
  obtain ⟨r, hr⟩ := v.replay
  rw [TerminalAt, nodeOf_replay hr]
  have course := v.course (x := x) hr
  generalize r.state.experiments.get? x = n at course
  constructor
  · rintro ⟨m, rfl, ended⟩
    cases course with
    | fresh _ live | reopened _ _ _ live =>
      rw [live m rfl] at ended
      cases ended
    | closed by_ idle => exact ⟨_, _, _, by_.split, by_.closes, idle⟩
  · rintro ⟨pre, t, post, split, closes, idle⟩
    cases course with
    | fresh quiet => exact absurd closes (quiet t (by simp [split]))
    | closed _ _ ended => exact ⟨_, rfl, ended⟩
    | reopened by_ mem requests =>
      obtain ⟨rfl, rfl, rfl⟩ := by_.unique v split closes
      exact absurd requests (idle _ mem)

/-! ### The scan -/

/-- The scan sees the decisions of the experiment and no others. -/
lemma experimentIds_ends (ends : e.payload.endsTiming = true) :
    x ∈ e.payload.experimentIds ↔ e.payload.experiment = some x := by
  cases p : e.payload with
  | recoveryDecided d | experimentDecided d =>
    simp [EventPayload.experimentIds, EventPayload.experiment, eq_comm]
  | _ =>
    rw [p] at ends
    cases ends

/-- The scan knows every end but a return to the planner. -/
lemma endsTiming_eq : e.payload.endsTiming = (e.payload.closes && !e.payload.returnsToPlanner) := by
  cases p : e.payload with
  | recoveryDecided d =>
    cases action : d.action <;>
      simp [EventPayload.endsTiming, EventPayload.closes, EventPayload.returnsToPlanner, action]
  | _ => simp [EventPayload.endsTiming, EventPayload.closes, EventPayload.returnsToPlanner]

/-- The event that `experiment_timing` reports. -/
lemma terminalEventId_eq : (experimentTiming es x).terminalEventId =
    (es.find? fun e => e.payload.experiment = some x ∧ e.payload.endsTiming).map (·.eventId) := by
  have scan : (experimentEvents es x).find? (·.payload.endsTiming) =
      es.find? fun e => e.payload.experiment = some x ∧ e.payload.endsTiming := by
    rw [experimentEvents, List.find?_filter]
    refine congrArg (List.find? · es) (funext fun e => ?_)
    by_cases ends : e.payload.endsTiming = true
    · simp [ends, experimentIds_ends ends]
    · simp [ends]
  rw [← scan]
  rfl

/-- The scan finds the end, if it is no return to the planner. -/
lemma ClosedBy.reported (h : ClosedBy x es pre t post) : (experimentTiming es x).terminalEventId =
    if t.payload.returnsToPlanner then none else some t.eventId := by
  have quiet {front : List Event} (none : ∀ e ∈ front, ¬ Closes x e) :
      front.find? (fun e => e.payload.experiment = some x ∧ e.payload.endsTiming) = .none := by
    refine List.find?_eq_none.mpr fun e mem found => none e mem ?_
    simp only [endsTiming_eq, Bool.and_eq_true, decide_eq_true_eq] at found
    exact ⟨found.1, found.2.1⟩
  rw [terminalEventId_eq, h.split, List.find?_append, quiet h.before, Option.none_or, List.find?_cons]
  cases returned : t.payload.returnsToPlanner with
  | true =>
    have skipped : decide (t.payload.experiment = some x ∧ t.payload.endsTiming = true) = false := by
      simp [endsTiming_eq, returned]
    rw [skipped, quiet h.after]
    rfl
  | false => simp [endsTiming_eq, returned, h.closes.1, h.closes.2]

/-- Without an end nothing is reported. -/
lemma reported_open (quiet : ∀ e ∈ es, ¬ Closes x e) : (experimentTiming es x).terminalEventId = none := by
  rw [terminalEventId_eq, Option.map_eq_none_iff]
  refine List.find?_eq_none.mpr fun e mem found => quiet e mem ?_
  simp only [endsTiming_eq, Bool.and_eq_true, decide_eq_true_eq] at found
  exact ⟨found.1, found.2.1⟩

/-- A return to the planner ends an experiment. -/
lemma returned_closes (own : e.payload.experiment = some x) (returned : e.payload.returnsToPlanner = true) :
    Closes x e := by
  refine ⟨own, ?_⟩
  cases p : e.payload with
  | recoveryDecided d =>
    simp only [p, EventPayload.returnsToPlanner, decide_eq_true_eq] at returned
    simp [EventPayload.closes, returned]
  | _ =>
    rw [p] at returned
    cases returned

lemma ClosedBy.returned_iff (h : ClosedBy x es pre t post) :
    ReturnedToPlanner es x ↔ t.payload.returnsToPlanner = true := by
  constructor
  · rintro ⟨e, mem, own, returned⟩
    have closes := returned_closes own returned
    rw [h.split] at mem
    rcases List.mem_append.mp mem with mem | mem
    · exact absurd closes (h.before e mem)
    · rcases List.mem_cons.mp mem with rfl | mem
      · exact returned
      · exact absurd closes (h.after e mem)
  · intro returned
    exact ⟨t, by simp [h.split], h.closes.1, returned⟩

lemma ClosedBy.reopened_iff (h : ClosedBy x es pre t post) (v : ValidLedger es) :
    Reopened es x ↔ ∃ s ∈ post, Requests x s := by
  constructor
  · rintro ⟨pre', t', post', split, closes, s, mem, requests⟩
    obtain ⟨rfl, rfl, rfl⟩ := h.unique v split closes
    exact ⟨s, mem, requests⟩
  · rintro ⟨s, mem, requests⟩
    exact ⟨pre, t, post, h.split, h.closes, s, mem, requests⟩

lemma ClosedBy.terminal_iff (h : ClosedBy x es pre t post) (v : ValidLedger es) :
    TerminalAt es x ↔ ¬ Reopened es x := by
  rw [terminalAt_iff v, h.reopened_iff v]
  constructor
  · rintro ⟨pre', t', post', split, closes, idle⟩ ⟨s, mem, requests⟩
    obtain ⟨rfl, rfl, rfl⟩ := h.unique v split closes
    exact idle s mem requests
  · intro idle
    exact ⟨pre, t, post, h.split, h.closes, fun s mem requests => idle ⟨s, mem, requests⟩⟩

/-- The end is the first event from which on the node stays terminal. -/
lemma ClosedBy.first (h : ClosedBy x es pre t post) (v : ValidLedger es) (idle : ∀ s ∈ post, ¬ Requests x s) :
    StaysTerminal x pre t post ∧
      ∀ pre' e' post', es = pre' ++ e' :: post' → StaysTerminal x pre' e' post' → pre.length ≤ pre'.length := by
  obtain ⟨rfl, closes, before, after⟩ := h
  constructor
  · rintro a b rfl
    have front : ValidLedger (pre ++ t :: a) := by
      have whole : ValidLedger ((pre ++ t :: a) ++ b) := by simpa using v
      exact whole.take
    refine (terminalAt_iff front).mpr ⟨pre, t, a, rfl, closes, fun s mem => idle s ?_⟩
    exact List.mem_append_left b mem
  · intro pre' e' post' split stays
    by_contra short
    rcases List.append_eq_append_iff.mp split with ⟨a, rfl, rest⟩ | ⟨a, rfl, rest⟩
    · simp at short
    · cases a with
      | nil => simp at short
      | cons g a =>
        obtain ⟨rfl, rfl⟩ := List.cons.inj rest
        have front : ValidLedger (pre' ++ e' :: a) := v.take
        obtain ⟨c, u, d, same, ends, _⟩ := (terminalAt_iff front).mp (stays a _ rfl)
        exact before u (by simp [same]) ends

/-- The timing of an experiment agrees with the projection on its end exactly if the experiment was returned to
the planner and started again, or neither. -/
theorem timing_agrees_iff (v : ValidLedger es) (x : String) :
    TimingAgrees es x ↔ (ReturnedToPlanner es x ↔ Reopened es x) := by
  by_cases ended : ∃ t ∈ es, Closes x t
  · obtain ⟨t, mem, closes⟩ := ended
    obtain ⟨pre, post, split⟩ := List.append_of_mem mem
    have by_ := v.closedBy split closes
    have reported := by_.reported
    rw [by_.returned_iff]
    constructor
    · rintro ⟨agrees, _⟩
      rw [by_.terminal_iff v, reported] at agrees
      cases returned : t.payload.returnsToPlanner <;> simpa [returned] using agrees
    · intro same
      refine ⟨?_, fun id found => ?_⟩
      · rw [by_.terminal_iff v, ← same, reported]
        cases returned : t.payload.returnsToPlanner <;> simp
      · rw [reported] at found
        cases returned : t.payload.returnsToPlanner with
        | true => simp [returned] at found
        | false =>
          simp only [returned, Bool.false_eq_true, if_false, Option.some.injEq, false_iff] at found same
          have idle : ∀ s ∈ post, ¬ Requests x s :=
            fun s mem requests => same ((by_.reopened_iff v).mpr ⟨s, mem, requests⟩)
          exact ⟨pre, t, post, split, found, by_.first v idle⟩
  · have quiet : ∀ e ∈ es, ¬ Closes x e := fun e mem closes => ended ⟨e, mem, closes⟩
    have unreported := reported_open quiet
    have returned : ¬ ReturnedToPlanner es x := by
      rintro ⟨e, mem, own, returned⟩
      exact quiet e mem (returned_closes own returned)
    have reopened : ¬ Reopened es x := by
      rintro ⟨pre, t, post, rfl, closes, _⟩
      exact quiet t (by simp) closes
    refine iff_of_true ⟨?_, fun id found => ?_⟩ (iff_of_false returned reopened)
    · rw [unreported, terminalAt_iff v]
      refine iff_of_false (by simp) ?_
      rintro ⟨pre, t, post, rfl, closes, _⟩
      exact quiet t (by simp) closes
    · rw [unreported] at found
      cases found

end Ledger

/-- The experiment of `returnedRun` has ended in the projection, but not in its timing. -/
theorem returned_without_terminal_event : ValidLedger returnedRun ∧
    (nodeOf returnedRun "exp").map (·.status) = some .noOp ∧
    (experimentTiming returnedRun "exp").terminalEventId = none ∧ ¬ TimingAgrees returnedRun "exp" := by
  have unreported : (experimentTiming returnedRun "exp").terminalEventId = none := by decide +kernel
  have status : (nodeOf returnedRun "exp").map (·.status) = some .noOp := by decide +kernel
  refine ⟨.of_check (by decide +kernel), status, unreported, fun agrees => ?_⟩
  obtain ⟨n, node, noOp⟩ := Option.map_eq_some_iff.mp status
  have reported := agrees.reported.mpr ⟨n, node, by rw [noOp]; rfl⟩
  rw [unreported] at reported
  cases reported

/-- Up to the return the timing agrees. -/
theorem timing_agrees_iff_returned : ValidLedger (returnedRun.take 14) ∧ TimingAgrees (returnedRun.take 14) "exp" := by
  have v : ValidLedger (returnedRun.take 14) := .of_check (by decide +kernel)
  have idle : ∀ e ∈ returnedRun.take 14, e.payload.closes = false := by decide +kernel
  have quiet : ∀ e ∈ returnedRun.take 14, ¬ Closes "exp" e := by
    intro e mem closes
    simp [idle e mem, Closes] at closes
  refine ⟨v, (timing_agrees_iff v "exp").mpr (iff_of_false ?_ ?_)⟩
  · rintro ⟨e, mem, own, returned⟩
    exact quiet e mem (returned_closes own returned)
  · rintro ⟨pre, e, post, split, closes, _⟩
    exact quiet e (by simp [split]) closes

end TacoRank
