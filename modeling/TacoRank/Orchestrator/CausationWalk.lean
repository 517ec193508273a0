import TacoRank.Orchestrator.Attempts
import TacoRank.Orchestrator.Confirmations
import TacoRank.Orchestrator.Provenance

/-!
# The causation walk

The harness and its adapters follow causation ids from an evaluation to the execution behind it; the state
machine looks for the last request. A recovery decision takes its place in the chain when the output gate or
the evaluator is retried, and the walk has a fixed number of steps: both agree exactly when no recovery has
been decided since the last execution finished (`walk_agrees_iff`).
-/

namespace TacoRank
open Lib Lib.Result

/-- `result.fidelity` of an event, if its payload has one. -/
def EventPayload.resultFidelity : EventPayload → Option Fidelity
  | .executionFinished result => some result.fidelity
  | .evaluationCompleted result => some result.fidelity
  | _ => none

/-- `_output_fidelity`; it raises when the event behind the output has no result with a fidelity. -/
def outputFidelity (events : List Event) (output : Event) : Option Fidelity :=
  ((events.reverse.find? fun item => some item.eventId = output.causationEventId).bind
    fun item => item.payload.resultFidelity)

/-- The walks from an evaluation reach the request that the state machine resolves for it. -/
structure WalksTo (es pre : List Event) (e : Event) (result : EvaluationResult) (s o : Event)
    (q : RunRequest) : Prop where
  started : lastForExperiment .executionStarted pre result.experimentId = some (s, q)
  resolved : evaluationRequest pre result = .ok q
  identity : executionIdentity es e = some (s, q)
  request : executionRequestOf es e.causationEventId = .ok q
  output : eventById es e.causationEventId = some o
  fidelity : outputFidelity es o = some q.fidelity

/-- Both layers agree on the execution behind an evaluation. -/
def WalkAgrees (es pre : List Event) (e : Event) (result : EvaluationResult) : Prop :=
  ∃ s o q, WalksTo es pre e result s o q

/-- No recovery has been decided since the last execution finished. -/
def Straight (t : List Event) : Prop :=
  ∃ f, newest (ofTypes [.executionFinished, .recoveryDecided]) t = some f ∧
    f.payload.type = .executionFinished

lemma straight_iff_type {t : List Event} : Straight t ↔
    (newest (ofTypes [.executionFinished, .recoveryDecided]) t).map (fun f => f.payload.type) =
      some .executionFinished := by
  rw [Option.map_eq_some_iff]
  rfl

section Walk
variable {h : Harness} {x : String} {es pre mid post : List Event} {e f g o s : Event} {q : RunRequest}
  {run : RunResult} {out : OutputCheckResult} {result : EvaluationResult}

lemma newest_at {p : EventPayload → Bool} {t t' : List Event} (selected : p e.payload = true)
    (silent : ∀ e' ∈ t', p e'.payload = false) : newest p (t ++ e :: t') = some e := by
  unfold newest
  exact Log.lastSome_at (if_pos selected) fun e' mem => if_neg (by simp [silent e' mem])

/-- What follows the last event of a kind holds none of its type. -/
lemma ValidLedger.silent_after {β : Type} {kind : EventKind β} {data : β} {type : EventType}
    (v : ValidLedger (pre ++ e :: post)) (reads : ∀ payload, payload.type = type → (kind.read payload).isSome)
    (last : lastForExperiment kind (pre ++ e :: post) x = some (e, data)) :
    ∀ e' ∈ trace x post, e'.payload.type ≠ type := by
  intro e' mem typed
  obtain ⟨pre', post', split, _, _, silent⟩ := lastForExperiment_split last
  obtain ⟨_, _, same⟩ := v.unique split rfl
  obtain ⟨listed, own⟩ := mem_trace.mp mem
  obtain ⟨found, read⟩ := Option.isSome_iff_exists.mp (reads e'.payload typed)
  have unread := silent e' (same ▸ listed)
  have owner : some (kind.experimentId found) = some x := by
    have owned := kind.owned found
    rw [← kind.read_eq read] at owned
    rw [← owned]
    exact owned ▸ EventPayload.owner_experiment owned ▸ own
  rw [EventKind.ofExperiment_self read (Option.some.inj owner)] at unread
  cases unread

/-- The events behind an evaluation, in their order. -/
structure Behind (x : String) (pre : List Event) (s f o : Event) (q : RunRequest) (a b d r : List Event) :
    Prop where
  split : pre = a ++ s :: (b ++ f :: (d ++ o :: r))
  started : s.payload = .executionStarted q ∧ q.experimentId = x
  finished : ∃ run, f.payload = .executionFinished run ∧ run.experimentId = x ∧ run.fidelity = q.fidelity
  checked : ∃ out, o.payload = .outputChecked out ∧ out.experimentId = x
  lastStarted : ∀ e ∈ trace x (b ++ f :: (d ++ o :: r)), e.payload.type ≠ .executionStarted
  lastFinished : ∀ e ∈ trace x (d ++ o :: r), e.payload.type ≠ .executionFinished
  lastChecked : ∀ e ∈ trace x r, e.payload.type ≠ .outputChecked

lemma VerifiedRun.behind {c : Event} (v : ValidLedger pre) (verified : VerifiedRun pre x c s f o q run out) :
    ∃ a b d r, Behind x pre s f o q a b d r := by
  have ordered : [s, f, o].Sublist pre := (List.sublist_cons_self c [s, f, o]).trans verified.order
  obtain ⟨front, rest, rfl, hs, later⟩ := List.cons_sublist_iff.mp ordered
  obtain ⟨mid, rest, rfl, hf, latest⟩ := List.cons_sublist_iff.mp later
  obtain ⟨a, b, rfl⟩ := List.append_of_mem hs
  obtain ⟨b', d, rfl⟩ := List.append_of_mem hf
  obtain ⟨d', r, rfl⟩ := List.append_of_mem (List.singleton_sublist.mp latest)
  have started := lastForExperiment_payload verified.run.run.started
  have finished := lastForExperiment_payload verified.run.finished
  have checked := lastForExperiment_payload verified.checked
  have split : a ++ s :: b ++ (b' ++ f :: d ++ (d' ++ o :: r)) =
      a ++ s :: ((b ++ b') ++ f :: ((d ++ d') ++ o :: r)) := by simp
  have split' : a ++ s :: b ++ (b' ++ f :: d ++ (d' ++ o :: r)) =
      (a ++ s :: (b ++ b')) ++ f :: ((d ++ d') ++ o :: r) := by simp
  have split'' : a ++ s :: b ++ (b' ++ f :: d ++ (d' ++ o :: r)) =
      (a ++ s :: (b ++ b' ++ f :: (d ++ d'))) ++ o :: r := by simp
  have lastStarted := verified.run.run.started
  have lastFinished := verified.run.finished
  have lastChecked := verified.checked
  have v' := v
  have v'' := v
  rw [split] at v lastStarted
  rw [split'] at v' lastFinished
  rw [split''] at v'' lastChecked
  refine ⟨a, b ++ b', d ++ d', r, split, started, ⟨run, finished.1, finished.2, verified.run.answers.2.1⟩,
    ⟨out, checked⟩, v.silent_after ?_ lastStarted, v'.silent_after ?_ lastFinished,
    v''.silent_after ?_ lastChecked⟩
  all_goals
    intro payload type
    cases payload <;> first | rfl | cases type

/-- The cause of a recovery decision is a recovery context, and the cause of the context no request. -/
lemma LaneLedger.recovery_causes (v : LaneLedger h x es) (mem : g ∈ trace x es)
    (recovery : g.payload.type = .recoveryDecided) : ∃ c f, eventById es g.causationEventId = some c ∧
      c.payload.type = .contextCreated ∧ eventById es c.causationEventId = some f ∧
      f.payload.type ≠ .executionStarted := by
  obtain ⟨decision, payload⟩ : ∃ decision, g.payload = .recoveryDecided decision := by
    cases payload : g.payload with
    | recoveryDecided decision => exact ⟨decision, rfl⟩
    | _ =>
      rw [payload] at recovery
      cases recovery
  obtain ⟨listed, own⟩ := mem_trace.mp mem
  obtain ⟨pre, post, rfl⟩ := List.append_of_mem listed
  have rule := v.rule own
  simp only [Rule, payload] at rule
  obtain ⟨c, before, cause, context, built, role⟩ := rule
  obtain ⟨early, own'⟩ := mem_trace.mp before
  have known : c ∈ pre ++ g :: post := List.mem_append_left _ early
  obtain ⟨pre', mid, rfl⟩ := List.append_of_mem early
  have assoc : pre' ++ c :: mid ++ g :: post = pre' ++ c :: (mid ++ g :: post) := by simp
  have rule := LaneLedger.rule (assoc ▸ v) own'
  simp only [Rule, built] at rule
  obtain ⟨f, first, cause', other⟩ := rule role
  have found : f ∈ pre' ++ c :: mid ++ g :: post := by
    rw [assoc]
    exact List.mem_append_left _ (mem_trace.mp first).1
  refine ⟨c, f, ?_, by rw [built]; rfl, ?_, other⟩
  · rw [cause]
    exact v.valid.findEvent known
  · rw [cause']
    exact v.valid.findEvent found

/-- The newest event of a type that is absent behind another event. -/
lemma newest_finished_or_recovery {t : List Event} {types : List EventType} {p : EventType}
    (absent : ∀ e ∈ t, e.payload.type ≠ p) (found : newest (ofTypes (p :: types)) t = some g) :
    g.payload.type ∈ types := by
  obtain ⟨mem, selected⟩ := newest_mem found
  have type := of_decide_eq_true selected
  exact (List.mem_cons.mp type).resolve_left (absent g mem)

/-- An event of a type is the newest one of some types before a part without them. -/
lemma CausedBy.at {types : List EventType} {t t' : List Event} (caused : CausedBy (ofTypes types) (t ++ e :: t') g)
    (type : e.payload.type ∈ types) (silent : ∀ e' ∈ t', e'.payload.type ∉ types) :
    g.causationEventId = some e.eventId := by
  obtain ⟨cause, found, named⟩ := caused
  rw [newest_at (decide_eq_true type) fun e' mem => decide_eq_false (silent e' mem)] at found
  rw [named, Option.some.inj found]

/-- Where one of the types follows, the newest event is among what follows. -/
lemma newest_later {types : List EventType} (t : List Event) {t' : List Event}
    (later : ∃ e' ∈ t', e'.payload.type ∈ types) :
    ∃ c ∈ t', newest (ofTypes types) (t ++ t') = some c ∧ newest (ofTypes types) t' = some c := by
  obtain ⟨e', mem, type⟩ := later
  cases found : newest (ofTypes types) t' with
  | none =>
    have unselected := newest_none.mp found e' mem
    rw [ofTypes, decide_eq_false_iff_not] at unselected
    exact absurd type unselected
  | some c => exact ⟨c, (newest_mem found).1, by rw [newest_append, found, Option.some_or], rfl⟩

/-- Behind an event of a type that is not repeated, one of the other types is the cause where it follows. -/
lemma CausedBy.later {p : EventType} {types : List EventType} {t t' : List Event}
    (caused : CausedBy (ofTypes (p :: types)) (t ++ e :: t') g) (absent : ∀ e' ∈ t', e'.payload.type ≠ p)
    (later : ∃ e' ∈ t', e'.payload.type ∈ types) :
    ∃ c ∈ t', c.payload.type ∈ types ∧ g.causationEventId = some c.eventId := by
  obtain ⟨cause, found, named⟩ := caused
  obtain ⟨e', mem, type⟩ := later
  obtain ⟨c, member, newestC, last⟩ := newest_later (t ++ [e]) ⟨e', mem, List.mem_cons_of_mem p type⟩
  rw [List.append_assoc, List.singleton_append, found] at newestC
  cases newestC
  exact ⟨cause, member, newest_finished_or_recovery absent last, named⟩

/-- The walk ends before a request where it meets a recovery decision. -/
lemma LaneLedger.recovered_output (v : LaneLedger h x es) (mem : g ∈ trace x es)
    (recovery : g.payload.type = .recoveryDecided) (cause : e.causationEventId = some g.eventId) :
    executionIdentity es e = none := by
  obtain ⟨c, f, context, _, first, other⟩ := v.recovery_causes mem recovery
  have output := v.valid.findEvent (mem_trace.mp mem).1
  rw [executionIdentity, cause, output]
  simp only [Option.bind_eq_bind, Option.bind_some, context, first]
  cases request : f.payload with
  | executionStarted q =>
    rw [request] at other
    exact absurd rfl other
  | _ => rfl

lemma LaneLedger.recovered_finish (v : LaneLedger h x es) (mem : g ∈ trace x es)
    (recovery : g.payload.type = .recoveryDecided) (output : eventById es e.causationEventId = some o)
    (cause : o.causationEventId = some g.eventId) : executionIdentity es e = none := by
  obtain ⟨c, _, context, type, _⟩ := v.recovery_causes mem recovery
  have finished := v.valid.findEvent (mem_trace.mp mem).1
  rw [executionIdentity, output]
  simp only [Option.bind_eq_bind, Option.bind_some, cause, finished, context]
  cases request : c.payload with
  | executionStarted q =>
    rw [request] at type
    cases type
  | _ => rfl

end Walk

section Lookup
variable {es : List Event} {e : Event}

/-- The walk of the evaluation bridge finds an event of the right type by its id. -/
lemma ValidLedger.causeOf {β : Type} {read : EventPayload → Option β} {data : β} (v : ValidLedger es) (mem : e ∈ es)
    (reads : read e.payload = some data) : TacoRank.causeOf read es (some e.eventId) = some (e, data) := by
  obtain ⟨pre, post, rfl⟩ := List.append_of_mem mem
  exact v.eventWithId reads

/-- The fidelity behind an output whose cause is known. -/
lemma ValidLedger.outputFidelity {output : Event} (v : ValidLedger es) (mem : e ∈ es)
    (cause : output.causationEventId = some e.eventId) :
    TacoRank.outputFidelity es output = e.payload.resultFidelity := by
  unfold TacoRank.outputFidelity
  rw [cause]
  cases found : es.reverse.find? fun item => some item.eventId = some e.eventId with
  | none => exact absurd (List.find?_eq_none.mp found e (List.mem_reverse.mpr mem)) (by simp)
  | some f =>
    have id := List.find?_some found
    simp only [decide_eq_true_eq, Option.some.injEq] at id
    rw [v.eq_of_id (List.mem_reverse.mp (List.mem_of_find?_eq_some found)) mem id]
    rfl

end Lookup

section Agreement
variable {h : Harness} {x : String} {pre post a b d r : List Event} {e s f o : Event} {q : RunRequest}
  {result : EvaluationResult}

/-- The causes of an evaluation, of the output behind it and of the execution behind that. -/
structure Causes (x : String) (e s f o : Event) (front d r : List Event) : Prop where
  started : f.causationEventId = some s.eventId
  output : CausedBy (ofTypes [.executionFinished, .recoveryDecided]) (front ++ f :: trace x d) o
  evaluation : CausedBy (ofTypes [.outputChecked, .recoveryDecided]) (front ++ f :: (trace x d ++ o :: trace x r)) e

lemma Behind.trace (behind : Behind x pre s f o q a b d r) :
    TacoRank.trace x pre = TacoRank.trace x (a ++ s :: b) ++ f :: (TacoRank.trace x d ++ o :: TacoRank.trace x r) := by
  obtain ⟨run, finished, ofX, _⟩ := behind.finished
  obtain ⟨out, checked, ofX'⟩ := behind.checked
  have ownFinished : f.owner = some x := by
    rw [Event.owner, finished, ← ofX]
    rfl
  have ownChecked : o.owner = some x := by
    rw [Event.owner, checked, ← ofX']
    rfl
  have regroup : pre = (a ++ s :: b) ++ f :: (d ++ o :: r) := by
    rw [behind.split]
    simp
  rw [regroup, trace_split ownFinished, trace_split ownChecked]

/-- What the rules of the experiment say of these causes. -/
lemma LaneLedger.causes (v : LaneLedger h x (pre ++ e :: post)) (behind : Behind x pre s f o q a b d r)
    (payload : e.payload = .evaluationCompleted result) (own : e.owner = some x) :
    Causes x e s f o (trace x (a ++ s :: b)) d r := by
  obtain ⟨run, finished, ofX, _⟩ := behind.finished
  obtain ⟨out, checked, ofX'⟩ := behind.checked
  have ownStarted : s.owner = some x := by
    rw [Event.owner, behind.started.1, ← behind.started.2]
    rfl
  have ownFinished : f.owner = some x := by
    rw [Event.owner, finished, ← ofX]
    rfl
  have ownChecked : o.owner = some x := by
    rw [Event.owner, checked, ← ofX']
    rfl
  have traced := behind.trace
  have atEvaluation := v.rule own
  simp only [Rule, payload] at atEvaluation
  have atFinish : pre ++ e :: post = (a ++ s :: b) ++ f :: ((d ++ o :: r) ++ e :: post) := by
    rw [behind.split]
    simp
  have atOutput : pre ++ e :: post = ((a ++ s :: b) ++ f :: d) ++ o :: (r ++ e :: post) := by
    rw [behind.split]
    simp
  have ruleFinish := LaneLedger.rule (atFinish ▸ v) ownFinished
  have ruleOutput := LaneLedger.rule (atOutput ▸ v) ownChecked
  simp only [Rule, finished] at ruleFinish
  simp only [Rule, checked] at ruleOutput
  rw [trace_split ownStarted] at ruleFinish
  rw [trace_split ownFinished] at ruleOutput
  refine ⟨ruleFinish.at (by rw [behind.started.1]; exact List.mem_singleton_self _) ?_, ruleOutput,
    traced ▸ atEvaluation.1⟩
  intro e' mem type
  have listed : e' ∈ trace x (b ++ f :: (d ++ o :: r)) := by
    obtain ⟨member, own'⟩ := mem_trace.mp mem
    exact mem_trace.mpr ⟨List.mem_append_left _ member, own'⟩
  exact behind.lastStarted e' listed (List.mem_singleton.mp type)

/-- What follows the finished execution of an output on the lane. -/
lemma Behind.silent (behind : Behind x pre s f o q a b d r) :
    ∀ e' ∈ TacoRank.trace x d ++ o :: TacoRank.trace x r, e'.payload.type ≠ .executionFinished := by
  have last := behind.lastFinished
  obtain ⟨out, checked, ofX⟩ := behind.checked
  rwa [trace_split (by rw [Event.owner, checked, ← ofX]; rfl)] at last

/-- The lane is straight where no recovery follows the finished execution. -/
lemma Behind.straight_iff (behind : Behind x pre s f o q a b d r) : Straight (TacoRank.trace x pre) ↔
    ∀ e' ∈ TacoRank.trace x d ++ o :: TacoRank.trace x r, e'.payload.type ≠ .recoveryDecided := by
  obtain ⟨run, finished, _, _⟩ := behind.finished
  have type : f.payload.type = .executionFinished := by
    rw [finished]
    rfl
  rw [Straight, behind.trace]
  constructor
  · rintro ⟨g, found, kind⟩ e' mem recovery
    have selected : e'.payload.type ∈ [EventType.executionFinished, .recoveryDecided] := by simp [recovery]
    obtain ⟨c, _, newestC, last⟩ := newest_later (TacoRank.trace x (a ++ s :: b) ++ [f]) ⟨e', mem, selected⟩
    rw [List.append_assoc, List.singleton_append, found] at newestC
    cases newestC
    have other := newest_finished_or_recovery behind.silent last
    rw [kind] at other
    cases List.mem_singleton.mp other
  · intro calm
    refine ⟨f, newest_at (decide_eq_true (by simp [type])) fun e' mem => decide_eq_false ?_, type⟩
    simp [behind.silent e' mem, calm e' mem]

/-- In a ledger that keeps the rules of an experiment the walks from an evaluation agree with the state machine
exactly when no recovery has been decided since the execution finished. -/
lemma LaneLedger.walk_agrees (v : LaneLedger h x (pre ++ e :: post)) (payload : e.payload = .evaluationCompleted result)
    (owner : result.experimentId = x) :
    WalkAgrees (pre ++ e :: post) pre e result ↔ Straight (trace x pre) := by
  subst owner
  have own : e.owner = some result.experimentId := by
    rw [Event.owner, payload]
    rfl
  obtain ⟨r, n, q, hr, node, legal⟩ := v.valid.evaluation_inv payload
  have verified := v.valid.front.evidence hr result.experimentId n node
  rw [standing_of_status (by simp [legal.status]), legal.status] at verified
  obtain ⟨c, s, f, o, q', run, out, verified⟩ := verified
  have started := verified.run.run.started
  obtain ⟨found, hs, same⟩ := legal.request.started
  rw [started] at hs
  cases hs
  cases same
  obtain ⟨check, provenance⟩ := verified.provenance rfl legal.request.attempt
  obtain ⟨a, b, d, r, behind⟩ := verified.behind v.valid.front
  have causes := v.causes behind payload own
  rw [behind.straight_iff]
  have ledger (e' : Event) (mem : e' ∈ trace result.experimentId d ++ o :: trace result.experimentId r) :
      e' ∈ trace result.experimentId (pre ++ e :: post) := by
    have early : e' ∈ trace result.experimentId pre := by
      rw [behind.trace]
      exact List.mem_append_right _ (List.mem_cons_of_mem f mem)
    obtain ⟨listed, own'⟩ := mem_trace.mp early
    exact mem_trace.mpr ⟨List.mem_append_left _ listed, own'⟩
  have lookup (e' : Event) (mem : e' ∈ pre) : eventById (pre ++ e :: post) (some e'.eventId) = some e' :=
    v.valid.findEvent (List.mem_append_left _ mem)
  have evaluated := causes.evaluation
  rw [← List.cons_append, ← List.append_assoc] at evaluated
  obtain ⟨out', checked, _⟩ := behind.checked
  obtain ⟨run', finished, _, sameFidelity⟩ := behind.finished
  constructor
  · rintro ⟨s', o', q'', walks⟩ g mem recovery
    have nowhere : executionIdentity (pre ++ e :: post) e = none := by
      by_cases late : ∃ e' ∈ trace result.experimentId r, e'.payload.type ∈ [EventType.recoveryDecided]
      · obtain ⟨g, later, type, cause⟩ := evaluated.later behind.lastChecked late
        exact v.recovered_output (ledger g (List.mem_append_right _ (List.mem_cons_of_mem o later)))
          (List.mem_singleton.mp type) cause
      · have early : g ∈ trace result.experimentId d := by
          rcases List.mem_append.mp mem with early | later
          · exact early
          · rcases List.mem_cons.mp later with rfl | later
            · rw [checked] at recovery
              cases recovery
            · exact absurd ⟨g, later, List.mem_singleton.mpr recovery⟩ late
        have cause := evaluated.at (by rw [checked]; exact List.mem_cons_self) fun e' later type => by
          rcases List.mem_cons.mp type with check | recovered
          · exact behind.lastChecked e' later check
          · exact late ⟨e', later, recovered⟩
        obtain ⟨g, mem', type, cause'⟩ := causes.output.later
          (fun e' mem' => behind.silent e' (List.mem_append_left _ mem'))
          ⟨g, early, List.mem_singleton.mpr recovery⟩
        refine v.recovered_finish (ledger g (List.mem_append_left _ mem')) (List.mem_singleton.mp type) ?_ cause'
        rw [cause]
        exact lookup o (by rw [behind.split]; simp)
    rw [walks.identity] at nowhere
    cases nowhere
  · intro calm
    have toOutput := evaluated.at (by rw [checked]; exact List.mem_cons_self) fun e' later type => by
      rcases List.mem_cons.mp type with check | recovered
      · exact behind.lastChecked e' later check
      · exact calm e' (List.mem_append_right _ (List.mem_cons_of_mem o later)) (List.mem_singleton.mp recovered)
    have toFinish := causes.output.at (by rw [finished]; exact List.mem_cons_self) fun e' mem type => by
      rcases List.mem_cons.mp type with finish | recovered
      · exact behind.silent e' (List.mem_append_left _ mem) finish
      · exact calm e' (List.mem_append_left _ mem) (List.mem_singleton.mp recovered)
    have output := lookup o (by rw [behind.split]; simp)
    have finish := lookup f (by rw [behind.split]; simp)
    have start := lookup s (by rw [behind.split]; simp)
    refine ⟨s, o, q', started, provenance.request, ?_, ?_, by rw [toOutput, output], ?_⟩
    · rw [executionIdentity, toOutput, output]
      simp only [Option.bind_eq_bind, Option.bind_some, toFinish, finish, causes.started, start, behind.started.1]
    · have atOutput : TacoRank.causeOf EventPayload.output (pre ++ e :: post) (some o.eventId) = some (o, out') :=
        v.valid.causeOf (List.mem_append_left _ (by rw [behind.split]; simp)) (by rw [checked]; rfl)
      have atFinish : TacoRank.causeOf EventPayload.execution (pre ++ e :: post) (some f.eventId) = some (f, run') :=
        v.valid.causeOf (List.mem_append_left _ (by rw [behind.split]; simp)) (by rw [finished]; rfl)
      have atStart : TacoRank.causeOf EventPayload.request (pre ++ e :: post) (some s.eventId) = some (s, q') :=
        v.valid.causeOf (List.mem_append_left _ (by rw [behind.split]; simp)) (by rw [behind.started.1]; rfl)
      unfold executionRequestOf
      simp only [toOutput, atOutput, toFinish, atFinish, causes.started, atStart]
    · have mem : f ∈ pre ++ e :: post := List.mem_append_left _ (by rw [behind.split]; simp)
      rw [v.valid.outputFidelity mem toFinish, finished]
      exact congrArg some sameFidelity

end Agreement

/-- In every run of an experiment, alone or in a parallel round, the walks from an evaluation reach the request that
the state machine resolves for it exactly when no recovery of the experiment has been decided since its last execution
finished. -/
theorem walk_agrees_iff {h : Harness} {fuel : Nat} {spec : ExperimentSpec} {proposal : EventId}
    {w w' : World Event Submission Answer} (fresh : h.FreshContexts)
    (world : LaneWorld spec.experimentId w) (run : LaneRun h fuel spec proposal w w') {pre post : List Event}
    {e : Event} {result : EvaluationResult} (split : w'.log = pre ++ e :: post)
    (payload : e.payload = .evaluationCompleted result) (owner : result.experimentId = spec.experimentId) :
    WalkAgrees w'.log pre e result ↔ Straight (trace spec.experimentId pre) := by
  have ledger := run.laneLedger fresh world
  rw [split] at ledger ⊢
  exact ledger.walk_agrees payload owner

section Runs
open Scenario

lemma reevaluation_adjustments : ([] : List (String × RuntimeValue)).length =
    if RecoveryAction.retrySameCommit = .adjustApprovedRuntimeSetting then 1 else 0 := rfl

/-- The evaluator raises once and is called again. -/
def evaluatorRetried : List Answer :=
  [ .raised (.adapter (unavailable "evaluator")),
    .recovery
      { action := .retrySameCommit, reasonCode := "OWNER_RETRY"
        validateActionAdjustment := reevaluation_adjustments } ]

/-- A full evaluation, with some answers before that of the evaluator. -/
def evaluatedAnswers (answers : List Answer) : List Answer :=
  [patchAnswer 1 "a", checkAnswer 1 "a"] ++ (scoredAnswers 1 "a").take 2 ++ answers ++ (scoredAnswers 1 "a").drop 2

/-- The world after these answers. -/
def evaluatedWorld (answers : List Answer) : World Event Submission Answer :=
  (scenarioHarness.runOneExperiment 5 (spec "exp") 5 (scenarioWorld (evaluatedAnswers answers))).2

lemma evaluatedWorld_run (answers : List Answer) :
    LaneRun scenarioHarness 5 (spec "exp") 5 (scenarioWorld (evaluatedAnswers answers)) (evaluatedWorld answers) :=
  .sequential (Prod.eta _).symm

/-- An evaluation of a ledger, with what was recorded before it. -/
lemma evaluation_at {es : List Event} {x : String} (i : Nat)
    (found : (es[i]?.bind fun e => e.payload.evaluation.map fun result => result.experimentId) = some x) :
    ∃ e result, es[i]? = some e ∧ es = es.take i ++ e :: es.drop (i + 1) ∧
      e.payload = .evaluationCompleted result ∧ result.experimentId = x := by
  obtain ⟨e, listed, found⟩ := Option.bind_eq_some_iff.mp found
  obtain ⟨result, read, owner⟩ := Option.map_eq_some_iff.mp found
  obtain ⟨small, same⟩ := List.getElem?_eq_some_iff.mp listed
  refine ⟨e, result, listed, ?_, ?_, owner⟩
  · rw [← same, List.getElem_cons_drop, List.take_append_drop]
  · unfold EventPayload.evaluation at read
    split at read
    · cases read
      assumption
    · cases read

theorem walk_agrees_straight : ∃ e result, (evaluatedWorld []).log = (evaluatedWorld []).log.take 11 ++ [e] ∧
    e.payload = .evaluationCompleted result ∧
    WalkAgrees (evaluatedWorld []).log ((evaluatedWorld []).log.take 11) e result := by
  have found : ((evaluatedWorld []).log[11]?.bind fun e =>
      e.payload.evaluation.map fun result => result.experimentId) = some "exp" := by decide +kernel
  obtain ⟨e, result, _, split, payload, owner⟩ := evaluation_at 11 found
  have ends : (evaluatedWorld []).log.drop 12 = [] := List.drop_eq_nil_iff.mpr (by decide +kernel)
  refine ⟨e, result, by rw [← ends]; exact split, payload, ?_⟩
  exact (walk_agrees_iff scenarioHarness_fresh (scenarioWorld_lane _) (evaluatedWorld_run [])
    split payload owner).mpr (straight_iff_type.mpr (by decide +kernel))

/-- After a retry of the evaluator no walk reaches the request, and the seed of the next one cannot be chosen. -/
theorem retried_evaluation_unreachable : ∃ e result, LaneRun scenarioHarness 5 (spec "exp") 5
      (scenarioWorld (evaluatedAnswers evaluatorRetried)) (evaluatedWorld evaluatorRetried) ∧
    (evaluatedWorld evaluatorRetried).log = (evaluatedWorld evaluatorRetried).log.take 14 ++ [e] ∧
    e.payload = .evaluationCompleted result ∧
    ¬ WalkAgrees (evaluatedWorld evaluatorRetried).log ((evaluatedWorld evaluatorRetried).log.take 14) e result ∧
    scenarioHarness.executionSeed (evaluatedWorld evaluatorRetried).log "exp" .full "a" =
      .error (.orchestrationError "full evaluation cannot resolve its execution identity") := by
  have found : ((evaluatedWorld evaluatorRetried).log[14]?.bind fun e =>
      e.payload.evaluation.map fun result => result.experimentId) = some "exp" := by decide +kernel
  obtain ⟨e, result, listed, split, payload, _⟩ := evaluation_at 14 found
  have ends : (evaluatedWorld evaluatorRetried).log.drop 15 = [] := List.drop_eq_nil_iff.mpr (by decide +kernel)
  rw [ends] at split
  have unreachable : ((evaluatedWorld evaluatorRetried).log[14]?.bind fun e =>
      (executionIdentity (evaluatedWorld evaluatorRetried).log e).map fun found => found.1.eventId) = none := by
    decide +kernel
  refine ⟨e, result, evaluatedWorld_run _, split, payload, ?_, by decide +kernel⟩
  rintro ⟨s, o, q, walks⟩
  rw [listed, Option.bind_some, walks.identity] at unreachable
  cases unreachable

end Runs
end TacoRank
