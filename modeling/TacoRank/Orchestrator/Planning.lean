import TacoRank.Orchestrator.ConvergenceCounters
import TacoRank.Orchestrator.DecisionSpec
import TacoRank.Orchestrator.Router
import TacoRank.Research.Normalization

/-!
# Planning

Port of the planning half of `orchestrator/router.py`: `_prepare_experiment`, `_prepare_parallel_round` and the
planning of `_run_round_synthesis`, with `_record_planning_failure`, and of `bind_implementation` in
`context/builder.py`. No lane runs while the harness plans.

A parallel round is proposed as a whole: whatever the planner answers, a round of normalised directions leaves the
ledger without a new proposal or with all of its proposals, unless a direction has no implementation
(`parallel_round_whole`). Across a whole run, the experiments stay within their budget (`experiments_within_budget`).
-/

namespace TacoRank
open Lib Lib.Result
open Research (DecimalTable parallelExperimentIds roundRefused)

/-! ### Implementations -/

/-- What `bind_implementation` reads off the configuration and the repository. -/
structure Binding where
  interfaces : List String
  editableRoots : List String
  protectedPaths : List String
  implementationTargets : String → Option (List String)

/-- `str.rstrip("/")`. -/
def trimSlashes (path : List Char) : List Char := (path.reverse.dropWhile (· = '/')).reverse

/-- `_path_is_within`. -/
def targetWithin (path : String) (root : List Char) : Bool :=
  path.toList = root || (trimSlashes root ++ ['/']).isPrefixOf path.toList

/-- The production entrypoint. -/
def entrypoint : String := "solution/candidate.py"

/-- The checks of `bind_implementation` on the target interfaces. -/
def checkInterfaces (binding : Binding) : Except String Unit :=
  binding.interfaces.forM fun target =>
    if ¬ binding.editableRoots.any (fun root => targetWithin target (trimSlashes root.toList)) then
      .error ("implementation target is outside editable roots: " ++ target)
    else if binding.protectedPaths.any (fun root => targetWithin target root.toList) then
      .error ("implementation target is protected: " ++ target)
    else .ok ()

/-- The checks of `bind_implementation` on the method cards of a proposal. -/
def checkMethods (binding : Binding) (methodCardIds : List String) : Except String Unit :=
  methodCardIds.forM fun methodId =>
    match binding.implementationTargets methodId with
    | none => .error ("implementation binding cannot resolve method card: " ++ methodId)
    | some targets =>
      match targets.filter (· ∉ binding.interfaces) with
      | [] => .ok ()
      | target :: rest =>
        .error ("method implementation target is not an authorized interface: " ++
          rest.foldl (fun first next => if next.toList < first.toList then next else first) target)

/-- `bind_implementation`, without the target files, which no event records. -/
def bindImplementation (binding : Binding) (proposal : ResearchProposal) (methodCardIds : List String) :
    Except String ExperimentSpec :=
  checkInterfaces binding >>= fun _ => checkMethods binding methodCardIds >>= fun _ =>
    let requested := methodCardIds.flatMap fun methodId => (binding.implementationTargets methodId).getD []
    if requested ≠ [] ∧ entrypoint ∉ requested then
      .error "method implementation targets must include the production entrypoint"
    else
      .ok { proposal with
        fidelityPlan := [.smoke, .proxy, .full]
        validateFidelityPlan := rfl }

/-- An implementation leaves the proposal as it is. -/
lemma bindImplementation_proposal {binding : Binding} {proposal : ResearchProposal} {methodCardIds : List String}
    {spec : ExperimentSpec} (bound : bindImplementation binding proposal methodCardIds = .ok spec) :
    spec.toResearchProposal = proposal := by
  simp only [bindImplementation, bind_eq_ok] at bound
  obtain ⟨_, _, _, _, bound⟩ := bound
  split at bound
  · cases bound
  · cases bound
    rfl

/-! ### The planner -/

/-- `remaining_experiments`. -/
def RunState.remainingExperiments (state : RunState) : Nat := state.maxExperiments - state.experimentsProposed

/-- `PlannerResult`: an output of the planner, with the methods of its proposal and the resources that it used. -/
structure PlannerResult extends PlannerOutput where
  methodCardIds : List String := []
  resourceDelta : ResourceDelta := {}

/-- `ResearchPlanner`, with what planning uses of the context builder. -/
structure Planner where
  buildPlanner : List Event → Except AdapterError ContextDocument
  propose : ContextDocument → Except AdapterError PlannerResult
  parallelDirectionCapacity : Option (ContextDocument → Int) := none
  proposeParallelDirection : ContextDocument → Nat → Nat → Except AdapterError PlannerResult
  proposeSynthesis : ContextDocument → List String → Except AdapterError PlannerResult
  binding : Binding
  digits : DecimalTable

/-- A context as the planner gets it. -/
def ContextDocument.forPlanner (context : ContextDocument) : ContextDocument :=
  { context with role := .planner, experimentId := none }

/-- How many directions a round gets, if it gets any. -/
def Planner.width (planner : Planner) (context : ContextDocument) (count : Nat) : Option Nat :=
  planner.parallelDirectionCapacity.elim (some count) fun capacity =>
    if capacity context < 1 then none else some (min count (capacity context).toNat)

lemma Planner.width_le {planner : Planner} {context : ContextDocument} {count width : Nat}
    (reduced : planner.width context count = some width) : width ≤ count := by
  unfold Planner.width at reduced
  cases capacity : planner.parallelDirectionCapacity with
  | none =>
    rw [capacity] at reduced
    exact (Option.some.inj reduced).ge
  | some capacity' =>
    rw [capacity, Option.elim_some] at reduced
    split at reduced
    · cases reduced
    · rw [← Option.some.inj reduced]
      exact Nat.min_le_left _ _

/-- `ResumablePlanningError`. -/
def resumablePlanningError (message : String) : RouterError := .orchestrationError message

namespace Harness
variable (h : Harness) (planner : Planner)

/-- `ContextBuilder.build_planner`, with the role that it writes down. -/
def plannerContext (events : List Event) : Lane ContextDocument := do
  let context ← Program.ofExcept ((planner.buildPlanner events).mapError .internal)
  return context.forPlanner

/-- `_record_planning_failure`. -/
def recordPlanningFailure (context : ContextDocument) (error : AdapterError) (cause : EventId) : Lane Event :=
  let normalized := h.normalizeText error.errorSummary
  let summary := if normalized = "" then error.errorClass else normalized
  h.append (.planningFailed
      { contextId := context.contextId
        errorClass := error.errorClass
        errorFingerprint := h.fingerprintFailure error.errorClass summary
        details := error.details })
    ⟨"run", .planningFailed, 0⟩ (some cause) error.resourceDelta

/-- `stop`, which refuses a decision that does not stop. -/
def stopOn : Option StopDecision → Lane Unit
  | some decision => h.stop decision
  | none => Program.raise (.orchestrationError "refusing to stop without a matched deterministic rule")

/-- `deterministic_stop`. -/
def deterministicStop (noLegalProposal : Bool) : Lane (Option StopDecision) := do
  let events ← events
  let state ← state
  return stopDecision state events h.config false noLegalProposal

/-- Bind a proposal and record it. -/
def appendProposal (proposal : ResearchProposal) (result : PlannerResult) (stage : Stage) (cause : EventId) :
    Lane (ExperimentSpec × Event) := do
  let spec ← Program.ofExcept ((bindImplementation planner.binding proposal result.methodCardIds).mapError
    fun message => .internal ⟨"ContextBuildError", message, {}, ""⟩)
  let event ← h.append (.experimentProposed spec) ⟨spec.experimentId, stage, 0⟩ (some cause) result.resourceDelta
  return (spec, event)

/-! ### One experiment -/

/-- The branch of `_prepare_experiment` for an output without a proposal. -/
def recommended (result : PlannerResult) (rejects : result.action ≠ .propose) (cause : EventId) : Lane Unit := do
  let _ ← h.append (.plannerRecommended ⟨result.toPlannerOutput, rejects⟩) ⟨"run", .plannerRecommended, 0⟩
    (some cause) result.resourceDelta
  match result.action with
  | .blocked =>
    if result.reasonCode = "INVALID_PROVIDER_PLAN" then
      Program.raise (resumablePlanningError
        "research provider failed bounded plan validation; resume from the persisted planner checkpoint")
    else do
      h.stopOn (← h.deterministicStop true)
  | _ =>
    match ← h.deterministicStop false with
    | none => Program.raise (resumablePlanningError
        ("planner stop recommendation is invalid and no frozen stop rule matched; " ++
          "resume from the persisted planner checkpoint"))
    | some decision => h.stop decision

/-- The part of `_prepare_experiment` after the answer of the planner. -/
def prepareAnswer (context : ContextDocument) (cause : EventId) (result : PlannerResult) :
    Lane (Option (ExperimentSpec × Event)) :=
  if proposes : result.action = .propose then
    let proposal := result.spec.get (result.validateActionSpec.mp proposes)
    if proposal.contextId ≠ context.contextId then
      Program.raise (resumablePlanningError
        "planner proposal cites a different context; resume from the persisted planner checkpoint")
    else do
      let prepared ← h.appendProposal planner proposal result .proposed cause
      let exhausted ← h.stopIfRuntimeBudgetExhausted
      return if exhausted then none else some prepared
  else do
    h.recommended result proposes cause
    return none

/-- `_prepare_experiment`. -/
def prepareExperiment : Lane (Option (ExperimentSpec × Event)) := do
  let events ← events
  match stopDecision (← state) events h.config false false with
  | some decision =>
    h.stop decision
    return none
  | none =>
    let context ← plannerContext planner events
    let contextEvent ← h.append (.contextCreated context) ⟨"run", .plannerContext, 0⟩
      (events.getLast?.map Event.eventId) {}
    match planner.propose context with
    | .error error =>
      let _ ← h.recordPlanningFailure context error contextEvent.eventId
      h.stop ⟨"PLANNER_PROVIDER_FAILURE", "The research planner failed before proposing a new experiment; " ++
        "the run was stopped with durable failure evidence."⟩
      return none
    | .ok result => h.prepareAnswer planner context contextEvent.eventId result

/-! ### A parallel round -/

/-- The loop of `_prepare_parallel_round` over the directions and their ids. -/
def appendDirections (context : ContextDocument) (cause : EventId) :
    List (String × ResearchProposal × PlannerResult) → Lane (List (ExperimentSpec × Event))
  | [] => return []
  | (experimentId, proposal, result) :: rest =>
    if proposal.contextId ≠ context.contextId then
      Program.raise (resumablePlanningError "parallel planner proposal cites a different context")
    else do
      let prepared ← h.appendProposal planner { proposal with experimentId } result .parallelProposed cause
      let later ← appendDirections context cause rest
      return prepared :: later

/-- The part of `_prepare_parallel_round` after all answers. -/
def prepareDirections (events : List Event) (context : ContextDocument) (cause : EventId)
    (results : List PlannerResult) : Lane (List (ExperimentSpec × Event)) :=
  match results.mapM fun result => result.spec.map fun proposal => (proposal, result) with
  | none => do
    h.stop ⟨"PARALLEL_ROUND_INCOMPLETE", "The researcher did not return every required parallel direction."⟩
    return []
  | some directions =>
    if roundRefused events (directions.map fun direction => direction.1.duplicateKey) then do
      let _ ← h.recordPlanningFailure context
        ⟨"ResumablePlanningError", "parallel researcher returned duplicate directions", {}, ""⟩ cause
      Program.raise (resumablePlanningError "parallel researcher returned duplicate directions")
    else do
      let recorded ← Harness.events
      h.appendDirections planner context cause
        ((parallelExperimentIds planner.digits recorded results.length).zip directions)

/-- The requests of `_prepare_parallel_round`, with what becomes of the answers. -/
def requestDirections (events : List Event) (context : ContextDocument) (cause : EventId) (width : Nat) :
    Lane (Option (List (ExperimentSpec × Event))) :=
  match (List.range width).mapM fun index => planner.proposeParallelDirection context index width with
  | .error error => do
    let _ ← h.recordPlanningFailure context error cause
    h.stop ⟨"PLANNER_PROVIDER_FAILURE", "A parallel research direction failed before the round was sealed."⟩
    return some []
  | .ok results => some <$> h.prepareDirections planner events context cause results

/-- `_prepare_parallel_round`; `none` tells the caller to go on with one experiment. -/
def prepareParallelRound (count : Nat) : Lane (Option (List (ExperimentSpec × Event))) := do
  let events ← events
  match stopDecision (← state) events h.config false false with
  | some decision =>
    h.stop decision
    return some []
  | none =>
    let context ← plannerContext planner events
    match planner.width context count with
    | none => return none
    | some width =>
      let contextEvent ← h.append (.contextCreated context) ⟨"run", .parallelPlannerContext, 0⟩
        (events.getLast?.map Event.eventId) {}
      h.requestDirections planner events context contextEvent.eventId width

/-! ### A synthesis -/

/-- The part of `_run_round_synthesis` before its experiment. -/
def prepareSynthesis (components : List String) : Lane (Option (ExperimentSpec × Event)) := do
  let events ← events
  let context ← plannerContext planner events
  let contextEvent ← h.append (.contextCreated context) ⟨"run", .synthesisPlannerContext, 0⟩
    (events.getLast?.map Event.eventId) {}
  match planner.proposeSynthesis context components with
  | .error error =>
    let _ ← h.recordPlanningFailure context error contextEvent.eventId
    h.stop ⟨"PLANNER_PROVIDER_FAILURE", "The synthesis researcher failed before proposing an aligned candidate."⟩
    return none
  | .ok result =>
    match result.spec with
    | none => Program.raise (resumablePlanningError
        "research planner could not produce the required round synthesis")
    | some proposal =>
      if proposal.contextId ≠ context.contextId then
        Program.raise (resumablePlanningError "synthesis proposal cites a different planner context")
      else do
        let recorded ← Harness.events
        let experimentId := (parallelExperimentIds planner.digits recorded 1).headD ""
        some <$> h.appendProposal planner { proposal with experimentId } result .synthesisProposed contextEvent.eventId

end Harness

/-! ### What planning appends -/

/-- What an append makes of a world. -/
inductive AppendRun (runId : String) (payload : EventPayload) (w : World Event Submission Answer) :
    Except (Halt RouterError) Event × World Event Submission Answer → Prop where
  | failed {halt} : AppendRun runId payload w (.error halt, w)
  | again {e} (mem : e ∈ w.log) (same : e.payload = payload) : AppendRun runId payload w (.ok e, w)
  | recorded {e} (run : ∀ f, w.log.head? = some f → f.runId = runId) (accepted : Accepted w.log e)
    (same : e.payload = payload) : AppendRun runId payload w (.ok e, { w with log := w.log ++ [e] })

/-- A valid ledger stays one, and its events are followed by at most so many proposals. -/
def Grows (k : Nat) (es es' : List Event) : Prop :=
  ValidLedger es → ValidLedger es' ∧ ∃ post, es' = es ++ post ∧ (proposals post).length ≤ k

section Appends
variable {h : Harness} {planner : Planner} {payload : EventPayload} {key : EventKey} {cause : Option EventId}
variable {delta : ResourceDelta} {α β : Type} {j k : Nat} {es es' es'' : List Event}

lemma append_run {w : World Event Submission Answer}
    {result : Except (Halt RouterError) Event × World Event Submission Answer}
    (run : h.append payload key cause delta w = result) : AppendRun h.config.runId payload w result := by
  subst run
  cases appended : EventStore.append w.log ⟨h.config.runId, key, payload, cause, delta, w.now⟩ with
  | error error =>
    have run : h.append payload key cause delta w = (.error (.raised (.python error)), w) :=
      Program.run_transact_error (by rw [appended]; rfl)
    rw [run]
    exact .failed
  | ok r =>
    obtain ⟨e, log⟩ := r
    have run : h.append payload key cause delta w = (.ok e, { w with log }) :=
      Program.run_transact_ok (by rw [appended]; rfl)
    rw [run]
    cases EventStore.append_inv appended with
    | again mem same => exact .again mem same.2.2
    | recorded _ first accepted => exact .recorded first accepted rfl

lemma proposals_append (es post : List Event) : proposals (es ++ post) = proposals es ++ proposals post :=
  List.filterMap_append

lemma Grows.refl (es : List Event) : Grows 0 es es := fun v => ⟨v, [], (List.append_nil es).symm, le_refl 0⟩

lemma Grows.mono (le : j ≤ k) (grows : Grows j es es') : Grows k es es' := by
  intro v
  obtain ⟨v', post, extended, few⟩ := grows v
  exact ⟨v', post, extended, few.trans le⟩

lemma Grows.trans (first : Grows j es es') (later : Grows k es' es'') : Grows (j + k) es es'' := by
  intro v
  obtain ⟨v', post, rfl, few⟩ := first v
  obtain ⟨v'', post', rfl, few'⟩ := later v'
  refine ⟨v'', post ++ post', List.append_assoc .., ?_⟩
  rw [proposals_append, List.length_append]
  exact Nat.add_le_add few few'

/-- A ledger without a new proposal. -/
lemma Grows.same (grows : Grows 0 es es') (v : ValidLedger es) : proposals es' = proposals es := by
  obtain ⟨_, post, rfl, few⟩ := grows v
  rw [proposals_append, List.eq_nil_of_length_eq_zero (Nat.le_zero.mp few), List.append_nil]

lemma moves_mono {m : Lane α} (le : j ≤ k) (moves : Program.Moves (Grows j) m) : Program.Moves (Grows k) m :=
  fun w => (moves w).mono le

lemma moves_bind {m : Lane α} {f : α → Lane β} (first : Program.Moves (Grows j) m)
    (rest : ∀ a, Program.Moves (Grows k) (f a)) : Program.Moves (Grows (j + k)) (m >>= f) :=
  first.bind rest (fun _ _ moved => moved.mono (Nat.le_add_right j k)) fun _ _ _ => Grows.trans

/-- The first program records no proposal. -/
lemma moves_after {m : Lane α} {f : α → Lane β} (first : Program.Moves (Grows 0) m)
    (rest : ∀ a, Program.Moves (Grows k) (f a)) : Program.Moves (Grows k) (m >>= f) :=
  moves_mono (Nat.zero_add k).le (moves_bind first rest)

lemma moves_still {m : Lane α} (still : ∀ w, (m w).2 = w) : Program.Moves (Grows 0) m := .still Grows.refl still

lemma moves_pure (a : α) : Program.Moves (Grows 0) (pure a : Lane α) := moves_still fun _ => rfl

lemma moves_raise (error : RouterError) : Program.Moves (Grows 0) (Program.raise error : Lane α) :=
  moves_still fun _ => rfl

lemma moves_ofExcept (x : Except RouterError α) : Program.Moves (Grows 0) (Program.ofExcept x : Lane α) :=
  moves_still fun _ => by cases x <;> rfl

lemma moves_events : Program.Moves (Grows 0) Harness.events := moves_still fun _ => rfl

lemma moves_state : Program.Moves (Grows 0) Harness.state := by
  refine moves_after moves_events fun events => ?_
  cases project events with
  | ok state => exact moves_pure state
  | error error => exact moves_raise _

lemma moves_append (few : (EventKind.experimentProposed.read payload).toList.length ≤ k) :
    Program.Moves (Grows k) (h.append payload key cause delta) := by
  intro w v
  have run := append_run (rfl : h.append payload key cause delta w = _)
  generalize h.append payload key cause delta w = result at run ⊢
  cases run with
  | failed | again => exact (Grows.refl w.log).mono (Nat.zero_le k) v
  | @recorded e _ accepted same =>
    subst same
    have one : proposals [e] = (EventKind.experimentProposed.read e.payload).toList := proposals_snoc [] e
    exact ⟨v.snoc accepted, [e], rfl, one ▸ few⟩

lemma read_few (payload : EventPayload) : (EventKind.experimentProposed.read payload).toList.length ≤ 1 := by
  cases EventKind.experimentProposed.read payload with
  | none => exact Nat.zero_le 1
  | some spec => exact le_refl 1

end Appends

/-! ### What planning proposes -/

section Programs
variable {h : Harness} {planner : Planner} {k : Nat}

lemma moves_stop (decision : StopDecision) : Program.Moves (Grows 0) (h.stop decision) :=
  moves_after moves_events fun _ => moves_after (moves_append (le_refl 0)) fun _ => moves_pure ()

lemma moves_stopOn (decision : Option StopDecision) : Program.Moves (Grows 0) (h.stopOn decision) := by
  cases decision with
  | none => exact moves_raise _
  | some decision => exact moves_stop decision

lemma moves_deterministicStop (noLegalProposal : Bool) :
    Program.Moves (Grows 0) (h.deterministicStop noLegalProposal) :=
  moves_after moves_events fun _ => moves_after moves_state fun _ => moves_pure _

lemma moves_runtimeBudget : Program.Moves (Grows 0) h.stopIfRuntimeBudgetExhausted := by
  refine moves_after moves_state fun state => ?_
  cases runtimeBudgetDecision state h.config with
  | none => exact moves_pure false
  | some decision =>
    dsimp only
    split
    · exact moves_pure true
    · exact moves_after (moves_stop decision) fun _ => moves_pure true

lemma moves_plannerContext (events : List Event) : Program.Moves (Grows 0) (Harness.plannerContext planner events) :=
  moves_after (moves_ofExcept _) fun _ => moves_pure _

lemma moves_recordPlanningFailure (context : ContextDocument) (error : AdapterError) (cause : EventId) :
    Program.Moves (Grows 0) (h.recordPlanningFailure context error cause) :=
  moves_append (le_refl 0)

lemma moves_appendProposal (proposal : ResearchProposal) (result : PlannerResult) (stage : Stage) (cause : EventId) :
    Program.Moves (Grows 1) (h.appendProposal planner proposal result stage cause) :=
  moves_after (moves_ofExcept _) fun _ => moves_bind (moves_append (read_few _)) fun _ => moves_pure _

lemma moves_recommended (result : PlannerResult) (rejects : result.action ≠ .propose) (cause : EventId) :
    Program.Moves (Grows 0) (h.recommended result rejects cause) := by
  refine moves_after (moves_append (le_refl 0)) fun _ => ?_
  split
  · split
    · exact moves_raise _
    · exact moves_after (moves_deterministicStop true) fun decision => moves_stopOn decision
  · refine moves_after (moves_deterministicStop false) fun decision => ?_
    cases decision with
    | none => exact moves_raise _
    | some decision => exact moves_stop decision

lemma moves_prepareAnswer (context : ContextDocument) (cause : EventId) (result : PlannerResult) :
    Program.Moves (Grows 1) (h.prepareAnswer planner context cause result) := by
  unfold Harness.prepareAnswer
  split
  · dsimp only
    split
    · exact moves_mono (Nat.zero_le 1) (moves_raise _)
    · exact moves_bind (moves_appendProposal _ _ _ _) fun _ => moves_after moves_runtimeBudget fun _ => moves_pure _
  · exact moves_mono (Nat.zero_le 1) (moves_after (moves_recommended _ _ _) fun _ => moves_pure none)

/-- One experiment is at most one proposal. -/
lemma moves_prepareExperiment : Program.Moves (Grows 1) (h.prepareExperiment planner) := by
  refine moves_after moves_events fun events => moves_after moves_state fun state => ?_
  split
  · exact moves_mono (Nat.zero_le 1) (moves_after (moves_stop _) fun _ => moves_pure none)
  · refine moves_after (moves_plannerContext events) fun context => ?_
    refine moves_after (moves_append (le_refl 0)) fun contextEvent => ?_
    split
    · refine moves_mono (Nat.zero_le 1) (moves_after (moves_recordPlanningFailure _ _ _) fun _ => ?_)
      exact moves_after (moves_stop _) fun _ => moves_pure none
    · exact moves_prepareAnswer _ _ _

lemma moves_appendDirections (context : ContextDocument) (cause : EventId) :
    ∀ directions : List (String × ResearchProposal × PlannerResult),
      Program.Moves (Grows directions.length) (h.appendDirections planner context cause directions)
  | [] => moves_pure []
  | (experimentId, proposal, result) :: rest => by
    rw [Harness.appendDirections]
    split
    · exact moves_mono (Nat.zero_le _) (moves_raise _)
    · rw [List.length_cons, Nat.add_comm]
      refine moves_bind (moves_appendProposal _ _ _ _) fun _ => ?_
      exact moves_bind (moves_appendDirections context cause rest) fun _ => moves_pure _

lemma moves_prepareDirections (events : List Event) (context : ContextDocument) (cause : EventId)
    (results : List PlannerResult) :
    Program.Moves (Grows results.length) (h.prepareDirections planner events context cause results) := by
  unfold Harness.prepareDirections
  split
  · exact moves_mono (Nat.zero_le _) (moves_after (moves_stop _) fun _ => moves_pure [])
  · split
    · exact moves_mono (Nat.zero_le _) (moves_after (moves_recordPlanningFailure _ _ _) fun _ => moves_raise _)
    · refine moves_after moves_events fun recorded => moves_mono ?_ (moves_appendDirections _ _ _)
      rw [List.length_zip, Research.parallelExperimentIds_length]
      exact Nat.min_le_left _ _

lemma moves_requestDirections (events : List Event) (context : ContextDocument) (cause : EventId) (width : Nat) :
    Program.Moves (Grows width) (h.requestDirections planner events context cause width) := by
  unfold Harness.requestDirections
  split
  · refine moves_mono (Nat.zero_le _) (moves_after (moves_recordPlanningFailure _ _ _) fun _ => ?_)
    exact moves_after (moves_stop _) fun _ => moves_pure _
  · rename_i results answered
    have length : results.length ≤ width := by
      rw [← (mapM_eq_ok.mp answered).length_eq, List.length_range]
    exact moves_mono length (moves_bind (moves_prepareDirections _ _ _ _) fun _ => moves_pure _)

/-- A round is at most as many proposals as it has directions. -/
lemma moves_prepareParallelRound (count : Nat) :
    Program.Moves (Grows count) (h.prepareParallelRound planner count) := by
  refine moves_after moves_events fun events => moves_after moves_state fun state => ?_
  split
  · exact moves_mono (Nat.zero_le _) (moves_after (moves_stop _) fun _ => moves_pure _)
  · refine moves_after (moves_plannerContext events) fun context => ?_
    split
    · exact moves_mono (Nat.zero_le _) (moves_pure none)
    · rename_i width reduced
      refine moves_after (moves_append (le_refl 0)) fun contextEvent => ?_
      exact moves_mono (Planner.width_le reduced) (moves_requestDirections _ _ _ _)

lemma moves_prepareSynthesis (components : List String) :
    Program.Moves (Grows 1) (h.prepareSynthesis planner components) := by
  refine moves_after moves_events fun events => moves_after (moves_plannerContext events) fun context => ?_
  refine moves_after (moves_append (le_refl 0)) fun contextEvent => ?_
  split
  · refine moves_mono (Nat.zero_le 1) (moves_after (moves_recordPlanningFailure _ _ _) fun _ => ?_)
    exact moves_after (moves_stop _) fun _ => moves_pure none
  · split
    · exact moves_mono (Nat.zero_le 1) (moves_raise _)
    · split
      · exact moves_mono (Nat.zero_le 1) (moves_raise _)
      · refine moves_after moves_events fun recorded => ?_
        exact moves_bind (moves_appendProposal _ _ _ _) fun _ => moves_pure _

end Programs

/-! ### The budget of experiments -/

section Counters
variable {es : List Event} {r r' : Reducer} {e : Event}

lemma RunState.baselineVerified_experiments (s : RunState) (b : BaselineVerified) :
    ((s.baselineVerified b).maxExperiments, (s.baselineVerified b).experimentsProposed) =
      (s.maxExperiments, s.experimentsProposed) := by
  unfold baselineVerified
  dsimp only
  split <;> rfl

lemma step_experiments (later : e.payload.type ≠ .runStarted) (step : r.step e = .ok r') :
    (r'.state.maxExperiments, r'.state.experimentsProposed) = (r.state.maxExperiments,
      r.state.experimentsProposed + (EventKind.experimentProposed.read e.payload).toList.length) := by
  have lasting := Reducer.step_lasting step
  have counters : (r'.state.maxExperiments, r'.state.experimentsProposed) = _ :=
    congrArg (fun s => (s.1.maxExperiments, s.1.experimentsProposed)) lasting
  rw [counters]
  unfold Event.settle
  cases payload : e.payload with
  | runStarted => exact absurd (by rw [payload]; rfl) later
  | baselineVerified b => exact RunState.baselineVerified_experiments ..
  | experimentDecided d =>
    dsimp only
    split
    · rfl
    · cases r.decidedScore e with
      | none => rfl
      | some q =>
        dsimp only [Option.elim_some]
        split <;> rfl
  | _ => rfl

/-- The projection counts the proposals, and its limit is that of the contract. -/
lemma ValidLedger.experiments_counted (v : ValidLedger es) (hr : TacoRank.replay es = .ok r) :
    r.state.experimentsProposed = (proposals es).length ∧
      ∀ c ∈ contractOf es, r.state.maxExperiments = c.maxExperiments := by
  refine v.run_induct (I := fun es r => r.state.experimentsProposed = (proposals es).length ∧
    ∀ c ∈ contractOf es, r.state.maxExperiments = c.maxExperiments) ⟨rfl, fun _ found => by cases found⟩ ?_ hr
  intro es e r r' _ hr ok step ⟨count, limit⟩
  cases (validateTransition_ok hr).mp ok.2 with
  | first start type =>
    subst start
    cases hr
    obtain ⟨eventId, timestamp, runId, key, cause, payload, delta⟩ := e
    cases payload with
    | runStarted c =>
      cases step
      exact ⟨rfl, fun c' found => by cases found; rfl⟩
    | _ => cases type
  | later started type =>
    have counters := step_experiments type step
    obtain ⟨max, proposed⟩ := Prod.ext_iff.mp counters
    refine ⟨?_, fun c found => ?_⟩
    · rw [proposals_snoc, List.length_append, ← count]
      exact proposed
    · obtain ⟨first, rest, rfl⟩ := List.exists_cons_of_ne_nil started
      exact max.trans (limit c found)

end Counters

section Budget
variable {h : Harness} {es : List Event}

/-- The ledgers of a harness: it bootstraps the run, plans with any planner, and records what its lanes do. -/
inductive Harness.Reaches (h : Harness) : List Event → Prop where
  | bootstrap {e contract} (started : e.payload = .runStarted contract)
    (frozen : contract.maxExperiments = h.config.maxExperiments) (ok : Accepted [] e) : Reaches h [e]
  | other {es e} (before : Reaches h es) (other : e.payload.type ≠ .experimentProposed) (ok : Accepted es e) :
    Reaches h (es ++ [e])
  | experiment (planner : Planner) {w} (before : Reaches h w.log) : Reaches h (h.prepareExperiment planner w).2.log
  | round (planner : Planner) (parallelDirections : Nat) {w s} (before : Reaches h w.log)
    (state : project w.log = .ok s) :
    Reaches h (h.prepareParallelRound planner (min parallelDirections s.remainingExperiments) w).2.log
  | synthesis (planner : Planner) (components : List String) {w s} (before : Reaches h w.log)
    (state : project w.log = .ok s) (remaining : 0 < s.remainingExperiments) :
    Reaches h (h.prepareSynthesis planner components w).2.log

/-- The invariant of the budget. -/
structure Budgeted (h : Harness) (es : List Event) : Prop where
  valid : ValidLedger es
  contract : ∃ c, contractOf es = some c ∧ c.maxExperiments = h.config.maxExperiments
  within : (proposals es).length ≤ h.config.maxExperiments

/-- New proposals are paid for by what remains. -/
lemma Budgeted.grow {es' : List Event} {k : Nat} (b : Budgeted h es) (grows : Grows k es es')
    (paid : (proposals es).length + k ≤ h.config.maxExperiments) : Budgeted h es' := by
  obtain ⟨v, post, rfl, few⟩ := grows b.valid
  obtain ⟨c, contract, frozen⟩ := b.contract
  refine ⟨v, ⟨c, ?_, frozen⟩, ?_⟩
  · cases es with
    | nil => cases contract
    | cons e es => exact contract
  · rw [proposals_append, List.length_append]
    omega

lemma Budgeted.counters {s : RunState} (b : Budgeted h es) (state : project es = .ok s) :
    s.experimentsProposed = (proposals es).length ∧ s.maxExperiments = h.config.maxExperiments := by
  obtain ⟨r, hr, rfl⟩ := project_ok.mp state
  obtain ⟨count, limit⟩ := b.valid.experiments_counted hr
  obtain ⟨c, contract, frozen⟩ := b.contract
  unfold RunState.aggregate
  dsimp only
  split <;> exact ⟨count, (limit c contract).trans frozen⟩

/-- What remains pays for a round. -/
lemma Budgeted.pays {s : RunState} {k : Nat} (b : Budgeted h es) (state : project es = .ok s)
    (le : k ≤ s.remainingExperiments) : (proposals es).length + k ≤ h.config.maxExperiments := by
  obtain ⟨count, limit⟩ := b.counters state
  have within := b.within
  unfold RunState.remainingExperiments at le
  omega

/-- No experiment is planned when the budget is exhausted. -/
lemma prepareExperiment_exhausted (planner : Planner) {w : World Event Submission Answer} {s : RunState}
    (state : project w.log = .ok s) (exhausted : h.config.maxExperiments ≤ s.experimentsProposed) :
    Grows 0 w.log (h.prepareExperiment planner w).2.log := by
  have stopped : stopDecision s w.log h.config false false =
      some ⟨"experiment_budget", "The frozen experiment budget is exhausted."⟩ := by
    unfold stopDecision
    rw [if_neg Bool.false_ne_true, if_pos exhausted]
  unfold Harness.prepareExperiment
  rw [Program.run_bind_ok (events_run w), Program.run_bind_ok (state_run state), stopped]
  exact moves_after (moves_stop _) (fun _ => moves_pure none) w

/-- A harness keeps the invariant of the budget. -/
lemma Harness.Reaches.budgeted (reaches : h.Reaches es) : Budgeted h es := by
  induction reaches with
  | @bootstrap e contract started frozen ok =>
    obtain ⟨eventId, timestamp, runId, key, cause, payload, delta⟩ := e
    cases started
    exact ⟨Log.Valid.nil.snoc ok, ⟨contract, rfl, frozen⟩, Nat.zero_le _⟩
  | @other es e _ other ok ih =>
    have silent : EventKind.experimentProposed.read e.payload = none := by
      cases payload : e.payload with
      | experimentProposed spec => exact absurd (by rw [payload]; rfl) other
      | _ => rfl
    have none : proposals [e] = [] := (proposals_snoc [] e).trans (congrArg Option.toList silent)
    have grows : Grows 0 es (es ++ [e]) := fun v => ⟨v.snoc ok, [e], rfl, (congrArg List.length none).le⟩
    exact ih.grow grows ih.within
  | @experiment planner w _ ih =>
    obtain ⟨s, state⟩ := ValidLedger.project ih.valid
    obtain ⟨count, _⟩ := ih.counters state
    by_cases room : (proposals w.log).length < h.config.maxExperiments
    · exact ih.grow (moves_prepareExperiment w) room
    · have exhausted : h.config.maxExperiments ≤ s.experimentsProposed := by
        rw [count]
        exact not_lt.mp room
      exact ih.grow (prepareExperiment_exhausted planner state exhausted) ih.within
  | @round planner parallelDirections w s _ state ih =>
    exact ih.grow (moves_prepareParallelRound _ w) (ih.pays state (Nat.min_le_right _ _))
  | @synthesis planner components w s _ state remaining ih =>
    exact ih.grow (moves_prepareSynthesis components w) (ih.pays state remaining)

/-- A valid ledger without proposals is one of a harness with its limit. -/
lemma Harness.Reaches.of_quiet {c : RunStarted} (v : ValidLedger es)
    (contract : contractOf es = some c) (frozen : c.maxExperiments = h.config.maxExperiments)
    (quiet : proposals es = []) : h.Reaches es := by
  cases es with
  | nil => cases contract
  | cons e rest =>
    have started : e.payload = .runStarted c := by
      cases payload : e.payload with
      | runStarted c' =>
        simp only [contractOf, List.head?_cons, Option.bind_some, payload] at contract
        rw [Option.some.inj contract]
      | _ => simp [contractOf, payload] at contract
    induction rest using List.reverseRecOn with
    | nil =>
      have whole : Log.Valid Accepted ([] ++ [e]) := v
      exact .bootstrap started frozen whole.snoc_inv.2
    | append_singleton rest f ih =>
      have whole : Log.Valid Accepted ((e :: rest) ++ [f]) := v
      obtain ⟨v', ok⟩ := whole.snoc_inv
      rw [← List.cons_append, proposals_snoc, List.append_eq_nil_iff] at quiet
      refine .other (ih v' contract quiet.1) ?_ ok
      intro proposed
      cases payload : f.payload with
      | experimentProposed spec =>
        rw [payload] at quiet
        cases quiet.2
      | _ =>
        rw [payload] at proposed
        cases proposed

/-- A harness never proposes more experiments than its configuration allows, whatever its planners answer, its lanes
record and its runs leave unfinished: every ledger that it reaches is valid, and its counter of experiments is the
number of its proposals, which is within the budget. -/
theorem experiments_within_budget (reaches : h.Reaches es) : ValidLedger es ∧ ∃ s, project es = .ok s ∧
    s.experimentsProposed = (proposals es).length ∧ (proposals es).length ≤ h.config.maxExperiments := by
  have b := reaches.budgeted
  obtain ⟨s, state⟩ := ValidLedger.project b.valid
  exact ⟨b.valid, s, state, (b.counters state).1, b.within⟩

end Budget

section Scenario
open Scenario

/-- The answer of a planner that proposes an experiment. -/
def proposing (proposal : ResearchProposal) : PlannerResult where
  action := .propose
  spec := some proposal
  reasonCode := ""
  validateActionSpec := by simp

/-- A planner with one proposal, and no directions. -/
def eagerPlanner : Planner where
  buildPlanner _ := .ok { contextId := "planner", role := .planner, experimentId := none }
  propose _ := .ok (proposing (spec "exp").toResearchProposal)
  proposeParallelDirection _ _ _ := .error ⟨"TransientProviderError", "timeout", {}, ""⟩
  proposeSynthesis _ _ := .error ⟨"TransientProviderError", "timeout", {}, ""⟩
  binding :=
    { interfaces := ["solution/candidate.py"], editableRoots := ["solution"], protectedPaths := []
      implementationTargets _ := none }
  digits := Research.asciiDigits

/-- A harness that may propose one experiment. -/
def frugalHarness : Harness :=
  { scenarioHarness with config := { scenarioConfig with maxExperiments := 1 } }

/-- The beginning of its run. -/
def frugalStart : List Event := record
  ((none, .runStarted { contract 2 with maxExperiments := 1 }) :: (proposal 2 "exp").tail.take 2)

/-- The world after one more round of planning. -/
def planned (log : List Event) : World Event Submission Answer :=
  (frugalHarness.prepareExperiment eagerPlanner { log, script := [] }).2

theorem experiments_within_budget_run : let es := (planned (planned frugalStart).log).log
    ValidLedger es ∧ (∃ s, project es = .ok s ∧ s.experimentsProposed = (proposals es).length ∧
      (proposals es).length ≤ frugalHarness.config.maxExperiments) ∧
      (proposals es).length = 1 ∧ statusOf es = some .stopped := by
  intro es
  have v : ValidLedger frugalStart := .of_check (by decide +kernel)
  have reaches : frugalHarness.Reaches es := by
    have first : frugalHarness.Reaches frugalStart := .of_quiet v rfl rfl (by decide +kernel)
    exact .experiment eagerPlanner (.experiment eagerPlanner first)
  obtain ⟨valid, budget⟩ := experiments_within_budget reaches
  exact ⟨valid, budget, by decide +kernel, by decide +kernel⟩

end Scenario
/-! ### A round as a whole -/

/-- The proposal of a direction under its id. -/
def numberedDirection (direction : String × ResearchProposal × PlannerResult) : ResearchProposal :=
  { direction.2.1 with experimentId := direction.1 }

/-- Directions that the ledger takes one after the other. -/
structure Admissible (planner : Planner) (es : List Event) (r : Reducer)
    (directions : List (String × ResearchProposal × PlannerResult)) : Prop where
  proposable : ∀ d ∈ directions, ∀ spec : ExperimentSpec, spec.toResearchProposal = numberedDirection d →
    Research.Proposable es r spec
  ids : (directions.map Prod.fst).Nodup
  keys : (directions.map fun d => d.2.1.duplicateKey).Nodup
  unused : ∀ d ∈ directions, d.2.1.duplicateKey ∉ (proposals es).map (·.duplicateKey)
  bound : ∀ d ∈ directions, ∃ spec,
    bindImplementation planner.binding (numberedDirection d) d.2.2.methodCardIds = .ok spec

section Round
variable {h : Harness} {planner : Planner} {es : List Event} {r r' : Reducer} {e : Event} {spec : ExperimentSpec}
variable {d : String × ResearchProposal × PlannerResult}
variable {directions : List (String × ResearchProposal × PlannerResult)}
variable {context : ContextDocument} {cause : EventId} {w : World Event Submission Answer}

/-- The ledger takes the first direction, and then still the others. -/
lemma Admissible.next (admissible : Admissible planner es r (d :: directions))
    (payload : e.payload = .experimentProposed spec) (same : spec.toResearchProposal = numberedDirection d)
    (step : r.step e = .ok r') : Admissible planner (es ++ [e]) r' directions := by
  have first := admissible.proposable d List.mem_cons_self spec same
  obtain ⟨new, ids⟩ := List.nodup_cons.mp admissible.ids
  obtain ⟨unlike, keys⟩ := List.nodup_cons.mp admissible.keys
  have read : EventKind.experimentProposed.read e.payload = some spec := by rw [payload]; rfl
  refine ⟨fun d' mem spec' same' => ?_, ids, keys, fun d' mem used => ?_,
    fun d' mem => admissible.bound d' (List.mem_cons_of_mem _ mem)⟩
  · refine (admissible.proposable d' (List.mem_cons_of_mem _ mem) spec' same').next payload first.unused ?_ step
    intro equal
    refine new (List.mem_map.mpr ⟨d', mem, ?_⟩)
    have id : spec.experimentId = d.1 := congrArg (·.experimentId) same
    have id' : spec'.experimentId = d'.1 := congrArg (·.experimentId) same'
    rw [← id, ← id', equal]
  · rw [proposals_snoc, read, List.map_append] at used
    rcases List.mem_append.mp used with old | own
    · exact admissible.unused d' (List.mem_cons_of_mem _ mem) old
    · refine unlike (List.mem_map.mpr ⟨d', mem, ?_⟩)
      have key : spec.duplicateKey = d.2.1.duplicateKey := congrArg (·.duplicateKey) same
      exact (List.mem_singleton.mp own).trans key

/-- An implementation is bound without a record. -/
lemma bound_run {proposal : ResearchProposal} {methodCardIds : List String}
    (bound : bindImplementation planner.binding proposal methodCardIds = .ok spec) :
    (Program.ofExcept ((bindImplementation planner.binding proposal methodCardIds).mapError
      fun message => RouterError.internal ⟨"ContextBuildError", message, {}, ""⟩) : Lane ExperimentSpec) w =
      (.ok spec, w) := by
  rw [bound]
  rfl

/-- A proposal with a new key is recorded. -/
lemma appendProposal_recorded {proposal : ResearchProposal} {result : PlannerResult} {stage : Stage}
    (v : ValidLedger w.log) (hr : replay w.log = .ok r) (run : ∀ f, w.log.head? = some f → f.runId = h.config.runId)
    (caused : ∃ f ∈ w.log, f.eventId = cause)
    (bound : bindImplementation planner.binding proposal result.methodCardIds = .ok spec)
    (proposable : Research.Proposable w.log r spec)
    (unused : spec.duplicateKey ∉ (proposals w.log).map (·.duplicateKey)) :
    ∃ e, h.appendProposal planner proposal result stage cause w = (.ok (spec, e), { w with log := w.log ++ [e] }) ∧
      e.payload = .experimentProposed spec ∧ Accepted w.log e := by
  have valid := (proposable.recorded_iff hr).mpr (Research.ledgerAdmits_new v hr unused)
  unfold Harness.appendProposal
  rw [Program.run_bind_ok (bound_run bound)]
  have new : ∀ e ∈ w.log, e.payload ≠ .experimentProposed spec := by
    intro e mem payload
    refine unused (List.mem_map.mpr ⟨spec, List.mem_filterMap.mpr ⟨e, mem, ?_⟩, rfl⟩)
    rw [payload]
    rfl
  have known : ∀ id, some cause = some id → ∃ f ∈ w.log, f.eventId = id := by
    rintro id ⟨⟩
    exact caused
  obtain ⟨e, recorded, payload, accepted⟩ := Harness.append_run new run known valid
  exact ⟨e, by rw [Program.run_bind_ok recorded]; rfl, payload, accepted⟩

/-- The loop records every direction. -/
lemma appendDirections_recorded (v : ValidLedger w.log) (hr : replay w.log = .ok r)
    (run : ∀ f, w.log.head? = some f → f.runId = h.config.runId) (caused : ∃ f ∈ w.log, f.eventId = cause)
    (cites : ∀ d ∈ directions, d.2.1.contextId = context.contextId)
    (admissible : Admissible planner w.log r directions) :
    ∃ prepared log, h.appendDirections planner context cause directions w = (.ok prepared, { w with log }) ∧
      proposals log = proposals w.log ++ prepared.map Prod.fst ∧
      prepared.map (fun p => p.1.toResearchProposal) = directions.map numberedDirection := by
  induction directions generalizing w r with
  | nil => exact ⟨[], w.log, rfl, (List.append_nil _).symm, rfl⟩
  | cons d directions ih =>
    obtain ⟨x, proposal, result⟩ := d
    obtain ⟨spec, bound⟩ := admissible.bound _ List.mem_cons_self
    have same := bindImplementation_proposal bound
    have unused : spec.duplicateKey ∉ (proposals w.log).map (·.duplicateKey) := by
      have key : spec.duplicateKey = proposal.duplicateKey := congrArg (·.duplicateKey) same
      rw [key]
      exact admissible.unused _ List.mem_cons_self
    have proposable := admissible.proposable _ List.mem_cons_self spec same
    obtain ⟨e, recorded, payload, accepted⟩ : ∃ e, h.appendProposal planner { proposal with experimentId := x } result
        .parallelProposed cause w = (.ok (spec, e), { w with log := w.log ++ [e] }) ∧
        e.payload = .experimentProposed spec ∧ Accepted w.log e :=
      appendProposal_recorded v hr run caused bound proposable unused
    obtain ⟨r', step⟩ := accepted.step hr
    have hr' : replay (w.log ++ [e]) = .ok r' := by
      rw [replay_snoc, hr]
      exact step
    have run' : ∀ f, (w.log ++ [e]).head? = some f → f.runId = h.config.runId := by
      intro f first
      obtain ⟨g, mem, _⟩ := caused
      obtain ⟨first', rest, whole⟩ := List.exists_cons_of_ne_nil (List.ne_nil_of_mem mem)
      refine run f ?_
      rw [whole] at first ⊢
      exact first
    have caused' : ∃ f ∈ w.log ++ [e], f.eventId = cause :=
      caused.imp fun f ⟨mem, id⟩ => ⟨List.mem_append_left _ mem, id⟩
    obtain ⟨prepared, log, later, proposed, specs⟩ := ih (w := { w with log := w.log ++ [e] }) (v.snoc accepted) hr'
      run' caused' (fun d' mem => cites d' (List.mem_cons_of_mem _ mem)) (admissible.next payload same step)
    refine ⟨(spec, e) :: prepared, log, ?_, ?_, ?_⟩
    · rw [Harness.appendDirections, if_neg (not_not.mpr (cites _ List.mem_cons_self)), Program.run_bind_ok recorded,
        Program.run_bind_ok later]
      rfl
    · have read : EventKind.experimentProposed.read e.payload = some spec := by rw [payload]; rfl
      rw [proposed, proposals_snoc, read, List.append_assoc]
      rfl
    · rw [List.map_cons, List.map_cons, specs, same]

end Round
/-- What a ledger shows to the proposals that cite a context. -/
structure OpenFor (h : Harness) (es : List Event) (r : Reducer) (contextId : String) : Prop where
  run : ∀ f, es.head? = some f → f.runId = h.config.runId
  accepting : r.state.status = .ready ∨ r.state.status = .running
  context : ∃ found, (eventsOf EventPayload.context es).getLast? = some found ∧ found.2.role = .planner ∧
    found.2.contextId = contextId

section Rounds
open Research (PlannerSources Directed BaselineNamed normalize RawPlan PlanRequest DuplicatePayload)
variable {h : Harness} {planner : Planner} {es : List Event} {r : Reducer} {e : Event} {spec : ExperimentSpec}
variable {context document : ContextDocument} {cause : EventId} {w : World Event Submission Answer}

/-- A recorded proposal found its context. -/
lemma Accepted.opens (ok : Accepted es e) (hr : replay es = .ok r) (payload : e.payload = .experimentProposed spec)
    (run : ∀ f, es.head? = some f → f.runId = h.config.runId) : OpenFor h es r spec.contextId := by
  obtain ⟨_, branch⟩ := ok.branch hr (by rw [payload]; simp [EventPayload.type])
  rw [payload] at branch
  simp only [validateBranch, validateExperimentProposed, bind_eq_ok, require_ok, requireSome_ok] at branch
  obtain ⟨_, accepting, _, _, _, _, _, _, _, _, _, _, found, ⟨last, _⟩, role, contextId⟩ := branch
  exact ⟨run, by simpa using accepting, found, last, role, contextId⟩

/-- A ledger that is not open takes no proposal. -/
lemma appendProposal_refused {proposal : ResearchProposal} {result : PlannerResult} {stage : Stage}
    (hr : replay w.log = .ok r) (shut : ¬ OpenFor h w.log r proposal.contextId)
    (new : proposal.experimentId ∉ (proposals w.log).map (·.experimentId)) :
    ∃ halt, h.appendProposal planner proposal result stage cause w = (.error halt, w) := by
  unfold Harness.appendProposal
  cases bound : bindImplementation planner.binding proposal result.methodCardIds with
  | error message => exact ⟨_, Program.run_bind_error rfl⟩
  | ok spec =>
    have same := bindImplementation_proposal bound
    rw [← bound, Program.run_bind_ok (bound_run bound)]
    cases appended : h.append (.experimentProposed spec) ⟨spec.experimentId, stage, 0⟩ (some cause)
      result.resourceDelta w with
    | mk outcome w' =>
      cases append_run appended with
      | failed => exact ⟨_, Program.run_bind_error appended⟩
      | again mem payload =>
        refine absurd (List.mem_map.mpr ⟨spec, List.mem_filterMap.mpr ⟨_, mem, by rw [payload]; rfl⟩, ?_⟩) new
        exact congrArg (·.experimentId) same
      | recorded first accepted payload =>
        have opens := accepted.opens hr payload first
        have cited : spec.contextId = proposal.contextId := congrArg (·.contextId) same
        rw [cited] at opens
        exact absurd opens shut

lemma roundRefused_false {keys : List String} : roundRefused es keys = false ↔
    keys.Nodup ∧ ∀ key ∈ keys, key ∉ (proposals es).map (·.duplicateKey) := by
  unfold roundRefused
  simp [List.any_eq_true]

/-- The directions of a planner are normalised for parents that were evaluated. -/
def Planner.Normalizes (planner : Planner) (es : List Event) (document : ContextDocument) : Prop :=
  ∀ index width result proposal,
    planner.proposeParallelDirection document.forPlanner index width = .ok result → result.spec = some proposal →
      ∃ sources hash request raw, Directed sources es request ∧ request.contextId = document.contextId ∧
        proposal = normalize planner.digits hash request raw

/-- The directions of a planner have an implementation. -/
def Planner.Binds (planner : Planner) (document : ContextDocument) : Prop :=
  ∀ index width result proposal experimentId,
    planner.proposeParallelDirection document.forPlanner index width = .ok result → result.spec = some proposal →
      ∃ spec, bindImplementation planner.binding { proposal with experimentId } result.methodCardIds = .ok spec

/-- Under new ids, the directions of a planner are proposable after its context. -/
structure Planner.Ready (planner : Planner) (h : Harness) (es : List Event) (r : Reducer)
    (document : ContextDocument) : Prop where
  cites : ∀ index width result proposal,
    planner.proposeParallelDirection document.forPlanner index width = .ok result → result.spec = some proposal →
      proposal.contextId = document.contextId
  proposable : OpenFor h es r document.contextId → ∀ index width result proposal (spec : ExperimentSpec),
    planner.proposeParallelDirection document.forPlanner index width = .ok result → result.spec = some proposal →
      spec.toResearchProposal = { proposal with experimentId := spec.experimentId } →
        spec.experimentId ∉ (proposals es).map (·.experimentId) → Research.Proposable es r spec

lemma Planner.Normalizes.cites {index width : Nat} {result : PlannerResult} {proposal : ResearchProposal}
    (normalizes : planner.Normalizes es document)
    (answered : planner.proposeParallelDirection document.forPlanner index width = .ok result)
    (proposes : result.spec = some proposal) : proposal.contextId = document.contextId := by
  obtain ⟨_, _, _, _, _, cited, rfl⟩ := normalizes index width result proposal answered proposes
  exact cited

/-- The context was recorded before. -/
lemma Planner.Normalizes.ready_again (normalizes : planner.Normalizes es document) (v : ValidLedger es)
    (hr : replay es = .ok r) (named : BaselineNamed es) : planner.Ready h es r document := by
  refine ⟨fun _ _ _ _ => normalizes.cites, ?_⟩
  intro opens index width result proposal spec answered proposes same fresh
  obtain ⟨sources, hash, request, raw, directed, cited, rfl⟩ :=
    normalizes index width result proposal answered proposes
  obtain ⟨view, parent, place⟩ := directed.parent_known v hr named
  have parentId : spec.parentExperimentId = some view.experimentId := by
    rw [same]
    change some (request.choice.parent.elim "" (·.experimentId)) = _
    rw [parent, Option.elim_some]
  have commit : spec.parentCommitSha = request.parentCommitSha := by
    rw [same]
    rfl
  have contextId : spec.contextId = document.contextId := by
    rw [same]
    exact cited
  refine ⟨opens.accepting, ?_, ⟨view.experimentId, parentId, by rw [commit]; exact place⟩, contextId ▸ opens.context⟩
  by_contra taken
  obtain ⟨n, node⟩ := Option.ne_none_iff_exists'.mp taken
  refine fresh ?_
  rw [← (v.ledgered hr).listed.ids]
  exact List.mem_map.mpr ⟨(spec.experimentId, n), Dict.mem_entries.mpr node, rfl⟩

/-- The context has just been recorded. -/
lemma Planner.Normalizes.ready {r' : Reducer} (normalizes : planner.Normalizes es document) (v : ValidLedger es)
    (hr : replay es = .ok r) (named : BaselineNamed es) (ok : Accepted es e)
    (payload : e.payload = .contextCreated document.forPlanner) (step : r.step e = .ok r')
    (same : proposals (es ++ [e]) = proposals es) : planner.Ready h (es ++ [e]) r' document := by
  refine ⟨fun _ _ _ _ => normalizes.cites, ?_⟩
  intro _ index width result proposal spec answered proposes numbered fresh
  obtain ⟨sources, hash, request, raw, directed, cited, rfl⟩ :=
    normalizes index width result proposal answered proposes
  rw [same] at fresh
  exact directed.proposable v hr named ok payload rfl cited.symm step numbered fresh

lemma parallelExperimentIds_same {table : DecimalTable} {es' : List Event} (same : proposals es' = proposals es)
    (count : Nat) : parallelExperimentIds table es' count = parallelExperimentIds table es count := by
  unfold parallelExperimentIds
  rw [same]

/-- A run that records no proposal. -/
lemma quiet_run {α : Type} {m : Lane α} {outcome : Except (Halt RouterError) α} {w' : World Event Submission Answer}
    (quiet : Program.Moves (Grows 0) m) (v : ValidLedger w.log) (run : m w = (outcome, w')) :
    proposals w'.log = proposals w.log := by
  have same := (quiet w).same v
  rw [run] at same
  exact same

/-- The proposals of a round: one for every direction, with new ids and with new keys. -/
structure RoundOf (planner : Planner) (es : List Event) (width : Nat) (prepared : List (ExperimentSpec × Event))
    (log : List Event) : Prop where
  all : prepared.length = width
  recorded : proposals log = proposals es ++ prepared.map Prod.fst
  ids : prepared.map (·.1.experimentId) = parallelExperimentIds planner.digits es width
  keys : (prepared.map (·.1.duplicateKey)).Nodup
  unused : ∀ p ∈ prepared, p.1.duplicateKey ∉ (proposals es).map (·.duplicateKey)

/-- An answer of the planner that became a direction. -/
lemma answered_direction {results : List PlannerResult} {width : Nat}
    {directions : List (ResearchProposal × PlannerResult)}
    (answered : (List.range width).mapM
      (fun index => planner.proposeParallelDirection document.forPlanner index width) = .ok results)
    (spoken : results.mapM (fun result => result.spec.map fun proposal => (proposal, result)) = some directions)
    {d : ResearchProposal × PlannerResult} (mem : d ∈ directions) :
    ∃ index, planner.proposeParallelDirection document.forPlanner index width = .ok d.2 ∧ d.2.spec = some d.1 := by
  have sources : ∀ result ∈ results, ∃ index, planner.proposeParallelDirection document.forPlanner index width =
      .ok result :=
    forall_left_of_forall₂ (List.Forall₂.flip ((mapM_eq_ok.mp answered).imp fun index result made => ⟨index, made⟩))
  have pairs := (List.forall₂_and_left _ _).mpr ⟨sources, forall₂_of_mapM_eq_some spoken⟩
  have each : List.Forall₂ (fun (d : ResearchProposal × PlannerResult) (_ : PlannerResult) => ∃ index,
      planner.proposeParallelDirection document.forPlanner index width = .ok d.2 ∧ d.2.spec = some d.1)
      directions results := by
    refine List.Forall₂.flip (pairs.imp ?_)
    rintro result d ⟨⟨index, made⟩, said⟩
    obtain ⟨proposal, spec, rfl⟩ := Option.map_eq_some_iff.mp said
    exact ⟨index, made, spec⟩
  exact forall_left_of_forall₂ each d mem

/-- The directions of a planner are admissible under new ids, if their keys are new too. -/
lemma Planner.Ready.admissible {width : Nat} {numbered : List (String × ResearchProposal × PlannerResult)}
    (ready : planner.Ready h es r document) (binds : planner.Binds document)
    (opens : OpenFor h es r document.contextId)
    (source : ∀ d ∈ numbered, ∃ index,
      planner.proposeParallelDirection document.forPlanner index width = .ok d.2.2 ∧ d.2.2.spec = some d.2.1)
    (fresh : ∀ d ∈ numbered, d.1 ∉ (proposals es).map (·.experimentId)) (ids : (numbered.map Prod.fst).Nodup)
    (keys : (numbered.map fun d => d.2.1.duplicateKey).Nodup)
    (unused : ∀ d ∈ numbered, d.2.1.duplicateKey ∉ (proposals es).map (·.duplicateKey)) :
    Admissible planner es r numbered := by
  refine ⟨fun d mem spec same => ?_, ids, keys, unused, fun d mem => ?_⟩
  · obtain ⟨index, made, said⟩ := source d mem
    have id : spec.experimentId = d.1 := congrArg (·.experimentId) same
    refine ready.proposable opens index width d.2.2 d.2.1 spec made said ?_ ?_
    · rw [id]
      exact same
    · rw [id]
      exact fresh d mem
  · obtain ⟨index, made, said⟩ := source d mem
    exact binds index width d.2.2 d.2.1 d.1 made said

/-- No direction of a round is recorded when the ledger is not open for them. -/
lemma appendDirections_shut {numbered : List (String × ResearchProposal × PlannerResult)}
    {outcome : Except (Halt RouterError) (List (ExperimentSpec × Event))} {w' : World Event Submission Answer}
    (hr : replay w.log = .ok r) (shut : ¬ OpenFor h w.log r context.contextId)
    (cites : ∀ d ∈ numbered, d.2.1.contextId = context.contextId)
    (fresh : ∀ d ∈ numbered, d.1 ∉ (proposals w.log).map (·.experimentId))
    (run : h.appendDirections planner context cause numbered w = (outcome, w')) : w' = w := by
  cases numbered with
  | nil =>
    cases run
    rfl
  | cons d numbered =>
    obtain ⟨x, proposal, result⟩ := d
    have first := cites _ List.mem_cons_self
    have shut' : ¬ OpenFor h w.log r proposal.contextId := first ▸ shut
    obtain ⟨halt, refused⟩ : ∃ halt, h.appendProposal planner { proposal with experimentId := x } result
        .parallelProposed cause w = (.error halt, w) :=
      appendProposal_refused hr shut' (fresh _ List.mem_cons_self)
    rw [Harness.appendDirections, if_neg (not_not.mpr first), Program.run_bind_error refused] at run
    cases run
    rfl

/-- Recorded directions with consecutive ids and new keys are a round. -/
lemma RoundOf.of_specs {width : Nat} {prepared : List (ExperimentSpec × Event)} {log : List Event}
    {numbered : List (String × ResearchProposal × PlannerResult)}
    (specs : prepared.map (fun p => p.1.toResearchProposal) = numbered.map numberedDirection)
    (recorded : proposals log = proposals es ++ prepared.map Prod.fst)
    (ids : numbered.map Prod.fst = parallelExperimentIds planner.digits es width)
    (keys : (numbered.map fun d => d.2.1.duplicateKey).Nodup)
    (unused : ∀ d ∈ numbered, d.2.1.duplicateKey ∉ (proposals es).map (·.duplicateKey)) :
    RoundOf planner es width prepared log := by
  have field {β : Type} (f : ResearchProposal → β) : prepared.map (fun p => f p.1.toResearchProposal) =
      numbered.map fun d => f (numberedDirection d) := by
    have mapped := congrArg (List.map f) specs
    rw [List.map_map, List.map_map] at mapped
    exact mapped
  have idsOf : prepared.map (fun p => p.1.experimentId) = parallelExperimentIds planner.digits es width :=
    (field (·.experimentId)).trans ids
  have keysOf : prepared.map (fun p => p.1.duplicateKey) = numbered.map fun d => d.2.1.duplicateKey :=
    field (·.duplicateKey)
  refine ⟨?_, recorded, idsOf, keysOf ▸ keys, fun p mem => ?_⟩
  · have lengths := congrArg List.length idsOf
    rw [List.length_map, Research.parallelExperimentIds_length] at lengths
    exact lengths
  · have listed : p.1.duplicateKey ∈ numbered.map fun d => d.2.1.duplicateKey := by
      rw [← keysOf]
      exact List.mem_map.mpr ⟨p, mem, rfl⟩
    obtain ⟨d, inside, same⟩ := List.mem_map.mp listed
    rw [← same]
    exact unused d inside

/-- Directions under new ids and with new keys are recorded as a round, or not at all. -/
lemma appendDirections_whole {width : Nat} {numbered : List (String × ResearchProposal × PlannerResult)}
    {outcome : Except (Halt RouterError) (List (ExperimentSpec × Event))} {w' : World Event Submission Answer}
    (v : ValidLedger w.log) (hr : replay w.log = .ok r) (same : proposals w.log = proposals es)
    (caused : ∃ f ∈ w.log, f.eventId = cause) (ready : planner.Ready h w.log r document)
    (binds : planner.Binds document)
    (source : ∀ d ∈ numbered, ∃ index,
      planner.proposeParallelDirection document.forPlanner index width = .ok d.2.2 ∧ d.2.2.spec = some d.2.1)
    (ids : numbered.map Prod.fst = parallelExperimentIds planner.digits es width)
    (keys : (numbered.map fun d => d.2.1.duplicateKey).Nodup)
    (unused : ∀ d ∈ numbered, d.2.1.duplicateKey ∉ (proposals es).map (·.duplicateKey))
    (run : h.appendDirections planner document.forPlanner cause numbered w = (outcome, w')) :
    proposals w'.log = proposals es ∨
      ∃ prepared, outcome = .ok prepared ∧ RoundOf planner es width prepared w'.log := by
  have cites : ∀ d ∈ numbered, d.2.1.contextId = document.forPlanner.contextId := by
    intro d mem
    obtain ⟨index, made, said⟩ := source d mem
    exact ready.cites index width d.2.2 d.2.1 made said
  have fresh : ∀ d ∈ numbered, d.1 ∉ (proposals w.log).map (·.experimentId) := by
    intro d mem
    rw [same]
    exact Research.parallelExperimentIds_new (ids ▸ List.mem_map_of_mem mem)
  by_cases opens : OpenFor h w.log r document.contextId
  · have admissible := ready.admissible binds opens source fresh (ids ▸ Research.parallelExperimentIds_nodup _ _) keys
      (same ▸ unused)
    obtain ⟨prepared, log, recorded, proposed, specs⟩ :=
      appendDirections_recorded v hr opens.run caused cites admissible
    rw [recorded] at run
    cases run
    exact .inr ⟨prepared, rfl, .of_specs specs (same ▸ proposed) ids keys unused⟩
  · have shut : ¬ OpenFor h w.log r document.forPlanner.contextId := opens
    rw [appendDirections_shut hr shut cites fresh run]
    exact .inl same

/-- The answers of a round are recorded as a whole. -/
lemma prepareDirections_whole {results : List PlannerResult} {width : Nat} {w' : World Event Submission Answer}
    {outcome : Except (Halt RouterError) (List (ExperimentSpec × Event))} (v : ValidLedger w.log)
    (hr : replay w.log = .ok r) (same : proposals w.log = proposals es) (caused : ∃ f ∈ w.log, f.eventId = cause)
    (answered : (List.range width).mapM
      (fun index => planner.proposeParallelDirection document.forPlanner index width) = .ok results)
    (ready : planner.Ready h w.log r document) (binds : planner.Binds document)
    (run : h.prepareDirections planner es document.forPlanner cause results w = (outcome, w')) :
    proposals w'.log = proposals es ∨
      ∃ prepared, outcome = .ok prepared ∧ RoundOf planner es width prepared w'.log := by
  have count : results.length = width := by
    rw [← (mapM_eq_ok.mp answered).length_eq, List.length_range]
  unfold Harness.prepareDirections at run
  cases spoken : results.mapM fun result => result.spec.map fun proposal => (proposal, result) with
  | none =>
    rw [spoken] at run
    exact .inl ((quiet_run (moves_after (moves_stop _) fun _ => moves_pure []) v run).trans same)
  | some directions =>
    rw [spoken] at run
    dsimp only at run
    have length : directions.length = width := by
      rw [← (forall₂_of_mapM_eq_some spoken).length_eq, count]
    by_cases refused : roundRefused es (directions.map fun direction => direction.1.duplicateKey) = true
    · rw [if_pos refused] at run
      refine .inl ((quiet_run ?_ v run).trans same)
      exact moves_after (moves_recordPlanningFailure _ _ _) fun _ => moves_raise _
    · rw [if_neg refused, Program.run_bind_ok (events_run w), count, parallelExperimentIds_same same] at run
      obtain ⟨keys, unused⟩ := roundRefused_false.mp (eq_false_of_ne_true refused)
      have idsLength : (parallelExperimentIds planner.digits es width).length = width :=
        Research.parallelExperimentIds_length _ _
      have firsts := List.map_fst_zip (le_of_eq (idsLength.trans length.symm))
      have seconds := List.map_snd_zip (le_of_eq (length.trans idsLength.symm))
      generalize (parallelExperimentIds planner.digits es width).zip directions = numbered at run firsts seconds
      have inside : ∀ d ∈ numbered, d.2 ∈ directions := fun d mem => seconds ▸ List.mem_map_of_mem mem
      have keysOf : (numbered.map fun d => d.2.1.duplicateKey) = directions.map fun d => d.1.duplicateKey := by
        rw [← seconds, List.map_map]
        rfl
      exact appendDirections_whole v hr same caused ready binds
        (fun d mem => answered_direction answered spoken (inside d mem)) firsts (keysOf ▸ keys)
        (fun d mem => unused _ (List.mem_map.mpr ⟨d.2, inside d mem, rfl⟩)) run

/-- The requests of a round end with the whole round, or without a proposal. -/
lemma requestDirections_whole {width : Nat} {w' : World Event Submission Answer}
    {outcome : Except (Halt RouterError) (Option (List (ExperimentSpec × Event)))} (v : ValidLedger w.log)
    (hr : replay w.log = .ok r) (same : proposals w.log = proposals es) (caused : ∃ f ∈ w.log, f.eventId = cause)
    (ready : planner.Ready h w.log r document) (binds : planner.Binds document)
    (run : h.requestDirections planner es document.forPlanner cause width w = (outcome, w')) :
    proposals w'.log = proposals es ∨
      ∃ prepared, outcome = .ok (some prepared) ∧ RoundOf planner es width prepared w'.log := by
  unfold Harness.requestDirections at run
  cases answered : (List.range width).mapM
    fun index => planner.proposeParallelDirection document.forPlanner index width with
  | error error =>
    rw [answered] at run
    refine .inl ((quiet_run (moves_after (moves_recordPlanningFailure _ _ _) fun _ => ?_) v run).trans same)
    exact moves_after (moves_stop _) fun _ => moves_pure _
  | ok results =>
    rw [answered] at run
    dsimp only at run
    cases prepares : h.prepareDirections planner es document.forPlanner cause results w with
    | mk outcome' w1 =>
      have whole := prepareDirections_whole v hr same caused answered ready binds prepares
      cases outcome' with
      | error halt =>
        rw [Program.run_map_error prepares] at run
        cases run
        refine whole.imp_right ?_
        rintro ⟨_, impossible, _⟩
        cases impossible
      | ok prepared =>
        rw [Program.run_map_ok prepares] at run
        cases run
        refine whole.imp_right ?_
        rintro ⟨_, same, round⟩
        cases same
        exact ⟨prepared, rfl, round⟩

/-- A parallel round is proposed as a whole. When the planner normalises its directions for evaluated parents of the
context of the round and each of them has an implementation, on a ledger with a baseline under its own name, a round
ends without a new proposal, or it records a proposal for every direction of its width, with new ids in a row and
with new and different keys. A direction for another context, or one without an implementation, is outside: it may
end a round whose first proposals are recorded. -/
theorem parallel_round_whole {count : Nat} {w' : World Event Submission Answer}
    {outcome : Except (Halt RouterError) (Option (List (ExperimentSpec × Event)))} (v : ValidLedger w.log)
    (named : BaselineNamed w.log)
    (directed : ∀ document, planner.buildPlanner w.log = .ok document →
      planner.Normalizes w.log document ∧ planner.Binds document)
    (run : h.prepareParallelRound planner count w = (outcome, w')) :
    proposals w'.log = proposals w.log ∨ ∃ document width prepared, planner.buildPlanner w.log = .ok document ∧
      planner.width document.forPlanner count = some width ∧ outcome = .ok (some prepared) ∧
      RoundOf planner w.log width prepared w'.log := by
  obtain ⟨r, hr⟩ := v.replay
  obtain ⟨s, state⟩ := ValidLedger.project v
  unfold Harness.prepareParallelRound at run
  rw [Program.run_bind_ok (events_run w), Program.run_bind_ok (state_run state)] at run
  cases stopped : stopDecision s w.log h.config false false with
  | some decision =>
    rw [stopped] at run
    exact .inl (quiet_run (moves_after (moves_stop _) fun _ => moves_pure _) v run)
  | none =>
    rw [stopped] at run
    dsimp only at run
    cases built : planner.buildPlanner w.log with
    | error error =>
      have failed : Harness.plannerContext planner w.log w = (.error (.raised (.internal error)), w) := by
        unfold Harness.plannerContext
        rw [built]
        rfl
      rw [Program.run_bind_error failed] at run
      cases run
      exact .inl rfl
    | ok document =>
      have made : Harness.plannerContext planner w.log w = (.ok document.forPlanner, w) := by
        unfold Harness.plannerContext
        rw [built]
        rfl
      obtain ⟨normalizes, binds⟩ := directed document built
      rw [Program.run_bind_ok made] at run
      cases wide : planner.width document.forPlanner count with
      | none =>
        rw [wide] at run
        cases run
        exact .inl rfl
      | some width =>
        rw [wide] at run
        dsimp only at run
        cases recorded : h.append (.contextCreated document.forPlanner) ⟨"run", .parallelPlannerContext, 0⟩
          (w.log.getLast?.map Event.eventId) {} w with
        | mk made w1 =>
          cases append_run recorded with
          | failed =>
            rw [Program.run_bind_error recorded] at run
            cases run
            exact .inl rfl
          | @again e mem _ =>
            rw [Program.run_bind_ok recorded] at run
            have ready : planner.Ready h w.log r document := normalizes.ready_again v hr named
            exact (requestDirections_whole v hr rfl ⟨e, mem, rfl⟩ ready binds run).imp_right
              fun ⟨prepared, same, round⟩ => ⟨document, width, prepared, rfl, wide, same, round⟩
          | @recorded e _ accepted payload =>
            rw [Program.run_bind_ok recorded] at run
            have same : proposals (w.log ++ [e]) = proposals w.log := by
              rw [proposals_snoc, payload]
              exact List.append_nil _
            obtain ⟨r', step⟩ := accepted.step hr
            have hr' : replay (w.log ++ [e]) = .ok r' := by
              rw [replay_snoc, hr]
              exact step
            have ready : planner.Ready h (w.log ++ [e]) r' document :=
              normalizes.ready v hr named accepted payload step same
            exact (requestDirections_whole (w := { w with log := w.log ++ [e] }) (v.snoc accepted) hr' same
              ⟨e, List.mem_append_right _ List.mem_cons_self, rfl⟩ ready binds run).imp_right
              fun ⟨prepared, same, round⟩ => ⟨document, width, prepared, rfl, wide, same, round⟩

end Rounds

section Scenario
open Scenario
open Research (twoFamilies committedSummaries buildPlanner ExperimentNodeView candidateCard joined)

/-- A refinement of the evaluated experiment by the method of a family. -/
def refinement (family : String) : Except AdapterError PlannerResult :=
  match buildPlanner twoFamilies evaluatedRun,
    (committedSummaries twoFamilies evaluatedRun).find? (fun committed =>
      committed.summary.experimentId = "exp" && committed.summary.trustVerdict.isSome) with
  | some context, some committed =>
    match ExperimentNodeView.fromSummary committed.summary with
    | some view => .ok (proposing (Research.normalize Research.asciiDigits joined
        { contextId := "next"
          sourceEventIds := [14]
          context
          choice := Research.proposal view family (candidateCard (Research.methodOf family) family) "refinement"
            "REFINE" ""
          parentCommitSha := committed.commitSha }
        { hypothesis := "hypothesis", changeSummary := "summary" }))
    | none => .error ⟨"ValueError", "the experiment is not shown", {}, ""⟩
  | _, _ => .error ⟨"ValueError", "the experiment is not shown", {}, ""⟩

lemma refinement_normalized {family : String} {result : PlannerResult} (answered : refinement family = .ok result) :
    result.methodCardIds = [] ∧ ∃ request raw, Research.Directed twoFamilies evaluatedRun request ∧
      request.contextId = "next" ∧
      result.spec = some (Research.normalize Research.asciiDigits joined request raw) := by
  unfold refinement at answered
  split at answered
  · rename_i context committed built found
    cases shown : ExperimentNodeView.fromSummary committed.summary with
    | none =>
      rw [shown] at answered
      cases answered
    | some view =>
      rw [shown] at answered
      cases answered
      have trusted := List.find?_some found
      simp only [Bool.and_eq_true, decide_eq_true_eq] at trusted
      have verdict : committed.summary.trustVerdict ≠ none := Option.isSome_iff_ne_none.mp trusted.2
      exact ⟨rfl, _, _, ⟨built, committed, List.mem_of_find?_eq_some found, view, rfl, shown, rfl, verdict⟩, rfl, rfl⟩
  · cases answered

/-- A planner that refines the evaluated experiment in two directions. -/
def refiningPlanner : Planner :=
  { eagerPlanner with
    buildPlanner := fun _ => .ok { contextId := "next", role := .planner, experimentId := none }
    proposeParallelDirection := fun _ index _ => refinement (if index = 0 then "objective" else "model") }

/-- A round of two directions. -/
def refinedRound : Except (Halt RouterError) (Option (List (ExperimentSpec × Event))) ×
    World Event Submission Answer :=
  scenarioHarness.prepareParallelRound refiningPlanner 2 { log := evaluatedRun, script := [] }

theorem parallel_round_whole_run :
    (proposals refinedRound.2.log = proposals evaluatedRun ∨ ∃ document width prepared,
      refiningPlanner.buildPlanner evaluatedRun = .ok document ∧
      refiningPlanner.width document.forPlanner 2 = some width ∧ refinedRound.1 = .ok (some prepared) ∧
      RoundOf refiningPlanner evaluatedRun width prepared refinedRound.2.log) ∧
      (proposals refinedRound.2.log).map (·.experimentId) = ["exp", "exp_001", "exp_002"] := by
  have v : ValidLedger evaluatedRun := .of_check (by decide +kernel)
  have run : scenarioHarness.prepareParallelRound refiningPlanner 2 { log := evaluatedRun, script := [] } =
      (refinedRound.1, refinedRound.2) := (Prod.mk.eta (p := refinedRound)).symm
  have named : Research.BaselineNamed evaluatedRun := by
    have all : (eventsOf EventPayload.baseline evaluatedRun).all (fun found => found.2.experimentId = "baseline") =
        true := by
      decide +kernel
    simpa [Research.BaselineNamed] using all
  refine ⟨parallel_round_whole v named (fun document built => ?_) run, by decide +kernel⟩
  cases built
  refine ⟨fun index width result proposal answered proposes => ?_,
    fun index width result proposal experimentId answered proposes => ?_⟩
  · obtain ⟨_, request, raw, directed, cited, said⟩ := refinement_normalized answered
    rw [proposes] at said
    exact ⟨twoFamilies, joined, request, raw, directed, cited, Option.some.inj said⟩
  · rw [(refinement_normalized answered).1]
    exact ⟨_, rfl⟩

end Scenario

end TacoRank
