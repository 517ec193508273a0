import TacoRank.Memory.Envelope
import TacoRank.Orchestrator.Lifecycle
import TacoRank.Orchestrator.NodeTrace
import TacoRank.Research.Duplicates

/-!
# Normalised proposals

Port of `_next_experiment_id` and `_normalize` in `providers/deepseek.py`, of `_parallel_experiment_ids` of the
router, and of the commits in `_planner_experiments`. A provider answers with texts; the ids of a proposal, its
parent and its commit come from the planner's context. So the state machine can refuse a proposal that was
normalised for an evaluated parent for its duplicate key only (`normalized_recorded_iff`).
-/

namespace TacoRank.Research
open Lib Lib.Result

/-! ### Experiment ids -/

/-- The decimal digits that `\d` matches and `int` reads. -/
structure DecimalTable where
  digit : Char → Option Nat
  ascii : ∀ c, c.isDigit = true → digit c = some (c.toNat - '0'.toNat)

section Ids
variable (table : DecimalTable)

/-- `re.fullmatch(r"exp_(\d+)", identifier)`: the number in the group and its width. -/
def experimentNumber (identifier : String) : Option (Nat × Nat) :=
  let group := identifier.toList.drop 4
  if identifier.toList.take 4 = "exp_".toList ∧ group ≠ [] ∧ group.all fun c => (table.digit c).isSome then
    some (group.foldl (fun n c => 10 * n + (table.digit c).getD 0) 0, group.length)
  else none

/-- `"exp_%0*d" % (width, number)`. -/
def numberedExperiment (width number : Nat) : String := "exp_" ++ String.ofList (Memory.padded width number)

/-- `_next_experiment_id`. The baseline and the best experiment of a context are models, which list their fields
when they are iterated, and these have no id. -/
def nextExperimentId {R : Type} (context : PlannerContext R) : String :=
  let found := (context.eligibleFrontier ++ context.familyHistory).filterMap fun summary =>
    experimentNumber table summary.experimentId
  numberedExperiment ((found.map Prod.snd).foldl max 3) ((found.map Prod.fst).foldl max 0 + 1)

/-- `_parallel_experiment_ids`. -/
def parallelExperimentIds (events : List Event) (count : Nat) : List String :=
  let numbers := (proposals events).filterMap fun spec => (experimentNumber table spec.experimentId).map Prod.fst
  (List.range' (numbers.foldl max 0 + 1) count).map (numberedExperiment 3)

variable {table}

lemma le_foldl_max {l : List Nat} {n : Nat} (mem : n ∈ l) (m : Nat) : n ≤ l.foldl max m := by
  induction l generalizing m with
  | nil => cases mem
  | cons k l ih =>
    rcases List.mem_cons.mp mem with rfl | later
    · have grows : ∀ (l : List Nat) m, m ≤ l.foldl max m := by
        intro l
        induction l with
        | nil => exact fun m => le_refl m
        | cons k l ih => exact fun m => (le_max_left m k).trans (ih _)
      exact (le_max_right m n).trans (grows l _)
    · exact ih later _

/-- ASCII digits are read as decimal numbers. -/
lemma foldl_digits {cs : List Char} (digits : ∀ c ∈ cs, c.isDigit = true) (n : Nat) :
    cs.foldl (fun n c => 10 * n + (table.digit c).getD 0) n = Nat.ofDigitChars 10 cs n := by
  induction cs generalizing n with
  | nil => rfl
  | cons c cs ih =>
    rw [List.foldl_cons, table.ascii c (digits c List.mem_cons_self), Option.getD_some,
      ih fun d mem => digits d (List.mem_cons_of_mem _ mem)]
    rfl

/-- The number of an experiment can be read off its id. -/
lemma experimentNumber_numbered (table : DecimalTable) (width number : Nat) :
    (experimentNumber table (numberedExperiment width number)).map Prod.fst = some number := by
  have digits : ∀ c ∈ Memory.padded width number, c.isDigit = true := by
    intro c mem
    rw [Memory.padded, List.mem_append] at mem
    rcases mem with zero | digit
    · rw [(List.mem_replicate.mp zero).2]
      rfl
    · exact Nat.isDigit_of_mem_toDigits (by decide) (by decide) digit
  have text : (numberedExperiment width number).toList = "exp_".toList ++ Memory.padded width number := by
    simp [numberedExperiment]
  have first : (numberedExperiment width number).toList.take 4 = "exp_".toList := by
    rw [text]
    rfl
  have group : (numberedExperiment width number).toList.drop 4 = Memory.padded width number := by
    rw [text]
    rfl
  have nonempty : Memory.padded width number ≠ [] := by
    simp [Memory.padded, Nat.toDigits_ne_nil]
  have read : (Memory.padded width number).all (fun c => (table.digit c).isSome) = true := by
    rw [List.all_eq_true]
    intro c mem
    rw [table.ascii c (digits c mem)]
    rfl
  rw [experimentNumber, group, if_pos ⟨first, nonempty, read⟩, Option.map_some, foldl_digits digits, Memory.padded,
    Nat.ofDigitChars_append, Nat.ofDigitChars_replicate_zero, Nat.mul_zero, Nat.ofDigitChars_ten_toDigits]

/-- An id with a greater number is free. -/
lemma numbered_unlisted (table : DecimalTable) {identifiers : List String} {width number : Nat}
    (above : ∀ identifier ∈ identifiers, ∀ found, experimentNumber table identifier = some found →
      found.1 < number) : numberedExperiment width number ∉ identifiers := by
  intro mem
  obtain ⟨found, parsed, same⟩ := Option.map_eq_some_iff.mp (experimentNumber_numbered table width number)
  exact absurd same (above _ mem found parsed).ne

/-- The next id of a context is none of its ids. -/
lemma nextExperimentId_unlisted {R : Type} (table : DecimalTable) (context : PlannerContext R) :
    nextExperimentId table context ∉ (context.eligibleFrontier ++ context.familyHistory).map (·.experimentId) := by
  refine numbered_unlisted table fun identifier mem found parsed => Nat.lt_succ_of_le (le_foldl_max ?_ 0)
  obtain ⟨summary, listed, rfl⟩ := List.mem_map.mp mem
  exact List.mem_map.mpr ⟨found, List.mem_filterMap.mpr ⟨summary, listed, parsed⟩, rfl⟩

/-- The ids of a parallel round are new. -/
lemma parallelExperimentIds_new {events : List Event} {count : Nat} {x : String}
    (mem : x ∈ parallelExperimentIds table events count) : x ∉ (proposals events).map (·.experimentId) := by
  obtain ⟨number, range, rfl⟩ := List.mem_map.mp mem
  refine numbered_unlisted table fun identifier listed found parsed => ?_
  obtain ⟨spec, proposed, rfl⟩ := List.mem_map.mp listed
  have known : found.1 ∈ (proposals events).filterMap fun spec =>
      (experimentNumber table spec.experimentId).map Prod.fst :=
    List.mem_filterMap.mpr ⟨spec, proposed, by rw [parsed]; rfl⟩
  have below := le_foldl_max known 0
  have start := (List.mem_range'_1.mp range).1
  omega

/-- The ids of a parallel round are different. -/
lemma parallelExperimentIds_nodup (events : List Event) (count : Nat) :
    (parallelExperimentIds table events count).Nodup := by
  refine List.Nodup.map ?_ List.nodup_range'
  intro number number' same
  have left := experimentNumber_numbered table 3 number
  rw [same, experimentNumber_numbered] at left
  exact (Option.some.inj left).symm

@[simp] lemma parallelExperimentIds_length (events : List Event) (count : Nat) :
    (parallelExperimentIds table events count).length = count := by
  simp [parallelExperimentIds]

end Ids

/-! ### Commits -/

/-- A summary with its `commit_sha`. -/
structure CommittedSummary where
  summary : PlannerExperimentSummary ℚ
  commitSha : String

/-- The summaries of `_planner_experiments`: that of the baseline and one for each proposal. -/
def committedSummaries (sources : PlannerSources) (events : List Event) : List CommittedSummary :=
  match project events, (eventsOf EventPayload.baseline events).head? with
  | .ok state, some (_, payload) =>
    { summary := plannerBaseline sources.baselinePredictionChange events payload, commitSha := payload.commitSha } ::
      (proposals events).map fun spec =>
        let node := state.experiments.get? spec.experimentId
        { summary := plannerExperiment sources.describe events state spec
          commitSha := (node.bind (·.latestCommitSha)).getD spec.parentCommitSha }
  | _, _ => []

section Commits
variable {sources : PlannerSources} {es : List Event} {s : RunState} {payload : BaselineVerified}
variable {context : PlannerContext ℚ}

/-- A planner's context shows the summaries of its ledger. -/
lemma buildPlanner_inv (built : buildPlanner sources es = some context) : ∃ s b payload, project es = .ok s ∧
    (eventsOf EventPayload.baseline es).head? = some (b, payload) ∧
    context.familyHistory = (proposals es).map (plannerExperiment sources.describe es s) ∧
    context.eligibleFrontier = plannerBaseline sources.baselinePredictionChange es payload ::
      context.familyHistory.filter (·.parentEligible) := by
  unfold buildPlanner at built
  split at built
  · rename_i s b payload projected first
    cases built
    exact ⟨s, b, payload, projected, first, rfl, rfl⟩
  · cases built

/-- The next id is free in the ledger. -/
lemma nextExperimentId_new {table : DecimalTable} (built : buildPlanner sources es = some context) :
    nextExperimentId table context ∉ (proposals es).map (·.experimentId) := by
  obtain ⟨s, b, payload, _, _, history, _⟩ := buildPlanner_inv built
  intro mem
  refine nextExperimentId_unlisted table context ?_
  rw [List.map_append, history, List.map_map]
  exact List.mem_append_right _ mem

/-- The baseline is verified at most once. -/
lemma baseline_once (v : ValidLedger es) : (eventsOf EventPayload.baseline es).length ≤ 1 := by
  induction v with
  | nil => exact Nat.zero_le 1
  | @snoc es e v ok ih =>
    rw [eventsOf_snoc, List.length_append]
    cases verified : e.payload.baseline with
    | none =>
      have silent : eventsOf EventPayload.baseline [e] = [] := by simp [eventsOf, verified]
      rw [silent]
      exact ih
    | some payload =>
      have front : ValidLedger es := v
      obtain ⟨r, hr⟩ := front.replay
      have type : e.payload = .baselineVerified payload := by
        cases p : e.payload with
        | baselineVerified =>
          rw [p] at verified
          cases verified
          rfl
        | _ =>
          rw [p] at verified
          cases verified
      have branch := (ok.branch hr (by rw [type]; simp [EventPayload.type])).2
      rw [type] at branch
      simp only [validateBranch, validateBaselineVerified, bind_eq_ok, require_ok] at branch
      obtain ⟨_, _, _, first, _⟩ := branch
      rw [first]
      simp [eventsOf, verified]

/-- An experiment that was evaluated is not the baseline, and has a commit. -/
lemma evaluated_commit {r : Reducer} {x : String} {found : Event × EvaluationResult} (v : ValidLedger es)
    (hr : replay es = .ok r) (evaluated : lastForExperiment .evaluationCompleted es x = some found) :
    x ≠ "baseline" ∧ ∃ n commit, r.state.experiments.get? x = some n ∧ n.latestCommitSha = some commit := by
  obtain ⟨f, result⟩ := found
  obtain ⟨pre, post, rfl, _, _⟩ := lastForExperiment_split evaluated
  obtain ⟨payload, owner⟩ := lastForExperiment_payload evaluated
  obtain ⟨r0, n0, q, hr0, node, legal⟩ := v.evaluation_inv payload
  have other : x ≠ "baseline" := by
    rw [← owner]
    exact legal.notBaseline
  refine ⟨other, ?_⟩
  -- the commit is that of the newest patch, and the gate has checked one
  obtain ⟨c, _, _, _, check, _, _, provenance⟩ := legal.provenance v.front hr0 node
  obtain ⟨checked, checkOwner, _⟩ := provenance.checked
  have inside : c ∈ pre := provenance.order.subset List.mem_cons_self
  obtain ⟨a, b, rfl⟩ := List.append_of_mem inside
  obtain ⟨r1, hr1⟩ := v.front.front.replay
  have branch := (v.front.accepted.branch hr1 (by rw [checked]; simp [EventPayload.type])).2
  rw [checked] at branch
  obtain ⟨_, _, gate⟩ := validatePatchChecked_ok.mp branch
  obtain ⟨⟨p, candidate⟩, patched, _⟩ := gate.patch
  obtain ⟨created, patchOwner⟩ := lastForExperiment_payload patched
  have listed : p ∈ (a ++ c :: b) ++ f :: post :=
    List.mem_append_left _ (List.mem_append_left _ (lastForExperiment_mem patched))
  have own : p.payload.experiment = some x := by
    rw [created]
    exact congrArg some (patchOwner.trans (checkOwner.trans owner))
  obtain ⟨n, present⟩ := v.node_of_event hr listed own
  have traced : p ∈ trace x ((a ++ c :: b) ++ f :: post) :=
    mem_trace.mpr ⟨listed, EventPayload.owner_experiment own⟩
  cases newer : newest (ofTypes [.patchCreated]) (trace x ((a ++ c :: b) ++ f :: post)) with
  | none =>
    have silent := newest_none.mp newer p traced
    rw [created] at silent
    cases silent
  | some e =>
    obtain ⟨_, type⟩ := newest_mem newer
    cases payload' : e.payload with
    | patchCreated candidate' => exact ⟨n, _, present, (v.nodeTrace hr present).commit e candidate' newer payload'⟩
    | _ => simp [ofTypes, payload', EventPayload.type] at type

end Commits

/-! ### Proposals that the ledger takes -/

/-- All that the state machine asks of a proposal besides a duplicate key that it admits. -/
structure Proposable (es : List Event) (r : Reducer) (spec : ExperimentSpec) : Prop where
  accepting : r.state.status = .ready ∨ r.state.status = .running
  unused : r.state.experiments.get? spec.experimentId = none
  parent : ∃ parentId, spec.parentExperimentId = some parentId ∧
    (parentId = "baseline" ∧ (∃ b, (eventsOf EventPayload.baseline es).getLast? = some b ∧
        b.2.commitSha = spec.parentCommitSha) ∨
      parentId ≠ "baseline" ∧ ∃ n, r.state.experiments.get? parentId = some n ∧
        n.latestCommitSha = some spec.parentCommitSha)
  context : ∃ found, (eventsOf EventPayload.context es).getLast? = some found ∧ found.2.role = .planner ∧
    found.2.contextId = spec.contextId

section Proposable
variable {es : List Event} {r r' : Reducer} {spec other : ExperimentSpec} {e : Event}

/-- Only the duplicate rule is left. -/
lemma Proposable.recorded_iff (h : Proposable es r spec) (hr : replay es = .ok r) :
    validateTransition es (.experimentProposed spec) = .ok () ↔ ledgerAdmits es (r.state.aggregate es) spec = true := by
  obtain ⟨found, last, role, contextId⟩ := h.context
  have started : es ≠ [] := by
    rintro rfl
    cases last
  have legal : StatusLegal r.state.status .experimentProposed := by
    rcases h.accepting with status | status
    all_goals
      rw [status]
      exact ⟨by simp, by simp, by simp⟩
  constructor
  · intro valid
    cases (validateTransition_ok hr).mp valid with
    | first start => exact absurd start started
    | later _ _ _ branch => exact ledgerAdmits_of_accepted branch
  · intro admitted
    refine (validateTransition_ok hr).mpr (.later started (by simp [EventPayload.type]) legal ?_)
    obtain ⟨parentId, parent, place⟩ := h.parent
    have known : ∀ x ∈ spec.parentExperimentId, x ≠ "" →
        ((r.state.aggregate es).experiments.get? x).isSome = true ∨ x = "baseline" := by
      intro x mem _
      rw [parent] at mem
      cases mem
      rcases place with ⟨same, _⟩ | ⟨_, n, node, _⟩
      · exact .inr same
      · exact .inl (by simp [node])
    have commit : expectedParentCommit es (r.state.aggregate es) spec = .ok (some spec.parentCommitSha) := by
      unfold expectedParentCommit
      rcases place with ⟨rfl, b, verified, commit⟩ | ⟨other, n, node, commit⟩
      · simp only [parent, if_true, lastOf_ok.mpr verified, ← commit]
        rfl
      · simp only [parent, if_neg other, RunState.aggregate_experiments, node, bind_eq_ok, require_ok]
        exact ⟨(), by simp [commit], by rw [commit]; rfl⟩
    have fresh : ¬ ((r.state.aggregate es).experiments.values.any fun node => node.duplicateKey = spec.duplicateKey) ∨
        authorizedNoOpReimplementation es (r.state.aggregate es) spec = true ∨
          authorizedFailedAttemptReexploration (r.state.aggregate es) spec = true := by
      simpa [ledgerAdmits] using admitted
    simp only [validateBranch, validateExperimentProposed, bind_eq_ok, require_ok, requireSome_ok, commit]
    exact ⟨(), by simpa using h.accepting, (), by simpa using h.unused, (), fresh, (), known, _, rfl, (), rfl, found,
      ⟨last, trivial⟩, role, contextId⟩

/-- The proposal of another new experiment leaves a proposal proposable. -/
lemma Proposable.next (h : Proposable es r spec) (payload : e.payload = .experimentProposed other)
    (new : r.state.experiments.get? other.experimentId = none) (distinct : other.experimentId ≠ spec.experimentId)
    (step : r.step e = .ok r') : Proposable (es ++ [e]) r' spec := by
  have run := Reducer.step_inv step
  have kept : ∀ x, x ≠ other.experimentId → r'.state.experiments.get? x = r.state.experiments.get? x := by
    intro x different
    have write := run.nodes x
    generalize r.state.experiments.get? x = n at write ⊢
    generalize r'.state.experiments.get? x = n' at write ⊢
    cases write with
    | frame => rfl
    | proposed payload' owner =>
      rw [payload] at payload'
      cases payload'
      exact absurd owner.symm different
    | update _ old => exact absurd payload (old other)
  have silent {β : Type} {read : EventPayload → Option β} (unread : read (.experimentProposed other) = none) :
      eventsOf read (es ++ [e]) = eventsOf read es := by
    rw [eventsOf_snoc]
    simp [eventsOf, payload, unread]
  obtain ⟨parentId, parent, place⟩ := h.parent
  refine ⟨.inr (by rw [run.frame.status, payload]; rfl), ?_, ⟨parentId, parent, ?_⟩, ?_⟩
  · rw [kept _ distinct.symm]
    exact h.unused
  · rw [silent rfl]
    rcases place with baseline | ⟨other, n, node, commit⟩
    · exact .inl baseline
    · refine .inr ⟨other, n, ?_, commit⟩
      rw [kept, node]
      rintro rfl
      rw [node] at new
      cases new
  · rw [silent rfl]
    exact h.context

/-- A key that no proposal carries is admitted. -/
lemma ledgerAdmits_new (v : ValidLedger es) (hr : replay es = .ok r)
    (new : spec.duplicateKey ∉ (proposals es).map (·.duplicateKey)) :
    ledgerAdmits es (r.state.aggregate es) spec = true := by
  have unused : ¬ (r.state.aggregate es).experiments.values.any
      fun node => node.duplicateKey = spec.duplicateKey := by
    intro any
    obtain ⟨node, stored, same⟩ := List.any_eq_true.mp any
    rw [RunState.aggregate_experiments] at stored
    have keys := congrArg (List.map Prod.snd) (v.ledgered hr).listed
    simp only [List.map_map, Function.comp_def] at keys
    obtain ⟨x, found⟩ := Dict.mem_values.mp stored
    refine new ?_
    rw [← keys, ← of_decide_eq_true same]
    exact List.mem_map.mpr ⟨(x, node), Dict.mem_entries.mpr found, rfl⟩
  rw [ledgerAdmits, decide_eq_true_eq]
  exact .inl unused

end Proposable

/-! ### Normalisation -/

/-- The answer of a provider: texts, and the evidence and the methods that it cites. -/
structure RawPlan where
  hypothesis : String
  changeSummary : String
  evidenceEventIds : List EventId := []
  methodCardIds : List String := []
  details : String := ""

/-- What the provider reads off the request of the planner; the commit belongs to the view of the parent. -/
structure PlanRequest where
  contextId : String
  sourceEventIds : List EventId
  context : PlannerContext ℚ
  choice : PolicyChoice ℚ
  parentCommitSha : String

/-- The methods and the components in what `_normalize` returns. -/
def normalizedMethods (request : PlanRequest) (raw : RawPlan) : PlannedMethods :=
  let knownCards : Dict String String :=
    request.context.methodCards.foldl (fun known card => known.set card.methodId card.family) .empty
  let cited := raw.methodCardIds.filter fun item => knownCards.get? item = some (str request.choice.family)
  { methodCardIds := (request.choice.methodCardId.filter (· ≠ "")).elim cited ([·])
    componentExperimentIds := request.choice.componentExperimentIds
    changeSummary := raw.changeSummary }

/-- `_normalize`; `hash` is the digest of the duplicate key. -/
def normalize (table : DecimalTable) (hash : DuplicatePayload → String) (request : PlanRequest) (raw : RawPlan) :
    ResearchProposal :=
  let evidence := raw.evidenceEventIds.filter (· ∈ request.sourceEventIds)
  let proposal : ResearchProposal :=
    { experimentId := nextExperimentId table request.context
      parentExperimentId := some (request.choice.parent.elim "" (·.experimentId))
      parentCommitSha := request.parentCommitSha
      contextId := request.contextId
      hypothesis := raw.hypothesis
      family := str request.choice.family
      evidenceEventIds := if evidence = [] then request.sourceEventIds else evidence
      duplicateKey := ""
      details := raw.details }
  { proposal with duplicateKey := hash (duplicatePayload proposal (normalizedMethods request raw)) }

/-- A request about the context of a ledger, for a parent that was evaluated. -/
structure Directed (sources : PlannerSources) (es : List Event) (request : PlanRequest) : Prop where
  built : buildPlanner sources es = some request.context
  parent : ∃ committed ∈ committedSummaries sources es, ∃ view, request.choice.parent = some view ∧
    ExperimentNodeView.fromSummary committed.summary = some view ∧
    committed.commitSha = request.parentCommitSha ∧ committed.summary.trustVerdict ≠ none

section Normalization
variable {sources : PlannerSources} {es : List Event} {e : Event} {request : PlanRequest} {raw : RawPlan}
variable {table : DecimalTable} {hash : DuplicatePayload → String} {spec : ExperimentSpec} {s : RunState}

/-- The eligible parents of a context are summaries of evaluated experiments. -/
lemma eligibleParents_committed {context : PlannerContext ℚ} {view : ExperimentNodeView ℚ}
    (built : buildPlanner sources es = some context) (mem : view ∈ eligibleParents context) :
    ∃ committed ∈ committedSummaries sources es, ExperimentNodeView.fromSummary committed.summary = some view ∧
      committed.summary.trustVerdict ≠ none := by
  obtain ⟨s, b, payload, projected, first, history, frontier⟩ := buildPlanner_inv built
  obtain ⟨listed, eligible⟩ := List.mem_filter.mp mem
  have stored : ∀ (views : List (ExperimentNodeView ℚ)) (d : Dict String (ExperimentNodeView ℚ)),
      view ∈ (views.foldl (fun unique node => unique.set node.experimentId node) d).values →
        view ∈ views ∨ view ∈ d.values := by
    intro views
    induction views with
    | nil => exact fun d inside => .inr inside
    | cons node views ih =>
      intro d inside
      rcases ih _ inside with later | here
      · exact .inl (List.mem_cons_of_mem _ later)
      · obtain ⟨k, found⟩ := Dict.mem_values.mp here
        rw [Dict.get?_set] at found
        split at found
        · cases found
          exact .inl List.mem_cons_self
        · exact .inr (Dict.mem_values.mpr ⟨k, found⟩)
  rcases stored _ _ listed with shown | empty
  · obtain ⟨summary, inside, view'⟩ := List.mem_filterMap.mp shown
    have same : view.summary = summary := by
      unfold ExperimentNodeView.fromSummary at view'
      split at view'
      · cases view'
      · cases view'
        rfl
    have trusted : summary.trustVerdict ≠ none := by
      intro none
      rw [← same] at none
      simp [ExperimentNodeView.isParentEligible, ExperimentNodeView.isTrusted,
        ExperimentNodeView.isExploratoryParent, none] at eligible
    have known : ∃ committed ∈ committedSummaries sources es, committed.summary = summary := by
      simp only [committedSummaries, projected, first]
      rw [frontier] at inside
      rcases List.mem_cons.mp inside with rfl | kept
      · exact ⟨_, List.mem_cons_self, rfl⟩
      · have proposed := (List.mem_filter.mp kept).1
        rw [history] at proposed
        obtain ⟨spec, spec_mem, rfl⟩ := List.mem_map.mp proposed
        exact ⟨_, List.mem_cons_of_mem _ (List.mem_map.mpr ⟨spec, spec_mem, rfl⟩), rfl⟩
    obtain ⟨committed, member, rfl⟩ := known
    exact ⟨committed, member, view', trusted⟩
  · cases empty

/-- The baseline is recorded under its own name. -/
def BaselineNamed (es : List Event) : Prop :=
  ∀ found ∈ eventsOf EventPayload.baseline es, found.2.experimentId = "baseline"

/-- The commit of an evaluated parent is the one that the state machine expects. -/
lemma Directed.parent_known {r : Reducer} (v : ValidLedger es) (hr : replay es = .ok r)
    (directed : Directed sources es request) (named : BaselineNamed es) :
    ∃ view, request.choice.parent = some view ∧
      (view.experimentId = "baseline" ∧ (∃ b, (eventsOf EventPayload.baseline es).getLast? = some b ∧
          b.2.commitSha = request.parentCommitSha) ∨
        view.experimentId ≠ "baseline" ∧ ∃ n, r.state.experiments.get? view.experimentId = some n ∧
          n.latestCommitSha = some request.parentCommitSha) := by
  obtain ⟨s, b, payload, projected, first, _⟩ := buildPlanner_inv directed.built
  obtain ⟨r', hr', rfl⟩ := project_ok.mp projected
  obtain rfl : r = r' := Except.ok.inj (hr.symm.trans hr')
  obtain ⟨committed, member, view, parent, shown, commit, verdict⟩ := directed.parent
  refine ⟨view, parent, ?_⟩
  have same : view.experimentId = committed.summary.experimentId := by
    unfold ExperimentNodeView.fromSummary at shown
    split at shown
    · cases shown
    · cases shown
      rfl
  simp only [committedSummaries, projected, first] at member
  rw [same, ← commit]
  rcases List.mem_cons.mp member with rfl | proposed
  · have only : eventsOf EventPayload.baseline es = [(b, payload)] := by
      obtain ⟨rest, whole⟩ := List.head?_eq_some_iff.mp first
      have once := baseline_once v
      rw [whole, List.length_cons] at once
      rw [whole, List.length_eq_zero_iff.mp (Nat.le_zero.mp (Nat.le_of_succ_le_succ once))]
    exact .inl ⟨named (b, payload) (by rw [only]; exact List.mem_cons_self), (b, payload), by rw [only]; rfl, rfl⟩
  · obtain ⟨spec, _, rfl⟩ := List.mem_map.mp proposed
    have evaluated : ∃ found, lastForExperiment .evaluationCompleted es spec.experimentId = some found := by
      cases last : lastForExperiment .evaluationCompleted es spec.experimentId with
      | none =>
        refine absurd ?_ verdict
        simp only [plannerExperiment, last]
        rfl
      | some found => exact ⟨found, rfl⟩
    obtain ⟨found, last⟩ := evaluated
    obtain ⟨other, n, newest, node, newer⟩ := evaluated_commit v hr last
    refine .inr ⟨other, n, node, ?_⟩
    simp only [RunState.aggregate_experiments, node, Option.bind_some, newer, Option.getD_some]

/-- A run that has just been given a context accepts proposals. -/
lemma accepting_of_context {r : Reducer} {document : ContextDocument} (v : ValidLedger es) (hr : replay es = .ok r)
    (ok : Accepted es e) (payload : e.payload = .contextCreated document) :
    r.state.status = .ready ∨ r.state.status = .running := by
  obtain ⟨legal, branch⟩ := ok.branch hr (by rw [payload]; simp [EventPayload.type])
  rw [payload] at branch
  simp only [validateBranch, validateContextCreated, bind_eq_ok, require_ok, RunState.aggregate_status, List.mem_cons,
    List.not_mem_nil, or_false, not_or] at branch
  obtain ⟨_, baseline, stopped, finalizing⟩ := branch
  obtain ⟨k, passed⟩ := v.passed hr
  have verified := passed.baseline.mp baseline
  have reached := passed.reached
  have live := legal.live
  generalize r.state.status = status at reached live stopped finalizing
  cases reached with
  | initializing early => omega
  | ready => exact .inl rfl
  | running => exact .inr rfl
  | stopped => exact absurd rfl stopped
  | finalizing => exact absurd rfl finalizing
  | aborted | rejected => exact absurd rfl live.2
  | finalized => exact absurd rfl live.1

/-- What was normalised is proposable after its context, under any new id. -/
lemma Directed.proposable {r r' : Reducer} (v : ValidLedger es) (hr : replay es = .ok r)
    (directed : Directed sources es request) (named : BaselineNamed es) (ok : Accepted es e)
    {document : ContextDocument} (payload : e.payload = .contextCreated document) (role : document.role = .planner)
    (cited : document.contextId = request.contextId) (step : r.step e = .ok r')
    (normalized : spec.toResearchProposal =
      { normalize table hash request raw with experimentId := spec.experimentId })
    (fresh : spec.experimentId ∉ (proposals es).map (·.experimentId)) : Proposable (es ++ [e]) r' spec := by
  have run := Reducer.step_inv step
  have kept : ∀ x, r'.state.experiments.get? x = r.state.experiments.get? x := by
    intro x
    have write := run.nodes x
    generalize r.state.experiments.get? x = n at write ⊢
    generalize r'.state.experiments.get? x = n' at write ⊢
    cases write with
    | frame => rfl
    | proposed payload' => simp [payload] at payload'
    | update owner => simp [payload, EventPayload.experiment] at owner
  obtain ⟨view, parent, place⟩ := directed.parent_known v hr named
  have parentId : spec.parentExperimentId = some view.experimentId := by
    rw [normalized]
    simp [normalize, parent]
  have commit : spec.parentCommitSha = request.parentCommitSha := by
    rw [normalized]
    rfl
  have contextId : spec.contextId = request.contextId := by
    rw [normalized]
    rfl
  have silent : eventsOf EventPayload.baseline (es ++ [e]) = eventsOf EventPayload.baseline es := by
    rw [eventsOf_snoc]
    simp [eventsOf, payload, EventPayload.baseline]
  have newest : (eventsOf EventPayload.context (es ++ [e])).getLast? =
      some (e, document) := by
    rw [eventsOf_snoc]
    simp [eventsOf, payload, EventPayload.context]
  refine ⟨?_, ?_, ⟨view.experimentId, parentId, ?_⟩, _, newest, role, cited.trans contextId.symm⟩
  · rw [run.frame.status, payload]
    exact accepting_of_context v hr ok payload
  · rw [kept]
    by_contra taken
    obtain ⟨n, node⟩ := Option.ne_none_iff_exists'.mp taken
    have listed := (v.ledgered hr).listed.ids
    refine fresh ?_
    rw [← listed]
    exact List.mem_map.mpr ⟨(spec.experimentId, n), Dict.mem_entries.mpr node, rfl⟩
  · rw [silent, kept, commit]
    exact place

/-- A proposal that the provider normalised for an evaluated parent has a new id, and it is recorded after its
context if and only if the duplicate rule admits its key: the state machine finds its parent, its commit and its
context. -/
theorem normalized_recorded_iff (v : ValidLedger (es ++ [e]))
    {document : ContextDocument} (payload : e.payload = .contextCreated document) (role : document.role = .planner)
    (cited : document.contextId = request.contextId)
    (directed : Directed sources es request) (named : BaselineNamed es)
    (normalized : spec.toResearchProposal = normalize table hash request raw)
    (projected : project (es ++ [e]) = .ok s) :
    spec.experimentId ∉ (proposals (es ++ [e])).map (·.experimentId) ∧
      (validateTransition (es ++ [e]) (.experimentProposed spec) = .ok () ↔
        ledgerAdmits (es ++ [e]) s spec = true) := by
  obtain ⟨r', hr', rfl⟩ := project_ok.mp projected
  obtain ⟨r, hr, step⟩ := replay_snoc_inv hr'
  have same : spec.experimentId = nextExperimentId table request.context := by
    rw [normalized]
    rfl
  have fresh : spec.experimentId ∉ (proposals es).map (·.experimentId) := by
    rw [same]
    exact nextExperimentId_new directed.built
  have kept : proposals (es ++ [e]) = proposals es := by
    rw [proposals_snoc, payload]
    exact List.append_nil _
  have renamed : spec.toResearchProposal =
      { normalize table hash request raw with experimentId := spec.experimentId } := by
    rw [normalized]
  have proposable := directed.proposable v.front hr named v.accepted payload role cited step renamed fresh
  exact ⟨kept ▸ fresh, proposable.recorded_iff hr'⟩

end Normalization

section Scenario
open Scenario

/-- The digits of ASCII. -/
def asciiDigits : DecimalTable where
  digit c := if c.isDigit then some (c.toNat - '0'.toNat) else none
  ascii _ digit := if_pos digit

/-- The next context of the planner. -/
def nextContext : Event where
  eventId := 15
  key := { experimentId := "run", stage := .plannerContext, attempt := 0 }
  causationEventId := some 14
  payload := .contextCreated { contextId := "next", role := .planner, experimentId := none }

/-- The run of an evaluated experiment, and the next context of the planner. -/
def plannedRun : List Event := evaluatedRun ++ [nextContext]

/-- A method for an evaluated parent. -/
def refinementRequest (context : PlannerContext ℚ) (view : ExperimentNodeView ℚ) (commitSha : String) :
    PlanRequest where
  contextId := "next"
  sourceEventIds := [14]
  context
  choice := proposal view "objective" (candidateCard "objective_pairwise_bpr" "objective") "refinement" "REFINE" ""
  parentCommitSha := commitSha

theorem normalized_recorded_iff_run : ∃ context view commitSha, ∃ spec : ExperimentSpec,
    buildPlanner twoFamilies evaluatedRun = some context ∧
    spec.toResearchProposal = normalize asciiDigits (fun _ => "method") (refinementRequest context view commitSha)
      { hypothesis := "hypothesis", changeSummary := "summary" } ∧
    spec.experimentId ∉ (proposals plannedRun).map (·.experimentId) ∧
    validateTransition plannedRun (.experimentProposed spec) = .ok () := by
  have v : ValidLedger plannedRun := .of_check (by decide +kernel)
  obtain ⟨context, built⟩ : ∃ context, buildPlanner twoFamilies evaluatedRun = some context :=
    Option.isSome_iff_exists.mp (by decide +kernel)
  obtain ⟨committed, member, shown⟩ : ∃ committed ∈ committedSummaries twoFamilies evaluatedRun,
      ((ExperimentNodeView.fromSummary committed.summary).isSome && committed.summary.trustVerdict = some .accepted &&
        committed.summary.experimentId = "exp") = true :=
    List.any_eq_true.mp (by decide +kernel)
  simp only [Bool.and_eq_true, decide_eq_true_eq] at shown
  obtain ⟨⟨viewed, verdict⟩, _⟩ := shown
  obtain ⟨view, viewed⟩ := Option.isSome_iff_exists.mp viewed
  have directed : Directed twoFamilies evaluatedRun (refinementRequest context view committed.commitSha) :=
    ⟨built, committed, member, view, rfl, viewed, rfl, by simp [verdict]⟩
  have named : BaselineNamed evaluatedRun := by
    have all : (eventsOf EventPayload.baseline evaluatedRun).all (fun found => found.2.experimentId = "baseline") =
        true := by
      decide +kernel
    simpa [BaselineNamed] using all
  obtain ⟨s, projected⟩ := v.project
  have unused : "method" ∉ (proposals plannedRun).map (·.duplicateKey) := by decide +kernel
  let spec : ExperimentSpec :=
    { toResearchProposal := normalize asciiDigits (fun _ => "method")
        (refinementRequest context view committed.commitSha) { hypothesis := "hypothesis", changeSummary := "summary" }
      fidelityPlan := [.smoke, .proxy, .full]
      validateFidelityPlan := rfl }
  have admitted : ledgerAdmits plannedRun s spec = true := by
    obtain ⟨r, hr, rfl⟩ := project_ok.mp projected
    exact ledgerAdmits_new v hr unused
  have normalized : spec.toResearchProposal = normalize asciiDigits (fun _ => "method")
      (refinementRequest context view committed.commitSha) { hypothesis := "hypothesis", changeSummary := "summary" } :=
    rfl
  obtain ⟨fresh, recorded⟩ := normalized_recorded_iff v rfl rfl rfl directed named normalized projected
  exact ⟨context, view, committed.commitSha, spec, built, normalized, fresh, recorded.mpr admitted⟩

end Scenario
end TacoRank.Research
