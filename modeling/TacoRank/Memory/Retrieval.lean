import TacoRank.Lib.Selection
import TacoRank.Orchestrator.Interleavings
import TacoRank.Orchestrator.Proposals
import TacoRank.Orchestrator.PublicLabels
import TacoRank.Orchestrator.RecoverySpec

/-!
# Retrieval

`memory/retrieval.py`: what the context builder reads of a ledger. It keeps its own tables of the lessons and of
the families, beside the projection. On a valid ledger, the two agree: the retrieved lessons are the newest active
ones of the projection, the retrieved evaluations the newest ones of the family (`retrieval_projected`).
-/

namespace TacoRank
open Lib Lib.Result

/-! ### Lessons -/

/-- The local tables of `active_lessons`. -/
structure LessonTables where
  recorded : Dict String Event := .empty
  statuses : Dict String LessonStatus := .empty

/-- The body of the first loop of `active_lessons`. -/
def LessonTables.read (tables : LessonTables) (event : Event) : LessonTables :=
  match event.payload with
  | .lessonRecorded lessonId _ =>
    { recorded := tables.recorded.set lessonId event, statuses := tables.statuses.set lessonId .active }
  | .lessonStatusChanged lessonId status _ => { tables with statuses := tables.statuses.set lessonId status }
  | _ => tables

/-- The tags of a recorded lesson. -/
def EventPayload.lessonTags : EventPayload → List String
  | .lessonRecorded _ candidate => candidate.tags
  | _ => []

/-- Whether two lists of tags meet, up to `lower`; no wanted tag at all excludes nothing. -/
def tagsMatch (lower : String → String) (wanted tags : List String) : Bool :=
  wanted.isEmpty || wanted.any fun tag => tags.any (lower · = lower tag)

/-- `active_lessons`; `lower` is `str.lower`. -/
def activeLessons (lower : String → String) (tags : List String) (limit : Nat) (events : List Event) :
    List Event :=
  let tables := events.foldl LessonTables.read {}
  selectNewest Event.eventId limit ((tables.recorded.entries.filter fun entry =>
    tables.statuses.get? entry.1 = some .active ∧
      tagsMatch lower tags entry.2.payload.lessonTags = true).map Prod.snd)

/-- The tables say of every lesson what the projection says. -/
structure Indexed (es : List Event) (tables : LessonTables) (lessons : Dict String LessonView) : Prop where
  held : ∀ lessonId event, tables.recorded.get? lessonId = some event →
    event ∈ es ∧ ∃ candidate view, event.payload = .lessonRecorded lessonId candidate ∧
      lessons.get? lessonId = some view ∧ tables.statuses.get? lessonId = some view.status ∧
      view.tags = candidate.tags
  all : ∀ event ∈ es, ∀ lessonId candidate, event.payload = .lessonRecorded lessonId candidate →
    tables.recorded.get? lessonId = some event

section Tables
variable {es : List Event} {r r' : Reducer} {e : Event} {tables : LessonTables}

/-- An event that is not about a lesson leaves the tables and the projected lessons alone. -/
lemma Indexed.frame (h : Indexed es tables r.state.lessons) (step : r.step e = .ok r')
    (other : e.lesson = none) : Indexed (es ++ [e]) (tables.read e) r'.state.lessons := by
  have lessons : ∀ lessonId, r'.state.lessons.get? lessonId = r.state.lessons.get? lessonId := by
    intro lessonId
    rw [Reducer.step_lessons step, Log.write, other, if_neg (by simp)]
  have same : tables.read e = tables := by
    unfold LessonTables.read
    unfold Event.lesson at other
    split <;> simp_all
  rw [same]
  refine ⟨fun lessonId event found => ?_, fun event mem lessonId candidate payload => ?_⟩
  · obtain ⟨mem, known⟩ := h.held lessonId event found
    exact ⟨List.mem_append_left _ mem, by rw [lessons]; exact known⟩
  · rcases List.mem_append.mp mem with old | new
    · exact h.all event old lessonId candidate payload
    · rw [List.mem_singleton] at new
      rw [new] at payload
      simp [Event.lesson, payload] at other

/-- A new lesson has an unused id, and is active. -/
lemma Indexed.recorded {lessonId : String} {candidate : LessonCandidate}
    (h : Indexed es tables r.state.lessons) (hr : replay es = .ok r) (ok : Accepted es e)
    (step : r.step e = .ok r') (payload : e.payload = .lessonRecorded lessonId candidate) :
    Indexed (es ++ [e]) (tables.read e) r'.state.lessons := by
  have fresh : r.state.lessons.get? lessonId = none := by
    have branch := (ok.branch hr (by rw [payload]; simp [EventPayload.type])).2
    rw [payload] at branch
    simp only [validateBranch, validateLessonRecorded, bind_eq_ok, require_ok,
      RunState.aggregate_lessons] at branch
    exact branch.choose_spec.1
  have unused : ∀ event, tables.recorded.get? lessonId ≠ some event := by
    intro event found
    obtain ⟨_, _, view, _, known, _⟩ := h.held lessonId event found
    rw [fresh] at known
    cases known
  obtain ⟨view, active, tags, lessons⟩ : ∃ view : LessonView, view.status = .active ∧ view.tags = candidate.tags ∧
      ∀ other, r'.state.lessons.get? other = if other = lessonId then some view
        else r.state.lessons.get? other := by
    refine ⟨⟨lessonId, .active, candidate.summary, candidate.tags, e.eventId⟩, rfl, rfl, fun other => ?_⟩
    rw [Reducer.step_lessons step, Log.write, Event.lesson, Event.lessonCell, payload]
    by_cases own : other = lessonId
    · rw [if_pos own, if_pos (by rw [own])]
    · rw [if_neg own, if_neg (by simpa using Ne.symm own)]
  unfold LessonTables.read
  rw [payload]
  refine ⟨fun other event found => ?_, fun event mem other candidate' payload' => ?_⟩
  · dsimp only at found ⊢
    rw [lessons]
    rw [Dict.get?_set] at found ⊢
    by_cases own : other = lessonId
    · rw [if_pos own] at found
      cases found
      refine ⟨by simp, candidate, view, by rw [own, payload], ?_, ?_, tags⟩
      · rw [if_pos own]
      · rw [if_pos own, active]
    · rw [if_neg own] at found
      rw [if_neg own, if_neg own]
      obtain ⟨mem, known⟩ := h.held other event found
      exact ⟨List.mem_append_left _ mem, known⟩
  · dsimp only
    rw [Dict.get?_set]
    rcases List.mem_append.mp mem with old | new
    · have found := h.all event old other candidate' payload'
      rw [if_neg, found]
      rintro rfl
      exact unused event found
    · rw [List.mem_singleton] at new
      rw [new, payload] at payload'
      cases payload'
      rw [if_pos rfl, new]

/-- A status change is written to both. -/
lemma Indexed.changed {lessonId reason : String} {status : LessonStatus}
    (h : Indexed es tables r.state.lessons) (step : r.step e = .ok r')
    (payload : e.payload = .lessonStatusChanged lessonId status reason) :
    Indexed (es ++ [e]) (tables.read e) r'.state.lessons := by
  have lessons : ∀ other, r'.state.lessons.get? other = if other = lessonId then
      (r.state.lessons.get? other).map (fun view => { view with status })
      else r.state.lessons.get? other := by
    intro other
    rw [Reducer.step_lessons step, Log.write, Event.lesson, Event.lessonCell, payload]
    by_cases own : other = lessonId
    · rw [if_pos own, if_pos (by rw [own])]
    · rw [if_neg own, if_neg (by simpa using Ne.symm own)]
  unfold LessonTables.read
  rw [payload]
  refine ⟨fun other event found => ?_, fun event mem other candidate payload' => ?_⟩
  · obtain ⟨mem, candidate, view, own, known, shown, tags⟩ := h.held other event found
    refine ⟨List.mem_append_left _ mem, candidate, ?_⟩
    dsimp only
    rw [lessons, Dict.get?_set]
    by_cases same : other = lessonId
    · rw [if_pos same, if_pos same, known]
      exact ⟨{ view with status }, own, rfl, rfl, tags⟩
    · rw [if_neg same, if_neg same]
      exact ⟨view, own, known, shown, tags⟩
  · rcases List.mem_append.mp mem with old | new
    · exact h.all event old other candidate payload'
    · rw [List.mem_singleton] at new
      rw [new, payload] at payload'
      cases payload'

/-- The tables of a valid ledger. -/
lemma ValidLedger.indexed (v : ValidLedger es) (hr : TacoRank.replay es = .ok r) :
    Indexed es (es.foldl LessonTables.read {}) r.state.lessons := by
  refine v.run_induct (I := fun es r => Indexed es (es.foldl LessonTables.read {}) r.state.lessons) ?_ ?_ hr
  · refine ⟨?_, ?_⟩
    · intro lessonId event found
      cases found
    · intro event mem
      cases mem
  · intro es e r r' _ hr ok step ih
    rw [List.foldl_append, List.foldl_cons, List.foldl_nil]
    cases payload : e.payload with
    | lessonRecorded lessonId candidate => exact ih.recorded hr ok step payload
    | lessonStatusChanged lessonId status reason => exact ih.changed step payload
    | _ => exact ih.frame step (by rw [Event.lesson, payload])

end Tables

/-! ### Evaluations -/

/-- The table `family_by_experiment`. -/
def familyByExperiment (events : List Event) : Dict String String :=
  (proposals events).foldl (fun families spec => families.set spec.experimentId spec.family) .empty

/-- The evaluations that `recent_experiment_feedback` collects. -/
def developmentEvaluations (family : Option String) (events : List Event) : List Event :=
  let families := familyByExperiment events
  events.filter fun event => event.payload.evaluation.any fun result =>
    result.population ≠ .hiddenFinal ∧
      ∀ wanted ∈ family, families.get? result.experimentId = some wanted

/-- `recent_experiment_feedback`. -/
def recentExperimentFeedback (family : Option String) (limit : Nat) (events : List Event) : List Event :=
  selectNewest Event.eventId limit (developmentEvaluations family events)

/-- `verified_experiment_history`. -/
def verifiedExperimentHistory (family : Option String) (limit : Nat) (events : List Event) : List Event :=
  ((recentExperimentFeedback family events.length events).filter fun event =>
    event.payload.evaluation.any (·.trust.verdict = .accepted)).take limit

/-- No event changes the family of a node. -/
lemma Reducer.nodeUpdate_family (r : Reducer) (e : Event) (n : ExperimentNode) :
    (r.nodeUpdate e n).family = n.family := by
  unfold nodeUpdate
  cases e.payload with
  | executionFinished result =>
    simp only [ExperimentNode.executionFinished]
    split <;> rfl
  | recoveryDecided decision =>
    simp only [recoveryNode, ExperimentNode.recoveryCounted]
    cases decision.action <;> rfl
  | experimentDecided decision =>
    simp only [ExperimentNode.decided]
    split
    · split <;> rfl
    · rfl
  | _ => rfl

/-- The family of a proposal is that of its node. -/
lemma ValidLedger.families {es : List Event} {r : Reducer} (v : ValidLedger es)
    (hr : TacoRank.replay es = .ok r) (x : String) :
    (familyByExperiment es).get? x = (r.state.experiments.get? x).map (·.family) := by
  refine v.run_induct (I := fun es r => (familyByExperiment es).get? x =
    (r.state.experiments.get? x).map (·.family)) rfl ?_ hr
  intro es e r r' _ _ _ step ih
  have write := (Reducer.step_inv step).nodes x
  rw [familyByExperiment, proposals_snoc, List.foldl_append]
  change (List.foldl _ (familyByExperiment es) _).get? x = _
  generalize r.state.experiments.get? x = n at write ih
  generalize r'.state.experiments.get? x = n' at write
  cases write with
  | frame other =>
    cases read : EventKind.experimentProposed.read e.payload with
    | none => exact ih
    | some spec =>
      have payload := EventKind.experimentProposed.read_eq read
      have apart : x ≠ spec.experimentId := by
        rintro rfl
        exact other (by rw [payload]; rfl)
      rw [Option.toList_some, List.foldl_cons, List.foldl_nil, Dict.get?_set_ne _ _ apart]
      exact ih
  | @proposed _ spec payload owner =>
    rw [payload]
    change ((familyByExperiment es).set spec.experimentId spec.family).get? x = _
    rw [← owner, Dict.get?_set_self]
    rfl
  | @update n _ old =>
    have silent : EventKind.experimentProposed.read e.payload = none := by
      cases read : EventKind.experimentProposed.read e.payload with
      | none => rfl
      | some spec => exact absurd (EventKind.experimentProposed.read_eq read) (old spec)
    rw [silent, Option.map_some, Reducer.nodeUpdate_family]
    exact ih

/-! ### Agreement -/

/-- A recorded lesson that the projection holds active, with a wanted tag. -/
def Applicable (lower : String → String) (tags : List String) (es : List Event) (s : RunState) (event : Event) :
    Prop :=
  event ∈ es ∧ ∃ lessonId candidate view, event.payload = .lessonRecorded lessonId candidate ∧
    s.lessons.get? lessonId = some view ∧ view.status = .active ∧ tagsMatch lower tags view.tags = true

/-- An evaluation of an experiment that the projection holds in a family. -/
def OfFamily (family : Option String) (es : List Event) (s : RunState) (event : Event) : Prop :=
  event ∈ es ∧ ∃ result, event.payload = .evaluationCompleted result ∧
    ∀ wanted ∈ family, (s.experiments.get? result.experimentId).map (·.family) = some wanted

section Agreement
variable {es : List Event} {s : RunState}

lemma ValidLedger.lessons_selected (v : ValidLedger es) (projected : TacoRank.project es = .ok s)
    (lower : String → String) (tags : List String) (limit : Nat) :
    SelectsNewest Event.eventId limit (Applicable lower tags es s) (activeLessons lower tags limit es) := by
  obtain ⟨r, hr, rfl⟩ := project_ok.mp projected
  have h := v.indexed hr
  refine (newest_selects _ _ _).congr fun event => ?_
  simp only [List.mem_map, List.mem_filter, Prod.exists, exists_eq_right, Dict.mem_entries, Applicable,
    RunState.aggregate_lessons, decide_eq_true_eq]
  constructor
  · rintro ⟨lessonId, found, active, wanted⟩
    obtain ⟨mem, candidate, view, payload, known, shown, tags⟩ := h.held lessonId event found
    rw [active] at shown
    rw [payload] at wanted
    refine ⟨mem, lessonId, candidate, view, payload, known, (Option.some.inj shown).symm, ?_⟩
    rw [tags]
    exact wanted
  · rintro ⟨mem, lessonId, candidate, view, payload, known, active, wanted⟩
    have found := h.all event mem lessonId candidate payload
    obtain ⟨_, candidate', view', payload', known', shown, tags⟩ := h.held lessonId event found
    rw [payload] at payload'
    cases payload'
    rw [known] at known'
    cases known'
    rw [tags] at wanted
    refine ⟨lessonId, found, by rw [shown, active], ?_⟩
    rw [payload]
    exact wanted

lemma ValidLedger.mem_developmentEvaluations (v : ValidLedger es) (projected : TacoRank.project es = .ok s)
    (family : Option String) (event : Event) :
    event ∈ developmentEvaluations family es ↔ OfFamily family es s event := by
  obtain ⟨r, hr, rfl⟩ := project_ok.mp projected
  have labels := v.labelsSpent hr
  simp only [developmentEvaluations, List.mem_filter, OfFamily, RunState.aggregate_experiments,
    ← v.families hr, Option.any_eq_true, decide_eq_true_eq]
  refine and_congr_right fun mem => exists_congr fun result => ?_
  constructor
  · rintro ⟨read, _, family⟩
    exact ⟨evaluation_read read, family⟩
  · rintro ⟨payload, family⟩
    refine ⟨by rw [payload]; rfl, ?_, family⟩
    rcases labels.routed event mem result payload with ⟨population, _⟩ | ⟨population, _⟩ <;> simp [population]

/-- Retrieval refines the projection. On a valid ledger, nothing is hidden from a development context; the
retrieved lessons are the newest ones that the projection holds active and that carry a wanted tag; the retrieved
evaluations are the newest ones whose experiment the projection holds in the family, and those of the verified
history the newest ones among these that were accepted. -/
theorem retrieval_projected (v : ValidLedger es) (projected : TacoRank.project es = .ok s)
    (lower : String → String) (tags : List String) (family : Option String) (limit : Nat) :
    visibleDevelopmentEvents es = es ∧
    SelectsNewest Event.eventId limit (Applicable lower tags es s) (activeLessons lower tags limit es) ∧
    SelectsNewest Event.eventId limit (OfFamily family es s) (recentExperimentFeedback family limit es) ∧
    SelectsNewest Event.eventId limit
      (fun event => OfFamily family es s event ∧ ∃ result, event.payload = .evaluationCompleted result ∧
        result.trust.verdict = .accepted)
      (verifiedExperimentHistory family limit es) := by
  have collected := v.mem_developmentEvaluations projected family
  refine ⟨v.visible, v.lessons_selected projected lower tags limit, (newest_selects _ _ _).congr collected, ?_⟩
  refine (newest_filter _ _ _ (List.length_filter_le _ _)).congr fun event => and_congr (collected event) ?_
  simp only [Option.any_eq_true, decide_eq_true_eq]
  refine exists_congr fun result => and_congr_left fun _ => ⟨evaluation_read, ?_⟩
  intro payload
  rw [payload]
  rfl

end Agreement

/-- An operational lesson. -/
def retrievedLesson (tag : String) : LessonCandidate where
  origin := .operational
  category := .processRule
  tags := [tag]
  summary := "summary"
  sourceEventIds := [5]
  sourceCommitShas := []

open Scenario in
/-- A run that records two lessons and supersedes the first one. -/
def lessonRun : List Event := record (proposal 2 "exp" ++
  [ (some 6, .lessonRecorded "lesson_001" (retrievedLesson "exp")),
    (some 6, .lessonRecorded "lesson_002" (retrievedLesson "exp")),
    (some 6, .lessonStatusChanged "lesson_001" .superseded "superseded") ])

theorem retrieval_projected_run : (activeLessons id ["exp"] 5 lessonRun).map Event.eventId = [8] ∧
    ∃ s, project lessonRun = .ok s ∧
      SelectsNewest Event.eventId 5 (Applicable id ["exp"] lessonRun s) (activeLessons id ["exp"] 5 lessonRun) := by
  have v : ValidLedger lessonRun := .of_check (by decide +kernel)
  obtain ⟨s, projected⟩ := v.project
  obtain ⟨_, lessons, _⟩ := retrieval_projected v projected id ["exp"] none 5
  exact ⟨by decide +kernel, s, projected, lessons⟩

end TacoRank
