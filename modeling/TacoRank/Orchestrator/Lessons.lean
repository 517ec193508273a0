import TacoRank.Orchestrator.DecisionSpec
import TacoRank.Orchestrator.Interleavings

/-!
# Lessons of decisions

Port of `build_research_lesson` of `reflection/research.py` and of `reflection/lesson_rules.py`, as far
as the ledger checks them. The harness numbers the lessons that it records, so no id is taken, and the
state machine accepts the lesson of every best-eligible decision.
-/

namespace TacoRank
open Lib Lib.Result

/-- `lesson_allowed`. -/
def lessonAllowed (verdict : TrustVerdict) (fidelity : Fidelity) (population : Population)
    (stability : Stability) : Bool :=
  if verdict = .noOp ∨ verdict = .inconclusive then false
  else if population = .hiddenFinal ∨ fidelity = .final then false
  else if verdict = .negative then fidelity = .full ∧ population = .publicValidation
  else if verdict = .accepted then stability = .confirmed
  else verdict = .redundant ∨ verdict = .suspicious

/-- The texts of a lesson, which no check reads. -/
structure LessonTexts where
  tags : List String
  summary : String
  details : String

/-- `build_research_lesson`, on the fields of a result that its canonical form keeps. -/
def buildResearchLesson (result : EvaluationFields) (evaluationEventIds : List EventId)
    (commitShas : List String) (texts : LessonTexts) : Option LessonCandidate :=
  if lessonAllowed result.trust.verdict result.fidelity result.population result.trust.stability then
    some
      { origin := .research
        category :=
          if result.trust.verdict = .suspicious then .integrityWarning else .researchResult
        tags := texts.tags
        summary := texts.summary
        sourceEventIds := evaluationEventIds
        sourceCommitShas := commitShas
        details := texts.details }
  else none

/-- The decision carries the lesson that the bridge builds on an evaluation: from its seed evidence,
its event and the commit that was run. -/
def CarriesLesson (result : EvaluationResult) (evaluationEvent : EventId) (d : ExperimentDecision) :
    Prop :=
  ∃ commit texts, d.lessonCandidate = buildResearchLesson result.toEvaluationFields
    (result.seedEvidenceEventIds ++ [evaluationEvent]) [commit] texts

/-! ### Numbers -/

/-- A lesson carries the next number. -/
def NextLesson (es : List Event) (e : Event) : Prop :=
  match e.payload with
  | .lessonRecorded lessonId _ => lessonId = nextLessonId es
  | _ => True

instance (es : List Event) (e : Event) : Decidable (NextLesson es e) := by
  unfold NextLesson
  split <;> infer_instance

/-- The lessons of a ledger are numbered as the harness numbers them. -/
abbrev LessonsNumbered (es : List Event) : Prop := Log.Valid NextLesson es

/-- How many lessons a ledger records. -/
def lessonCount (es : List Event) : Nat := (es.filter (·.payload.type = .lessonRecorded)).length

/-- The number of a lesson can be read off its id. -/
lemma nextLessonId_inj {es es' : List Event} (same : nextLessonId es = nextLessonId es') :
    lessonCount es = lessonCount es' := by
  have read : ∀ es : List Event,
      Nat.ofDigitChars 10 ((nextLessonId es).toList.drop 7) 0 = 1 + lessonCount es := by
    intro es
    have number : (toString (1 + lessonCount es)).toList = Nat.toDigits 10 (1 + lessonCount es) := by
      simp [Nat.toString_eq_repr, Nat.repr]
    have digits : (nextLessonId es).toList.drop 7 =
        List.replicate (3 - (toString (1 + lessonCount es)).length) '0' ++
          Nat.toDigits 10 (1 + lessonCount es) := by
      rw [← number]
      simp [nextLessonId, lessonCount]
    rw [digits, Nat.ofDigitChars_append, Nat.ofDigitChars_replicate_zero, Nat.mul_zero,
      Nat.ofDigitChars_ten_toDigits]
  have value := read es
  rw [same, read es'] at value
  omega

/-- The next id is free. -/
lemma LessonsNumbered.fresh {es : List Event} {s : RunState} (numbered : LessonsNumbered es)
    (projected : project es = .ok s) : s.lessons.get? (nextLessonId es) = none := by
  obtain ⟨r, hr, rfl⟩ := project_ok.mp projected
  by_contra taken
  rw [RunState.aggregate_lessons] at taken
  obtain ⟨p, mem, candidate, payload⟩ :=
    ((replay_known hr).2 _).mp (Option.ne_none_iff_isSome.mp taken)
  obtain ⟨pre, post, rfl⟩ := List.append_of_mem mem
  have next := numbered.accepted
  unfold NextLesson at next
  rw [payload] at next
  have count := nextLessonId_inj next
  have more : lessonCount (pre ++ p :: post) = lessonCount pre + (1 + lessonCount post) := by
    simp [lessonCount, payload, EventPayload.type, Nat.add_comm]
  omega

/-! ### Acceptance -/

section Accepted
variable {pre : List Event} {e f : Event} {d : ExperimentDecision} {result : EvaluationResult}
  {candidate : LessonCandidate}

/-- The evaluation that a best-eligible decision cites. -/
lemma ValidLedger.eligible_inv {post : List Event} (v : ValidLedger (pre ++ e :: post))
    (payload : e.payload = .experimentDecided d) (eligible : d.bestEligible = true)
    (mem : f ∈ pre ++ e :: post)
    (evaluated : f.payload = .evaluationCompleted result)
    (cites : d.evaluationEventId = some f.eventId) :
    f ∈ pre ∧ result.experimentId = d.experimentId ∧ BestEligible d result := by
  obtain ⟨_, _, _, _, evidence⟩ := v.decision_inv payload
  cases evidence with
  | smoke _ _ none =>
    rw [cites] at none
    cases none
  | @evaluated found _ _ latest cited _ best =>
    have inside := lastForExperiment_mem latest
    have same := v.eq_of_id (List.mem_append_left _ inside) mem
      (Option.some.inj (cited.symm.trans cites))
    subst same
    obtain ⟨shown, owner⟩ := lastForExperiment_payload latest
    rw [evaluated] at shown
    cases shown
    exact ⟨inside, owner, best eligible⟩

/-- The seed evidence of an evaluation was recorded before it. -/
lemma ValidLedger.seedEvidence_before {a b : List Event} (v : ValidLedger (a ++ f :: b))
    (evaluated : f.payload = .evaluationCompleted result) {id : EventId}
    (cited : id ∈ result.seedEvidenceEventIds) : ∃ g ∈ a, g.eventId = id := by
  obtain ⟨_, _, _, _, _, legal⟩ := v.evaluation_inv evaluated
  obtain ⟨seeds, found, _⟩ := legal.seeds
  obtain ⟨n, small, rfl⟩ := List.mem_iff_getElem.mp cited
  have evidence := found.get small (found.length_eq ▸ small)
  obtain ⟨event, named, _⟩ := evidence.event
  obtain ⟨mem, same, _⟩ := eventWithId_spec named
  exact ⟨event.1, mem, same⟩

/-- The last evaluation among the sources of a lesson. -/
lemma ValidLedger.lastSource {a b : List Event} (v : ValidLedger (a ++ f :: b))
    (evaluated : f.payload = .evaluationCompleted result) :
    ((eventsOf EventPayload.evaluation (a ++ f :: b)).filter fun found =>
      found.1.eventId ∈ result.seedEvidenceEventIds ++ [f.eventId]).getLast? = some (f, result) := by
  have later : ∀ g ∈ b, g.eventId ∉ result.seedEvidenceEventIds ++ [f.eventId] := by
    intro g mem
    have after : a.length + 1 < g.eventId := by
      have whole : ValidLedger ((a ++ [f]) ++ b) := by simpa using v
      have order := whole.lt_id mem
      rwa [List.length_append, List.length_singleton] at order
    rw [List.mem_append, List.mem_singleton, not_or]
    refine ⟨fun cited => ?_, fun same => ?_⟩
    · obtain ⟨g', mem', same⟩ := v.seedEvidence_before evaluated cited
      have before := v.id_le mem'
      rw [same] at before
      exact absurd (before.trans (Nat.le_succ _)) (Nat.not_le.mpr after)
    · rw [same, v.eventId] at after
      exact lt_irrefl _ after
  have silent : (eventsOf EventPayload.evaluation b).filter (fun found =>
      found.1.eventId ∈ result.seedEvidenceEventIds ++ [f.eventId]) = [] := by
    rw [List.filter_eq_nil_iff]
    intro found mem
    obtain ⟨g, inside, read⟩ := List.mem_filterMap.mp mem
    obtain ⟨_, _, rfl⟩ := Option.map_eq_some_iff.mp read
    simpa using later g inside
  have read : eventsOf EventPayload.evaluation (a ++ f :: b) =
      eventsOf EventPayload.evaluation a ++ (f, result) :: eventsOf EventPayload.evaluation b := by
    simp [eventsOf, evaluated, EventPayload.evaluation]
  rw [read, List.filter_append, List.filter_cons_of_pos (by simp), silent]
  simp

/-- The lesson of a best-eligible decision is accepted right after it. -/
lemma lesson_accepted (v : ValidLedger (pre ++ [e])) (payload : e.payload = .experimentDecided d)
    (eligible : d.bestEligible = true) (mem : f ∈ pre ++ [e])
    (evaluated : f.payload = .evaluationCompleted result)
    (cites : d.evaluationEventId = some f.eventId) (numbered : LessonsNumbered (pre ++ [e]))
    (carries : CarriesLesson result f.eventId d) (lesson : d.lessonCandidate = some candidate) :
    validateTransition (pre ++ [e]) (.lessonRecorded (nextLessonId (pre ++ [e])) candidate) = .ok () := by
  obtain ⟨inside, _, best⟩ := v.eligible_inv payload eligible mem evaluated cites
  obtain ⟨commit, texts, built⟩ := carries
  have allowed : lessonAllowed result.trust.verdict result.fidelity result.population
      result.trust.stability = true := by
    simp [lessonAllowed, best.verdict, best.fidelity, best.population, best.stability]
  rw [lesson, buildResearchLesson, if_pos allowed] at built
  cases built
  obtain ⟨r, hr⟩ := v.replay
  obtain ⟨status, found, live⟩ := v.snoc_inv.2.decided_live v.snoc_inv.1 payload
  rw [statusOf_replay hr] at found
  cases found
  refine (validateTransition_ok hr).mpr (.later (by simp) (by simp [EventPayload.type]) live.legal ?_)
  obtain ⟨a, b, rfl⟩ := List.append_of_mem inside
  have whole : ValidLedger (a ++ f :: (b ++ [e])) := by simpa using v
  simp only [validateBranch, validateLessonRecorded, bind_eq_ok, require_ok, exists_const,
    if_true, validateResearchLesson, requireSome_ok]
  refine ⟨numbered.fresh (project_ok.mpr ⟨r, hr, rfl⟩), ?_, (f, result), ?_, ?_, ?_, ?_, ?_⟩
  · intro id cited
    rw [List.mem_append, List.mem_singleton] at cited
    rcases cited with seed | rfl
    · obtain ⟨g, before, same⟩ := whole.seedEvidence_before evaluated seed
      exact List.mem_map.mpr ⟨g, by simp [before], same⟩
    · exact List.mem_map_of_mem mem
  · have last := whole.lastSource evaluated
    rw [← List.cons_append, ← List.append_assoc] at last
    exact ⟨last, trivial⟩
  · simp [EvaluationResult.lessonEligible, best.verdict, best.fidelity, best.population, best.stability]
  · rfl
  · exact fun id seed => List.mem_append_left _ seed
  · simp

end Accepted
end TacoRank
