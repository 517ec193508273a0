import TacoRank.Orchestrator.RepairSpec

/-!
# The assertions of the fidelity loop

A round of the fidelity loop begins with its request and ends with the next one. `InRound` says which
events of the attempt may have been recorded since the request, by their place; an event of the
attempt behind that place is new, and a decision on a failure of the attempt comes after the request.
-/

namespace TacoRank
open Lib Lib.Result

/-- The attempts of what belongs to an execution attempt lie below a bound. -/
def Before (n : Nat) (t : List Event) : Prop :=
  ∀ e ∈ t, (0 < e.payload.place → e.key.attempt < n) ∧
    ∀ q, e.payload = .executionStarted q → q.attempt < n

/-- Events are listed in the order of their ids. -/
abbrev Ordered (t : List Event) : Prop := t.Pairwise fun e e' => e.eventId < e'.eventId

/-- A round whose request belongs to an experiment. -/
structure Harness.Round.Runs (round : Harness.Round) (x : String) : Prop where
  owner : round.request.experimentId = x
  fidelity : round.request.fidelity = round.fidelity
  attempt : round.request.attempt = round.state.executionAttempt
  positive : 0 < round.request.attempt
  template : round.state.nextRequestTemplate = none

/-- The events since the request of a round, up to a place. -/
structure InRound (round : Harness.Round) (k : Nat) (t : List Event) : Prop where
  split : ∃ t1 s t2, t = t1 ++ s :: t2 ∧ s.payload = .executionStarted round.request ∧
    Before round.request.attempt t1 ∧
    ∀ e ∈ t2, e.payload.place ≤ k ∧ e.payload.type ≠ .executionStarted
  before : Before (round.request.attempt + 1) t
  above : Above t round.fidelity

/-- Where a round is. -/
structure Running (round : Harness.Round) (k : Nat) (t : List Event) : Prop where
  inRound : InRound round k t
  sealed : Sealed round.state.checked t
  base : Base t
  calm : Calm t

/-- A round may begin. -/
structure Ready (x : String) (s : Harness.LoopState) (t : List Event) : Prop where
  sealed : Sealed s.checked t
  settled : Settled t
  before : Before (s.executionAttempt + 1) t
  rebuilt : s.nextRequestTemplate ≠ none → Rebuilt t
  owner : ∀ q, s.nextRequestTemplate = some q → q.experimentId = x
  above : ∀ fidelity, s.stageQueue.head? = some fidelity → Above t fidelity

section InRound
variable {h : Harness} {x : String} {round : Harness.Round} {k k' : Nat} {t : List Event} {e : Event}

lemma EventPayload.place_started {p : EventPayload} (type : p.type = .executionStarted) :
    p.place = 1 := by
  cases p <;> simp [EventPayload.type, place] at type ⊢

lemma EventPayload.place_decided {p : EventPayload} (type : p.type = .experimentDecided) :
    p.place = 7 := by
  cases p <;> simp [EventPayload.type, place] at type ⊢

/-- The ids of a ledger count its events. -/
lemma ValidLedger.ordered {es : List Event} (v : ValidLedger es) : Ordered es := by
  induction v with
  | nil => exact .nil
  | @snoc es e v ok ih =>
    refine List.pairwise_append.mpr ⟨ih, List.pairwise_singleton _ _, fun e' mem last new => ?_⟩
    have whole : ValidLedger (es ++ []) := by simpa using v
    have bound := whole.id_le mem
    rw [List.mem_singleton.mp new, ok.1]
    exact Nat.lt_succ_of_le bound

lemma LaneLedger.ordered {es : List Event} (v : LaneLedger h x es) : Ordered (trace x es) :=
  v.valid.ordered.filter _

lemma Above.snoc {fidelity : Fidelity} (above : Above t fidelity)
    (other : e.payload.type ≠ .experimentDecided) : Above (t ++ [e]) fidelity := by
  intro e' mem d payload
  rcases List.mem_append.mp mem with old | new
  · exact above e' old d payload
  · rw [List.mem_singleton.mp new] at payload
    simp [payload, EventPayload.type] at other

lemma Before.snoc {n : Nat} (before : Before n t) (place : 0 < e.payload.place → e.key.attempt < n)
    (request : ∀ q, e.payload = .executionStarted q → q.attempt < n) : Before n (t ++ [e]) := by
  intro e' mem
  rcases List.mem_append.mp mem with old | new
  · exact before e' old
  · rw [List.mem_singleton.mp new]
    exact ⟨place, request⟩

/-- The round goes on. -/
lemma InRound.snoc (inRound : InRound round k t) (le : k ≤ k') (last : k' ≤ 6)
    (place : e.payload.place ≤ k') (type : e.payload.type ≠ .executionStarted)
    (attempt : 0 < e.payload.place → e.key.attempt = round.request.attempt) :
    InRound round k' (t ++ [e]) := by
  obtain ⟨t1, s, t2, rfl, payload, early, late⟩ := inRound.split
  refine ⟨⟨t1, s, t2 ++ [e], by simp, payload, early, ?_⟩, inRound.before.snoc ?_ ?_, ?_⟩
  · intro e' mem
    rcases List.mem_append.mp mem with old | new
    · exact ⟨(late e' old).1.trans le, (late e' old).2⟩
    · rw [List.mem_singleton.mp new]
      exact ⟨place, type⟩
  · intro ranked
    have same := attempt ranked
    omega
  · intro q request
    simp [request, EventPayload.type] at type
  · refine inRound.above.snoc fun decided => ?_
    have rank := EventPayload.place_decided decided
    omega

lemma InRound.kept (last : k ≤ 6) : Kept (InRound round k) := by
  intro t e place inRound
  refine inRound.snoc (le_refl k) last (by omega) ?_ (by omega)
  intro started
  have rank := EventPayload.place_started started
  omega

lemma InRound.mono (inRound : InRound round k t) (le : k ≤ k') : InRound round k' t := by
  obtain ⟨t1, s, t2, split, payload, early, late⟩ := inRound.split
  refine ⟨⟨t1, s, t2, split, payload, early, fun e mem => ?_⟩, inRound.before, inRound.above⟩
  exact ⟨(late e mem).1.trans le, (late e mem).2⟩

/-- An event of the attempt lies behind all requests. -/
lemma InRound.behind (inRound : InRound round k t) (mem : e ∈ t) (ranked : 0 < e.payload.place)
    (attempt : e.key.attempt = round.request.attempt) (type : e.payload.type ≠ .executionStarted) :
    e.payload.place ≤ k ∧ ∀ s ∈ t, s.payload.type = .executionStarted → Ordered t →
      s.eventId < e.eventId := by
  obtain ⟨t1, s1, t2, rfl, payload, early, late⟩ := inRound.split
  simp only [List.mem_append, List.mem_cons] at mem
  rcases mem with old | rfl | new
  · have less := (early e old).1 ranked
    omega
  · simp [payload, EventPayload.type] at type
  refine ⟨(late e new).1, fun s listed started ordered => ?_⟩
  obtain ⟨_, tail, front⟩ := List.pairwise_append.mp ordered
  simp only [List.mem_append, List.mem_cons] at listed
  rcases listed with old | rfl | other
  · exact front s old e (List.mem_cons_of_mem _ new)
  · exact (List.pairwise_cons.mp tail).1 e new
  · exact absurd started (late s other).2

/-- An event of the attempt behind the place of the round is new. -/
lemma InRound.fresh (inRound : InRound round k t) (mem : e ∈ t)
    (attempt : e.key.attempt = round.request.attempt) (type : e.payload.type ≠ .executionStarted)
    (later : k < e.payload.place) : False := by
  have place := (inRound.behind mem (by omega) attempt type).1
  omega

/-- The request is the newest one, and no decision on the experiment came after it. -/
lemma InRound.newest (inRound : InRound round k t) {p : EventPayload → Bool}
    (own : p (.executionStarted round.request) = true)
    (silent : ∀ q, q.place ≤ k → q.type ≠ .executionStarted → p q = false) :
    ∃ s, newest p t = some s ∧ s.payload = .executionStarted round.request := by
  obtain ⟨t1, s, t2, rfl, payload, _, late⟩ := inRound.split
  refine ⟨s, ?_, payload⟩
  rw [TacoRank.newest, Log.lastSome_at (b := s)]
  · rw [if_pos (by rw [payload]; exact own)]
  · intro e mem
    rw [silent e.payload (late e mem).1 (late e mem).2]
    rfl

lemma InRound.undecided (inRound : InRound round k t) (last : k ≤ 6) :
    ∃ s, TacoRank.newest (ofTypes [.executionStarted, .experimentDecided]) t = some s ∧
      s.payload = .executionStarted round.request := by
  refine inRound.newest rfl fun q place type => ?_
  simp only [ofTypes, List.mem_cons, List.not_mem_nil, or_false, decide_eq_false_iff_not, not_or]
  refine ⟨type, fun decided => ?_⟩
  have rank := EventPayload.place_decided decided
  omega

lemma InRound.rebuilt (inRound : InRound round k t) (last : k ≤ 6) : Rebuilt t := by
  obtain ⟨s, found, payload⟩ := inRound.undecided last
  exact ⟨s, found, by rw [payload]; rfl⟩

/-- A decision behind a failure of the attempt lets the next request follow. -/
lemma InRound.licensed (inRound : InRound round k t) (ordered : Ordered t) {f d : Event}
    (mem : f ∈ t) (ranked : 0 < f.payload.place)
    (attempt : f.key.attempt = round.request.attempt) (type : f.payload.type ≠ .executionStarted)
    (decided : d ∈ t) (recovery : d.payload.type = .recoveryDecided)
    (after : f.eventId < d.eventId) : Licensed t := by
  intro s found started
  obtain ⟨pre, post, rfl, _, silent⟩ := newest_split found
  have late := (inRound.behind mem ranked attempt type).2 s (by simp) started ordered
  obtain ⟨_, _, front⟩ := List.pairwise_append.mp ordered
  simp only [List.mem_append, List.mem_cons] at decided
  rcases decided with old | rfl | new
  · have early : d.eventId < s.eventId := front d old s List.mem_cons_self
    exact lt_asymm early (late.trans after)
  · rw [recovery] at started
    cases started
  · have selected := silent d new
    simp [ofTypes, recovery] at selected

end InRound

/-! ### The operations of a round -/

/-- Recording adds one event to the trace, or finds it there. -/
structure Recorded (h : Harness) (key : EventKey) (payload : EventPayload) (t0 : List Event)
    (e : Event) (t : List Event) : Prop where
  records : Records h key payload e
  shape : t = t0 ++ [e] ∨ t = t0 ∧ e ∈ t0

/-- The failure of an adapter in a round. -/
structure FailedIn (round : Harness.Round) (k : Nat) (stage : FailureStage) (t0 : List Event)
    (f : Event) (t : List Event) : Prop where
  payload : ∃ result, f.payload = .adapterFailed result ∧ result.failureStage = stage
  attempt : f.key.attempt = round.request.attempt
  running : Running round (max k stage.place) t
  shape : t = t0 ++ [f] ∨ t = t0 ∧ f ∈ t0
  new : k < stage.place → t = t0 ++ [f]

/-- The decision on a failure of a round. -/
structure AnsweredIn (x : String) (round : Harness.Round) (k : Nat) (failure : Event)
    (r : Harness.Recovery) (t0 t : List Event) : Prop where
  answered : Answered x r t
  inRound : InRound round k t
  sealed : Sealed round.state.checked t
  licensed : Licensed t
  kept : ∀ Q, Kept Q → Q t0 → Q t
  last : ∀ pre, t0 = pre ++ [failure] → ∃ pre', t = pre' ++ [r.event]
  recorded : r.event ∈ t
  retried : ∀ stage base, (t0 = base ++ [failure] ∨ t0 = base) →
    failure.payload.failureStage = some stage → stage.checks = true → Expects x stage base →
    r.decision.action = .retrySameCommit → Expects x stage t

section Operations
variable {h : Harness} {x : String} {K : RecoveryAction → List Event → Prop}
  {round : Harness.Round} {k : Nat} {t0 : List Event}

lemma appendAt_spec {payload : EventPayload} {key : EventKey} {cause : Option EventId}
    {delta : ResourceDelta} {R : RouterError → List Event → Prop} (own : payload.owner = some x)
    (rule : ∀ es e, LaneLedger h x es → trace x es = t0 → Accepted es e →
      Records h key payload e → e.causationEventId = cause → Rule h x es e)
    (fail : ∀ now es error, LaneLedger h x es → trace x es = t0 →
      EventStore.append es ⟨h.config.runId, key, payload, cause, delta, now⟩ = .error error →
      R (.python error) es) :
    LaneSpec h x (On x (· = t0)) (h.append payload key cause delta)
      (fun e => On x (Recorded h key payload t0 e)) R := by
  refine append_own own ?_ ?_ fail
  · intro es e v same ok records caused _
    exact ⟨rule es e v same ok records caused, records, .inl (by rw [same])⟩
  · intro es e v same mem records
    exact ⟨records, .inr ⟨same, same ▸ mem⟩⟩

lemma Sealed.snoc {checked : Harness.CheckedPatch} {t : List Event} {e : Event}
    (sealed : Sealed checked t) (other : e.payload.type ≠ .patchCreated) :
    Sealed checked (t ++ [e]) := by
  obtain ⟨p, found, payload⟩ := sealed.patch
  refine ⟨⟨p, ?_, payload⟩, List.mem_append_left _ sealed.recorded, sealed.check⟩
  rw [newest_other (by simp [ofTypes, other])]
  exact found

/-- The failure of an adapter is recorded. -/
lemma roundFailure_spec {stage : FailureStage} {error : RouterError} {cause : Option EventId}
    (runs : round.Runs x) (running : Running round k t0) (last : k ≤ 6)
    (ranked : 0 < stage.place) :
    LaneSpec h x (On x (· = t0))
      (h.recordAdapterFailure x round.request.attempt stage error cause)
      (fun f => On x (FailedIn round k stage t0 f)) (Left h x K) := by
  have positive : max 1 round.request.attempt = round.request.attempt := by
    have low := runs.positive
    omega
  have late : max k stage.place ≤ 6 := by
    cases stage <;> simp only [FailureStage.place] <;> omega
  have coder : stage ≠ .coding := by
    rintro rfl
    cases ranked
  refine (appendAt_spec rfl ?_ ?_).post fun f es v recorded => ?_
  · intro es e _ _ _ records _
    simp [Rule, records.payload]
  · rintro now es error v rfl failed
    refine .base running.base.toUnclosed (.inl (append_rejects v.valid ?_ failed))
    simp [EventPayload.type]
  obtain ⟨records, shape⟩ := recorded
  have attempt : f.key.attempt = round.request.attempt := by
    rw [records.key]
    exact positive
  have place : f.payload.place = stage.place := by
    rw [records.payload]
    rfl
  have type : f.payload.type ≠ .executionStarted := by simp [records.payload, EventPayload.type]
  refine ⟨⟨_, records.payload, rfl⟩, attempt, ?_, shape, fun less => ?_⟩
  · rcases shape with split | ⟨split, _⟩
    · rw [split]
      refine ⟨running.inRound.snoc (le_max_left _ _) late ?_ type fun _ => attempt,
        running.sealed.snoc ?_, running.base.failed records.payload fun coding => ?_, .snoc ?_⟩
      · rw [place]
        exact le_max_right _ _
      · simp [records.payload, EventPayload.type]
      · exact absurd coding coder
      · rw [records.payload]
        rfl
    · rw [split]
      exact ⟨running.inRound.mono (le_max_left _ _), running.sealed, running.base, running.calm⟩
  · rcases shape with split | ⟨_, mem⟩
    · exact split
    · exact (running.inRound.fresh mem attempt type (by omega)).elim

lemma RecoveredFrom.kept {failure : Event} {r : Harness.Recovery} {t : List Event}
    {Q : List Event → Prop} (from_ : RecoveredFrom x t0 failure r t) (kept : Kept Q) (q : Q t0) :
    Q t := by
  obtain ⟨c, context, split | ⟨split, _⟩⟩ := from_.shape
  · rw [split, show t0 ++ [c, r.event] = (t0 ++ [c]) ++ [r.event] by simp]
    exact kept _ _ (by rw [from_.payload]; rfl) (kept _ _ (by rw [context]; rfl) q)
  · rw [split]
    exact kept _ _ (by rw [context]; rfl) q

lemma RecoveredFrom.sealed {failure : Event} {r : Harness.Recovery} {t : List Event}
    {checked : Harness.CheckedPatch} (from_ : RecoveredFrom x t0 failure r t)
    (sealed : Sealed checked t0) : Sealed checked t := by
  obtain ⟨c, context, split | ⟨split, _⟩⟩ := from_.shape
  · rw [split, show t0 ++ [c, r.event] = (t0 ++ [c]) ++ [r.event] by simp]
    exact (sealed.snoc (by simp [context, EventPayload.type])).snoc
      (by simp [from_.payload, EventPayload.type])
  · rw [split]
    exact sealed.snoc (by simp [context, EventPayload.type])

/-- The recovery of a new failure ends with a new decision. -/
lemma RecoveredFrom.ends {failure : Event} {r : Harness.Recovery} {t base : List Event}
    (from_ : RecoveredFrom x (base ++ [failure]) failure r t) (ordered : Ordered t) :
    ∃ c, c.payload = .contextCreated r.context.toContextDocument ∧
      t = (base ++ [failure] ++ [c]) ++ [r.event] := by
  obtain ⟨c, context, whole | ⟨whole, _, a, b, repeated, again⟩⟩ := from_.shape
  · exact ⟨c, context, by rw [whole]; simp⟩
  · -- the failure is the last event, so no decision on it can have been recorded before
    rcases split_snoc repeated with ⟨_, _, rfl⟩ | ⟨b', early, rfl⟩
    · cases again
    · rw [whole, early] at ordered
      have order := (List.pairwise_append.mp ordered).1
      have loop : failure.eventId < failure.eventId :=
        (List.pairwise_append.mp order).2.2 failure (by simp) failure (by simp)
      exact absurd loop (lt_irrefl _)

/-- After a retry the stage of the failure is expected again. A failure that repeats an earlier one leaves
a context where the experiment is not recovering. -/
lemma RecoveredFrom.expects {stage : FailureStage} {failure : Event} {r : Harness.Recovery}
    {t base : List Event} (from_ : RecoveredFrom x t0 failure r t) (ordered : Ordered t)
    (shape : t0 = base ++ [failure] ∨ t0 = base) (failed : failure.payload.failureStage = some stage)
    (checks : stage.checks = true) (expects : Expects x stage base)
    (action : r.decision.action = .retrySameCommit) : Expects x stage t := by
  rcases shape with rfl | rfl
  · obtain ⟨c, _, rfl⟩ := from_.ends ordered
    exact .retry from_.payload from_.owner action from_.cites (by simp) failed (FailureStage.checks_inv checks).2
  · obtain ⟨c, context, split⟩ := from_.shape
    have recovers : c.payload.recoversIn x = true :=
      EventPayload.recoversIn_iff.mpr ⟨_, context, from_.recovers.1, from_.recovers.2⟩
    rcases split with rfl | ⟨rfl, _⟩
    · exact expects.misplaced (FailureStage.checks_inv checks).1 recovers
    · exact expects.misplaced (FailureStage.checks_inv checks).1 recovers

/-- The failure of a round is recovered. -/
lemma answerInRound_spec {failure : Event} (fresh : h.FreshContexts)
    (running : Running round k t0) (last : k ≤ 6) (mem : failure ∈ t0)
    (ranked : 0 < failure.payload.place) (attempt : failure.key.attempt = round.request.attempt)
    (type : failure.payload.type ≠ .executionStarted)
    (other : failure.payload.failureStage ≠ some .coding) :
    LaneSpec h x (On x (· = t0)) (h.recover failure x)
      (fun r => On x (AnsweredIn x round k failure r t0)) (Left h x K) := by
  refine (recover_spec fresh mem type).weaken (fun _ _ hp => hp) ?_
    fun error es _ left => left.left running.base.toUnclosed running.calm
  intro r es v from_
  have after := from_.base v running.base mem fun _ failed => other failed.1
  have inRound := from_.kept (InRound.kept last) running.inRound
  obtain ⟨pre, post, split, behind⟩ := from_.follows mem
  have inside : failure ∈ trace x es := by
    rw [split]
    simp
  have later : failure.eventId < r.event.eventId := by
    have ordered := v.ordered
    rw [split] at ordered
    exact (List.pairwise_cons.mp (List.pairwise_append.mp ordered).2.1).1 _ behind
  refine ⟨from_.answered running.base after, inRound, from_.sealed running.sealed, ?_,
    fun Q kept q => from_.kept kept q, fun pre' same => ?_, ?_,
    fun stage base shape failed checks expects action =>
      from_.expects v.ordered shape failed checks expects action⟩
  · refine inRound.licensed v.ordered inside ranked attempt type ?_ ?_ later
    · rw [split]
      exact List.mem_append_right _ (List.mem_cons_of_mem _ behind)
    · rw [from_.payload]
      rfl
  · subst same
    obtain ⟨c, _, whole⟩ := from_.ends v.ordered
    exact ⟨_, whole⟩
  · rw [split]
    exact List.mem_append_right _ (List.mem_cons_of_mem _ behind)

/-- A retried check of a round is expected again. -/
lemma AnsweredIn.expects {stage : FailureStage} {failure : Event} {r : Harness.Recovery} {k' : Nat}
    {t1 t2 : List Event} (answered : AnsweredIn x round k failure r t1 t2)
    (failed : FailedIn round k' stage t0 failure t1) (checks : stage.checks = true)
    (expects : Expects x stage t0) (action : r.decision.action = .retrySameCommit) : Expects x stage t2 := by
  obtain ⟨result, payload, same⟩ := failed.payload
  refine answered.retried stage t0 (failed.shape.imp id And.left) ?_ checks expects action
  rw [payload]
  exact congrArg some same

end Operations
end TacoRank
