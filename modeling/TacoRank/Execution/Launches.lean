import TacoRank.Execution.Certificate

/-!
# When a process is launched

What the custody monitor says about the process of an execution, in terms of the transcript alone: at most one launch,
after the lease, the seal and all checks of the command, and no release of the lease while a process may run.
-/

namespace TacoRank.Execution
open Lib

section Traces
variable {F : Type} {log : List (SessionEntry F)} {e : SessionEntry F} {c d : Custody}

/-- Whether a question is the launch of a process. -/
def Question.launches : Question → Bool
  | launch _ => true
  | _ => false

/-- Whether a question ends a process. -/
def Question.ends : Question → Bool
  | finish | terminateGroup => true
  | _ => false

/-- Nothing was launched. -/
def Unlaunched (log : List (SessionEntry F)) : Prop := ∀ e ∈ log, e.question.launches = false

/-- No launch was answered. -/
def Unstarted (log : List (SessionEntry F)) : Prop :=
  ∀ e ∈ log, e.question.launches = true → Custody.answered e = false

/-- The end of a process was asked for. -/
def Stopped (log : List (SessionEntry F)) : Prop := ∃ e ∈ log, e.question.ends = true

/-- The checks that have passed, in their order. -/
def passedChecks (log : List (SessionEntry F)) : List Nat :=
  log.filterMap fun e => if Custody.answered e then e.question.check else none

/-- The lease was acquired and nothing was launched yet. -/
def Leased (log : List (SessionEntry F)) : Prop :=
  Unlaunched log ∧ ∃ timeout, replied (.acquireLease timeout) () ∈ log

/-- What the transcript says about the process of an execution. -/
def Custody.Traced (log : List (SessionEntry F)) : Custody → Prop
  | .idle => Unlaunched log ∧ passedChecks log = []
  | .leased => Leased log ∧ passedChecks log = []
  | .preparing initial checks => Leased log ∧ passedChecks log = List.range checks ∧ replied .verifySeal initial ∈ log
  | .running _ _ _ => True
  | .closing _ | .released _ => Unstarted log ∨ Stopped log
  | _ => Stopped log

lemma Unlaunched.unstarted (h : Unlaunched log) : Unstarted log := fun e there launches => by
  rw [h e there] at launches
  cases launches

lemma Unlaunched.later (h : Unlaunched log) (other : e.question.launches = false) : Unlaunched (log ++ [e]) :=
  List.forall_mem_append.mpr ⟨h, List.forall_mem_singleton.mpr other⟩

lemma Unstarted.later (h : Unstarted log) (other : e.question.launches = true → Custody.answered e = false) :
    Unstarted (log ++ [e]) :=
  List.forall_mem_append.mpr ⟨h, List.forall_mem_singleton.mpr other⟩

lemma Stopped.later (h : Stopped log) : Stopped (log ++ [e]) :=
  let ⟨f, there, ends⟩ := h
  ⟨f, List.mem_append_left _ there, ends⟩

lemma stopped_last (ends : e.question.ends = true) : Stopped (log ++ [e]) :=
  ⟨e, List.mem_append_right _ (.head _), ends⟩

lemma Leased.later (h : Leased log) (other : e.question.launches = false) : Leased (log ++ [e]) :=
  let ⟨unlaunched, timeout, there⟩ := h
  ⟨unlaunched.later other, timeout, List.mem_append_left _ there⟩

lemma passedChecks_snoc : passedChecks (log ++ [e]) =
    passedChecks log ++ (if Custody.answered e then e.question.check else none).toList := by
  rw [passedChecks, List.filterMap_append, List.filterMap_cons]
  cases (if Custody.answered e then e.question.check else none) <;> rfl

lemma passedChecks_other (other : e.question.check = none) : passedChecks (log ++ [e]) = passedChecks log := by
  rw [passedChecks_snoc, other, ite_self, Option.toList_none, List.append_nil]

lemma traced_stepIdle (held : Custody.idle.Traced log) (step : Custody.stepIdle e = some d) : d.Traced (log ++ [e]) := by
  obtain ⟨unlaunched, unchecked⟩ := held
  unfold Custody.stepIdle at step
  split at step <;> cases step
  · rename_i timeout answer
    refine ⟨⟨unlaunched.later rfl, timeout, ?_⟩, (passedChecks_other rfl).trans unchecked⟩
    exact List.mem_append_right _ (.head _)
  · exact .inl (unlaunched.later rfl).unstarted
  all_goals exact ⟨unlaunched.later rfl, (passedChecks_other rfl).trans unchecked⟩

lemma traced_stepLeased (held : Custody.leased.Traced log) (step : Custody.stepLeased e = some d) :
    d.Traced (log ++ [e]) := by
  obtain ⟨leased, unchecked⟩ := held
  unfold Custody.stepLeased at step
  split at step <;> cases step
  · exact ⟨leased.later rfl, (passedChecks_other rfl).trans unchecked, List.mem_append_right _ (.head _)⟩
  · exact .inl (leased.later rfl).1.unstarted
  · exact ⟨leased.later rfl, (passedChecks_other rfl).trans unchecked⟩
  · exact .inl (leased.later rfl).1.unstarted

lemma not_launches_of_check {q : Question} {n : Nat} (check : q.check = some n) : q.launches = false := by
  cases q <;> first | rfl | cases check

lemma not_launches_of_prepares {q : Question} (prepares : q.prepares = true) : q.launches = false ∧ q.check = none := by
  cases q <;> first | exact ⟨rfl, rfl⟩ | cases prepares

lemma not_launches_of_reports {q : Question} (reports : q.reports = true) : q.launches = false := by
  cases q <;> first | rfl | cases reports

lemma traced_stepPreparing {initial : Option String} {checks : Nat}
    (held : (Custody.preparing initial checks).Traced log) (step : Custody.stepPreparing initial checks e = some d) :
    d.Traced (log ++ [e]) := by
  obtain ⟨leased, passed, verified⟩ := held
  have still : replied .verifySeal initial ∈ log ++ [e] := List.mem_append_left _ verified
  unfold Custody.stepPreparing at step
  split at step
  · split at step <;> cases step
    trivial
  · split at step <;> cases step
    exact .inl (leased.1.unstarted.later fun _ => rfl)
  · rename_i q answer _ _
    -- a check is counted when it passes, what is asked between the checks is not, and a report ends the preparation
    split at step
    · rename_i check
      have other : q.launches = false := not_launches_of_check check
      cases step
      split
      · rename_i answered
        refine ⟨leased.later other, ?_, still⟩
        rw [passedChecks_snoc, if_pos answered, check, passed, List.range_succ]
        rfl
      · exact .inl (leased.later other).1.unstarted
    · split at step
      · rename_i prepares
        obtain ⟨other, unchecked⟩ := not_launches_of_prepares prepares
        cases step
        split
        · exact ⟨leased.later other, (passedChecks_other unchecked).trans passed, still⟩
        · exact .inl (leased.later other).1.unstarted
      · split at step <;> cases step
        rename_i reports
        exact .inl (leased.later (not_launches_of_reports reports)).1.unstarted

lemma traced_stepRunning {initial : Option String} {wall : ℚ} {vigil : Option Vigil}
    (step : Custody.stepRunning initial wall vigil e = some d) : d.Traced (log ++ [e]) := by
  unfold Custody.stepRunning at step
  split at step
  · cases step
    exact stopped_last rfl
  · cases step
    exact stopped_last rfl
  · cases step
    exact stopped_last rfl
  · cases step
    exact stopped_last rfl
  · cases vigil with
    | none =>
      dsimp only at step
      unfold Custody.stepUnwatched at step
      split at step
      · split at step <;> cases step
        trivial
      · cases step
        trivial
      · cases step
    | some v =>
      obtain ⟨v', _, rfl⟩ := Option.map_eq_some_iff.mp step
      trivial

/-- After the end of the process, every state stands with it. -/
def Custody.past : Custody → Bool
  | .stopping _ | .ended _ _ | .rechecked _ _ | .tampered | .unsealed _ _ => true
  | _ => false

/-- After the end of the process, or while the result is made. -/
def Custody.late : Custody → Bool
  | .closing _ | .released _ => true
  | c => c.past

lemma traced_of_late (late : d.late = true) (stopped : Stopped log) : d.Traced log := by
  cases d <;> first | exact stopped | exact .inr stopped | cases late

lemma late_withOutputs {receipt : Option String} {exit : Option Int} {outputs : CapturedOutputs} :
    (Custody.withOutputs receipt exit outputs).late = true := by
  unfold Custody.withOutputs
  split
  · split <;> rfl
  · rfl

/-- There is no way back to a process. -/
lemma late_step (past : c.past = true) (kept : e.question ≠ .releaseLease) (step : c.step e = some d) :
    d.late = true := by
  unfold Custody.step at step
  rw [if_neg kept] at step
  cases c with
  | stopping initial =>
    dsimp only [Custody.stepStopping] at step
    split at step
    · cases step
      rfl
    · cases step
      rfl
    · split_ifs at step <;> cases step <;> rfl
  | ended initial exit =>
    dsimp only [Custody.stepEnded] at step
    split at step
    case h_8 => split at step <;> cases step; rfl
    all_goals cases step; rfl
  | rechecked receipt exit =>
    dsimp only [Custody.stepRechecked] at step
    split at step <;> cases step
    · exact late_withOutputs
    · rfl
  | tampered =>
    dsimp only at step
    split at step <;> cases step
    rfl
  | unsealed outputs receipt =>
    dsimp only [Custody.stepUnsealed] at step
    split at step
    case h_4 => cases step
    all_goals split at step <;> cases step; rfl
  | _ => cases past

lemma not_launches_of_concludes {q : Question} (concludes : q.concludes = true) : q.launches = false := by
  cases q <;> first | rfl | cases concludes

lemma unstarted_or_stopped (held : Unstarted log ∨ Stopped log) (other : e.question.launches = false) :
    Unstarted (log ++ [e]) ∨ Stopped (log ++ [e]) :=
  held.imp (fun unstarted => unstarted.later fun launches => by rw [other] at launches; cases launches) Stopped.later

lemma traced_stepClosing {certificate : Option CapturedOutputs} (held : Unstarted log ∨ Stopped log)
    (step : Custody.stepClosing certificate e = some d) : d.Traced (log ++ [e]) := by
  unfold Custody.stepClosing at step
  split at step
  · cases step
    exact unstarted_or_stopped held rfl
  · cases step
    exact unstarted_or_stopped held rfl
  · split at step <;> cases step
    rename_i concludes
    exact unstarted_or_stopped held (not_launches_of_concludes concludes)

/-- A step keeps what the transcript says about the process. -/
lemma traced_step (held : c.Traced log) (step : c.step e = some d) : d.Traced (log ++ [e]) := by
  have whole := step
  unfold Custody.step at step
  split at step
  · rename_i released
    have other : e.question.launches = false := by rw [released]; rfl
    cases c with
    | idle => cases step
    | running initial wall vigil => cases step
    | released certificate => cases step
    | leased =>
      cases step
      exact .inl (held.1.later other).1.unstarted
    | preparing initial checks =>
      cases step
      exact .inl (held.1.later other).1.unstarted
    | closing certificate =>
      cases step
      exact unstarted_or_stopped held other
    | _ =>
      cases step
      exact .inr (Stopped.later held)
  · rename_i kept
    cases c with
    | idle => exact traced_stepIdle held step
    | leased => exact traced_stepLeased held step
    | preparing initial checks => exact traced_stepPreparing held step
    | running initial wall vigil => exact traced_stepRunning step
    | closing certificate => exact traced_stepClosing held step
    | released certificate =>
      dsimp only at step
      split at step <;> cases step
      rename_i reports
      exact unstarted_or_stopped held (not_launches_of_reports reports)
    | _ => exact traced_of_late (late_step rfl kept whole) (Stopped.later held)

lemma traced_run (held : custody.run log = some c) : c.Traced log := by
  induction log using List.reverseRecOn generalizing c with
  | nil =>
    cases held
    exact ⟨fun _ no => (by cases no), rfl⟩
  | append_singleton log e ih =>
    rw [Monitor.run_snoc] at held
    obtain ⟨before, ran, step⟩ := Option.bind_eq_some_iff.mp held
    exact traced_step (ih ran) step

lemma launch_step {limits : ResourceLimits} {answer : Except ExecutionError Unit}
    (step : c.step (F := F) ⟨.launch limits, answer⟩ = some d) : ∃ initial, c = .preparing initial 4 := by
  cases c with
  | preparing initial checks =>
    by_cases all : checks = 4
    · exact ⟨initial, by rw [all]⟩
    · have none : (Custody.preparing initial checks).step (F := F) ⟨.launch limits, answer⟩ = none := by
        cases answer <;> exact if_neg all
      rw [none] at step
      cases step
  | running initial wall vigil => cases vigil <;> cases answer <;> cases step
  | _ => cases answer <;> cases step

/-- The lease is not given back while a process runs. -/
lemma release_step {answer : Except ExecutionError Unit} (traced : c.Traced log)
    (step : c.step (F := F) ⟨.releaseLease, answer⟩ = some d) : Unstarted log ∨ Stopped log := by
  cases c with
  | idle => cases step
  | running initial wall vigil => cases step
  | released certificate => cases step
  | leased => exact .inl traced.1.1.unstarted
  | preparing initial checks => exact .inl traced.1.1.unstarted
  | closing certificate => exact traced
  | _ => exact .inr traced

lemma accepted_prefix {more : List (SessionEntry F)} (accepted : Accepted (custody.run (log ++ more))) :
    Accepted (custody.run log) := by
  induction more using List.reverseRecOn with
  | nil => rwa [List.append_nil] at accepted
  | append_singleton more e ih =>
    -- a rejected transcript stays rejected
    refine ih ?_
    rw [← List.append_assoc, Monitor.run_snoc] at accepted
    obtain ⟨d, stepped⟩ := Option.isSome_iff_exists.mp accepted
    obtain ⟨c, ran, _⟩ := Option.bind_eq_some_iff.mp stepped
    rw [ran]
    rfl

/-- The states around an entry of an accepted transcript. -/
lemma accepted_step {after : List (SessionEntry F)} (accepted : Accepted (custody.run (log ++ e :: after))) :
    ∃ c d, custody.run log = some c ∧ c.step e = some d := by
  have upTo : Accepted (custody.run (log ++ [e])) := by
    rw [List.append_cons] at accepted
    exact accepted_prefix accepted
  rw [Monitor.run_snoc] at upTo
  obtain ⟨d, stepped⟩ := Option.isSome_iff_exists.mp upTo
  obtain ⟨c, ran, step⟩ := Option.bind_eq_some_iff.mp stepped
  exact ⟨c, d, ran, step⟩

end Traces

section Runs
variable {F : Type} {r : Runner} {request : RunRequest} {w : World (SessionEntry F) Empty (SessionEntry F)}

/-- The first launch of a run is the only one; it comes after the seal was verified under the lease and all checks have
passed in their order. The lease is given back when no launch was answered, or the end of the process was asked for. -/
theorem launches_contained (start : w.log = []) {before after : List (SessionEntry F)} {e : SessionEntry F}
    (split : (r.runSync request w).2.log = before ++ e :: after) :
    (e.question.launches = true → Leased before ∧ passedChecks before = [0, 1, 2, 3] ∧
        ∃ initial, replied .verifySeal initial ∈ before) ∧
      (e.question = .releaseLease → Unstarted before ∨ Stopped before) := by
  have supervised : Monitored custody Accepted (· = some .idle) (r.runSync request : Session F RunReport)
      (Released request) (fun _ => AtRest) := runSync_releases
  obtain ⟨accepted, _⟩ := supervised.start ⟨rfl, rfl⟩ start
  rw [split] at accepted
  obtain ⟨c, d, ran, step⟩ := accepted_step accepted
  have traced : c.Traced before := traced_run ran
  obtain ⟨question, answer⟩ := e
  refine ⟨fun launches => ?_, fun released => ?_⟩
  · cases question with
    | launch limits =>
      obtain ⟨initial, rfl⟩ := launch_step step
      obtain ⟨leased, passed, verified⟩ := traced
      exact ⟨leased, passed, initial, verified⟩
    | _ => cases launches
  · cases released
    exact release_step traced step

end Runs

/-- The transcript of the run that succeeds. -/
def smokeLog : List (SessionEntry Int) := (plainRunner.runSync smokeRequest smokeWorld).2.log

lemma smoke_long : 14 < smokeLog.length := by decide +kernel

lemma smoke_launches : (smokeLog.get ⟨14, smoke_long⟩).question.launches = true := by decide +kernel

theorem launches_contained_smoke : ∃ before e after, smokeLog = before ++ e :: after ∧
    e.question.launches = true ∧ Leased before ∧ passedChecks before = [0, 1, 2, 3] := by
  have split : smokeLog = smokeLog.take 14 ++ smokeLog.get ⟨14, smoke_long⟩ :: smokeLog.drop 15 := by
    rw [List.get_eq_getElem, ← List.drop_eq_getElem_cons, List.take_append_drop]
  obtain ⟨leased, passed, _⟩ := (launches_contained rfl split).1 smoke_launches
  exact ⟨_, _, _, split, smoke_launches, leased, passed⟩

end TacoRank.Execution
