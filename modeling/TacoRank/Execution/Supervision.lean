import TacoRank.Execution.Runner

/-!
# The custody of an execution

What an execution may do, apart from the runner: a monitor over the transcript of a run. A process is launched only
after the seal of its request was verified under the lease and every check of its command passed; it is watched up to
its deadline, with a bounded number of misses; the lease is given back only when no process is left running; and the
certificate of success is lost for good with the first thing that is held against the execution. `execution_supervised` and `success_certified` show that the runner keeps to it.
-/

namespace TacoRank.Execution
open Lib

/-- How a process is watched: until when, the last reading of the clock, and how many samples and how many probes for
the outputs have failed in a row. -/
structure Vigil where
  deadline : ℚ
  now : Option ℚ := none
  misses : Nat := 0
  probes : Nat := 0
deriving DecidableEq

/-- Where an execution stands. A seal is the digest that it carries; an exit is the code of a process that ended by
itself, while nothing is held against it. -/
inductive Custody where
  /-- No lease yet. -/
  | idle
  | leased
  /-- The seal was verified, and so many checks of the command have passed. -/
  | preparing (initial : Option String) (checks : Nat)
  /-- The process runs with this wall time; it is not watched before its collector is made. -/
  | running (initial : Option String) (wall : ℚ) (vigil : Option Vigil)
  /-- The end of the process has failed. -/
  | stopping (initial : Option String)
  | ended (initial : Option String) (exit : Option Int)
  /-- The seal was verified again; the digest goes into the seal of the outputs. -/
  | rechecked (receipt : Option String) (exit : Option Int)
  | tampered
  /-- The process has ended well with these outputs, which are not sealed yet. -/
  | unsealed (outputs : CapturedOutputs) (receipt : Option String)
  /-- The result is made. The certificate is the outputs of an execution against which nothing is held. -/
  | closing (certificate : Option CapturedOutputs)
  | released (certificate : Option CapturedOutputs)
deriving DecidableEq

/-- The questions of a report, with or without a process. -/
def Question.reports : Question → Bool
  | writeLaunchFailure _ | telemetryExists | openJournal | closeJournal | telemetryReference | monotonic => true
  | _ => false

/-- What may always be asked about a running process. -/
def Question.watches : Question → Bool
  | openJournal | closeJournal | isAlive | monotonic | appendSample | extractReadyRuntimeOutputs => true
  | _ => false

/-- The checks of a command, in their order. -/
def Question.check : Question → Option Nat
  | resolveCommand _ => some 0
  | requireFreshExecutionPaths => some 1
  | prepareSandbox _ => some 2
  | validateLaunchSpec _ => some 3
  | _ => none

/-- What may be asked between the checks of a command. -/
def Question.prepares : Question → Bool
  | resolveSubmission | submissionIsRegular | writeResolvedConfiguration _ | writeEnvironmentIdentity | monotonic => true
  | _ => false

/-- What is asked of a process that has ended, before its seal is verified again. -/
def Question.settles : Question → Bool
  | closeAfterTermination | returnCode | readerError => true
  | _ => false

/-- What is asked when the result is made. -/
def Question.concludes : Question → Bool
  | recentOutputTail | runtimeState | logReference => true
  | q => q.reports

section Steps
variable {F : Type}

/-- What stands in the transcript of an execution. -/
abbrev SessionEntry (F : Type) := Exchange (Question.Reply F) ExecutionError

/-- Whether a question was answered without an exception. -/
def Custody.answered (e : SessionEntry F) : Bool := match e.answer with
  | .ok _ => true
  | .error _ => false

/-- Before the lease. -/
def Custody.stepIdle : SessionEntry F → Option Custody
  | ⟨.acquireLease _, .ok _⟩ => some .leased
  | ⟨.acquireLease _, .error _⟩ => some (.released none)
  | ⟨.resolveWorkspace, _⟩ | ⟨.attemptDirectory, _⟩ | ⟨.monotonic, _⟩ => some .idle
  | _ => none

/-- With the lease, before the seal is verified. -/
def Custody.stepLeased : SessionEntry F → Option Custody
  | ⟨.verifySeal, .ok initial⟩ => some (.preparing initial 0)
  | ⟨.verifySeal, .error _⟩ => some (.closing none)
  | ⟨.monotonic, .ok _⟩ => some .leased
  | ⟨.monotonic, .error _⟩ => some (.closing none)
  | _ => none

/-- Between the seal and the launch: a check follows the one before it, and the first exception or report ends the
preparation. -/
def Custody.stepPreparing (initial : Option String) (checks : Nat) (e : SessionEntry F) : Option Custody :=
  match e with
  | ⟨.launch limits, .ok _⟩ => if checks = 4 then some (.running initial limits.wallTimeSeconds none) else none
  | ⟨.launch _, .error _⟩ => if checks = 4 then some (.closing none) else none
  | ⟨q, _⟩ =>
    if q.check = some checks then some (if answered e then .preparing initial (checks + 1) else .closing none)
    else if q.prepares then some (if answered e then .preparing initial checks else .closing none)
    else if q.reports then some (.closing none)
    else none

/-- Whether the last reading of the clock is before the deadline. -/
def Vigil.inTime (v : Vigil) : Bool := v.now.any fun now => decide (now < v.deadline)

/-- Whether a pause ends by the deadline or lasts a millisecond at most. -/
def Vigil.brief (v : Vigil) (seconds : ℚ) : Bool :=
  v.now.any fun now => decide (0 < seconds ∧ now + seconds ≤ max v.deadline (now + 1 / 1000))

/-- A process is sampled, observed and probed only before its deadline, and after fewer than three misses in a row. -/
def Vigil.step (v : Vigil) : SessionEntry F → Option Vigil
  | ⟨.monotonic, .ok now⟩ => some { v with now := some now }
  | ⟨.sample, .ok _⟩ =>
    if v.inTime ∧ v.misses < maxConsecutiveTelemetryMisses then some { v with misses := 0 } else none
  | ⟨.sample, .error _⟩ =>
    if v.inTime ∧ v.misses < maxConsecutiveTelemetryMisses then some { v with misses := v.misses + 1 } else none
  | ⟨.observe, _⟩ => if v.inTime then some v else none
  | ⟨.runtimeOutputsReady, .ok _⟩ =>
    if v.inTime ∧ v.probes < maxConsecutiveTelemetryMisses then some { v with probes := 0 } else none
  | ⟨.runtimeOutputsReady, .error _⟩ =>
    if v.inTime ∧ v.probes < maxConsecutiveTelemetryMisses then some { v with probes := v.probes + 1 } else none
  | ⟨.sleep seconds, _⟩ => if v.brief seconds then some v else none
  | ⟨.wait timeout, _⟩ => if v.brief timeout then some v else none
  | ⟨q, _⟩ => if q.watches then some v else none

/-- Before the collector, which gets the deadline of the wall time. -/
def Custody.stepUnwatched (initial : Option String) (wall : ℚ) : SessionEntry F → Option Custody
  | ⟨.startCollector started deadline, .ok _⟩ =>
    if deadline = started + wall then some (.running initial wall (some { deadline })) else none
  | ⟨.startCollector _ _, .error _⟩ => some (.running initial wall none)
  | _ => none

/-- While the process runs. -/
def Custody.stepRunning (initial : Option String) (wall : ℚ) (vigil : Option Vigil) :
    SessionEntry F → Option Custody
  | ⟨.finish, .ok exitCode⟩ => some (.ended initial (some exitCode))
  | ⟨.terminateGroup, .ok _⟩ => some (.ended initial none)
  | ⟨.finish, .error _⟩ | ⟨.terminateGroup, .error _⟩ => some (.stopping initial)
  | e => match vigil with
    | none => stepUnwatched initial wall e
    | some v => (v.step e).map fun v => .running initial wall (some v)

/-- After the end of the process has failed. -/
def Custody.stepStopping (initial : Option String) : SessionEntry F → Option Custody
  | ⟨.verifySeal, .ok carried⟩ => some (.rechecked ((receiptSha256 carried).or (receiptSha256 initial)) none)
  | ⟨.verifySeal, .error _⟩ => some .tampered
  | ⟨q, _⟩ =>
    if q.settles then some (.stopping initial) else if q.reports then some (.closing none) else none

/-- After the process. -/
def Custody.stepEnded (initial : Option String) (exit : Option Int) : SessionEntry F → Option Custody
  | ⟨.verifySeal, .ok carried⟩ => some (.rechecked ((receiptSha256 carried).or (receiptSha256 initial)) exit)
  | ⟨.verifySeal, .error _⟩ => some .tampered
  | ⟨.readerError, .ok none⟩ => some (.ended initial exit)
  | ⟨.readerError, .ok (some _)⟩ => some (.ended initial none)
  | ⟨.closeAfterTermination, .ok _⟩ => some (.ended initial exit)
  | ⟨.closeAfterTermination, .error _⟩ | ⟨.readerError, .error _⟩ => some (.stopping initial)
  | ⟨q, _⟩ => if q.reports then some (.closing none) else none

/-- What the captured outputs of a process make of an execution. -/
def Custody.withOutputs (receipt : Option String) (exit : Option Int) (outputs : CapturedOutputs) : Custody :=
  if exit = some 0 ∧ outputs.missingRequiredRoles = [] then
    match outputs.predictionArtifact with
    | some _ => .unsealed outputs receipt
    | none => .closing (some outputs)
  else .closing none

/-- After the seal was verified again. -/
def Custody.stepRechecked (receipt : Option String) (exit : Option Int) : SessionEntry F → Option Custody
  | ⟨.captureOutputs, .ok outputs⟩ => some (withOutputs receipt exit outputs)
  | ⟨.captureOutputs, .error _⟩ => some (.closing none)
  | _ => none

/-- Only the prediction that was captured is sealed, with the digest of the receipt that was verified. Without a
digest there is no seal. -/
def Custody.stepUnsealed (outputs : CapturedOutputs) (receipt : Option String) : SessionEntry F → Option Custody
  | ⟨.writeExecutionSeal artifact sha, .ok _⟩ =>
    if outputs.predictionArtifact = some artifact ∧ receipt = some sha then some (.closing (some outputs)) else none
  | ⟨.writeExecutionSeal artifact sha, .error _⟩ =>
    if outputs.predictionArtifact = some artifact ∧ receipt = some sha then some (.closing none) else none
  | ⟨.recentOutputTail, _⟩ => if receipt = none then some (.closing none) else none
  | _ => none

/-- What the container says about a process that exited with 0. -/
def RuntimeState.agrees (state : RuntimeState) : Bool := !state.exitCode.any (· ≠ 0) && !state.oomKilled

/-- While the result is made; an exception takes the certificate away. -/
def Custody.stepClosing (certificate : Option CapturedOutputs) (e : SessionEntry F) : Option Custody :=
  match e with
  | ⟨.runtimeState, .ok state⟩ => some (.closing (certificate.filter fun _ => state.agrees))
  | ⟨.writeLaunchFailure _, _⟩ => some (.closing none)
  | ⟨q, _⟩ => if q.concludes then some (.closing (certificate.filter fun _ => answered e)) else none

/-- One exchange of an execution that may still be rejected. -/
def Custody.step (c : Custody) (e : SessionEntry F) : Option Custody :=
  if e.question = .releaseLease then
    match c with
    | .idle | .running _ _ _ | .released _ => none
    | .closing certificate => some (.released (certificate.filter fun _ => answered e))
    | _ => some (.released none)
  else match c with
    | .idle => stepIdle e
    | .leased => stepLeased e
    | .preparing initial checks => stepPreparing initial checks e
    | .running initial wall vigil => stepRunning initial wall vigil e
    | .stopping initial => stepStopping initial e
    | .ended initial exit => stepEnded initial exit e
    | .rechecked receipt exit => stepRechecked receipt exit e
    | .tampered => match e.question with
      | .captureOutputs => some (.closing none)
      | _ => none
    | .unsealed outputs receipt => stepUnsealed outputs receipt e
    | .closing certificate => stepClosing certificate e
    | .released _ => if e.question.reports then some (.released none) else none

/-- The monitor of an execution; `none` is a transcript that it has rejected. -/
def custody : Monitor (SessionEntry F) (Option Custody) where
  init := some .idle
  step s e := s.bind (·.step e)

end Steps

section Rules
variable {F α β : Type} {i : Option String} {c : Custody} {q : Question}

/-- The monitor accepts the transcript. -/
def Accepted (s : Option Custody) : Prop := s.isSome = true

/-- A program leaves an execution where it stands, also when it raises. -/
def Keeps (c : Custody) (m : Session F α) : Prop :=
  Monitored custody Accepted (· = some c) m (fun _ s => s = some c) fun _ s => s = some c

/-- A question takes an execution from one state to the next. -/
lemma ask_moves {A : q.Reply F → Option Custody → Prop} {R : ExecutionError → Option Custody → Prop}
    (ok : ∀ a, ∃ d, c.step (F := F) ⟨q, .ok a⟩ = some d ∧ A a (some d))
    (err : ∀ error, ∃ d, c.step (F := F) ⟨q, .error error⟩ = some d ∧ R error (some d)) :
    Monitored custody Accepted (· = some c) (ask q) A R := by
  refine Monitored.ask (fun s a _ held => ?_) fun s error _ held => ?_
  · obtain ⟨d, step, post⟩ := ok a
    have next : (custody (F := F)).step s ⟨q, .ok a⟩ = some d := by rw [held]; exact step
    rw [next]
    exact ⟨rfl, post⟩
  · obtain ⟨d, step, post⟩ := err error
    have next : (custody (F := F)).step s ⟨q, .error error⟩ = some d := by rw [held]; exact step
    rw [next]
    exact ⟨rfl, post⟩

lemma keeps_ask (still : ∀ answer : Except ExecutionError (q.Reply F), c.step ⟨q, answer⟩ = some c) :
    Keeps c (ask q : Session F _) :=
  ask_moves (fun a => ⟨c, still (.ok a), rfl⟩) fun error => ⟨c, still (.error error), rfl⟩

lemma keeps_ret {a : α} : Keeps c (pure a : Session F α) := Monitored.ret fun _ held => held

lemma Keeps.bind {m : Session F α} {f : α → Session F β} (first : Keeps c m) (rest : ∀ a, Keeps c (f a)) :
    Keeps c (m >>= f) :=
  Monitored.bind first rest

end Rules

/-! ### The telemetry loop -/

section Loop
variable {F : Type} {r : Runner} {limits : ResourceLimits} {t : Schedule} {i : Option String} {wall : ℚ} {q : Question}

/-- The process runs and is watched. -/
def Watching (i : Option String) (wall : ℚ) (p : Vigil → Prop) (s : Option Custody) : Prop :=
  ∃ v, s = some (.running i wall (some v)) ∧ p v

/-- The process still runs. -/
abbrev Runs (i : Option String) (wall : ℚ) : Option Custody → Prop := Watching i wall fun _ => True

lemma Watching.runs {p : Vigil → Prop} {s : Option Custody} (h : Watching i wall p s) : Runs i wall s :=
  let ⟨v, held, _⟩ := h
  ⟨v, held, trivial⟩

lemma misses_allowed : 0 < maxConsecutiveTelemetryMisses := by decide

/-- The deadline of the schedule, with so many misses. -/
def Paced (t : Schedule) (misses probes : Nat) (v : Vigil) : Prop :=
  v.deadline = t.started + t.limit ∧ v.misses = misses ∧ v.probes = probes

/-- The same at a reading of the clock. -/
def PacedAt (t : Schedule) (now : ℚ) (misses probes : Nat) (v : Vigil) : Prop :=
  Paced t misses probes v ∧ v.now = some now

lemma PacedAt.inTime {now : ℚ} {misses probes : Nat} {v : Vigil} (h : PacedAt t now misses probes v)
    (early : ¬ t.over now = true) : v.inTime = true := by
  have before : now < t.started + t.limit := by
    have within : ¬ t.limit ≤ now - t.started := fun past => early (decide_eq_true past)
    linarith
  rw [Vigil.inTime, h.2, Option.any_some, h.1.1]
  exact decide_eq_true before

/-- A pause of at least a millisecond up to the deadline is brief. -/
lemma PacedAt.brief {now seconds : ℚ} {misses probes : Nat} {v : Vigil} (h : PacedAt t now misses probes v)
    (positive : 0 < seconds) (short : seconds ≤ max (1 / 1000) (t.limit - (now - t.started))) :
    v.brief seconds = true := by
  have ends : now + seconds ≤ max (t.started + t.limit) (now + 1 / 1000) := by
    rcases le_max_iff.mp short with small | small
    · exact le_max_of_le_right (by linarith)
    · exact le_max_of_le_left (by linarith)
  rw [Vigil.brief, h.2, Option.any_some, h.1.1]
  exact decide_eq_true ⟨positive, ends⟩

lemma PacedAt.pause {now : ℚ} {misses probes : Nat} {v : Vigil} (positive : 0 < t.interval)
    (h : PacedAt t now misses probes v) : v.brief (t.pause now) = true :=
  h.brief (lt_min positive (lt_max_of_lt_left (by norm_num))) (min_le_right _ _)

lemma PacedAt.releaseWait {now : ℚ} {misses probes : Nat} {v : Vigil} (h : PacedAt t now misses probes v) :
    v.brief (t.releaseWait now) = true :=
  h.brief (lt_min (by norm_num) (lt_max_of_lt_left (by norm_num))) (min_le_right _ _)

/-- The questions that are put to the vigil. -/
def Question.vigilant : Question → Bool
  | sample | observe | runtimeOutputsReady | sleep _ | wait _ => true
  | q => q.watches

lemma running_vigil (vigilant : q.vigilant = true) (v : Vigil) (answer : Except ExecutionError (q.Reply F)) :
    (custody (F := F)).step (some (.running i wall (some v))) ⟨q, answer⟩ =
      (v.step ⟨q, answer⟩).map fun v => .running i wall (some v) := by
  cases q <;> first | rfl | cases vigilant

/-- A question moves the vigil by its answer. -/
lemma vigil_ask {p R : Vigil → Prop} {A : q.Reply F → Vigil → Prop} (vigilant : q.vigilant = true)
    (ok : ∀ v a, p v → ∃ v', v.step (F := F) ⟨q, .ok a⟩ = some v' ∧ A a v')
    (err : ∀ v error, p v → ∃ v', v.step (F := F) ⟨q, .error error⟩ = some v' ∧ R v') :
    Monitored custody Accepted (Watching i wall p) (ask q) (fun a => Watching i wall (A a))
      (fun _ => Watching i wall R) := by
  refine Monitored.ask (fun s a _ held => ?_) fun s error _ held => ?_
  · obtain ⟨v, rfl, holds⟩ := held
    obtain ⟨v', step, post⟩ := ok v a holds
    rw [running_vigil vigilant, step]
    exact ⟨rfl, v', rfl, post⟩
  · obtain ⟨v, rfl, holds⟩ := held
    obtain ⟨v', step, post⟩ := err v error holds
    rw [running_vigil vigilant, step]
    exact ⟨rfl, v', rfl, post⟩

/-- A question that the vigil does not count. -/
lemma vigil_quiet {p : Vigil → Prop} (vigilant : q.vigilant = true)
    (still : ∀ v (answer : Except ExecutionError (q.Reply F)), p v → v.step ⟨q, answer⟩ = some v) :
    Monitored custody Accepted (Watching i wall p) (ask q : Session F _) (fun _ => Watching i wall p)
      (fun _ => Watching i wall p) :=
  vigil_ask vigilant (fun v a holds => ⟨v, still v (.ok a) holds, holds⟩)
    fun v error holds => ⟨v, still v (.error error) holds, holds⟩

/-- A reading of the clock. -/
lemma vigil_clock {misses probes : Nat} :
    Monitored custody Accepted (Watching i wall (Paced t misses probes)) (ask (F := F) .monotonic)
      (fun now => Watching i wall (PacedAt t now misses probes)) (fun _ => Runs i wall) :=
  vigil_ask rfl (fun _ _ holds => ⟨_, rfl, holds, rfl⟩) fun v _ _ => ⟨v, rfl, trivial⟩

lemma vigil_sleep {now : ℚ} {misses probes : Nat} (positive : 0 < t.interval) :
    Monitored custody Accepted (Watching i wall (PacedAt t now misses probes)) (ask (F := F) (.sleep (t.pause now)))
      (fun _ => Watching i wall (PacedAt t now misses probes))
      (fun _ => Watching i wall (PacedAt t now misses probes)) :=
  vigil_quiet rfl fun _ _ holds => if_pos (holds.pause positive)

/-- Also after an exception, the process still runs. -/
lemma still_runs {p p' : Vigil → Prop} {α : Type} {m : Session F α} {A : α → Option Custody → Prop}
    (h : Monitored custody Accepted (Watching i wall p) m A (fun _ => Watching i wall p')) :
    Monitored custody Accepted (Watching i wall p) m A (fun _ => Runs i wall) :=
  h.weaken (fun _ held => held) (fun _ _ held => held) fun _ _ => Watching.runs

lemma watched_raise {p : Vigil → Prop} {α : Type} {A : α → Option Custody → Prop} {error : ExecutionError} :
    Monitored custody Accepted (Watching i wall p) (Program.raise error : Session F α) A (fun _ => Runs i wall) :=
  Monitored.raise fun _ held => held.runs

/-- A question that takes a watched process from its vigil to another state. -/
lemma runs_moves {A : q.Reply F → Option Custody → Prop} {R : ExecutionError → Option Custody → Prop}
    (ok : ∀ v a, ∃ d, (Custody.running i wall (some v)).step (F := F) ⟨q, .ok a⟩ = some d ∧ A a (some d))
    (err : ∀ v error, ∃ d, (Custody.running i wall (some v)).step (F := F) ⟨q, .error error⟩ = some d ∧
      R error (some d)) :
    Monitored custody Accepted (Runs i wall) (ask q) A R := by
  intro w admits held
  obtain ⟨v, running, _⟩ := held
  exact ask_moves (ok v) (err v) w admits running

/-- What stands after the first part of a round. -/
def Sampled (t : Schedule) (watch : Watch) : Sampling F → Vigil → Prop
  | .inl _ => fun _ => True
  | .inr none => fun v => Paced t (watch.sampleFailures + 1) watch.probeFailures v ∧
      watch.sampleFailures + 1 < maxConsecutiveTelemetryMisses
  | .inr (some _) => Paced t 0 watch.probeFailures

lemma missSample_paced {watch : Watch} {error : ExecutionError} (positive : 0 < t.interval) :
    Monitored custody Accepted (Watching i wall (Paced t (watch.sampleFailures + 1) watch.probeFailures))
      (missSample t watch error : Session F (Sampling F)) (fun result => Watching i wall (Sampled t watch result))
      (fun _ => Runs i wall) := by
  refine Monitored.bind (still_runs (vigil_quiet rfl fun _ _ _ => rfl)) fun alive => ?_
  cases alive with
  | false => exact Monitored.ret fun _ held => held.runs
  | true =>
    refine vigil_clock.bind fun now => ?_
    split
    · exact Monitored.ret fun _ held => held.runs
    · split
      · exact watched_raise
      · rename_i tolerated
        refine Monitored.bind (A := fun later => Watching i wall
          (PacedAt t later (watch.sampleFailures + 1) watch.probeFailures)) ?_ fun later => ?_
        · exact vigil_clock.pre fun _ held => let ⟨v, running, paced⟩ := held; ⟨v, running, paced.1⟩
        · refine Monitored.bind (still_runs (vigil_sleep positive)) fun _ => ?_
          refine Monitored.ret fun _ held => ?_
          obtain ⟨v, running, paced, _⟩ := held
          exact ⟨v, running, paced, not_le.mp tolerated⟩

lemma takeSample_paced {watch : Watch} (positive : 0 < t.interval)
    (few : watch.sampleFailures < maxConsecutiveTelemetryMisses) :
    Monitored custody Accepted (Watching i wall (Paced t watch.sampleFailures watch.probeFailures))
      (takeSample t watch : Session F (Sampling F)) (fun result => Watching i wall (Sampled t watch result))
      (fun _ => Runs i wall) := by
  refine Monitored.bind (still_runs (vigil_quiet rfl fun _ _ _ => rfl)) fun alive => ?_
  cases alive with
  | false => exact Monitored.ret fun _ held => held.runs
  | true =>
    refine vigil_clock.bind fun now => ?_
    split
    · exact Monitored.ret fun _ held => held.runs
    · rename_i early
      have asked : Monitored custody Accepted
          (Watching i wall (PacedAt t now watch.sampleFailures watch.probeFailures)) (ask (F := F) .sample)
          (fun _ => Watching i wall (Paced t 0 watch.probeFailures))
          (fun _ => Watching i wall (Paced t (watch.sampleFailures + 1) watch.probeFailures)) := by
        refine vigil_ask rfl (fun v a holds => ?_) fun v error holds => ?_
        · exact ⟨_, if_pos ⟨holds.inTime early, holds.1.2.1 ▸ few⟩, holds.1.1, rfl, holds.1.2.2⟩
        · exact ⟨_, if_pos ⟨holds.inTime early, holds.1.2.1 ▸ few⟩, holds.1.1, congrArg (· + 1) holds.1.2.1,
            holds.1.2.2⟩
      refine Monitored.catching asked (fun taken => ?_) fun error => missSample_paced positive
      refine Monitored.bind (still_runs (vigil_quiet rfl fun _ _ _ => rfl)) fun _ => ?_
      exact Monitored.ret fun _ held => held

/-- What stands after the second part of a round. -/
def Looked (t : Schedule) : WatchEnd ⊕ Nat → Vigil → Prop
  | .inl _ => fun _ => True
  | .inr probeFailures => fun v => Paced t 0 probeFailures v ∧ probeFailures < maxConsecutiveTelemetryMisses

lemma rest_paced {now : ℚ} {probeFailures : Nat} (positive : 0 < t.interval)
    (few : probeFailures < maxConsecutiveTelemetryMisses) :
    Monitored custody Accepted (Watching i wall (PacedAt t now 0 probeFailures))
      (rest t now probeFailures : Session F (WatchEnd ⊕ Nat)) (fun result => Watching i wall (Looked t result))
      (fun _ => Runs i wall) := by
  refine Monitored.bind (still_runs (vigil_sleep positive)) fun _ => ?_
  refine Monitored.ret fun _ held => ?_
  obtain ⟨v, running, paced, _⟩ := held
  exact ⟨v, running, paced, few⟩

lemma extractOutputs_paced {now : ℚ} :
    Monitored custody Accepted (Watching i wall (PacedAt t now 0 0))
      (extractOutputs t now : Session F (WatchEnd ⊕ Nat)) (fun result => Watching i wall (Looked t result))
      (fun _ => Runs i wall) := by
  refine Monitored.catching (vigil_quiet rfl fun _ _ _ => rfl) (fun _ => ?_) fun error => ?_
  · have waited : Monitored custody Accepted (Watching i wall (PacedAt t now 0 0))
        (ask (F := F) (.wait (t.releaseWait now))) (fun _ => Watching i wall (PacedAt t now 0 0))
        (fun _ => Watching i wall (PacedAt t now 0 0)) :=
      vigil_quiet rfl fun _ _ holds => if_pos holds.releaseWait
    refine Monitored.bind (still_runs waited) fun _ => ?_
    refine Monitored.ret fun _ held => ?_
    obtain ⟨v, running, paced, _⟩ := held
    exact ⟨v, running, paced, misses_allowed⟩
  · dsimp only
    cases extractionTermination error with
    | none => exact watched_raise
    | some termination => exact Monitored.ret fun _ held => held.runs

lemma probeOutputs_paced {now : ℚ} {probeFailures : Nat} (positive : 0 < t.interval) (early : ¬ t.over now = true)
    (few : probeFailures < maxConsecutiveTelemetryMisses) :
    Monitored custody Accepted (Watching i wall (PacedAt t now 0 probeFailures))
      (probeOutputs t now probeFailures : Session F (WatchEnd ⊕ Nat)) (fun result => Watching i wall (Looked t result))
      (fun _ => Runs i wall) := by
  have asked : Monitored custody Accepted (Watching i wall (PacedAt t now 0 probeFailures))
      (ask (F := F) .runtimeOutputsReady) (fun _ => Watching i wall (PacedAt t now 0 0))
      (fun _ => Watching i wall (PacedAt t now 0 (probeFailures + 1))) := by
    refine vigil_ask rfl (fun v a holds => ?_) fun v error holds => ?_
    · exact ⟨_, if_pos ⟨holds.inTime early, holds.1.2.2 ▸ few⟩, ⟨holds.1.1, holds.1.2.1, rfl⟩, holds.2⟩
    · exact ⟨_, if_pos ⟨holds.inTime early, holds.1.2.2 ▸ few⟩,
        ⟨holds.1.1, holds.1.2.1, congrArg (· + 1) holds.1.2.2⟩, holds.2⟩
  refine Monitored.catching asked (fun ready => ?_) fun error => ?_
  · cases ready with
    | true => exact extractOutputs_paced
    | false => exact rest_paced positive misses_allowed
  · dsimp only
    split
    · split
      · exact Monitored.ret fun _ held => held.runs
      · rename_i tolerated
        exact rest_paced positive (not_le.mp tolerated)
    · exact watched_raise

lemma consultObserver_paced {now : ℚ} {probeFailures : Nat} (positive : 0 < t.interval) (early : ¬ t.over now = true)
    (few : probeFailures < maxConsecutiveTelemetryMisses) :
    Monitored custody Accepted (Watching i wall (PacedAt t now 0 probeFailures))
      (consultObserver r t now probeFailures : Session F (WatchEnd ⊕ Nat))
      (fun result => Watching i wall (Looked t result)) (fun _ => Runs i wall) := by
  refine Monitored.catching (vigil_quiet rfl fun _ _ holds => if_pos (holds.inTime early)) (fun directive => ?_)
    fun error => Monitored.ret fun _ held => held.runs
  dsimp only
  cases directive.action with
  | terminate => exact Monitored.ret fun _ held => held.runs
  | continue_ => exact probeOutputs_paced positive early few

lemma judgeSample_paced {sample : Sre.TelemetrySample F} {probeFailures : Nat} (positive : 0 < t.interval)
    (few : probeFailures < maxConsecutiveTelemetryMisses) :
    Monitored custody Accepted (Watching i wall (Paced t 0 probeFailures)) (judgeSample r limits t sample probeFailures)
      (fun result => Watching i wall (Looked t result)) (fun _ => Runs i wall) := by
  refine Monitored.bind (still_runs (vigil_quiet rfl fun _ _ _ => rfl)) fun alive => ?_
  cases alive with
  | false => exact Monitored.ret fun _ held => held.runs
  | true =>
    refine vigil_clock.bind fun now => ?_
    split
    · exact Monitored.ret fun _ held => held.runs
    · rename_i early
      cases observedLimitPressure sample limits with
      | none => exact consultObserver_paced positive early few
      | some observed => exact Monitored.ret fun _ held => held.runs

/-- What stands between two rounds. -/
def Round (t : Schedule) (watch : Watch) (v : Vigil) : Prop :=
  Paced t watch.sampleFailures watch.probeFailures v ∧
    watch.sampleFailures < maxConsecutiveTelemetryMisses ∧ watch.probeFailures < maxConsecutiveTelemetryMisses

lemma watchRound_paced {watch : Watch} {Q : ExecutionError → Option Custody → Prop} (positive : 0 < t.interval) :
    Monitored custody Accepted (Watching i wall (Round t watch)) (watchRound (F := F) r limits t watch)
      (fun result s => result.elim (fun watch => Watching i wall (Round t watch) s) (fun _ => Runs i wall s)) Q := by
  -- the bounds are facts about the loop's own state, which the program needs before it runs
  by_cases few : watch.sampleFailures < maxConsecutiveTelemetryMisses ∧
      watch.probeFailures < maxConsecutiveTelemetryMisses
  · have taken : Monitored custody Accepted (Watching i wall (Round t watch)) (takeSample (F := F) t watch)
        (fun result => Watching i wall (Sampled t watch result)) (fun _ => Runs i wall) :=
      (takeSample_paced positive few.1).pre fun _ held => let ⟨v, running, paced, _⟩ := held; ⟨v, running, paced⟩
    refine Monitored.catching taken (fun taken => ?_) fun error => Monitored.ret fun _ held => held
    cases taken with
    | inl done => exact Monitored.ret fun _ held => held
    | inr taken =>
      cases taken with
      | none =>
        refine Monitored.ret fun _ held => ?_
        obtain ⟨v, running, paced, tolerated⟩ := held
        exact ⟨v, running, paced, tolerated, few.2⟩
      | some taken =>
        obtain ⟨sample, cpuSeconds⟩ := taken
        refine Monitored.catching (judgeSample_paced positive few.2) (fun judged => ?_)
          fun error => Monitored.ret fun _ held => held
        cases judged with
        | inl done => exact Monitored.ret fun _ held => held
        | inr probeFailures =>
          refine Monitored.ret fun _ held => ?_
          obtain ⟨v, running, paced, tolerated⟩ := held
          exact ⟨v, running, paced, misses_allowed, tolerated⟩
  · intro w admits held
    obtain ⟨_, _, _, both⟩ := held
    exact absurd both few

/-- The telemetry loop keeps its deadline, and neither ends the process nor raises. -/
lemma watchProcess_paced {tracker : ResourceTracker} {Q : ExecutionError → Option Custody → Prop}
    (positive : 0 < t.interval) :
    Monitored custody Accepted (Watching i wall (Paced t 0 0)) (watchProcess (F := F) r limits t tracker)
      (fun _ => Runs i wall) Q := by
  refine Monitored.catching (vigil_quiet rfl fun _ _ _ => rfl) (fun _ => ?_)
    fun error => Monitored.ret fun _ held => held.runs
  have looped : Monitored custody Accepted (Watching i wall (Paced t 0 0))
      (Program.loop (watchRound (F := F) r limits t) r.rounds { tracker }) (fun _ => Runs i wall) Q :=
    Monitored.pre (Monitored.loop (J := fun watch => Watching i wall (Round t watch))
      (fun _ => watchRound_paced positive) r.rounds { tracker }) fun _ held =>
        let ⟨v, running, paced⟩ := held; ⟨v, running, paced, misses_allowed, misses_allowed⟩
  refine looped.bind fun watched => ?_
  exact Monitored.catching (vigil_quiet rfl fun _ _ _ => rfl) (fun _ => Monitored.ret fun _ held => held)
    fun error => Monitored.ret fun _ held => held

end Loop

/-! ### Reports without a process -/

/-- The lease can be given back. -/
def Custody.leaves : Custody → Bool
  | .idle | .running _ _ _ | .released _ => false
  | _ => true

/-- An execution that is about to give its lease back. -/
def Leaving (s : Option Custody) : Prop := ∃ c, s = some c ∧ c.leaves = true

/-- An execution without a process, which no policy has cleared. -/
def Refused (s : Option Custody) : Prop := s = some (.closing none) ∨ ∃ i n, s = some (.preparing i n)

lemma Refused.leaving {s : Option Custody} (h : Refused s) : Leaving s := by
  rcases h with rfl | ⟨i, n, rfl⟩
  · exact ⟨_, rfl, rfl⟩
  · exact ⟨_, rfl, rfl⟩

/-- A report that starts here ends in the state `c`. -/
def ReportsTo (F : Type) (c : Custody) (s : Option Custody) : Prop :=
  ∃ d, s = some d ∧ ∀ summary (answer : Except ExecutionError ArtifactRef),
    d.step (F := F) ⟨.writeLaunchFailure summary, answer⟩ = some c

/-- The states of an execution whose failure is reported. -/
def Failed (c : Custody) : Prop := c = .closing none ∨ c = .released none

section Reports
variable {F : Type} {r : Runner} {request : RunRequest} {q : Question} {c : Custody} {i : Option String}

lemma Refused.reports {s : Option Custody} (h : Refused s) : ReportsTo F (.closing none) s := by
  rcases h with rfl | ⟨i, n, rfl⟩
  · exact ⟨_, rfl, fun _ _ => rfl⟩
  · exact ⟨_, rfl, fun _ _ => rfl⟩

lemma failed_reports (failed : Failed c) (reports : q.reports = true)
    (answer : Except ExecutionError (q.Reply F)) : c.step ⟨q, answer⟩ = some c := by
  rcases failed with rfl | rfl
  · cases q <;> first | rfl | cases reports
  · cases q <;> first | rfl | cases reports

lemma keeps_report (failed : Failed c) (reports : q.reports = true) : Keeps c (ask q : Session F _) :=
  keeps_ask (failed_reports failed reports)

lemma keeps_emptyJournal (failed : Failed c) {present : Bool} : Keeps c (emptyJournal present : Session F Unit) := by
  cases present with
  | true => exact keeps_ret
  | false => exact (keeps_report failed rfl).bind fun _ => keeps_report failed rfl

lemma buildRunResult_ok {fields : ReportFields} {report : RunReport} (built : buildRunResult fields = .ok report) :
    report.outcome = fields.outcome ∧ report.predictionArtifact = fields.predictionArtifact := by
  unfold buildRunResult at built
  dsimp only at built
  split at built
  · split at built
    · cases built
      exact ⟨rfl, rfl⟩
    · cases built
  · cases built

/-- A report without a process is no success. -/
lemma resultWithoutProcess_failed {p : Option Custody → Prop} {tracker : ResourceTracker} {outcome : RunOutcome}
    {errorClass summary : String} (failed : Failed c) (reported : ∀ s, p s → ReportsTo F c s)
    (unsuccessful : outcome ≠ .success) :
    Monitored custody Accepted p (resultWithoutProcess (F := F) r request tracker outcome errorClass summary)
      (fun report s => s = some c ∧ report.outcome ≠ .success) (fun _ s => s = some c) := by
  have first : Monitored custody Accepted p (ask (F := F) (.writeLaunchFailure (r.safeSummary summary)))
      (fun _ s => s = some c) (fun _ s => s = some c) := by
    refine Monitored.ask (fun s a _ held => ?_) fun s error _ held => ?_
    · obtain ⟨d, rfl, step⟩ := reported s held
      have next : custody.step (some d) ⟨.writeLaunchFailure (r.safeSummary summary), .ok a⟩ = some c := step _ (.ok a)
      rw [next]
      exact ⟨rfl, rfl⟩
    · obtain ⟨d, rfl, step⟩ := reported s held
      have next : (custody (F := F)).step (some d) ⟨.writeLaunchFailure (r.safeSummary summary), .error error⟩ =
          some c := step _ (.error error)
      rw [next]
      exact ⟨rfl, rfl⟩
  -- the first question moves the monitor, the others leave it there
  refine first.bind fun logArtifact => ?_
  refine Monitored.bind (keeps_report failed rfl) fun present => ?_
  refine Monitored.bind (keeps_emptyJournal failed) fun _ => ?_
  refine Monitored.bind (keeps_report failed rfl) fun telemetryArtifact => ?_
  refine Monitored.bind (A := fun _ s => s = some c)
    ((keeps_report failed rfl).bind fun now => keeps_ret) fun resourceDelta => ?_
  refine Monitored.ofExcept (fun report s built held => ⟨held, ?_⟩) fun error s _ held => held
  rw [(buildRunResult_ok built).1]
  exact unsuccessful

end Reports

/-! ### Before the process -/

section Launch
variable {F : Type} {r : Runner} {request : RunRequest} {limits : ResourceLimits} {i : Option String} {wall : ℚ}

/-- A question between the checks of a command; an exception ends the preparation. -/
lemma prepares {q : Question} {n : Nat}
    (ok : ∀ a, (Custody.preparing i n).step (F := F) ⟨q, .ok a⟩ = some (.preparing i n))
    (err : ∀ error, (Custody.preparing i n).step (F := F) ⟨q, .error error⟩ = some (.closing none)) :
    Monitored custody Accepted (· = some (.preparing i n)) (ask q : Session F _)
      (fun _ s => s = some (.preparing i n)) (fun _ => Refused) :=
  ask_moves (fun a => ⟨_, ok a, rfl⟩) fun error => ⟨_, err error, .inl rfl⟩

/-- A check of a command. -/
lemma prepares_next {q : Question} {n : Nat}
    (ok : ∀ a, (Custody.preparing i n).step (F := F) ⟨q, .ok a⟩ = some (.preparing i (n + 1)))
    (err : ∀ error, (Custody.preparing i n).step (F := F) ⟨q, .error error⟩ = some (.closing none)) :
    Monitored custody Accepted (· = some (.preparing i n)) (ask q : Session F _)
      (fun _ s => s = some (.preparing i (n + 1))) (fun _ => Refused) :=
  ask_moves (fun a => ⟨_, ok a, rfl⟩) fun error => ⟨_, err error, .inl rfl⟩

/-- Only a `submission_check` has a prior prediction. -/
def Unsubmitted (request : RunRequest) (submission : Option ArtifactRef) : Prop :=
  request.commandId ≠ "submission_check" → submission = none

lemma submissionArtifact_prepares :
    Monitored custody Accepted (· = some (.preparing i 0)) (submissionArtifact (F := F) r request)
      (fun submission s => s = some (.preparing i 0) ∧ Unsubmitted request submission) (fun _ => Refused) := by
  unfold submissionArtifact
  split
  · exact Monitored.ret fun _ held => ⟨held, fun _ => rfl⟩
  · rename_i check
    split
    · exact Monitored.raise fun _ held => .inr ⟨_, _, held⟩
    · refine Monitored.catching (prepares (fun _ => rfl) fun _ => rfl) (fun artifact => ?_) fun error => ?_
      · refine Monitored.bind (prepares (fun _ => rfl) fun _ => rfl) fun regular => ?_
        cases regular with
        | true => exact Monitored.ret fun _ held => ⟨held, fun other => absurd other check⟩
        | false => exact Monitored.raise fun _ held => .inr ⟨_, _, held⟩
      · exact Monitored.raise fun _ held => held

/-- With the lease, a command is resolved after its seal was verified. -/
lemma authorize_prepares :
    Monitored custody Accepted (· = some .leased) (authorize (F := F) r request)
      (fun authorization s => s = some (.preparing authorization.initialSeal 1) ∧
        Unsubmitted request authorization.submission) (fun _ => Refused) := by
  have verified : Monitored custody Accepted (· = some .leased) (ask (F := F) .verifySeal)
      (fun initial s => s = some (.preparing initial 0)) (fun _ => Refused) :=
    ask_moves (fun _ => ⟨_, rfl, rfl⟩) fun _ => ⟨_, rfl, .inl rfl⟩
  refine verified.bind fun initial => ?_
  refine submissionArtifact_prepares.bind fun submission => Monitored.assuming fun unsubmitted => ?_
  refine Monitored.bind (prepares_next (fun _ => rfl) fun _ => rfl) fun gpuCount => ?_
  refine Monitored.bind (A := fun _ s => s = some (.preparing initial 1)) ?_ fun tracker => ?_
  · exact (prepares (fun _ => rfl) fun _ => rfl).bind fun started => Monitored.ret fun _ held => held
  · exact Monitored.ret fun _ held => ⟨held, unsubmitted⟩

/-- All checks of a command pass before it is launched. -/
lemma prepareLaunch_prepares :
    Monitored custody Accepted (· = some (.preparing i 1)) (prepareLaunch (F := F) r limits)
      (fun _ s => s = some (.preparing i 4)) (fun _ => Refused) := by
  refine Monitored.bind (prepares (fun _ => rfl) fun _ => rfl) fun _ => ?_
  refine Monitored.bind (prepares (fun _ => rfl) fun _ => rfl) fun _ => ?_
  refine Monitored.bind (prepares_next (fun _ => rfl) fun _ => rfl) fun _ => ?_
  refine Monitored.bind (prepares_next (fun _ => rfl) fun _ => rfl) fun _ => ?_
  exact prepares_next (fun _ => rfl) fun _ => rfl

/-- A success has a certificate, and names the prediction of the certificate; a failure has none. -/
def RunReport.Bears (request : RunRequest) (report : RunReport) : Option CapturedOutputs → Prop
  | some outputs => report.outcome = .success ∧
      (request.commandId ≠ "submission_check" → report.predictionArtifact = outputs.predictionArtifact)
  | none => report.outcome ≠ .success

/-- The result of an execution that still holds its lease. -/
def Concluded (request : RunRequest) (report : RunReport) (s : Option Custody) : Prop :=
  ∃ certificate, s = some (.closing certificate) ∧ report.Bears request certificate

/-- A report of a failure concludes an execution. -/
lemma resultWithoutProcess_concludes {p : Option Custody → Prop} {tracker : ResourceTracker} {outcome : RunOutcome}
    {errorClass summary : String} (reported : ∀ s, p s → ReportsTo F (.closing none) s)
    (unsuccessful : outcome ≠ .success) :
    Monitored custody Accepted p (resultWithoutProcess (F := F) r request tracker outcome errorClass summary)
      (Concluded request) (fun _ => Leaving) :=
  (resultWithoutProcess_failed (.inl rfl) reported unsuccessful).weaken (fun _ held => held)
    (fun _ _ failed => ⟨none, failed⟩) fun _ _ held => ⟨_, held, rfl⟩

lemma refuseLaunch_concludes {tracker : ResourceTracker} {error : ExecutionError} :
    Monitored custody Accepted Refused (refuseLaunch (F := F) r request tracker error) (Concluded request)
      (fun _ => Leaving) := by
  unfold refuseLaunch
  split
  · exact resultWithoutProcess_concludes (fun _ refused => refused.reports) (by decide)
  · exact Monitored.raise fun _ refused => refused.leaving

/-- A process without a collector is ended. -/
lemma abandonProcess_concludes {tracker : ResourceTracker} {error : ExecutionError} :
    Monitored custody Accepted (· = some (.running i wall none)) (abandonProcess (F := F) r request tracker error)
      (Concluded request) (fun _ => Leaving) := by
  have ended : Monitored custody Accepted (· = some (.running i wall none))
      (do let _ ← ask (F := F) .terminateGroup; ask .closeAfterTermination)
      (fun _ s => s = some (.ended i none)) (fun _ s => s = some (.stopping i)) := by
    refine Monitored.bind (A := fun _ s => s = some (.ended i none))
      (ask_moves (fun _ => ⟨_, rfl, rfl⟩) fun _ => ⟨_, rfl, rfl⟩) fun _ => ?_
    exact ask_moves (fun _ => ⟨_, rfl, rfl⟩) fun _ => ⟨_, rfl, rfl⟩
  refine Monitored.catching ended (fun _ => ?_) fun cleanup => ?_
  · exact resultWithoutProcess_concludes (fun _ held => ⟨_, held, fun _ _ => rfl⟩) (by decide)
  · dsimp only
    split
    · exact resultWithoutProcess_concludes (fun _ held => ⟨_, held, fun _ _ => rfl⟩) (by decide)
    · exact Monitored.raise fun _ held => ⟨_, held, rfl⟩

end Launch

/-! ### After the process -/

section After
variable {F : Type} {r : Runner} {request : RunRequest} {limits : ResourceLimits} {i : Option String} {wall : ℚ}

/-- The code of a process against which nothing is held. -/
def Ending.clean (ending : Ending) : Option Int := if ending.termination = none then ending.exitCode else none

lemma clean_of_none {ending : Ending} (none : ending.termination = none) : ending.clean = ending.exitCode := if_pos none

lemma clean_of_some {ending : Ending} (held : ending.termination ≠ none) : ending.clean = none := if_neg held

/-- The process has ended, or its end has failed. -/
def Settled (i : Option String) (ending : Ending) (s : Option Custody) : Prop :=
  s = some (.ended i ending.clean) ∨ s = some (.stopping i) ∧ ending.termination ≠ none

lemma settles_stopping {q : Question} (settles : q.settles = true) :
    Monitored custody Accepted (· = some (.stopping i)) (ask q : Session F _) (fun _ s => s = some (.stopping i))
      (fun _ => Leaving) := by
  have still (answer : Except ExecutionError (q.Reply F)) :
      (Custody.stopping i).step ⟨q, answer⟩ = some (.stopping i) := by
    cases q <;> first | rfl | cases settles
  exact ask_moves (fun a => ⟨_, still (.ok a), rfl⟩) fun error => ⟨_, still (.error error), _, rfl, rfl⟩

lemma endProcess_settles {watched : WatchEnd} :
    Monitored custody Accepted (Runs i wall) (endProcess (F := F) watched) (Settled i) (fun _ => Leaving) := by
  have terminated : Monitored custody Accepted (Runs i wall) (ask (F := F) .terminateGroup)
      (fun _ s => s = some (.ended i none)) (fun _ s => s = some (.stopping i)) :=
    runs_moves (fun _ _ => ⟨_, rfl, rfl⟩) fun _ _ => ⟨_, rfl, rfl⟩
  have stopped : Monitored custody Accepted (Runs i wall) (stopProcess (F := F) watched.termination)
      (fun exitCode s => s = some (.ended i (Ending.clean ⟨some exitCode, watched.termination, watched.telemetryError⟩)))
      (fun _ s => s = some (.stopping i)) := by
    cases termination : watched.termination with
    | none => exact runs_moves (fun _ _ => ⟨_, rfl, rfl⟩) fun _ _ => ⟨_, rfl, rfl⟩
    | some _ =>
      refine terminated.bind fun exitCode => ?_
      refine Monitored.bind (A := fun _ s => s = some (.ended i none))
        (ask_moves (fun _ => ⟨_, rfl, rfl⟩) fun _ => ⟨_, rfl, rfl⟩) fun _ => ?_
      exact Monitored.ret fun _ held => held
  refine Monitored.catching stopped (fun exitCode => ?_) fun error => ?_
  · exact Monitored.ret fun _ held => .inl held
  · dsimp only
    split
    · refine Monitored.bind (settles_stopping rfl) fun exitCode => ?_
      refine Monitored.bind (settles_stopping rfl) fun _ => ?_
      exact Monitored.ret fun _ held => .inr ⟨held, Option.some_ne_none _⟩
    · exact Monitored.raise fun _ held => ⟨_, held, rfl⟩

lemma checkReader_settles {ending : Ending} :
    Monitored custody Accepted (Settled i ending) (checkReader (F := F) ending) (Settled i) (fun _ => Leaving) := by
  -- the reader's error is held against a process only when nothing else is
  have asked : Monitored custody Accepted (Settled i ending) (ask (F := F) .readerError)
      (fun error s => s = some (.ended i (if error = none then ending.clean else none)) ∨
        s = some (.stopping i) ∧ ending.termination ≠ none) (fun _ => Leaving) := by
    refine Monitored.ask (fun s error _ held => ?_) fun s error _ held => ?_
    · rcases held with rfl | ⟨rfl, failed⟩
      · cases error with
        | none => exact ⟨rfl, .inl rfl⟩
        | some name => exact ⟨rfl, .inl rfl⟩
      · exact ⟨rfl, .inr ⟨rfl, failed⟩⟩
    · rcases held with rfl | ⟨rfl, failed⟩
      · exact ⟨rfl, _, rfl, rfl⟩
      · exact ⟨rfl, _, rfl, rfl⟩
  refine asked.bind fun error => ?_
  cases error with
  | none => exact Monitored.ret fun s held => held
  | some name =>
    cases termination : ending.termination with
    | none =>
      refine Monitored.ret fun s held => ?_
      rcases held with held | ⟨_, failed⟩
      · exact .inl held
      · exact absurd rfl failed
    | some _ =>
      refine Monitored.ret fun s held => ?_
      have failed : ending.termination ≠ none := by rw [termination]; exact Option.some_ne_none _
      rcases held with held | ⟨held, _⟩
      · exact .inl (by rw [clean_of_some failed]; exact held)
      · exact .inr ⟨held, failed⟩

/-- The digest that goes into the seal of the outputs. -/
def sealReceipt (carried initial : Option String) : Option String := (receiptSha256 carried).or (receiptSha256 initial)

/-- The seal still holds, or the execution is lost. -/
def Rechecked (i : Option String) (result : Ending × Option (Option String)) (s : Option Custody) : Prop :=
  (∃ carried, result.2 = some carried ∧ s = some (.rechecked (sealReceipt carried i) result.1.clean)) ∨
    result.2 = none ∧ s = some .tampered ∧ result.1.termination ≠ none

lemma recheckSeal_rechecks {ending : Ending} :
    Monitored custody Accepted (Settled i ending) (recheckSeal (F := F) ending) (Rechecked i) (fun _ => Leaving) := by
  have asked : Monitored custody Accepted (Settled i ending) (ask (F := F) .verifySeal)
      (fun carried s => s = some (.rechecked (sealReceipt carried i) ending.clean)) (fun _ s => s = some .tampered) := by
    refine Monitored.ask (fun s carried _ held => ?_) fun s error _ held => ?_
    · rcases held with rfl | ⟨rfl, failed⟩
      · exact ⟨rfl, rfl⟩
      · rw [clean_of_some failed]
        exact ⟨rfl, rfl⟩
    · rcases held with rfl | ⟨rfl, failed⟩
      · exact ⟨rfl, rfl⟩
      · exact ⟨rfl, rfl⟩
  refine Monitored.catching asked (fun carried => ?_) fun error => ?_
  · exact Monitored.ret fun s held => .inl ⟨carried, rfl, held⟩
  · cases error with
    | executionAuthorizationError message =>
      exact Monitored.ret fun s held => .inr ⟨rfl, held, Option.some_ne_none _⟩
    | _ => exact Monitored.raise fun s held => ⟨_, held, rfl⟩

/-- The outputs are captured, or the execution is lost. -/
def Captured (i : Option String) (carried : Option (Option String)) (result : Ending × CapturedOutputs)
    (s : Option Custody) : Prop :=
  (∃ later, carried = some later ∧
    s = some (Custody.withOutputs (sealReceipt later i) result.1.clean result.2)) ∨
    s = some (.closing none) ∧ result.1.termination ≠ none

lemma captureOutputs_captures {ending : Ending} {carried : Option (Option String)} :
    Monitored custody Accepted (Rechecked i (ending, carried)) (captureOutputs (F := F) ending)
      (Captured i carried) (fun _ => Leaving) := by
  have asked : Monitored custody Accepted (Rechecked i (ending, carried)) (ask (F := F) .captureOutputs)
      (fun outputs => Captured i carried (ending, outputs)) (fun _ s => s = some (.closing none)) := by
    refine Monitored.ask (fun s outputs _ held => ?_) fun s error _ held => ?_
    · rcases held with ⟨later, same, rfl⟩ | ⟨_, rfl, failed⟩
      · exact ⟨rfl, .inl ⟨later, same, rfl⟩⟩
      · exact ⟨rfl, .inr ⟨rfl, failed⟩⟩
    · rcases held with ⟨later, same, rfl⟩ | ⟨_, rfl, failed⟩
      · exact ⟨rfl, rfl⟩
      · exact ⟨rfl, rfl⟩
  refine Monitored.catching asked (fun outputs => ?_) fun error => ?_
  · exact Monitored.ret fun s held => held
  · dsimp only
    split
    · exact Monitored.ret fun s held => .inr ⟨held, Option.some_ne_none _⟩
    · rename_i failed
      exact Monitored.ret fun s held => .inr ⟨held, failed⟩

/-- Nothing is held against a process that exited with 0 and left its outputs. -/
def Ending.Certified (ending : Ending) (outputs : CapturedOutputs) : Prop :=
  ending.clean = some 0 ∧ outputs.missingRequiredRoles = []

lemma not_certified {ending : Ending} {outputs : CapturedOutputs} (failed : ending.termination ≠ none) :
    ¬ ending.Certified outputs := by
  rintro ⟨clean, _⟩
  rw [clean_of_some failed] at clean
  cases clean

/-- An execution has a certificate for these outputs if a fact holds, and none otherwise. -/
def Granted (outputs : CapturedOutputs) (fact : Prop) (s : Option Custody) : Prop :=
  s = some (.closing (some outputs)) ∧ fact ∨ s = some (.closing none) ∧ ¬ fact

lemma Granted.leaving {outputs : CapturedOutputs} {fact : Prop} {s : Option Custody} (h : Granted outputs fact s) :
    Leaving s := by
  rcases h with ⟨rfl, _⟩ | ⟨rfl, _⟩
  · exact ⟨_, rfl, rfl⟩
  · exact ⟨_, rfl, rfl⟩

/-- The outputs are sealed when the execution is certified; without a digest they cannot be. -/
def SealedOutputs (outputs : CapturedOutputs) (ending : Ending) (s : Option Custody) : Prop :=
  Granted outputs (ending.Certified outputs) s ∨
    s = some (.unsealed outputs none) ∧ ending.termination ≠ none

lemma unsealed_written {outputs : CapturedOutputs} {predictionArtifact : ArtifactRef} {sha : String} {answer : Unit}
    (captured : outputs.predictionArtifact = some predictionArtifact) :
    (Custody.unsealed outputs (some sha)).step (F := F) ⟨.writeExecutionSeal predictionArtifact sha, .ok answer⟩ =
      some (.closing (some outputs)) := by
  change (if outputs.predictionArtifact = some predictionArtifact ∧ some sha = some sha then _ else _) = _
  rw [if_pos ⟨captured, rfl⟩]

lemma unsealed_failed {outputs : CapturedOutputs} {predictionArtifact : ArtifactRef} {sha : String}
    {error : ExecutionError} (captured : outputs.predictionArtifact = some predictionArtifact) :
    (Custody.unsealed outputs (some sha)).step (F := F) ⟨.writeExecutionSeal predictionArtifact sha, .error error⟩ =
      some (.closing none) := by
  change (if outputs.predictionArtifact = some predictionArtifact ∧ some sha = some sha then _ else _) = _
  rw [if_pos ⟨captured, rfl⟩]

lemma writeSeal_seals {ending : Ending} {outputs : CapturedOutputs} {predictionArtifact : ArtifactRef}
    {receipt : Option String} (certified : ending.Certified outputs)
    (captured : outputs.predictionArtifact = some predictionArtifact) :
    Monitored custody Accepted (· = some (.unsealed outputs receipt))
      (writeSeal (F := F) ending predictionArtifact receipt) (SealedOutputs outputs) (fun _ => Leaving) := by
  cases receipt with
  | none =>
    refine Monitored.catching (A := fun _ _ => False) (R := fun _ s => s = some (.unsealed outputs none))
      (Monitored.raise fun _ held => held) (fun _ => ?_) fun error => ?_
    · exact Monitored.ret fun _ no => no.elim
    · exact Monitored.ret fun _ held => .inr ⟨held, Option.some_ne_none _⟩
  | some sha =>
    have asked : Monitored custody Accepted (· = some (.unsealed outputs (some sha)))
        (ask (F := F) (.writeExecutionSeal predictionArtifact sha)) (fun _ s => s = some (.closing (some outputs)))
        (fun _ s => s = some (.closing none)) :=
      ask_moves (fun _ => ⟨_, unsealed_written captured, rfl⟩) fun _ => ⟨_, unsealed_failed captured, rfl⟩
    refine Monitored.catching asked (fun _ => ?_) fun error => ?_
    · exact Monitored.ret fun _ held => .inl (.inl ⟨held, certified⟩)
    · exact Monitored.ret fun _ held => .inl (.inr ⟨held, not_certified (Option.some_ne_none _)⟩)

/-- The outputs of a certified execution are sealed, and no others. -/
lemma sealOutputs_seals {authorization : Authorization} {carried : Option (Option String)} {ending : Ending}
    {outputs : CapturedOutputs} :
    Monitored custody Accepted (Captured authorization.initialSeal carried (ending, outputs))
      (sealOutputs (F := F) authorization carried ending outputs) (SealedOutputs outputs) (fun _ => Leaving) := by
  -- the outputs are sealed in the first case only, and only with a prediction
  by_cases certified : ending.Certified outputs
  · have quiet : ending.termination = none := by
      by_contra failed
      exact not_certified failed certified
    have exit : ending.exitCode = some 0 := by rw [← clean_of_none quiet]; exact certified.1
    cases carried with
    | none =>
      refine Monitored.pre (Monitored.ret (A := SealedOutputs outputs) (a := ending) (p := fun _ => False)
        fun _ no => no.elim) fun s held => ?_
      rcases held with ⟨_, no, _⟩ | ⟨_, failed⟩
      · cases no
      · exact failed quiet
    | some later =>
      have held {s : Option Custody} (captured : Captured authorization.initialSeal (some later) (ending, outputs) s) :
          s = some (Custody.withOutputs (sealReceipt later authorization.initialSeal) ending.clean outputs) := by
        rcases captured with ⟨_, same, held⟩ | ⟨_, failed⟩
        · cases same
          exact held
        · exact absurd quiet failed
      unfold sealOutputs
      rw [quiet]
      cases prediction : outputs.predictionArtifact with
      | none =>
        refine Monitored.ret fun s captured => .inl (.inl ⟨?_, certified⟩)
        rw [held captured, Custody.withOutputs, if_pos (show _ ∧ _ from certified), prediction]
      | some predictionArtifact =>
        dsimp only
        rw [if_pos ⟨exit, certified.2⟩]
        refine (writeSeal_seals certified prediction).pre fun s captured => ?_
        rw [held captured, Custody.withOutputs, if_pos (show _ ∧ _ from certified), prediction]
        rfl
  · have stays : sealOutputs (F := F) authorization carried ending outputs = pure ending := by
      unfold sealOutputs
      split
      · rename_i quiet _
        refine if_neg fun both => certified ⟨?_, both.2⟩
        rw [clean_of_none quiet]
        exact both.1
      · rfl
    rw [stays]
    refine Monitored.ret fun s captured => .inl (.inr ⟨?_, certified⟩)
    rcases captured with ⟨later, _, held⟩ | ⟨held, _⟩
    · rw [held]
      exact congrArg some (if_neg certified)
    · exact held

lemma recentOutputTail_closes {ending : Ending} {outputs : CapturedOutputs} :
    Monitored custody Accepted (SealedOutputs outputs ending) (ask (F := F) .recentOutputTail)
      (fun _ => Granted outputs (ending.Certified outputs)) (fun _ => Leaving) := by
  refine Monitored.ask (fun s tail _ held => ?_) fun s error _ held => ?_
  · rcases held with (⟨rfl, certified⟩ | ⟨rfl, refused⟩) | ⟨rfl, failed⟩
    · exact ⟨rfl, .inl ⟨rfl, certified⟩⟩
    · exact ⟨rfl, .inr ⟨rfl, refused⟩⟩
    · exact ⟨rfl, .inr ⟨rfl, not_certified failed⟩⟩
  · rcases held with (⟨rfl, _⟩ | ⟨rfl, _⟩) | ⟨rfl, _⟩
    · exact ⟨rfl, _, rfl, rfl⟩
    · exact ⟨rfl, _, rfl, rfl⟩
    · exact ⟨rfl, _, rfl, rfl⟩

/-- An exit is a success when the code is 0, no output is missing and the container agrees. -/
lemma normalizeExit_eq_none {exitCode : Int} {logTail : String} {missingRoles : List String} {state : RuntimeState} :
    r.normalizeExit exitCode logTail missingRoles state = none ↔
      (exitCode = 0 ∧ missingRoles = []) ∧ state.agrees = true := by
  unfold Runner.normalizeExit RuntimeState.agrees
  dsimp only
  by_cases zero : exitCode = 0
  · subst zero
    cases mismatch : state.exitCode.any (· ≠ 0) with
    | true =>
      rw [if_pos rfl]
      exact ⟨fun no => (by cases no), fun h => (by cases h.2)⟩
    | false =>
      rw [if_neg Bool.false_ne_true]
      cases oom : state.oomKilled with
      | true =>
        rw [if_pos rfl]
        exact ⟨fun no => (by cases no), fun h => (by cases h.2)⟩
      | false =>
        rw [if_neg Bool.false_ne_true]
        by_cases missing : missingRoles = []
        · rw [if_neg fun both => both.2 missing, if_pos rfl]
          exact ⟨fun _ => ⟨⟨rfl, missing⟩, rfl⟩, fun _ => rfl⟩
        · rw [if_pos ⟨rfl, missing⟩]
          exact ⟨fun no => (by cases no), fun h => absurd h.1.2 missing⟩
  · refine (iff_false_right fun h => zero h.1.1).mpr ?_
    split_ifs <;> exact not_false

/-- The verdict is a success when the execution is certified. -/
lemma judgeExit_judges {logTail : String} {ending : Ending} {outputs : CapturedOutputs} :
    Monitored custody Accepted (Granted outputs (ending.Certified outputs))
      (judgeExit (F := F) r logTail ending outputs.missingRequiredRoles)
      (fun verdict => Granted outputs (verdict = none)) (fun _ => Leaving) := by
  unfold judgeExit
  cases termination : ending.termination with
  | some failure =>
    have failed : ending.termination ≠ none := by rw [termination]; exact Option.some_ne_none _
    refine Monitored.ret fun s held => ?_
    rcases held with ⟨_, certified⟩ | ⟨held, _⟩
    · exact absurd certified (not_certified failed)
    · exact .inr ⟨held, Option.some_ne_none _⟩
  | none =>
    cases exit : ending.exitCode with
    | none => exact Monitored.raise fun s held => held.leaving
    | some exitCode =>
      -- the state of the container is the last thing that may be held against the execution
      have asked : Monitored custody Accepted (Granted outputs (ending.Certified outputs)) (ask (F := F) .runtimeState)
          (fun state => Granted outputs (ending.Certified outputs ∧ state.agrees = true)) (fun _ => Leaving) := by
        refine Monitored.ask (fun s state _ held => ?_) fun s error _ held => ?_
        · rcases held with ⟨rfl, certified⟩ | ⟨rfl, refused⟩
          · refine ⟨rfl, ?_⟩
            have next : (custody (F := F)).step (some (.closing (some outputs))) ⟨.runtimeState, .ok state⟩ =
                some (.closing ((some outputs).filter fun _ => state.agrees)) := rfl
            rw [next, Option.filter_some]
            cases state.agrees with
            | true => exact .inl ⟨rfl, certified, rfl⟩
            | false => exact .inr ⟨rfl, fun both => by cases both.2⟩
          · exact ⟨rfl, .inr ⟨rfl, fun both => refused both.1⟩⟩
        · rcases held with ⟨rfl, _⟩ | ⟨rfl, _⟩
          · exact ⟨rfl, _, rfl, rfl⟩
          · exact ⟨rfl, _, rfl, rfl⟩
      refine asked.bind fun state => Monitored.ret fun s held => ?_
      have same : r.normalizeExit exitCode logTail outputs.missingRequiredRoles state = none ↔
          ending.Certified outputs ∧ state.agrees = true := by
        rw [normalizeExit_eq_none, Ending.Certified, clean_of_none termination, exit, Option.some.injEq]
      rw [Granted, same]
      exact held

/-- A question of the result; an exception takes the certificate away. -/
lemma granted_ask {outputs : CapturedOutputs} {fact : Prop} {q : Question}
    (step : ∀ certificate answer, (Custody.closing certificate).step (F := F) ⟨q, answer⟩ =
      some (.closing (certificate.filter fun _ => Custody.answered (F := F) ⟨q, answer⟩))) :
    Monitored custody Accepted (Granted outputs fact) (ask q : Session F _) (fun _ => Granted outputs fact)
      (fun _ => Leaving) := by
  refine Monitored.ask (fun s a _ held => ?_) fun s error _ held => ?_
  · have next (certificate : Option CapturedOutputs) :
        (custody (F := F)).step (some (.closing certificate)) ⟨q, .ok a⟩ = some (.closing certificate) := by
      refine (step certificate (.ok a)).trans ?_
      cases certificate <;> rfl
    rcases held with ⟨rfl, holds⟩ | ⟨rfl, fails⟩
    · rw [next]
      exact ⟨rfl, .inl ⟨rfl, holds⟩⟩
    · rw [next]
      exact ⟨rfl, .inr ⟨rfl, fails⟩⟩
  · obtain ⟨certificate, rfl⟩ : ∃ certificate, s = some (.closing certificate) := by
      rcases held with ⟨rfl, _⟩ | ⟨rfl, _⟩
      · exact ⟨_, rfl⟩
      · exact ⟨_, rfl⟩
    have next : (custody (F := F)).step (some (.closing certificate)) ⟨q, .error error⟩ =
        some (.closing (certificate.filter fun _ => false)) := step _ (.error error)
    rw [next]
    exact ⟨rfl, _, rfl, rfl⟩

/-- The outcome of a result is its verdict. -/
lemma outcome_eq_success {verdict : Option Termination} :
    (verdict.map (·.outcome)).getD .success = .success ↔ verdict = none := by
  cases verdict with
  | none => exact ⟨fun _ => rfl, fun _ => rfl⟩
  | some termination => exact ⟨fun success => absurd success termination.failed, fun no => by cases no⟩

/-- The result is a success when the verdict is. -/
lemma report_concludes {authorization : Authorization} {tracker : ResourceTracker} {ending : Ending}
    {outputs : CapturedOutputs} {logTail : String} {verdict : Option Termination}
    (unsubmitted : Unsubmitted request authorization.submission) :
    Monitored custody Accepted (Granted outputs (verdict = none))
      (report (F := F) r request authorization tracker ending outputs logTail verdict) (Concluded request)
      (fun _ => Leaving) := by
  refine Monitored.bind (granted_ask fun _ _ => rfl) fun logArtifact => ?_
  refine Monitored.bind (granted_ask fun _ _ => rfl) fun telemetryArtifact => ?_
  refine Monitored.bind (A := fun _ => Granted outputs (verdict = none))
    (Monitored.bind (granted_ask fun _ _ => rfl) fun now => Monitored.ret fun _ held => held) fun resourceDelta => ?_
  -- the schema may still refuse a success without a prediction, which is then no report
  refine Monitored.ofExcept (fun report s built held => ?_) fun error s _ held => held.leaving
  obtain ⟨outcome, prediction⟩ := buildRunResult_ok built
  have success : report.outcome = .success ↔ verdict = none := by
    rw [outcome]
    exact outcome_eq_success
  rcases held with ⟨held, holds⟩ | ⟨held, fails⟩
  · refine ⟨some outputs, held, success.mpr holds, fun other => ?_⟩
    rw [prediction, unsubmitted other, Option.none_or]
  · exact ⟨none, held, fun yes => fails (success.mp yes)⟩

/-- From the telemetry loop to the result. -/
lemma supervise_concludes {authorization : Authorization} {started : ℚ}
    (unsubmitted : Unsubmitted request authorization.submission) :
    Monitored custody Accepted
      (· = some (.running authorization.initialSeal wall (some { deadline := started + limits.wallTimeSeconds })))
      (supervise (F := F) r request authorization limits started) (Concluded request) (fun _ => Leaving) := by
  refine Monitored.bind (A := fun _ => Runs authorization.initialSeal wall)
    ((watchProcess_paced r.policy.positiveInterval).pre fun _ held => ⟨_, held, rfl, rfl, rfl⟩) fun watched => ?_
  refine Monitored.bind endProcess_settles fun ended => ?_
  refine Monitored.bind checkReader_settles fun read => ?_
  refine Monitored.bind recheckSeal_rechecks fun rechecked => ?_
  refine Monitored.bind captureOutputs_captures fun captured => ?_
  refine Monitored.bind sealOutputs_seals fun ending => ?_
  refine Monitored.bind recentOutputTail_closes fun logTail => ?_
  exact Monitored.bind judgeExit_judges fun verdict => report_concludes unsubmitted

/-- A command is launched after all of its checks. -/
lemma launchProcess_concludes {authorization : Authorization}
    (unsubmitted : Unsubmitted request authorization.submission) :
    Monitored custody Accepted (· = some (.preparing authorization.initialSeal 4))
      (launchProcess (F := F) r request authorization limits) (Concluded request) (fun _ => Leaving) := by
  refine Monitored.bind ((prepares (fun _ => rfl) fun _ => rfl).weaken (fun _ held => held) (fun _ _ held => held)
    fun _ _ => Refused.leaving) fun started => ?_
  have launched : Monitored custody Accepted (· = some (.preparing authorization.initialSeal 4))
      (ask (F := F) (.launch limits)) 
      (fun _ s => s = some (.running authorization.initialSeal limits.wallTimeSeconds none))
      (fun _ s => s = some (.closing none)) :=
    ask_moves (fun _ => ⟨_, rfl, rfl⟩) fun _ => ⟨_, rfl, rfl⟩
  refine Monitored.catching launched (fun _ => ?_) fun error => ?_
  · have collected : Monitored custody Accepted
        (· = some (.running authorization.initialSeal limits.wallTimeSeconds none))
        (ask (F := F) (.startCollector started (started + limits.wallTimeSeconds)))
        (fun _ s => s = some (.running authorization.initialSeal limits.wallTimeSeconds
          (some { deadline := started + limits.wallTimeSeconds })))
        (fun _ s => s = some (.running authorization.initialSeal limits.wallTimeSeconds none)) :=
      ask_moves (fun _ => ⟨_, if_pos rfl, rfl⟩) fun _ => ⟨_, rfl, rfl⟩
    exact Monitored.catching collected (fun _ => supervise_concludes unsubmitted) fun error => abandonProcess_concludes
  · dsimp only
    split
    · exact resultWithoutProcess_concludes (fun _ held => ⟨_, held, fun _ _ => rfl⟩) (by decide)
    · exact Monitored.raise fun _ held => ⟨_, held, rfl⟩

/-- With the lease, an execution reaches a result or is about to give the lease back. -/
lemma runLocked_concludes :
    Monitored custody Accepted (· = some .leased) (runLocked (F := F) r request) (Concluded request)
      (fun _ => Leaving) := by
  have started : Monitored custody Accepted (· = some .leased) (newTracker (F := F) 0) (fun _ s => s = some .leased)
      (fun _ => Leaving) := by
    refine Monitored.bind (A := fun _ s => s = some .leased) ?_ fun now => Monitored.ret fun _ held => held
    exact ask_moves (fun _ => ⟨_, rfl, rfl⟩) fun _ => ⟨_, rfl, _, rfl, rfl⟩
  refine Monitored.bind (A := fun _ s => s = some .leased)
    (Monitored.ofExcept (fun _ _ _ held => held) fun _ _ _ held => ⟨_, held, rfl⟩) fun limits => ?_
  refine started.bind fun tracker => ?_
  refine Monitored.catching authorize_prepares (fun authorization => ?_) fun error => refuseLaunch_concludes
  refine Monitored.assuming fun unsubmitted => ?_
  exact Monitored.catching prepareLaunch_prepares (fun _ => launchProcess_concludes unsubmitted)
    fun error => refuseLaunch_concludes

/-- The lease has been given back. -/
def Released (request : RunRequest) (report : RunReport) (s : Option Custody) : Prop :=
  ∃ certificate, s = some (.released certificate) ∧ report.Bears request certificate

/-- However an execution ends, the lease is given back. -/
lemma runLeased_releases :
    Monitored custody Accepted (· = some .idle) (runLeased (F := F) r request) (Released request)
      (fun _ s => ∃ certificate, s = some (.released certificate)) := by
  have acquired : Monitored custody Accepted (· = some .idle)
      (ask (F := F) (.acquireLease r.policy.worktreeLeaseTimeoutSeconds)) (fun _ s => s = some .leased)
      (fun _ s => ∃ certificate, s = some (.released certificate)) :=
    ask_moves (fun _ => ⟨_, rfl, rfl⟩) fun _ => ⟨_, rfl, _, rfl⟩
  refine acquired.bind fun _ => ?_
  refine Monitored.catching runLocked_concludes (fun report => ?_) fun error => ?_
  · have released : Monitored custody Accepted (Concluded request report) (ask (F := F) .releaseLease)
        (fun _ => Released request report) (fun _ s => ∃ certificate, s = some (.released certificate)) := by
      refine Monitored.ask (fun s answer _ held => ?_) fun s error _ held => ?_
      · obtain ⟨certificate, rfl, bears⟩ := held
        refine ⟨rfl, certificate, ?_, bears⟩
        cases certificate <;> rfl
      · obtain ⟨certificate, rfl, _⟩ := held
        exact ⟨rfl, _, rfl⟩
    exact released.bind fun _ => Monitored.ret fun _ held => held
  · have released : Monitored custody Accepted Leaving (ask (F := F) .releaseLease)
        (fun _ s => ∃ certificate, s = some (.released certificate))
        (fun _ s => ∃ certificate, s = some (.released certificate)) := by
      have release {s : Option Custody} (leaving : Leaving s) (answer : Except ExecutionError Unit) :
          ∃ certificate, (custody (F := F)).step s ⟨.releaseLease, answer⟩ = some (.released certificate) := by
        obtain ⟨c, rfl, leaves⟩ := leaving
        cases c <;> first | exact ⟨_, rfl⟩ | cases leaves
      refine Monitored.ask (fun s a _ held => ?_) fun s error _ held => ?_
      · obtain ⟨certificate, next⟩ := release held (.ok a)
        rw [next]
        exact ⟨rfl, _, rfl⟩
      · obtain ⟨certificate, next⟩ := release held (.error error)
        rw [next]
        exact ⟨rfl, _, rfl⟩
    exact released.bind fun _ => Monitored.raise fun _ held => held

end After

/-! ### Whole runs -/

section Whole
variable {F : Type} {r : Runner} {request : RunRequest}

/-- No lease was taken, or the lease was given back. -/
def AtRest (s : Option Custody) : Prop := s = some .idle ∨ ∃ certificate, s = some (.released certificate)

lemma idle_ask {q : Question} (step : ∀ answer, Custody.idle.step (F := F) ⟨q, answer⟩ = some .idle) :
    Monitored custody Accepted (· = some .idle) (ask q : Session F _) (fun _ s => s = some .idle)
      (fun _ => AtRest) :=
  (keeps_ask step).weaken (fun _ held => held) (fun _ _ held => held) fun _ _ => .inl

lemma runSync_releases :
    Monitored custody Accepted (· = some .idle) (r.runSync request : Session F RunReport) (Released request)
      (fun _ => AtRest) := by
  refine Monitored.bind (A := fun _ s => s = some .idle)
    (Monitored.ofExcept (fun _ _ _ held => held) fun _ _ _ held => .inl held) fun _ => ?_
  refine Monitored.bind (idle_ask fun _ => rfl) fun _ => ?_
  refine Monitored.bind (idle_ask fun _ => rfl) fun _ => ?_
  refine Monitored.bind (A := fun _ s => s = some .idle)
    (Monitored.bind (idle_ask fun _ => rfl) fun now => Monitored.ret fun _ held => held) fun tracker => ?_
  refine Monitored.catching runLeased_releases (fun report => ?_) fun error => ?_
  · exact Monitored.ret fun _ held => held
  · cases error with
    -- the report is written after the lease was given back
    | executionAuthorizationError message =>
      refine (resultWithoutProcess_failed (c := .released none) (.inr rfl) (fun s held => ?_) (by decide)).weaken
        (fun _ held => held) (fun report s held => ?_) fun _ _ held => .inr ⟨_, held⟩
      · obtain ⟨certificate, rfl⟩ := held
        exact ⟨_, rfl, fun _ _ => rfl⟩
      · exact ⟨none, held⟩
    | _ => exact Monitored.raise fun _ held => .inr held

end Whole
end TacoRank.Execution
