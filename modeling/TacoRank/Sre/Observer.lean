import TacoRank.Lib.Result
import TacoRank.Lib.Window
import TacoRank.Memory.Projections
import Mathlib.Data.List.Sort

/-!
# The live observer

`sre/`: the detectors over telemetry, the health policy, and the observer that evaluates it on a bounded window.
The arithmetic of floats is a parameter about which nothing is assumed. `bounded_window_terminates` compares the
observer with the policy on all samples since the execution changed.
-/

namespace TacoRank.Sre
open Lib Lib.Result

/-- The operations on floats in the detectors. -/
class FloatArithmetic (F : Type) where
  ofInt : Int → F
  isFinite : F → Bool
  abs : F → F
  half : F → F
  add : F → F → F
  sub : F → F → F
  mul : F → F → F
  less : F → F → Bool
  atMost : F → F → Bool
  /-- `1e-12`. -/
  baselineFloor : F

open FloatArithmetic

/-- `MonitorAction`. -/
inductive MonitorAction where
  | continue_ | terminate
deriving DecidableEq, Repr

/-- `MonitorDirective`. -/
structure MonitorDirective where
  action : MonitorAction
  reasonCode : Option String
  summary : Option String
  validateTerminationReason : action = .terminate → reasonCode.getD "" ≠ ""
deriving DecidableEq, Repr

/-- `_directive("continue", None, None)`. -/
def MonitorDirective.continue_ : MonitorDirective := ⟨.continue_, none, none, by decide⟩

/-- `_directive("terminate", reason, summary)`. -/
def MonitorDirective.terminate (reason summary : String) (named : reason ≠ "" := by decide) : MonitorDirective :=
  ⟨.terminate, some reason, some summary, fun _ => named⟩

/-- `TelemetrySample`. -/
structure TelemetrySample (F : Type) where
  timestamp : Int
  runId : String
  experimentId : String
  attempt : Int
  elapsedMs : Int
  processAlive : Bool
  lastOutputAgeMs : Int
  cpuPercent : F
  rssMb : Int
  gpuUtilizationPercent : Option F
  gpuMemoryMb : Option Int
  loss : Option F
  gradientNorm : Option F
  diskFreeMb : Int
  recentOutputTail : String

/-- The execution of a sample. -/
def TelemetrySample.identity {F : Type} (sample : TelemetrySample F) : String × String × Int :=
  (sample.runId, sample.experimentId, sample.attempt)

section Policy
variable {F : Type} [FloatArithmetic F]

/-! ### Detectors -/

/-- `first_nonfinite_metric`. -/
def firstNonfiniteMetric (sample : TelemetrySample F) : Option String :=
  if sample.loss.any (!isFinite ·) then some "loss"
  else if sample.gradientNorm.any (!isFinite ·) then some "gradient_norm"
  else none

/-- `statistics.median`. -/
def median (values : List F) : Except PyError F :=
  let data := values.insertionSort fun a b => !less b a
  match data[(data.length - 1) / 2]?, data[data.length / 2]? with
  | some low, some high => .ok (if data.length % 2 = 1 then high else half (add low high))
  | _, _ => .error (.valueError "no median for empty data")

/-- `max(a, b)`. -/
def larger (a b : F) : F := if less a b then b else a

/-- `min(a, b)`. -/
def smaller (a b : F) : F := if less b a then b else a

/-- `history` in `persistent_explosion`: the finite values before the candidates. -/
def history (values : List (Option F)) (persistence : Nat) : List F :=
  ((values.rdrop persistence).filterMap id).filter isFinite

/-- The decision of `persistent_explosion` on the values of a metric. -/
def explosion (values : List (Option F)) (multiplier : F) (baselineSamples persistence : Nat) :
    Except PyError Bool :=
  let candidates := values.rtake persistence
  if values.length < baselineSamples + persistence then .ok false
  else if !candidates.all (·.any isFinite) then .ok false
  else if (history values persistence).length < baselineSamples then .ok false
  else do
    let baseline ← median ((history values persistence).rtake baselineSamples)
    let threshold := mul (larger (abs baseline) baselineFloor) multiplier
    return candidates.all fun value => value.all fun value => less threshold (abs value)

/-- `persistent_explosion`. -/
def persistentExplosion (samples : List (TelemetrySample F)) (metric : TelemetrySample F → Option F)
    (multiplier : F) (baselineSamples persistence : Nat) : Except PyError Bool := do
  ensure (atMost multiplier (ofInt 1) = false) (.valueError "explosion multiplier must be greater than one")
  ensure (¬ (baselineSamples < 1 ∨ persistence < 2))
    (.valueError "baseline_samples must be positive and persistence >= 2")
  explosion (samples.map metric) multiplier baselineSamples persistence

variable (F) in
/-- `HeartbeatPolicy`, with the checks of `__post_init__`. -/
structure HeartbeatPolicy where
  deadlineMs : Int
  minimumStaleSamples : Nat
  cpuIdlePercent : F
  cpuUnchangedDeltaPercent : F
  cpuUnchangedCeilingPercent : F
  gpuExpected : Bool
  gpuIdlePercent : F
  positiveDeadline : 0 < deadlineMs
  twoSamples : 2 ≤ minimumStaleSamples
  nonnegative : ∀ value ∈ [cpuIdlePercent, cpuUnchangedDeltaPercent, cpuUnchangedCeilingPercent, gpuIdlePercent],
    less value (ofInt 0) = false

/-- `likely_hang`. -/
def likelyHang (window : List (TelemetrySample F)) (policy : HeartbeatPolicy F) : Bool :=
  let recent := window.rtake policy.minimumStaleSamples
  if window.length < policy.minimumStaleSamples then false
  else if !recent.all (·.processAlive) then false
  else if !recent.all (fun sample => policy.deadlineMs ≤ sample.lastOutputAgeMs) then false
  else
    match recent.map (·.cpuPercent) with
    -- a policy asks for two samples at least
    | [] => false
    | first :: rest =>
      let highest := rest.foldl larger first
      let lowest := rest.foldl smaller first
      let cpuIdle := (first :: rest).all (atMost · policy.cpuIdlePercent)
      let cpuLowAndUnchanged := atMost highest policy.cpuUnchangedCeilingPercent &&
        atMost (sub highest lowest) policy.cpuUnchangedDeltaPercent
      let gpuValues := recent.map (·.gpuUtilizationPercent)
      if !(cpuIdle || cpuLowAndUnchanged) then false
      else if policy.gpuExpected then
        !gpuValues.any Option.isNone && gpuValues.all (·.all (atMost · policy.gpuIdlePercent))
      else true

/-! ### The policy -/

variable (F) in
/-- `HealthPolicyConfig`, with the checks of `__post_init__`. A pattern is the search for it in an output tail. -/
structure HealthPolicyConfig where
  heartbeat : HeartbeatPolicy F
  cpuMemoryLimitMb : Option F
  gpuMemoryLimitMb : Option F
  diskFreeFloorMb : Option F
  anomalyMultiplier : F
  anomalyBaselineSamples : Nat
  anomalyPersistence : Nat
  oomPatterns : List (String → Bool)
  policyViolationPatterns : List (String → Bool)
  nonnegative : ∀ value ∈ [cpuMemoryLimitMb, gpuMemoryLimitMb, diskFreeFloorMb], value.all (!less · (ofInt 0))
  multiplierAboveOne : atMost anomalyMultiplier (ofInt 1) = false
  baselinePositive : 1 ≤ anomalyBaselineSamples
  persistenceTwo : 2 ≤ anomalyPersistence

/-- The immediate failures in `HealthPolicy.evaluate`. -/
def HealthPolicyConfig.immediate (config : HealthPolicyConfig F) (sample : TelemetrySample F) :
    Option MonitorDirective :=
  if !sample.processAlive then some (.terminate "PROCESS_DIED" "Process exited unexpectedly.")
  else
    match firstNonfiniteMetric sample with
    | some metric => some (.terminate "NUMERICAL_NONFINITE" ("Non-finite " ++ metric ++ " detected."))
    | none =>
      let tail := sample.recentOutputTail
      if config.oomPatterns.any (· tail) then
        some (.terminate "EXPLICIT_OOM" "Explicit out-of-memory failure detected.")
      else if config.diskFreeFloorMb.any (less (ofInt sample.diskFreeMb) ·) then
        some (.terminate "DISK_LOW" "Available disk is below the configured safe floor.")
      else if config.policyViolationPatterns.any (· tail) then
        some (.terminate "EXECUTION_POLICY_VIOLATION" "Execution policy violation reported.")
      else if config.cpuMemoryLimitMb.any (less · (ofInt sample.rssMb)) then
        some (.terminate "CPU_MEMORY_LIMIT" "Process memory exceeds the configured hard limit.")
      else if config.gpuMemoryLimitMb.any fun limit => sample.gpuMemoryMb.any (less limit <| ofInt ·) then
        some (.terminate "GPU_MEMORY_LIMIT" "GPU memory exceeds the configured hard limit.")
      else none

/-- The anomaly detection in `HealthPolicy.evaluate`. -/
def HealthPolicyConfig.anomaly (config : HealthPolicyConfig F) (samples : List (TelemetrySample F)) :
    Except PyError MonitorDirective :=
  (persistentExplosion samples (·.loss) config.anomalyMultiplier config.anomalyBaselineSamples
    config.anomalyPersistence).bind fun exploded =>
  if exploded then .ok (.terminate "LOSS_EXPLOSION" "Persistent loss explosion detected.")
  else
    (persistentExplosion samples (·.gradientNorm) config.anomalyMultiplier config.anomalyBaselineSamples
      config.anomalyPersistence).bind fun exploded =>
    if exploded then .ok (.terminate "GRADIENT_EXPLOSION" "Persistent gradient-norm explosion detected.")
    else .ok .continue_

/-- `HealthPolicy.evaluate`, on the samples of a window. -/
def HealthPolicyConfig.evaluate (config : HealthPolicyConfig F) (samples : List (TelemetrySample F)) :
    Except PyError MonitorDirective :=
  match samples.getLast? with
  | none => .ok .continue_
  | some sample =>
    match config.immediate sample with
    | some directive => .ok directive
    | none =>
      if likelyHang samples config.heartbeat then
        .ok (.terminate "HEARTBEAT_STALE" "Multiple signals indicate stalled progress.")
      else config.anomaly samples

/-! ### The observer -/

variable (F) in
/-- `SREObserver`. -/
structure SREObserver where
  window : Window (TelemetrySample F)
  policy : HealthPolicyConfig F
  executionIdentity : Option (String × String × Int)

/-- `SREObserver.__init__`. -/
def SREObserver.start (capacity : Nat) (positive : 0 < capacity) (policy : HealthPolicyConfig F) : SREObserver F where
  window := .empty capacity positive
  policy
  executionIdentity := none

/-- `SREObserver.observe`: the directive, and the observer afterwards. -/
def SREObserver.observe (observer : SREObserver F) (sample : TelemetrySample F) :
    Except PyError MonitorDirective × SREObserver F :=
  let window := if observer.executionIdentity ≠ some sample.identity then observer.window.clear else observer.window
  let window := window.add sample
  (observer.policy.evaluate window.items, { observer with window, executionIdentity := some sample.identity })

/-- The observer after a stream of samples. -/
def SREObserver.after (observer : SREObserver F) (stream : List (TelemetrySample F)) : SREObserver F :=
  stream.foldl (fun observer sample => (observer.observe sample).2) observer

/-- The samples since the last change of the execution. -/
def currentExecution (stream : List (TelemetrySample F)) : List (TelemetrySample F) :=
  stream.rtakeWhile fun sample => some sample.identity = stream.getLast?.map TelemetrySample.identity

/-! ### Detectors on a suffix -/

lemma median_ok {values : List F} (nonempty : values ≠ []) : ∃ value, median values = .ok value := by
  have length : (values.insertionSort fun a b => !less b a).length = values.length :=
    List.length_insertionSort _ values
  have positive := List.length_pos_of_ne_nil nonempty
  have low : (values.length - 1) / 2 < (values.insertionSort fun a b => !less b a).length := by omega
  have high : values.length / 2 < (values.insertionSort fun a b => !less b a).length := by omega
  unfold median
  dsimp only
  rw [length, List.getElem?_eq_getElem low, List.getElem?_eq_getElem high]
  exact ⟨_, rfl⟩

section Explosion
variable {xs ys : List (Option F)} {multiplier : F} {baselineSamples persistence : Nat}

/-- With a baseline there is a decision. -/
lemma explosion_ok (xs : List (Option F)) (multiplier : F) (persistence : Nat) (positive : 1 ≤ baselineSamples) :
    ∃ exploded, explosion xs multiplier baselineSamples persistence = .ok exploded := by
  unfold explosion
  dsimp only
  split
  · exact ⟨_, rfl⟩
  split
  · exact ⟨_, rfl⟩
  split
  · exact ⟨_, rfl⟩
  next recorded =>
    have nonempty : (history xs persistence).rtake baselineSamples ≠ [] := by
      intro empty
      have length := length_rtake baselineSamples (history xs persistence)
      rw [empty, List.length_nil] at length
      omega
    obtain ⟨baseline, found⟩ := median_ok nonempty
    rw [found, ok_bind]
    exact ⟨_, rfl⟩

/-- A spike needs its candidates and a baseline. -/
lemma explosion_recorded (exploded : explosion xs multiplier baselineSamples persistence = .ok true) :
    baselineSamples + persistence ≤ xs.length ∧ baselineSamples ≤ (history xs persistence).length := by
  unfold explosion at exploded
  dsimp only at exploded
  split at exploded
  · cases exploded
  split at exploded
  · cases exploded
  split at exploded
  · cases exploded
  next short _ recorded => exact ⟨not_lt.mp short, not_lt.mp recorded⟩

/-- A suffix with the candidates and a baseline decides like the whole. -/
lemma explosion_congr (suffix : xs <:+ ys) (long : baselineSamples + persistence ≤ xs.length)
    (recorded : baselineSamples ≤ (history xs persistence).length) :
    explosion xs multiplier baselineSamples persistence = explosion ys multiplier baselineSamples persistence := by
  have shorter := suffix.length_le
  have candidates : xs.rtake persistence = ys.rtake persistence := rtake_eq_of_suffix suffix (by omega)
  have before : xs.rdrop persistence <:+ ys.rdrop persistence := rdrop_suffix suffix (by omega)
  have histories : history xs persistence <:+ history ys persistence := (before.filterMap id).filter isFinite
  have baseline := rtake_eq_of_suffix histories recorded
  have recorded' := recorded.trans histories.length_le
  unfold explosion
  dsimp only
  rw [candidates, if_neg (not_lt.mpr long), if_neg (not_lt.mpr (long.trans shorter)),
    if_neg (not_lt.mpr recorded), if_neg (not_lt.mpr recorded'), baseline]

/-- Of finite values nothing is lost. -/
lemma length_history (finite : ∀ value ∈ xs, ∃ x, value = some x ∧ isFinite x = true) :
    (history xs persistence).length = xs.length - persistence := by
  have kept : ∀ value ∈ xs.rdrop persistence, ∃ x, value = some x ∧ isFinite x = true :=
    fun value mem => finite value (List.mem_of_mem_take mem)
  have length : ∀ values : List (Option F), (∀ value ∈ values, ∃ x, value = some x ∧ isFinite x = true) →
      ((values.filterMap id).filter isFinite).length = values.length := by
    intro values all
    induction values with
    | nil => rfl
    | cons value values ih =>
      obtain ⟨x, rfl, real⟩ := all value List.mem_cons_self
      have rest := ih fun value mem => all value (List.mem_cons_of_mem _ mem)
      have first : (some x :: values).filterMap id = x :: values.filterMap id := rfl
      rw [first, List.filter_cons_of_pos real, List.length_cons, List.length_cons, rest]
  rw [history, length _ kept, List.rdrop, List.length_take]
  omega

end Explosion

/-! ### The policy on a suffix -/

section Suffix
variable {config : HealthPolicyConfig F} {xs ys : List (TelemetrySample F)}

lemma likelyHang_recorded {policy : HeartbeatPolicy F} (hangs : likelyHang xs policy = true) :
    policy.minimumStaleSamples ≤ xs.length := by
  unfold likelyHang at hangs
  dsimp only at hangs
  split at hangs
  · cases hangs
  next short => exact not_lt.mp short

lemma likelyHang_congr {policy : HeartbeatPolicy F} (suffix : xs <:+ ys)
    (long : policy.minimumStaleSamples ≤ xs.length) : likelyHang xs policy = likelyHang ys policy := by
  have recent := rtake_eq_of_suffix suffix long
  unfold likelyHang
  dsimp only
  rw [recent, if_neg (not_lt.mpr long), if_neg (not_lt.mpr (long.trans suffix.length_le))]

/-- A metric explodes under the thresholds of a policy. -/
def Explodes (config : HealthPolicyConfig F) (samples : List (TelemetrySample F))
    (metric : TelemetrySample F → Option F) : Prop :=
  explosion (samples.map metric) config.anomalyMultiplier config.anomalyBaselineSamples config.anomalyPersistence =
    .ok true

/-- The thresholds of a policy pass the checks of the detector. -/
lemma persistentExplosion_config (samples : List (TelemetrySample F)) (metric : TelemetrySample F → Option F) :
    persistentExplosion samples metric config.anomalyMultiplier config.anomalyBaselineSamples
        config.anomalyPersistence =
      explosion (samples.map metric) config.anomalyMultiplier config.anomalyBaselineSamples
        config.anomalyPersistence := by
  have sizes : ¬ (config.anomalyBaselineSamples < 1 ∨ config.anomalyPersistence < 2) := by
    have := config.baselinePositive
    have := config.persistenceTwo
    omega
  rw [persistentExplosion, ensure, if_pos config.multiplierAboveOne, ok_bind, ensure, if_pos sizes, ok_bind]

/-- The anomaly detection terminates a run when the loss or the gradient norm explodes. -/
lemma anomaly_ok (config : HealthPolicyConfig F) (samples : List (TelemetrySample F)) :
    ∃ directive, config.anomaly samples = .ok directive ∧ (directive.action = .terminate ↔
      Explodes config samples (·.loss) ∨ Explodes config samples (·.gradientNorm)) := by
  obtain ⟨loss, lossFound⟩ := explosion_ok (samples.map (·.loss)) config.anomalyMultiplier
    config.anomalyPersistence config.baselinePositive
  obtain ⟨gradient, gradientFound⟩ := explosion_ok (samples.map (·.gradientNorm))
    config.anomalyMultiplier config.anomalyPersistence config.baselinePositive
  unfold HealthPolicyConfig.anomaly Explodes
  rw [persistentExplosion_config, persistentExplosion_config, lossFound, gradientFound]
  cases loss with
  | true => exact ⟨_, rfl, by simp [MonitorDirective.terminate]⟩
  | false =>
    cases gradient with
    | true => exact ⟨_, rfl, by simp [MonitorDirective.terminate]⟩
    | false => exact ⟨_, rfl, by simp [MonitorDirective.continue_]⟩

lemma Explodes.suffix {metric : TelemetrySample F → Option F} (exploded : Explodes config xs metric)
    (suffix : xs <:+ ys) : Explodes config ys metric := by
  obtain ⟨long, recorded⟩ := explosion_recorded exploded
  rw [Explodes, ← explosion_congr (suffix.map metric) long recorded]
  exact exploded

/-- The policy decides about every window. -/
lemma evaluate_ok (config : HealthPolicyConfig F) (samples : List (TelemetrySample F)) :
    ∃ directive, config.evaluate samples = .ok directive := by
  unfold HealthPolicyConfig.evaluate
  split
  · exact ⟨_, rfl⟩
  split
  · exact ⟨_, rfl⟩
  split
  · exact ⟨_, rfl⟩
  obtain ⟨directive, found, _⟩ := anomaly_ok config samples
  exact ⟨directive, found⟩

/-- What terminates on a suffix terminates on the whole. -/
lemma evaluate_terminates {directive : MonitorDirective} (suffix : xs <:+ ys) (nonempty : xs ≠ [])
    (evaluated : config.evaluate xs = .ok directive) (ends : directive.action = .terminate) :
    ∃ directive', config.evaluate ys = .ok directive' ∧ directive'.action = .terminate := by
  unfold HealthPolicyConfig.evaluate at evaluated ⊢
  rw [getLast?_suffix suffix nonempty]
  cases latest : xs.getLast? with
  | none => exact absurd (List.getLast?_eq_none_iff.mp latest) nonempty
  | some sample =>
    simp only [latest] at evaluated ⊢
    cases immediate : config.immediate sample with
    | some failure =>
      simp only [immediate] at evaluated ⊢
      exact ⟨directive, evaluated, ends⟩
    | none =>
      simp only [immediate] at evaluated ⊢
      by_cases hangs : likelyHang ys config.heartbeat = true
      · exact ⟨_, by rw [if_pos hangs], rfl⟩
      · have quiet : ¬ likelyHang xs config.heartbeat = true := by
          intro hung
          rw [likelyHang_congr suffix (likelyHang_recorded hung)] at hung
          exact hangs hung
        rw [if_neg quiet] at evaluated
        rw [if_neg hangs]
        obtain ⟨found, anomaly, explodes⟩ := anomaly_ok config xs
        obtain ⟨directive', anomaly', explodes'⟩ := anomaly_ok config ys
        rw [evaluated] at anomaly
        cases anomaly
        refine ⟨directive', anomaly', explodes'.mpr ?_⟩
        exact (explodes.mp ends).imp (·.suffix suffix) (·.suffix suffix)

/-- The loss and the gradient norm of a sample are there and finite. -/
def FiniteMetrics (sample : TelemetrySample F) : Prop :=
  (∃ x, sample.loss = some x ∧ isFinite x = true) ∧ ∃ x, sample.gradientNorm = some x ∧ isFinite x = true

/-- With room for both detectors, a suffix of finite samples is evaluated like the whole. -/
lemma evaluate_congr (suffix : xs <:+ ys) (nonempty : xs ≠ [])
    (stale : config.heartbeat.minimumStaleSamples ≤ xs.length)
    (room : config.anomalyBaselineSamples + config.anomalyPersistence ≤ xs.length)
    (finite : ∀ sample ∈ xs, FiniteMetrics sample) : config.evaluate xs = config.evaluate ys := by
  have detects (metric : TelemetrySample F → Option F)
      (emitted : ∀ sample ∈ xs, ∃ x, metric sample = some x ∧ isFinite x = true) :
      persistentExplosion xs metric config.anomalyMultiplier config.anomalyBaselineSamples
          config.anomalyPersistence =
        persistentExplosion ys metric config.anomalyMultiplier config.anomalyBaselineSamples
          config.anomalyPersistence := by
    have finite : ∀ value ∈ xs.map metric, ∃ x, value = some x ∧ isFinite x = true := by
      intro value mem
      obtain ⟨sample, member, rfl⟩ := List.mem_map.mp mem
      exact emitted sample member
    rw [persistentExplosion_config, persistentExplosion_config]
    refine explosion_congr (suffix.map metric) (by rwa [List.length_map]) ?_
    rw [length_history finite, List.length_map]
    omega
  unfold HealthPolicyConfig.evaluate HealthPolicyConfig.anomaly
  rw [getLast?_suffix suffix nonempty, likelyHang_congr suffix stale,
    detects (·.loss) fun sample mem => (finite sample mem).1,
    detects (·.gradientNorm) fun sample mem => (finite sample mem).2]

end Suffix

/-! ### Runs of the observer -/

omit [FloatArithmetic F] in
/-- A sample continues the execution, or starts another one. -/
lemma currentExecution_snoc (stream : List (TelemetrySample F)) (sample : TelemetrySample F) :
    currentExecution (stream ++ [sample]) =
      if stream.getLast?.map TelemetrySample.identity = some sample.identity then currentExecution stream ++ [sample]
      else [sample] := by
  have latest : (stream ++ [sample]).getLast? = some sample := List.getLast?_concat
  unfold currentExecution
  rw [latest, List.rtakeWhile_concat_pos _ _ _ (by simp)]
  split
  next same => rw [same, Option.map_some]
  next changed =>
    have none : stream.rtakeWhile (fun item => some item.identity = some sample.identity) = [] := by
      refine List.rtakeWhile_eq_nil_iff.mpr fun nonempty same => changed ?_
      rw [List.getLast?_eq_some_getLast nonempty, Option.map_some]
      simpa using same
    rw [Option.map_some, none, List.nil_append]

omit [FloatArithmetic F] in
lemma currentExecution_ne_nil (stream : List (TelemetrySample F)) (sample : TelemetrySample F) :
    currentExecution (stream ++ [sample]) ≠ [] := by
  rw [currentExecution_snoc]
  split <;> simp

/-- The observer's window holds the last samples of the current execution. -/
structure Tracks (observer : SREObserver F) (config : HealthPolicyConfig F) (capacity : Nat)
    (stream : List (TelemetrySample F)) : Prop where
  policy : observer.policy = config
  room : observer.window.capacity = capacity
  identity : observer.executionIdentity = stream.getLast?.map TelemetrySample.identity
  items : observer.window.items = (currentExecution stream).rtake capacity

variable {config : HealthPolicyConfig F} {capacity : Nat}

/-- One sample. -/
lemma Tracks.observe {observer : SREObserver F} {stream : List (TelemetrySample F)}
    (h : Tracks observer config capacity stream) (sample : TelemetrySample F) :
    Tracks (observer.observe sample).2 config capacity (stream ++ [sample]) := by
  obtain ⟨rfl, rfl, identity, items⟩ := h
  refine ⟨rfl, ?_, ?_, ?_⟩
  · simp only [SREObserver.observe, Window.capacity_add]
    split <;> rfl
  · rw [List.getLast?_concat]
    rfl
  · rw [currentExecution_snoc]
    simp only [SREObserver.observe, identity]
    by_cases same : stream.getLast?.map TelemetrySample.identity = some sample.identity
    · rw [if_pos same, if_neg (not_not.mpr same)]
      exact Window.items_add items sample
    · rw [if_neg same, if_pos same, Window.items_clear_add]
      exact (rtake_of_length_le observer.window.positive).symm

/-- A stream of samples. -/
lemma Tracks.after (config : HealthPolicyConfig F) (positive : 0 < capacity) (stream : List (TelemetrySample F)) :
    Tracks ((SREObserver.start capacity positive config).after stream) config capacity stream := by
  induction stream using List.reverseRecOn with
  | nil =>
    refine ⟨rfl, rfl, rfl, ?_⟩
    rw [currentExecution, List.rtakeWhile_nil, List.rtake_nil]
    rfl
  | append_singleton stream sample ih =>
    rw [SREObserver.after, List.foldl_append]
    exact ih.observe sample

/-- The observer evaluates the last samples of the current execution. -/
lemma observe_eq (positive : 0 < capacity) (stream : List (TelemetrySample F)) (sample : TelemetrySample F) :
    (((SREObserver.start capacity positive config).after stream).observe sample).1 =
      config.evaluate ((currentExecution (stream ++ [sample])).rtake capacity) := by
  have before := Tracks.after config positive stream
  have decides (observer : SREObserver F) :
      (observer.observe sample).1 = observer.policy.evaluate (observer.observe sample).2.window.items := rfl
  rw [decides, before.policy, (before.observe sample).items]

/-- The observer always decides. What it terminates, the policy terminates on all samples since the execution
changed; and when the window has room for both detectors and all losses and gradient norms are finite, the two
directives are equal. -/
theorem bounded_window_terminates (config : HealthPolicyConfig F) {capacity : Nat} (positive : 0 < capacity)
    (stream : List (TelemetrySample F)) (sample : TelemetrySample F) :
    (∃ directive, (((SREObserver.start capacity positive config).after stream).observe sample).1 = .ok directive ∧
      (directive.action = .terminate → ∃ directive',
        config.evaluate (currentExecution (stream ++ [sample])) = .ok directive' ∧
          directive'.action = .terminate)) ∧
    (config.heartbeat.minimumStaleSamples ≤ capacity →
      config.anomalyBaselineSamples + config.anomalyPersistence ≤ capacity →
      (∀ item ∈ stream ++ [sample], FiniteMetrics item) →
      (((SREObserver.start capacity positive config).after stream).observe sample).1 =
        config.evaluate (currentExecution (stream ++ [sample]))) := by
  rw [observe_eq positive]
  have window : (currentExecution (stream ++ [sample])).rtake capacity <:+ currentExecution (stream ++ [sample]) :=
    rtake_suffix _ _
  have length := length_rtake capacity (currentExecution (stream ++ [sample]))
  have nonempty : (currentExecution (stream ++ [sample])).rtake capacity ≠ [] := by
    intro empty
    have current := List.length_pos_of_ne_nil (currentExecution_ne_nil stream sample)
    rw [empty, List.length_nil] at length
    omega
  constructor
  · obtain ⟨directive, evaluated⟩ := evaluate_ok config
      ((currentExecution (stream ++ [sample])).rtake capacity)
    exact ⟨directive, evaluated, evaluate_terminates window nonempty evaluated⟩
  · intro stale room finite
    by_cases full : capacity ≤ (currentExecution (stream ++ [sample])).length
    · refine evaluate_congr window nonempty (by omega) (by omega) fun item mem => finite item ?_
      exact (List.rtakeWhile_suffix _ _).mem (window.mem mem)
    · rw [rtake_of_length_le (by omega)]

end Policy

/-- Exact arithmetic. -/
instance : FloatArithmetic ℚ where
  ofInt n := n
  isFinite _ := true
  abs x := |x|
  half x := x / 2
  add := (· + ·)
  sub := (· - ·)
  mul := (· * ·)
  less x y := x < y
  atMost x y := x ≤ y
  baselineFloor := 1 / 10 ^ 12

/-- The default thresholds, but for a baseline of three samples. -/
def threeSamples : HealthPolicyConfig ℚ where
  heartbeat :=
    { deadlineMs := 60000, minimumStaleSamples := 2, cpuIdlePercent := 5, cpuUnchangedDeltaPercent := 1 / 2
      cpuUnchangedCeilingPercent := 10, gpuExpected := false, gpuIdlePercent := 5
      positiveDeadline := by decide, twoSamples := by decide, nonnegative := by decide +kernel }
  cpuMemoryLimitMb := none
  gpuMemoryLimitMb := none
  diskFreeFloorMb := none
  anomalyMultiplier := 5
  anomalyBaselineSamples := 3
  anomalyPersistence := 2
  oomPatterns := []
  policyViolationPatterns := []
  nonnegative := by decide +kernel
  multiplierAboveOne := by decide +kernel
  baselinePositive := by decide
  persistenceTwo := by decide

/-- A healthy sample with a loss. -/
def lossSample (loss : ℚ) : TelemetrySample ℚ where
  timestamp := 0
  runId := "run-1"
  experimentId := "exp-1"
  attempt := 1
  elapsedMs := 2000
  processAlive := true
  lastOutputAgeMs := 500
  cpuPercent := 40
  rssMb := 256
  gpuUtilizationPercent := none
  gpuMemoryMb := none
  loss := some loss
  gradientNorm := none
  diskFreeMb := 10000
  recentOutputTail := ""

/-- A spike that persists is an explosion, for a window of five samples and for all samples. -/
theorem bounded_window_terminates_spike : ∃ directive,
    threeSamples.evaluate (currentExecution ([1, 2, 1, 1, 7].map lossSample ++ [lossSample 8])) = .ok directive ∧
      directive.action = .terminate := by
  obtain ⟨⟨directive, observed, whole⟩, _⟩ := bounded_window_terminates threeSamples (Nat.succ_pos 4)
    ([1, 2, 1, 1, 7].map lossSample) (lossSample 8)
  have explodes : (((SREObserver.start 5 (Nat.succ_pos 4) threeSamples).after
      ([1, 2, 1, 1, 7].map lossSample)).observe (lossSample 8)).1.map MonitorDirective.action = .ok .terminate := by decide +kernel
  rw [observed] at explodes
  exact whole (Except.ok.inj explodes)

end TacoRank.Sre
