import TacoRank.Evaluation.Slices
import TacoRank.Evaluation.TieLoops

/-!
# Diagnostics of an evaluation

Port of `evaluation/diagnostics.py`, with `gain_concentration` and the buckets of rows of
`evaluation/slices.py`: the deltas of a candidate to its parent on slices of the population, how much of
the movement a few users carry, the slope over the days, and the hypotheses that these suggest.
-/

namespace TacoRank.Evaluation
open Lib Lib.Result

/-- `DiagnosticFeatures`; its counts are not negative. -/
structure DiagnosticFeatures (R : Type) [Zero R] [LE R] where
  dates : List Int
  durationMs : List R
  itemPopularity : List Nat
  userHistoryCount : List Nat
  validationArms : List String
  aligned : durationMs.length = dates.length ∧ itemPopularity.length = dates.length ∧
    userHistoryCount.length = dates.length ∧ validationArms.length = dates.length
  nonempty : dates ≠ []
  arms : ∀ arm ∈ validationArms, arm = "val_a" ∨ arm = "val_b"
  durations : ∀ value ∈ durationMs, 0 ≤ value

/-- `EvaluationDiagnostics`. -/
structure EvaluationDiagnostics (R : Type) where
  trainValidationGap : Option R := none
  proxyParentDelta : Option R := none
  proxyFullDeltaGap : Option R := none
  validationArmDeltas : List (String × R) := []
  validationArmGap : Option R := none
  temporalDeltaSlope : Option R := none
  gainConcentrationTop10pct : Option R := none
  sliceDeltas : List (String × R) := []
  bestSlice : Option String := none
  worstSlice : Option String := none
  failureHypotheses : List String := []
  limitations : List String := []

section Diagnostics
variable {R : Type} [Field R] [LinearOrder R]

/-! ### Parts -/

/-- `gain_concentration` of a tenth of the users. -/
def gainConcentration (deltaValues : List R) : Except EvaluationError R :=
  if deltaValues = [] then .error (.valueError "invalid delta vector or concentration fraction")
  else
    let magnitudes := (deltaValues.map abs).insertionSort (· ≥ ·)
    let total := magnitudes.sum
    if total = 0 then .ok 0
    else .ok ((magnitudes.take (max 1 ((magnitudes.length + 9) / 10))).sum / total)

/-- `duration_threshold_bucket`. -/
def durationThresholdBucket (durationMs : R) : String :=
  if durationMs < (7000 : Nat) then "short_lt7s"
  else if ((18000 : Nat) : R) ≤ ((97 : Nat) : R) / (100 : Nat) * durationMs then "flat_18s"
  else "mid"

/-- `popularity_bucket`. -/
def popularityBucket (popularity coldMax warmMax : Nat) : Except EvaluationError String := do
  ensure (coldMax ≤ warmMax) (.valueError "cold_max must not exceed warm_max")
  return if popularity ≤ coldMax then "cold" else if popularity ≤ warmMax then "warm" else "hot"

/-- `_count_bucket`. -/
def countBucket (value low high : Nat) : String :=
  if value ≤ low then "cold" else if value ≤ high then "warm" else "hot"

/-- `_tertile_thresholds`. -/
def tertileThresholds (values : List Nat) : Except EvaluationError (Nat × Nat) := do
  ensure (values ≠ []) (.valueError "diagnostic thresholds require values")
  let ordered := values.insertionSort (· ≤ ·)
  return (ordered.getD ((ordered.length - 1) / 3) 0, ordered.getD (2 * (ordered.length - 1) / 3) 0)

/-- `_constant_user_values`. -/
def constantUserValues (userIds : List String) (values : List Nat) (label : String) :
    Except EvaluationError (Dict String Nat) :=
  (userIds.zip values).foldlM (fun result (userId, value) => do
    ensure (∀ other ∈ result.get? userId, other = value)
      (.valueError ("diagnostic " ++ label ++ " must be constant within user"))
    return result.set userId value) Dict.empty

/-- `_linear_slope`. -/
def linearSlope (values : List R) : R :=
  if values.length < 2 then 0
  else
    let xMean : R := (values.length - 1) / (2 : Nat)
    let yMean := Statistics.mean values
    let denominator := ((List.range values.length).map fun index => ((index : R) - xMean) ^ 2).sum
    if denominator = 0 then 0
    else (values.zipIdx.map fun (value, index) => ((index : R) - xMean) * (value - yMean)).sum / denominator

/-- The differences on the names that both mappings have, in the order of the names. -/
def sharedDeltas (label : String) (candidate parent : List (String × R)) : List (String × R) :=
  let names := ((candidate.map Prod.fst).filter (· ∈ parent.map Prod.fst)).insertionSort (· ≤ ·)
  names.map fun name =>
    (label ++ "." ++ name, (candidate.lookup name).getD 0 - (parent.lookup name).getD 0)

/-- The items whose key is the given one. -/
def chosen {κ α : Type} [DecidableEq κ] (keys : List κ) (key : κ) (items : List α) : List α :=
  ((keys.zip items).filter fun p => p.1 = key).map Prod.snd

variable (discount : Nat → R) (userIds : List String) (labels : List Int)
  (candidateScores parentScores : List R)

/-- `_user_slice_deltas`. -/
def userSliceDeltas (bucket : UserMetric R → String) (label : String) :
    Except EvaluationError (List (String × R)) := do
  let primaries := fun metrics : List (UserMetric R) =>
    (sliceUsers metrics bucket).map fun slice => (slice.name, slice.primary)
  let candidate ← userMetrics discount userIds labels candidateScores 5
  let parent ← userMetrics discount userIds labels parentScores 5
  return sharedDeltas label (primaries candidate) (primaries parent)

/-- `_rank_deltas`. -/
def rankDeltas (bucketValues : List String) (label : String) : Except EvaluationError (List (String × R)) := do
  let ranks := fun diagnostics : List (Indexed.RankDiagnostic R) =>
    diagnostics.map fun diagnostic => (diagnostic.name, diagnostic.meanNormalizedRank)
  let candidate ← Indexed.positiveRankDiagnostics userIds labels candidateScores bucketValues
  let parent ← Indexed.positiveRankDiagnostics userIds labels parentScores bucketValues
  return sharedDeltas label (ranks candidate) (ranks parent)

/-- `_primary_delta` of the rows with one key. -/
def primaryDelta {κ : Type} [DecidableEq κ] (keys : List κ) (key : κ) : Except EvaluationError R := do
  let primary := fun metrics : List (String × R) => (metrics.lookup "primary").getD 0
  let candidate ← evaluateIndependent discount (chosen keys key userIds) (chosen keys key labels)
    (chosen keys key candidateScores) 5
  let parent ← evaluateIndependent discount (chosen keys key userIds) (chosen keys key labels)
    (chosen keys key parentScores) 5
  return primary candidate - primary parent

/-- `_validation_arm_deltas`. -/
def validationArmDeltas (arms : List String) : Except EvaluationError (List (String × R)) := do
  let result ← (["val_a", "val_b"].filter (· ∈ arms)).mapM fun arm => do
    return (arm, ← primaryDelta discount userIds labels candidateScores parentScores arms arm)
  return if result.map Prod.fst = ["val_a", "val_b"] then result else []

/-- `_temporal_deltas`. -/
def temporalDeltas (dates : List Int) : Except EvaluationError (List (String × R)) :=
  (dates.dedup.insertionSort (· ≤ ·)).mapM fun date => do
    return (toString date, ← primaryDelta discount userIds labels candidateScores parentScores dates date)

/-- `slices.update(entries)`. -/
def updateSlices (slices : Dict String R) (entries : List (String × R)) : Dict String R :=
  entries.foldl (fun slices entry => slices.set entry.1 entry.2) slices

/-- The deltas that the features of the rows allow. -/
structure FeatureDeltas (R : Type) where
  armDeltas : List (String × R) := []
  temporalSlope : Option R := none
  slices : Dict String R

/-- The part of `compute_evaluation_diagnostics` on features. -/
def featureDeltas (slices : Dict String R) (features : DiagnosticFeatures R) :
    Except EvaluationError (FeatureDeltas R) := do
  let armDeltas ← validationArmDeltas discount userIds labels candidateScores parentScores
    features.validationArms
  let slices := updateSlices slices (armDeltas.map fun (name, value) => ("validation_arm." ++ name, value))
  let temporalDeltas ← temporalDeltas discount userIds labels candidateScores parentScores features.dates
  let slices := updateSlices slices (temporalDeltas.map fun (date, value) => ("temporal." ++ date, value))
  let temporalSlope := linearSlope ((temporalDeltas.insertionSort fun a b => a.1 ≤ b.1).map Prod.snd)
  let history ← constantUserValues userIds features.userHistoryCount "history count"
  let (historyLow, historyHigh) ← tertileThresholds history.values
  let slices := updateSlices slices (← userSliceDeltas discount userIds labels candidateScores parentScores
    (fun metric => countBucket ((history.get? metric.userId).getD 0) historyLow historyHigh) "user_history")
  let slices := updateSlices slices (← rankDeltas userIds labels candidateScores parentScores
    (features.durationMs.map durationThresholdBucket) "duration_rank")
  let (popularityLow, popularityHigh) ← tertileThresholds features.itemPopularity
  let popularityBuckets ← features.itemPopularity.mapM fun value =>
    popularityBucket value popularityLow popularityHigh
  let slices := updateSlices slices (← rankDeltas userIds labels candidateScores parentScores
    popularityBuckets "popularity_rank")
  return { armDeltas, temporalSlope := some temporalSlope, slices }

/-! ### Hypotheses -/

/-- The thresholds of the hypotheses. -/
structure DiagnosticThresholds (R : Type) where
  validationGap : R
  temporalSlope : R
  concentration : R

/-- `_failure_hypotheses`. -/
def failureHypotheses (parentDelta : MetricDelta R) (diagnostics : EvaluationDiagnostics R)
    (concentration : R) (thresholds : DiagnosticThresholds R) : List String :=
  let regressed := ((parentDelta.metrics.filter fun m => m.2 < 0).map Prod.fst).insertionSort (· ≤ ·)
  let differs := fun gap : Option R => gap.any fun gap => thresholds.validationGap ≤ gap
  (if parentDelta.primary < 0 then
    ["Broad regression: the aggregate primary score is below the declared parent."] else []) ++
  (if regressed ≠ [] then
    ["Metric weakness: " ++ ", ".intercalate regressed ++ " regressed versus the parent."] else []) ++
  (match diagnostics.proxyParentDelta with
    | none => []
    | some proxy =>
      if proxy * parentDelta.primary < 0 then
        ["Generalization mismatch: proxy and full parent deltas have opposite signs."]
      else if differs diagnostics.proxyFullDeltaGap then
        ["Generalization uncertainty: proxy and full effect sizes differ materially."]
      else []) ++
  (match diagnostics.validationArmDeltas.lookup "val_a", diagnostics.validationArmDeltas.lookup "val_b" with
    | some a, some b =>
      if a * b < 0 then
        ["Validation-arm sensitivity: Val-A and Val-B parent deltas have opposite signs."]
      else if differs diagnostics.validationArmGap then
        ["Validation-arm sensitivity: Val-A and Val-B effect sizes differ materially."]
      else []
    | _, _ => []) ++
  (if diagnostics.temporalDeltaSlope.any fun slope => slope < -thresholds.temporalSlope then
    ["Temporal degradation: candidate-parent performance declines on later dates."] else []) ++
  (if thresholds.concentration ≤ concentration then
    ["Concentrated movement: a small user cohort carries most score movement."] else []) ++
  (match diagnostics.worstSlice with
    | none => []
    | some worst =>
      if (diagnostics.sliceDeltas.lookup worst).getD 0 < 0 then
        ["Cohort weakness: the largest measured slice regression is " ++ worst ++ "."] else [])

/-- The limitations that `compute_evaluation_diagnostics` states. -/
def diagnosticLimitations (trainValidationGap : Option R) : List String :=
  (if trainValidationGap = none then
    ["Direct train/validation gap unavailable: contract v1 emits no protected train predictions."] else []) ++
  ["Associational diagnostics do not prove causality; confirm hypotheses with a controlled ablation."]

/-! ### The diagnostics -/

/-- An error of `delta_vector`. -/
def DeltaError.toEvaluation : DeltaError → EvaluationError
  | .evaluation error => error
  | .keyError userId => .integrityError ("KeyError: " ++ userId)
  | .assertionError => .integrityError "AssertionError"

/-- The name of an extreme slice; equal deltas are told apart by their names. -/
def extremeSlice (select : List (Lex (R × String)) → Option (Lex (R × String))) (slices : Dict String R) :
    Option String :=
  (select (slices.entries.map fun (name, value) => toLex (value, name))).map fun found => (ofLex found).2

/-- `arm_gap`. -/
def validationArmGap (armDeltas : List (String × R)) : Option R := do
  let a ← armDeltas.lookup "val_a"
  let b ← armDeltas.lookup "val_b"
  return |a - b|

/-- The diagnostics before their hypotheses. -/
def summarizeDeltas (parentDelta : MetricDelta R) (proxyParentDelta trainValidationGap : Option R)
    (concentration : R) (deltas : FeatureDeltas R) : EvaluationDiagnostics R :=
  { trainValidationGap
    proxyParentDelta
    proxyFullDeltaGap := proxyParentDelta.map fun proxy => |proxy - parentDelta.primary|
    validationArmDeltas := deltas.armDeltas
    validationArmGap := validationArmGap deltas.armDeltas
    temporalDeltaSlope := deltas.temporalSlope
    gainConcentrationTop10pct := some concentration
    sliceDeltas := deltas.slices.entries.insertionSort fun a b => a.1 ≤ b.1
    bestSlice := extremeSlice List.max? deltas.slices
    worstSlice := extremeSlice List.min? deltas.slices
    limitations := diagnosticLimitations trainValidationGap }

/-- `compute_evaluation_diagnostics`. -/
def computeEvaluationDiagnostics (parentDelta : MetricDelta R) (features : Option (DiagnosticFeatures R))
    (proxyParentDelta trainValidationGap : Option R) (thresholds : DiagnosticThresholds R) :
    Except EvaluationError (EvaluationDiagnostics R) := do
  ensure (0 ≤ thresholds.validationGap ∧ 0 ≤ thresholds.temporalSlope)
    (.valueError "diagnostic thresholds must be non-negative")
  ensure (0 ≤ thresholds.concentration ∧ thresholds.concentration ≤ 1)
    (.valueError "concentration threshold must be between zero and one")
  ensure ((labels.length = userIds.length ∧ candidateScores.length = userIds.length ∧
      parentScores.length = userIds.length) ∧ userIds ≠ [])
    (.valueError "diagnostic predictions and labels must align and be non-empty")
  ensure (∀ given ∈ features, given.dates.length = userIds.length)
    (.valueError "diagnostic features do not match the evaluation population")
  let (_, contributionDeltas) ←
    (deltaVector discount userIds labels candidateScores parentScores 5).mapError DeltaError.toEvaluation
  let concentration ← gainConcentration contributionDeltas
  let slices := updateSlices .empty
    (← userSliceDeltas discount userIds labels candidateScores parentScores impressionBucket "user_impressions")
  let slices := updateSlices slices
    (← userSliceDeltas discount userIds labels candidateScores parentScores positiveBucket "user_positives")
  let deltas ← features.elim (pure { slices })
    (featureDeltas discount userIds labels candidateScores parentScores slices)
  let diagnostics := summarizeDeltas parentDelta proxyParentDelta trainValidationGap concentration deltas
  return { diagnostics with
    failureHypotheses := failureHypotheses parentDelta diagnostics concentration thresholds }

end Diagnostics
/-! ### The validators -/

/-- `name.strip()` is not empty. -/
def NotBlank (name : String) : Prop := stripChars isPythonSpace name.toList ≠ []

instance (name : String) : Decidable (NotBlank name) := inferInstanceAs (Decidable (_ ≠ _))

/-- The texts of a list of flags. -/
structure FlagsValid (flags : List String) : Prop where
  nonempty : ∀ flag ∈ flags, NonEmpty flag
  unique : (flags.map strip).Nodup

/-- A mapping as the schema stores it. -/
def storedNames {R : Type} (values : List (String × R)) : List (String × R) :=
  values.map fun m => (strip m.1, m.2)

/-- The numbers of `EvaluationDiagnostics`. -/
def EvaluationDiagnostics.numbers {R : Type} (diagnostics : EvaluationDiagnostics R) : List R :=
  [diagnostics.trainValidationGap, diagnostics.proxyParentDelta, diagnostics.proxyFullDeltaGap,
    diagnostics.validationArmGap, diagnostics.temporalDeltaSlope,
    diagnostics.gainConcentrationTop10pct].reduceOption ++
  diagnostics.validationArmDeltas.map Prod.snd ++ diagnostics.sliceDeltas.map Prod.snd

section Validators
variable {R : Type} [Field R] [LinearOrder R]

/-- The validators on the deltas of the validation arms and their gap. -/
structure ArmsValid (deltas : List (String × R)) (gap : Option R) : Prop where
  nonneg : ∀ given ∈ gap, 0 ≤ given
  notBlank : ∀ m ∈ storedNames deltas, NotBlank m.1
  both : deltas ≠ [] → ∀ name : String,
    name ∈ (storedNames deltas).map Prod.fst ↔ name ∈ ["val_a", "val_b"]
  together : deltas ≠ [] ↔ gap.isSome = true
  matching : ∀ given ∈ gap, ∀ a ∈ (storedNames deltas).lookup "val_a",
    ∀ b ∈ (storedNames deltas).lookup "val_b", |(|a - b| - given)| ≤ 1 / (10 ^ 12 : Nat)

/-- The validators of `EvaluationDiagnostics`, but for the finiteness of its numbers. -/
structure DiagnosticsValid (diagnostics : EvaluationDiagnostics R) : Prop where
  proxyFullDeltaGap : ∀ gap ∈ diagnostics.proxyFullDeltaGap, 0 ≤ gap
  arms : ArmsValid diagnostics.validationArmDeltas diagnostics.validationArmGap
  gainConcentration : ∀ share ∈ diagnostics.gainConcentrationTop10pct, 0 ≤ share ∧ share ≤ 1
  sliceNames : ∀ m ∈ storedNames diagnostics.sliceDeltas, NotBlank m.1
  failureHypotheses : FlagsValid diagnostics.failureHypotheses
  limitations : FlagsValid diagnostics.limitations
  proxies : diagnostics.proxyParentDelta.isSome = diagnostics.proxyFullDeltaGap.isSome
  bestSlice : ∀ name ∈ diagnostics.bestSlice,
    strip name ∈ (storedNames diagnostics.sliceDeltas).map Prod.fst
  worstSlice : ∀ name ∈ diagnostics.worstSlice,
    strip name ∈ (storedNames diagnostics.sliceDeltas).map Prod.fst

end Validators
/-! ### Names of slices -/

/-- What the names of slices start with. -/
def sliceLabels : List String :=
  ["user_impressions.", "user_positives.", "validation_arm.", "temporal.", "user_history.",
    "duration_rank.", "popularity_rank."]

/-- The name of a slice starts with what it is a slice of. -/
def SliceName (name : String) : Prop := ∃ label ∈ sliceLabels, ∃ rest, name = label ++ rest

lemma SliceName.notBlank {name : String} (named : SliceName name) : NotBlank (strip name) := by
  obtain ⟨label, listed, rest, rfl⟩ := named
  have visible : ∀ label ∈ sliceLabels, label.toList.any (fun c => !isPythonSpace c) = true := by
    decide +kernel
  obtain ⟨c, mem, shown⟩ := List.any_eq_true.mp (visible label listed)
  rw [Bool.not_eq_true'] at shown
  have kept : c ∈ (strip (label ++ rest)).toList := by
    rw [strip, String.toList_ofList]
    apply mem_stripChars
    · rw [String.toList_append]
      exact List.mem_append_left _ mem
    · exact (Bool.or_eq_false_iff.mp shown).1
  intro blank
  rw [stripChars_eq_nil] at blank
  rw [blank c kept] at shown
  cases shown

/-- The names of a mapping of slices. -/
def Named {R : Type} (slices : List (String × R)) : Prop := ∀ m ∈ slices, SliceName m.1

lemma Named.prefixed {R : Type} (label : String) (listed : label ∈ sliceLabels)
    (entries : List (String × R)) : Named (entries.map fun (name, value) => (label ++ name, value)) := by
  intro m mem
  obtain ⟨entry, _, rfl⟩ := List.mem_map.mp mem
  exact ⟨label, listed, entry.1, rfl⟩

lemma Named.update {R : Type} {slices : Dict String R} {entries : List (String × R)}
    (named : Named slices.entries) (more : Named entries) : Named (updateSlices slices entries).entries := by
  unfold updateSlices
  induction entries generalizing slices with
  | nil => exact named
  | cons entry entries ih =>
    rw [List.foldl_cons]
    apply ih _ fun m mem => more m (List.mem_cons_of_mem _ mem)
    rintro ⟨name, value⟩ mem
    -- A slice either is the one just written or was there before.
    by_cases same : name = entry.1
    · exact same ▸ more entry List.mem_cons_self
    · rw [Dict.mem_entries, Dict.get?_set_ne _ _ same] at mem
      exact named (name, value) (Dict.mem_entries.mpr mem)

section Slices
variable {R : Type} [Field R] [LinearOrder R] {discount : Nat → R} {userIds : List String}
  {labels : List Int} {candidateScores parentScores : List R}

omit [LinearOrder R] in
lemma sharedDeltas_named {label : String} (listed : label ++ "." ∈ sliceLabels)
    (candidate parent : List (String × R)) : Named (sharedDeltas label candidate parent) := by
  intro m mem
  obtain ⟨name, _, rfl⟩ := List.mem_map.mp mem
  exact ⟨label ++ ".", listed, name, rfl⟩

lemma userSliceDeltas_named {bucket : UserMetric R → String} {label : String}
    {deltas : List (String × R)} (listed : label ++ "." ∈ sliceLabels)
    (computed : userSliceDeltas discount userIds labels candidateScores parentScores bucket label =
      .ok deltas) : Named deltas := by
  simp only [userSliceDeltas, bind_eq_ok, pure_eq_ok] at computed
  obtain ⟨_, _, _, _, rfl⟩ := computed
  exact sharedDeltas_named listed _ _

lemma rankDeltas_named {buckets : List String} {label : String} {deltas : List (String × R)}
    (listed : label ++ "." ∈ sliceLabels)
    (computed : rankDeltas userIds labels candidateScores parentScores buckets label = .ok deltas) :
    Named deltas := by
  simp only [rankDeltas, bind_eq_ok, pure_eq_ok] at computed
  obtain ⟨_, _, _, _, rfl⟩ := computed
  exact sharedDeltas_named listed _ _

/-- The deltas of both validation arms, or none. -/
def ArmDeltas (deltas : List (String × R)) : Prop :=
  deltas = [] ∨ ∃ a b, deltas = [("val_a", a), ("val_b", b)]

lemma validationArmDeltas_arms {arms : List String} {deltas : List (String × R)}
    (computed : validationArmDeltas discount userIds labels candidateScores parentScores arms =
      .ok deltas) : ArmDeltas deltas := by
  simp only [validationArmDeltas, bind_eq_ok, pure_eq_ok] at computed
  obtain ⟨result, _, rfl⟩ := computed
  split_ifs with both
  · right
    obtain ⟨a, rest, rfl, first, both⟩ := List.map_eq_cons_iff.mp both
    obtain ⟨b, rest, rfl, second, none⟩ := List.map_eq_cons_iff.mp both
    obtain rfl := List.map_eq_nil_iff.mp none
    refine ⟨a.2, b.2, ?_⟩
    rw [← first, ← second]
  · exact .inl rfl

lemma featureDeltas_ok {slices : Dict String R} {features : DiagnosticFeatures R} {deltas : FeatureDeltas R}
    (named : Named slices.entries)
    (computed : featureDeltas discount userIds labels candidateScores parentScores slices features =
      .ok deltas) : ArmDeltas deltas.armDeltas ∧ Named deltas.slices.entries := by
  simp only [featureDeltas, bind_eq_ok, pure_eq_ok] at computed
  obtain ⟨arms, armed, dates, _, history, _, thresholds, _, histories, byHistory, durations, byDuration,
    cutoffs, _, buckets, _, popularities, byPopularity, rfl⟩ := computed
  refine ⟨validationArmDeltas_arms armed, ?_⟩
  have arms := named.update (Named.prefixed "validation_arm." (by decide) arms)
  have dates := arms.update (Named.prefixed "temporal." (by decide) dates)
  have histories := dates.update (userSliceDeltas_named (by decide) byHistory)
  have durations := histories.update (rankDeltas_named (by decide) byDuration)
  exact durations.update (rankDeltas_named (by decide) byPopularity)

end Slices
/-! ### Hypotheses and limitations -/

/-- What stands around a text starts and ends with a visible character. -/
def Encloses (front back : String) : Prop :=
  front.toList.head?.any (fun c => !isWhitespace c) = true ∧
    back.toList.getLast?.any (fun c => !isWhitespace c) = true

instance (front back : String) : Decidable (Encloses front back) := inferInstanceAs (Decidable (_ ∧ _))

/-- A text between visible characters is stored as it is. -/
lemma Encloses.strip_eq {front back : String} (encloses : Encloses front back) (middle : String) :
    strip (front ++ middle ++ back) = front ++ middle ++ back := by
  obtain ⟨c, first, visible⟩ := (Option.any_eq_true _ _).mp encloses.1
  obtain ⟨d, last, shown⟩ := (Option.any_eq_true _ _).mp encloses.2
  rw [Bool.not_eq_true'] at visible shown
  obtain ⟨cs, first⟩ := List.head?_eq_some_iff.mp first
  obtain ⟨ds, last⟩ := List.getLast?_eq_some_iff.mp last
  -- `strip` drops from both ends, and both ends are visible.
  have chars : (front ++ middle ++ back).toList = c :: (cs ++ middle.toList ++ ds) ++ [d] := by
    simp [first, last]
  rw [strip, stripChars, chars, List.cons_append, List.dropWhile_cons_of_neg (by simp [visible]),
    ← List.cons_append, List.reverse_append, List.reverse_singleton, List.singleton_append,
    List.dropWhile_cons_of_neg (by simp [shown])]
  rw [← List.singleton_append, ← List.reverse_singleton, ← List.reverse_append, List.reverse_reverse,
    ← chars, String.ofList_toList]

lemma optional_sublist {condition : Prop} [Decidable condition] {flag : String} :
    (if condition then [flag] else []).Sublist [flag] := by
  split_ifs
  · exact List.Sublist.refl _
  · exact List.nil_sublist _

/-- What tells a hypothesis from the others. -/
def hypothesisKey (hypothesis : String) : List Char := hypothesis.toList.take 8

lemma hypothesisKey_append {front : String} (rest : String) (long : 8 ≤ front.toList.length) :
    hypothesisKey (front ++ rest) = hypothesisKey front := by
  rw [hypothesisKey, String.toList_append, List.take_append_of_le_length long, hypothesisKey]

/-- How the hypotheses start, in their order. -/
def hypothesisKeys : List (List Char) :=
  ["Broad re".toList] ++ ["Metric w".toList] ++ ["Generali".toList] ++ ["Validati".toList] ++
    ["Temporal".toList] ++ ["Concentr".toList] ++ ["Cohort w".toList]

/-- Hypotheses that are stored as they are and are told apart by how they start. -/
structure Hypotheses (keys : List (List Char)) (hypotheses : List String) : Prop where
  stored : ∀ hypothesis ∈ hypotheses, strip hypothesis = hypothesis
  keys : (hypotheses.map hypothesisKey).Sublist keys

lemma Hypotheses.none {keys : List (List Char)} : Hypotheses keys [] where
  stored _ mem := by cases mem
  keys := List.nil_sublist _

/-- A hypothesis without parameters. -/
lemma Hypotheses.fixed {key : List Char} {hypothesis : String}
    (form : strip hypothesis = hypothesis ∧ hypothesisKey hypothesis = key) :
    Hypotheses [key] [hypothesis] where
  stored _ mem := List.mem_singleton.mp mem ▸ form.1
  keys := by
    rw [List.map_singleton, form.2]

/-- A hypothesis around a parameter. -/
lemma Hypotheses.around {key : List Char} {front back : String} (middle : String)
    (form : Encloses front back ∧ 8 ≤ front.toList.length ∧ hypothesisKey front = key) :
    Hypotheses [key] [front ++ middle ++ back] := by
  obtain ⟨encloses, long, same⟩ := form
  refine .fixed ⟨encloses.strip_eq middle, ?_⟩
  rw [String.append_assoc, hypothesisKey_append _ long, same]

lemma Hypotheses.optional {keys : List (List Char)} {hypotheses : List String} {condition : Prop}
    [Decidable condition] (valid : Hypotheses keys hypotheses) :
    Hypotheses keys (if condition then hypotheses else []) := by
  split_ifs
  · exact valid
  · exact .none

lemma Hypotheses.append {front back : List (List Char)} {hypotheses more : List String}
    (valid : Hypotheses front hypotheses) (rest : Hypotheses back more) :
    Hypotheses (front ++ back) (hypotheses ++ more) where
  stored hypothesis mem := (List.mem_append.mp mem).elim (valid.stored _) (rest.stored _)
  keys := by
    rw [List.map_append]
    exact valid.keys.append rest.keys

lemma Hypotheses.flags {hypotheses : List String} (valid : Hypotheses hypothesisKeys hypotheses) :
    FlagsValid hypotheses := by
  have same : hypotheses.map strip = hypotheses := by
    calc hypotheses.map strip = hypotheses.map id := List.map_congr_left valid.stored
      _ = hypotheses := List.map_id _
  constructor
  · intro hypothesis mem empty
    -- The empty text has an empty key, and no key is empty.
    have key : hypothesisKey hypothesis ∈ hypothesisKeys := valid.keys.subset (List.mem_map_of_mem mem)
    rw [valid.stored _ mem] at empty
    rw [empty] at key
    revert key
    decide +kernel
  · rw [same]
    -- The keys are a sublist of seven different ones.
    have unique : hypothesisKeys.Nodup := by decide +kernel
    exact (valid.keys.nodup unique).of_map

section Hypotheses
variable {R : Type} [Field R] [LinearOrder R]

lemma failureHypotheses_valid {parentDelta : MetricDelta R} {diagnostics : EvaluationDiagnostics R}
    {concentration : R} {thresholds : DiagnosticThresholds R} :
    FlagsValid (failureHypotheses parentDelta diagnostics concentration thresholds) := by
  apply Hypotheses.flags
  -- One case for each of the seven kinds, in the order in which the function states them.
  refine .append (.append (.append (.append (.append (.append ?_ ?_) ?_) ?_) ?_) ?_) ?_
  · exact .optional (.fixed (by decide +kernel))
  · exact .optional (.around _ (by decide +kernel))
  · split
    · exact .none
    · split
      · exact .fixed (by decide +kernel)
      · exact .optional (.fixed (by decide +kernel))
  · split
    · split
      · exact .fixed (by decide +kernel)
      · exact .optional (.fixed (by decide +kernel))
    · exact .none
  · exact .optional (.fixed (by decide +kernel))
  · exact .optional (.fixed (by decide +kernel))
  · split
    · exact .none
    · exact .optional (.around _ (by decide +kernel))

omit [Field R] [LinearOrder R] in
lemma diagnosticLimitations_valid {trainValidationGap : Option R} :
    FlagsValid (diagnosticLimitations trainValidationGap) := by
  unfold diagnosticLimitations
  split_ifs
  · exact ⟨by decide +kernel, by decide +kernel⟩
  · exact ⟨by decide +kernel, by decide +kernel⟩

end Hypotheses
/-! ### The diagnostics are valid -/

section Valid
variable {R : Type} [Field R] [LinearOrder R] [IsStrictOrderedRing R] {discount : Nat → R}
  {userIds : List String} {labels : List Int} {candidateScores parentScores : List R}

/-- The deltas of the arms, with the gap that is computed from them. -/
lemma ArmDeltas.valid {deltas : List (String × R)} (arms : ArmDeltas deltas) :
    ArmsValid deltas (validationArmGap deltas) := by
  rcases arms with rfl | ⟨a, b, rfl⟩
  · constructor <;> simp [validationArmGap, storedNames]
  · have gap : validationArmGap [("val_a", a), ("val_b", b)] = some |a - b| := rfl
    have stored : storedNames [("val_a", a), ("val_b", b)] = [("val_a", a), ("val_b", b)] := by
      have same : strip "val_a" = "val_a" ∧ strip "val_b" = "val_b" := by decide +kernel
      simp [storedNames, same]
    have visible : NotBlank "val_a" ∧ NotBlank "val_b" := by decide +kernel
    rw [gap]
    constructor
    · rintro _ ⟨⟩
      exact abs_nonneg _
    · simp [stored, visible]
    · simp [stored]
    · simp
    · rintro _ ⟨⟩ x foundA y foundB
      rw [stored] at foundA foundB
      cases foundA
      cases foundB
      rw [sub_self, abs_zero]
      positivity

/-- A share of the movement lies between zero and one. -/
lemma gainConcentration_range {deltaValues : List R} {share : R}
    (computed : gainConcentration deltaValues = .ok share) : 0 ≤ share ∧ share ≤ 1 := by
  unfold gainConcentration at computed
  split at computed
  · cases computed
  dsimp only at computed
  split at computed
  · cases computed
    exact ⟨le_rfl, zero_le_one⟩
  next moved =>
    cases computed
    generalize shown : (deltaValues.map abs).insertionSort (· ≥ ·) = magnitudes at moved ⊢
    have nonneg : ∀ x ∈ magnitudes, 0 ≤ x := by
      intro x mem
      rw [← shown, (List.perm_insertionSort _ _).mem_iff] at mem
      obtain ⟨y, _, rfl⟩ := List.mem_map.mp mem
      exact abs_nonneg y
    -- The total is the movement of the first tenth and of the rest, and neither is negative.
    have part : 0 ≤ (magnitudes.take (max 1 ((magnitudes.length + 9) / 10))).sum :=
      List.sum_nonneg fun x mem => nonneg x (List.mem_of_mem_take mem)
    have rest : 0 ≤ (magnitudes.drop (max 1 ((magnitudes.length + 9) / 10))).sum :=
      List.sum_nonneg fun x mem => nonneg x (List.mem_of_mem_drop mem)
    have total := List.sum_take_add_sum_drop magnitudes (max 1 ((magnitudes.length + 9) / 10))
    have positive : 0 < magnitudes.sum := lt_of_le_of_ne (List.sum_nonneg nonneg) (Ne.symm moved)
    constructor
    · exact div_nonneg part positive.le
    · rw [div_le_one positive]
      linarith

omit [Field R] [LinearOrder R] [IsStrictOrderedRing R] in
/-- An extreme slice is one of the slices. -/
lemma extremeSlice_recorded {select : List (Lex (R × String)) → Option (Lex (R × String))}
    {slices : Dict String R} {name : String} (sound : ∀ items item, select items = some item → item ∈ items)
    (found : name ∈ extremeSlice select slices) :
    strip name ∈ (storedNames (slices.entries.insertionSort fun a b => a.1 ≤ b.1)).map Prod.fst := by
  obtain ⟨item, chosen, rfl⟩ := Option.map_eq_some_iff.mp found
  obtain ⟨entry, listed, rfl⟩ := List.mem_map.mp (sound _ _ chosen)
  have sorted : entry ∈ slices.entries.insertionSort fun a b => a.1 ≤ b.1 :=
    (List.perm_insertionSort _ _).mem_iff.mpr listed
  exact List.mem_map_of_mem (List.mem_map_of_mem (f := fun m : String × R => (strip m.1, m.2)) sorted)

/-- The diagnostics pass the validators of their model. -/
theorem diagnostics_valid {parentDelta : MetricDelta R} {features : Option (DiagnosticFeatures R)}
    {proxyParentDelta trainValidationGap : Option R} {thresholds : DiagnosticThresholds R}
    {diagnostics : EvaluationDiagnostics R}
    (computed : computeEvaluationDiagnostics discount userIds labels candidateScores parentScores
      parentDelta features proxyParentDelta trainValidationGap thresholds = .ok diagnostics) :
    DiagnosticsValid diagnostics := by
  simp only [computeEvaluationDiagnostics, bind_eq_ok, pure_eq_ok] at computed
  obtain ⟨_, _, _, _, _, _, _, _, _, _, concentration, concentrated, impressions, byImpressions, positives,
    byPositives, deltas, found, rfl⟩ := computed
  -- The slices start empty, and every update adds names of one label.
  have slices : Named (Dict.empty : Dict String R).entries := fun _ mem => by cases mem
  have slices := slices.update (userSliceDeltas_named (by decide) byImpressions)
  have slices := slices.update (userSliceDeltas_named (by decide) byPositives)
  have parts : ArmDeltas deltas.armDeltas ∧ Named deltas.slices.entries := by
    cases features with
    | none =>
      cases found
      exact ⟨.inl rfl, slices⟩
    | some features => exact featureDeltas_ok slices found
  obtain ⟨arms, named⟩ := parts
  constructor
  · intro gap shown
    obtain ⟨proxy, _, rfl⟩ := Option.map_eq_some_iff.mp shown
    exact abs_nonneg _
  · exact arms.valid
  · rintro _ ⟨⟩
    exact gainConcentration_range concentrated
  · intro m mem
    obtain ⟨entry, listed, rfl⟩ := List.mem_map.mp mem
    exact (named entry ((List.perm_insertionSort _ _).mem_iff.mp listed)).notBlank
  · exact failureHypotheses_valid
  · exact diagnosticLimitations_valid
  · exact Option.isSome_map.symm
  · intro name shown
    exact extremeSlice_recorded (fun _ _ chosen => List.max?_mem chosen) shown
  · intro name shown
    exact extremeSlice_recorded (fun _ _ chosen => List.min?_mem chosen) shown

end Valid
end TacoRank.Evaluation
