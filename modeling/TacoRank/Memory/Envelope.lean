import TacoRank.Lib.Json
import TacoRank.Lib.Lines
import TacoRank.Text
import Mathlib.Data.List.Sort
import Mathlib.Data.Prod.Lex

/-!
# The event envelope

`Event` of `schemas.py` as the ledger file stores it: its texts, the checks of its validators and the
canonical JSON of `memory/canonical_json.py`. The payload models are an interface, `Schema`, with
what the envelope asks of a payload and with the coercions of the validation library; the laws of
`LawfulSchema` say what these do on the JSON of an envelope. `Event.reload` is the main result: an
event that validation has returned is what validation returns for its JSON.
-/

namespace TacoRank
open Lib

/-- The value of `TokenMeasurement`. -/
def TokenMeasurement.value : TokenMeasurement → String
  | .provider => "provider"
  | .estimated => "estimated"
  | .none => "none"

namespace Memory

/-- `ArtifactKind`. -/
inductive ArtifactKind where
  | diff | trajectory | context | log | checkpoint | predictions | metrics | deltaVector
  | verificationReceipt | submission | report | other
deriving DecidableEq

/-- The value of `ArtifactKind`. -/
def ArtifactKind.value : ArtifactKind → String
  | .diff => "diff"
  | .trajectory => "trajectory"
  | .context => "context"
  | .log => "log"
  | .checkpoint => "checkpoint"
  | .predictions => "predictions"
  | .metrics => "metrics"
  | .deltaVector => "delta_vector"
  | .verificationReceipt => "verification_receipt"
  | .submission => "submission"
  | .report => "report"
  | .other => "other"

/-- `EventType`. -/
inductive EventType where
  | runStarted | contractVerified | baselineVerified | contextCreated | plannerRecommended
  | planningFailed | experimentProposed | patchCreated | patchChecked | executionStarted
  | executionFinished | adapterFailed | recoveryDecided | outputChecked | evaluationCompleted
  | experimentDecided | bestUpdated | lessonRecorded | lessonStatusChanged | manualIntervention
  | runStopped | finalSelected | submissionChecked
deriving DecidableEq

/-- The value of `EventType`. -/
def EventType.value : EventType → String
  | .runStarted => "run.started"
  | .contractVerified => "contract.verified"
  | .baselineVerified => "baseline.verified"
  | .contextCreated => "context.created"
  | .plannerRecommended => "planner.recommended"
  | .planningFailed => "planning.failed"
  | .experimentProposed => "experiment.proposed"
  | .patchCreated => "patch.created"
  | .patchChecked => "patch.checked"
  | .executionStarted => "execution.started"
  | .executionFinished => "execution.finished"
  | .adapterFailed => "adapter.failed"
  | .recoveryDecided => "recovery.decided"
  | .outputChecked => "output.checked"
  | .evaluationCompleted => "evaluation.completed"
  | .experimentDecided => "experiment.decided"
  | .bestUpdated => "best.updated"
  | .lessonRecorded => "lesson.recorded"
  | .lessonStatusChanged => "lesson.status_changed"
  | .manualIntervention => "manual.intervention"
  | .runStopped => "run.stopped"
  | .finalSelected => "final.selected"
  | .submissionChecked => "submission.checked"

/-! ### Texts -/

/-- A character of the class `[A-Za-z0-9]`. -/
def isAlnum (c : Char) : Bool := c.isAlphanum

/-- `ID_RE`. -/
def matchesId (s : String) : Bool :=
  match s.toList with
  | c :: cs =>
    isAlnum c && decide (cs.length ≤ 127) &&
      cs.all fun c => isAlnum c || c = '_' || c = '.' || c = '-'
  | [] => false

/-- `SHA256_RE`. -/
def matchesSha256 (s : String) : Bool :=
  decide (s.toList.length = 64) &&
    s.toList.all fun c => c.isDigit || (decide ('a' ≤ c) && decide (c ≤ 'f'))

/-- `EVENT_ID_RE`. -/
def matchesEventId (s : String) : Bool :=
  match s.toList with
  | 'e' :: 'v' :: 't' :: '_' :: digits => decide (6 ≤ digits.length) && digits.all Char.isDigit
  | _ => false

/-- A number with leading zeros. -/
def padded (width n : Nat) : List Char :=
  List.replicate (width - (Nat.toDigits 10 n).length) '0' ++ Nat.toDigits 10 n

/-- `"evt_%06d" % seq`. -/
def eventIdOf (seq : Nat) : String := String.ofList ('e' :: 'v' :: 't' :: '_' :: padded 6 seq)

/-- `int(event_id.split("_")[1])`. -/
def seqOf (eventId : String) : Nat := Nat.ofDigitChars 10 (eventId.toList.drop 4) 0

/-- `s.split(c)`. -/
def splitText (c : Char) (s : String) : List String := (s.toList.splitOn c).map String.ofList

/-- `key.rsplit(":", 1)[-1]`. -/
def inputHash (key : String) : String := (splitText ':' key).getLast?.getD ""

/-- A decimal number without leading zeros: `s.isdigit()` and `str(int(s)) == s`. -/
def isDecimal (s : String) : Bool :=
  s.toList.all Char.isDigit && decide (Nat.toDigits 10 (Nat.ofDigitChars 10 s.toList 0) = s.toList)

/-- The key is `run:experiment:stage:attempt:input_sha256`. -/
def isKey (runId key : String) : Bool :=
  match splitText ':' key with
  | [run, experiment, stage, attempt, input] =>
    decide (run = runId) && matchesId experiment && matchesId stage && isDecimal attempt &&
      matchesSha256 input
  | _ => false

/-- `normalize_relative_path` accepts the path. -/
def isRelativePath (s : String) : Bool :=
  s.toList.all (fun c => !(c = '\\' || c = '\x00')) &&
    (decide (s = ".") || (s.toList.splitOn '/').all fun part =>
      !(part = [] || part = ['.'] || part = ['.', '.']))

/-- The number of days of a month. -/
def daysIn (year month : Nat) : Nat :=
  if month = 2 then if year % 4 = 0 ∧ (year % 100 ≠ 0 ∨ year % 400 = 0) then 29 else 28
  else if month = 4 ∨ month = 6 ∨ month = 9 ∨ month = 11 then 30
  else 31

/-- An aware `datetime` in UTC. -/
structure UtcTime where
  year : Nat
  month : Nat
  day : Nat
  hour : Nat := 0
  minute : Nat := 0
  second : Nat := 0
  microsecond : Nat := 0
  date : 1 ≤ year ∧ year ≤ 9999 ∧ 1 ≤ month ∧ month ≤ 12 ∧ 1 ≤ day ∧ day ≤ daysIn year month
  time : hour < 24 ∧ minute < 60 ∧ second < 60 ∧ microsecond < 1000000
deriving DecidableEq

/-- `isoformat().replace("+00:00", "Z")`, which is also how a model writes the time. -/
def UtcTime.isoformat (t : UtcTime) : String :=
  String.ofList (padded 4 t.year ++ '-' :: padded 2 t.month ++ '-' :: padded 2 t.day ++
    'T' :: padded 2 t.hour ++ ':' :: padded 2 t.minute ++ ':' :: padded 2 t.second ++
    (if t.microsecond = 0 then [] else '.' :: padded 6 t.microsecond) ++ ['Z'])

/-! ### Models -/

/-- `ArtifactRef`, with the fields that only its JSON shows. -/
structure ArtifactRef extends TacoRank.ArtifactRef where
  kind : ArtifactKind
  contentType : Option String := none
deriving DecidableEq

namespace ArtifactRef

/-- Its texts as the schema stores them. -/
def stripped (a : ArtifactRef) : ArtifactRef :=
  { a with
    artifactId := strip a.artifactId
    path := strip a.path
    sha256 := strip a.sha256
    contentType := a.contentType.map strip }

/-- The validators of `ArtifactRef`. -/
def valid (a : ArtifactRef) : Bool :=
  matchesId a.artifactId && isRelativePath a.path && matchesSha256 a.sha256

/-- The key that orders the references of a payload. -/
def sortKey (a : ArtifactRef) : String ×ₗ String ×ₗ String ×ₗ String ×ₗ Nat ×ₗ String :=
  toLex (a.artifactId, toLex (a.path, toLex (a.kind.value, toLex (a.sha256,
    toLex (a.sizeBytes, a.contentType.getD "")))))

end ArtifactRef

/-- `Event` around a payload. -/
structure Event (P : Type) where
  eventId : String
  seq : Nat
  timestamp : UtcTime
  runId : String
  eventType : EventType
  idempotencyKey : String
  causationEventId : Option String := none
  payload : P
  artifactRefs : List ArtifactRef := []
  resourceDelta : ResourceDelta := {}
  prevEventHash : String
  eventHash : String
deriving DecidableEq

/-- What the envelope needs of the payload models. `payload` is the validation of the payload union,
and `coerce` that of an event up to the constraints of `Event.Valid`. -/
class Schema (F P : Type) [Floats F] where
  type : P → EventType
  /-- `model_dump(mode="json")`. -/
  dump : P → Json F
  /-- `model_dump(mode="python")`; what is neither a dict, a list nor a string is `null`. -/
  data : P → Json F
  /-- The references nested in a payload, in the order of `visit`. -/
  artifacts : P → List ArtifactRef
  /-- The resource measurements nested in a payload, in the order of `visit`. -/
  deltas : P → List ResourceDelta
  payload : Json F → Option P
  coerce : Json F → Option (Event P)

section Dump
variable {F : Type} [Floats F]

/-- The JSON of an optional text. -/
def optionalText : Option String → Json F
  | some s => .str s
  | none => .null

/-- The JSON of an optional count. -/
def optionalCount : Option Nat → Json F
  | some n => .int n
  | none => .null

/-- `ArtifactRef.model_dump(mode="json")`. -/
def ArtifactRef.dump (a : ArtifactRef) : Json F :=
  Json.object
    [ ("artifact_id", .str a.artifactId),
      ("kind", .str a.kind.value),
      ("path", .str a.path),
      ("sha256", .str a.sha256),
      ("size_bytes", .int a.sizeBytes),
      ("content_type", optionalText a.contentType) ]

/-- `ResourceDelta.model_dump(mode="json")`. -/
def dumpDelta (d : ResourceDelta) : Json F :=
  Json.object
    [ ("llm_input_tokens", .int d.llmInputTokens),
      ("llm_output_tokens", .int d.llmOutputTokens),
      ("token_measurement", .str d.tokenMeasurement.value),
      ("wall_time_ms", .int d.wallTimeMs),
      ("cpu_time_ms", .int d.cpuTimeMs),
      ("gpu_time_ms", .int d.gpuTimeMs),
      ("gpu_count", .int d.gpuCount),
      ("peak_rss_mb", optionalCount d.peakRssMb),
      ("peak_gpu_memory_mb", optionalCount d.peakGpuMemoryMb),
      ("manual_interventions", .int d.manualInterventions) ]

variable {P : Type} [Schema F P]

namespace Event

/-- The members of an event but its hash. -/
def members (e : Event P) : List (String × Json F) :=
  [ ("schema_version", .str "1.0"),
    ("event_id", .str e.eventId),
    ("seq", .int e.seq),
    ("timestamp", .str e.timestamp.isoformat),
    ("run_id", .str e.runId),
    ("event_type", .str e.eventType.value),
    ("idempotency_key", .str e.idempotencyKey),
    ("causation_event_id", optionalText e.causationEventId),
    ("payload", Schema.dump e.payload),
    ("artifact_refs", .arr (e.artifactRefs.map ArtifactRef.dump)),
    ("resource_delta", dumpDelta e.resourceDelta),
    ("prev_event_hash", .str e.prevEventHash) ]

/-- What the hash of an event is computed from. -/
def hashInput (e : Event P) : Json F := Json.object (members e)

/-- `Event.model_dump(mode="json")`. -/
def dump (e : Event P) : Json F :=
  Json.object (members e ++ [("event_hash", .str e.eventHash)])

end Event

/-- `event_hash_input`. -/
def eventHashInput : Json F → Json F
  | .obj ms => .obj (ms.filter fun m => m.1 ≠ "event_hash")
  | other => other

/-- A member of an object. -/
def member (key : String) : Json F → Option (Json F)
  | .obj ms => (ms.find? fun m => m.1 = key).map Prod.snd
  | _ => none

mutual

/-- `collect_run_ids`. -/
def collectRunIds : Json F → List String
  | .obj ms => collectMembers ms
  | .arr items => collectItems items
  | _ => []

def collectItems : List (Json F) → List String
  | [] => []
  | x :: xs => collectRunIds x ++ collectItems xs

def collectMembers : List (String × Json F) → List String
  | [] => []
  | (key, .str s) :: rest => if key = "run_id" then s :: collectMembers rest else collectMembers rest
  | (_, x) :: rest => collectRunIds x ++ collectMembers rest

end

/-! ### Validation -/

/-- The first reference whose id an earlier reference has with another content. -/
def conflict (seen : List ArtifactRef) : List ArtifactRef → Option ArtifactRef
  | [] => none
  | a :: rest =>
    if seen.any fun b => b.artifactId = a.artifactId ∧ (b.sha256, b.sizeBytes) ≠ (a.sha256, a.sizeBytes)
    then some a
    else conflict (a :: seen) rest

variable (F) in
/-- `payload_artifacts`: of the references with one key the last one, in the order of the keys. -/
def payloadArtifacts (payload : P) : Except String (List ArtifactRef) :=
  let found := Schema.artifacts F payload
  match conflict [] found with
  | some a =>
    .error ("conflicting payload artifacts share artifact_id '" ++ a.artifactId ++ "'")
  | none =>
    let unique := found.foldr
      (fun a later => if later.any fun b => b.sortKey = a.sortKey then later else a :: later) []
    .ok (unique.insertionSort fun a b => a.sortKey ≤ b.sortKey)

variable (F) in
/-- The constraints of the fields of `Event` and of its validators. -/
structure Event.Valid (e : Event P) : Prop where
  runId : e.runId ≠ ""
  idempotencyKey : e.idempotencyKey ≠ ""
  seq : 1 ≤ e.seq
  eventId : matchesEventId e.eventId = true
  causation : ∀ cause ∈ e.causationEventId, matchesEventId cause = true ∧ seqOf cause < e.seq
  prevEventHash : matchesSha256 e.prevEventHash = true
  eventHash : matchesSha256 e.eventHash = true
  references : ∀ a ∈ e.artifactRefs, a.valid = true
  eventIdOf : e.eventId = eventIdOf e.seq
  eventType : e.eventType = Schema.type F e.payload
  key : isKey e.runId e.idempotencyKey = true
  artifactRefs : payloadArtifacts F e.payload = .ok e.artifactRefs
  resourceDelta : ∀ d ∈ Schema.deltas F e.payload, d = e.resourceDelta

instance (e : Event P) : Decidable (e.Valid F) :=
  decidable_of_iff
    ((e.runId ≠ "" ∧ e.idempotencyKey ≠ "" ∧ 1 ≤ e.seq ∧ matchesEventId e.eventId = true ∧
      (∀ cause ∈ e.causationEventId, matchesEventId cause = true ∧ seqOf cause < e.seq) ∧
      matchesSha256 e.prevEventHash = true ∧ matchesSha256 e.eventHash = true ∧
      (∀ a ∈ e.artifactRefs, a.valid = true)) ∧
      e.eventId = eventIdOf e.seq ∧ e.eventType = Schema.type F e.payload ∧
      isKey e.runId e.idempotencyKey = true ∧
      payloadArtifacts F e.payload = .ok e.artifactRefs ∧
      ∀ d ∈ Schema.deltas F e.payload, d = e.resourceDelta)
    ⟨fun ⟨⟨a, b, c, d, e, f, g, h⟩, i, j, k, l, m⟩ => ⟨a, b, c, d, e, f, g, h, i, j, k, l, m⟩,
      fun ⟨a, b, c, d, e, f, g, h, i, j, k, l, m⟩ => ⟨⟨a, b, c, d, e, f, g, h⟩, i, j, k, l, m⟩⟩

/-- `Event.model_validate`. -/
def modelValidate (json : Json F) : Option (Event P) :=
  (Schema.coerce json).filter fun e => e.Valid F

lemma modelValidate_valid {json : Json F} {e : Event P} (h : modelValidate json = some e) :
    e.Valid F := by
  simpa using (Option.filter_eq_some_iff.mp h).2

/-- An event whose texts are stored as the schema does, around a payload. -/
def Event.stripped (e : Event P) (payload : P) : Event P :=
  { e with
    eventId := strip e.eventId
    runId := strip e.runId
    idempotencyKey := strip e.idempotencyKey
    causationEventId := e.causationEventId.map strip
    payload
    artifactRefs := e.artifactRefs.map ArtifactRef.stripped
    prevEventHash := strip e.prevEventHash
    eventHash := strip e.eventHash }

variable (F P) in
/-- The laws of the payload models: their JSON is canonical and determines them, validation is
idempotent, and the members of the JSON of an event are coerced one by one. -/
class LawfulSchema : Prop where
  canonical : ∀ p : P, Json.Canonical (Schema.dump (F := F) p)
  dump_inj : ∀ p q : P, Schema.dump (F := F) p = Schema.dump q → p = q
  payload_dump : ∀ (json : Json F) (p : P), Schema.payload json = some p →
    Schema.payload (Schema.dump (F := F) p) = some p
  coerce_dump : ∀ e : Event P, Schema.coerce (Event.dump (F := F) e) =
    (Schema.payload (Schema.dump (F := F) e.payload)).map e.stripped

/-! ### The JSON of an event -/

lemma Event.dump_eq (e : Event P) : Event.dump (F := F) e = .obj
    [ ("artifact_refs", .arr (e.artifactRefs.map ArtifactRef.dump)),
      ("causation_event_id", optionalText e.causationEventId),
      ("event_hash", .str e.eventHash),
      ("event_id", .str e.eventId),
      ("event_type", .str e.eventType.value),
      ("idempotency_key", .str e.idempotencyKey),
      ("payload", Schema.dump e.payload),
      ("prev_event_hash", .str e.prevEventHash),
      ("resource_delta", dumpDelta e.resourceDelta),
      ("run_id", .str e.runId),
      ("schema_version", .str "1.0"),
      ("seq", .int e.seq),
      ("timestamp", .str e.timestamp.isoformat) ] := by
  simp (disch := decide) only [Event.dump, Event.members, Json.object, List.cons_append,
    List.nil_append, List.foldl_cons, List.foldl_nil, Json.setMember_nil, Json.setMember_before,
    Json.setMember_after]

lemma Event.hashInput_eq (e : Event P) : Event.hashInput (F := F) e = .obj
    [ ("artifact_refs", .arr (e.artifactRefs.map ArtifactRef.dump)),
      ("causation_event_id", optionalText e.causationEventId),
      ("event_id", .str e.eventId),
      ("event_type", .str e.eventType.value),
      ("idempotency_key", .str e.idempotencyKey),
      ("payload", Schema.dump e.payload),
      ("prev_event_hash", .str e.prevEventHash),
      ("resource_delta", dumpDelta e.resourceDelta),
      ("run_id", .str e.runId),
      ("schema_version", .str "1.0"),
      ("seq", .int e.seq),
      ("timestamp", .str e.timestamp.isoformat) ] := by
  simp (disch := decide) only [Event.hashInput, Event.members, Json.object, List.foldl_cons,
    List.foldl_nil, Json.setMember_nil, Json.setMember_before, Json.setMember_after]

/-- Without its hash, the JSON of an event is what the hash is computed from. -/
lemma eventHashInput_dump (e : Event P) :
    eventHashInput (Event.dump (F := F) e) = Event.hashInput e := by
  rw [Event.dump_eq, Event.hashInput_eq]
  simp [eventHashInput]

lemma member_payload (e : Event P) :
    member "payload" (Event.dump (F := F) e) = some (Schema.dump e.payload) := by
  rw [Event.dump_eq]
  simp [member]

lemma Event.hashInput_inj {e e' : Event P}
    (same : Event.hashInput (F := F) e = Event.hashInput e') :
    e.runId = e'.runId ∧ e.idempotencyKey = e'.idempotencyKey ∧
      Schema.dump (F := F) e.payload = Schema.dump e'.payload := by
  rw [Event.hashInput_eq, Event.hashInput_eq] at same
  simp only [Json.obj.injEq, List.cons.injEq, Prod.mk.injEq, Json.str.injEq, true_and] at same
  exact ⟨same.2.2.2.2.2.2.2.2.1, same.2.2.2.2.1, same.2.2.2.2.2.1⟩

omit [Floats F] in
lemma canonical_optionalText (s : Option String) : Json.Canonical (optionalText (F := F) s) := by
  cases s <;> trivial

omit [Floats F] in
lemma canonical_optionalCount (n : Option Nat) : Json.Canonical (optionalCount (F := F) n) := by
  cases n <;> trivial

lemma ArtifactRef.canonical (a : ArtifactRef) : Json.Canonical (ArtifactRef.dump (F := F) a) := by
  apply Json.canonical_object
  simp [Json.Canonical, canonical_optionalText]

lemma canonical_delta (d : ResourceDelta) : Json.Canonical (dumpDelta (F := F) d) := by
  apply Json.canonical_object
  simp [Json.Canonical, canonical_optionalCount]

section Laws
variable [LawfulSchema F P]

lemma Event.canonical_members (e : Event P) :
    ∀ m ∈ Event.members (F := F) e, Json.Canonical m.2 := by
  have refs : Json.Canonical (.arr (e.artifactRefs.map ArtifactRef.dump) : Json F) := by
    apply Json.canonicalItems_iff.mpr
    simp only [List.mem_map, forall_exists_index, and_imp, forall_apply_eq_imp_iff₂]
    exact fun a _ => a.canonical
  simp only [Event.members, List.mem_cons, List.not_mem_nil, or_false, forall_eq_or_imp, forall_eq]
  exact ⟨trivial, trivial, trivial, trivial, trivial, trivial, trivial, canonical_optionalText _,
    LawfulSchema.canonical _, refs, canonical_delta _, trivial⟩

lemma Event.canonical_hashInput (e : Event P) : Json.Canonical (Event.hashInput (F := F) e) :=
  Json.canonical_object e.canonical_members

lemma Event.canonical_dump (e : Event P) : Json.Canonical (Event.dump (F := F) e) := by
  apply Json.canonical_object
  intro m mem
  rw [List.mem_append, List.mem_singleton] at mem
  rcases mem with other | rfl
  · exact e.canonical_members m other
  · trivial

end Laws

/-! ### Reading an event back -/

lemma visible_of_range {c : Char} (low : 33 ≤ c.toNat) (high : c.toNat < 127) :
    isWhitespace c = false := by
  unfold isWhitespace
  simp only [Bool.or_eq_false_iff, Bool.and_eq_false_iff, decide_eq_false_iff_not, beq_eq_false_iff_ne]
  omega

lemma visible_of_digit {c : Char} (digit : c.isDigit = true) : isWhitespace c = false := by
  simp only [Char.isDigit, Bool.and_eq_true, decide_eq_true_eq, ge_iff_le] at digit
  have low : '0'.toNat ≤ c.toNat := digit.1
  have high : c.toNat ≤ '9'.toNat := digit.2
  exact visible_of_range (le_trans (by decide) low) (lt_of_le_of_lt high (by decide))

lemma strip_sha256 {s : String} (h : matchesSha256 s = true) : strip s = s := by
  rw [matchesSha256, Bool.and_eq_true, List.all_eq_true] at h
  refine strip_visible fun c mem => ?_
  have hex := h.2 c mem
  simp only [Bool.or_eq_true, Bool.and_eq_true, decide_eq_true_eq] at hex
  cases hex with
  | inl digit => exact visible_of_digit digit
  | inr letter =>
    have low : 'a'.toNat ≤ c.toNat := letter.1
    have high : c.toNat ≤ 'f'.toNat := letter.2
    exact visible_of_range (le_trans (by decide) low) (lt_of_le_of_lt high (by decide))

lemma strip_eventId {s : String} (h : matchesEventId s = true) : strip s = s := by
  unfold matchesEventId at h
  split at h
  · rename_i digits chars
    rw [Bool.and_eq_true, List.all_eq_true] at h
    refine strip_visible fun c mem => ?_
    rw [chars] at mem
    simp only [List.mem_cons] at mem
    rcases mem with rfl | rfl | rfl | rfl | digit
    all_goals first | rfl | exact visible_of_digit (h.2 c digit)
  · cases h

lemma ArtifactRef.stripped_idem (a : ArtifactRef) : a.stripped.stripped = a.stripped := by
  simp [ArtifactRef.stripped, strip_idem, Function.comp_def]

lemma Event.stripped_idem (e : Event P) (p q : P) : (e.stripped p).stripped q = e.stripped q := by
  simp [Event.stripped, strip_idem, Function.comp_def, ArtifactRef.stripped_idem]

variable [LawfulSchema F P]

/-- What validation returns for the JSON of an event. -/
lemma modelValidate_dump {e e' : Event P} :
    modelValidate (Event.dump (F := F) e) = some e' ↔
      ∃ p, Schema.payload (Schema.dump (F := F) e.payload) = some p ∧ e' = e.stripped p ∧
        e'.Valid F := by
  rw [modelValidate, LawfulSchema.coerce_dump]
  cases (Schema.payload (Schema.dump (F := F) e.payload) : Option P) with
  | none => simp
  | some p =>
    simp only [Option.map_some, Option.filter_eq_some_iff, Option.some.injEq, decide_eq_true_eq,
      exists_eq_left']
    constructor
    · rintro ⟨rfl, valid⟩
      exact ⟨rfl, valid⟩
    · rintro ⟨rfl, valid⟩
      exact ⟨rfl, valid⟩

/-- An event that validation has returned is what validation returns for its JSON. -/
theorem Event.reload {e e' : Event P} (h : modelValidate (Event.dump (F := F) e) = some e') :
    modelValidate (Event.dump (F := F) e') = some e' := by
  obtain ⟨p, payload, rfl, valid⟩ := modelValidate_dump.mp h
  refine (modelValidate_dump (F := F)).mpr ⟨p, LawfulSchema.payload_dump (P := P) _ _ payload, ?_, valid⟩
  rw [Event.stripped_idem]

end Dump
end Memory
end TacoRank
