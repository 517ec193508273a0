import TacoRank.Memory.Envelope
import Mathlib.Data.List.TakeDrop

/-!
# A coercion of events

`coerceEvent` reads an event from JSON of the types that the store writes; the validation library
also accepts other types, such as a number in quotes. `coerceEvent_dump` is the law of
`LawfulSchema` about coercion, for any reader of payloads, so that a schema only needs one of these.
-/

namespace TacoRank.Memory
open Lib

/-! ### Times -/

/-- A number of the given width. -/
def readPadded (width : Nat) (cs : List Char) : Nat := Nat.ofDigitChars 10 (cs.take width) 0

/-- A part of a time: a number of the given width behind a mark. -/
def readPart (mark : Char) (width : Nat) : List Char → Option (Nat × List Char)
  | c :: cs => if c = mark then some (readPadded width cs, cs.drop width) else none
  | [] => none

/-- The time that `UtcTime.isoformat` writes. -/
def readTime (s : String) : Option UtcTime := do
  let year := readPadded 4 s.toList
  let (month, cs) ← readPart '-' 2 (s.toList.drop 4)
  let (day, cs) ← readPart '-' 2 cs
  let (hour, cs) ← readPart 'T' 2 cs
  let (minute, cs) ← readPart ':' 2 cs
  let (second, cs) ← readPart ':' 2 cs
  let (microsecond, cs) := (readPart '.' 6 cs).getD (0, cs)
  if cs = ['Z'] then
    if date : 1 ≤ year ∧ year ≤ 9999 ∧ 1 ≤ month ∧ month ≤ 12 ∧ 1 ≤ day ∧ day ≤ daysIn year month then
      if time : hour < 24 ∧ minute < 60 ∧ second < 60 ∧ microsecond < 1000000 then
        some { year, month, day, hour, minute, second, microsecond, date, time }
      else none
    else none
  else none

lemma length_padded {width n : Nat} (pos : 0 < width) (small : n < 10 ^ width) :
    (padded width n).length = width := by
  have short := (Nat.length_toDigits_le_iff (by decide) pos).mpr small
  rw [padded, List.length_append, List.length_replicate]
  omega

lemma readPadded_padded {width n : Nat} {cs : List Char} (pos : 0 < width) (small : n < 10 ^ width) :
    readPadded width (padded width n ++ cs) = n := by
  rw [readPadded, List.take_left' (length_padded pos small), padded, Nat.ofDigitChars_append,
    Nat.ofDigitChars_replicate_zero, Nat.mul_zero, Nat.ofDigitChars_ten_toDigits]

lemma readPart_padded {mark : Char} {width n : Nat} {cs : List Char} (pos : 0 < width)
    (small : n < 10 ^ width) : readPart mark width (mark :: (padded width n ++ cs)) = some (n, cs) := by
  rw [readPart, if_pos rfl, readPadded_padded pos small, List.drop_left' (length_padded pos small)]

lemma daysIn_le (year month : Nat) : daysIn year month ≤ 31 := by
  unfold daysIn
  split_ifs <;> decide

lemma readTime_isoformat (t : UtcTime) : readTime t.isoformat = some t := by
  obtain ⟨year, month, day, hour, minute, second, microsecond, date, time⟩ := t
  have days := daysIn_le year month
  have chars : (UtcTime.isoformat ⟨year, month, day, hour, minute, second, microsecond, date,
      time⟩).toList = padded 4 year ++ ('-' :: (padded 2 month ++ ('-' :: (padded 2 day ++
      ('T' :: (padded 2 hour ++ (':' :: (padded 2 minute ++ (':' :: (padded 2 second ++
      ((if microsecond = 0 then [] else '.' :: padded 6 microsecond) ++ ['Z']))))))))))) := by
    simp [UtcTime.isoformat]
  have last : (readPart '.' 6 ((if microsecond = 0 then [] else '.' :: padded 6 microsecond) ++
      ['Z'])).getD (0, (if microsecond = 0 then [] else '.' :: padded 6 microsecond) ++ ['Z']) =
      (microsecond, ['Z']) := by
    split_ifs with zero
    · rw [zero]
      rfl
    · rw [List.cons_append, readPart_padded (by decide) (by omega)]
      rfl
  rw [readTime, chars, readPadded_padded (by decide) (by omega),
    List.drop_left' (length_padded (by decide) (by omega))]
  simp only [readPart_padded (show 0 < 2 by decide) (show month < 10 ^ 2 by omega),
    readPart_padded (show 0 < 2 by decide) (show day < 10 ^ 2 by omega),
    readPart_padded (show 0 < 2 by decide) (show hour < 10 ^ 2 by omega),
    readPart_padded (show 0 < 2 by decide) (show minute < 10 ^ 2 by omega),
    readPart_padded (show 0 < 2 by decide) (show second < 10 ^ 2 by omega), last,
    Option.bind_eq_bind, Option.bind_some, if_true]
  rw [dif_pos date, dif_pos time]

/-! ### Members -/

section Members
variable {F : Type}

/-- A member that is a text. -/
def readText (key : String) (json : Json F) : Option String :=
  match member key json with
  | some (.str s) => some s
  | _ => none

/-- A member that is a text or `null`. -/
def readOptionalText (key : String) (json : Json F) : Option (Option String) :=
  match member key json with
  | some (.str s) => some (some s)
  | some .null => some none
  | _ => none

/-- A member that is a count. -/
def readCount (key : String) (json : Json F) : Option Nat :=
  match member key json with
  | some (.int n) => if 0 ≤ n then some n.toNat else none
  | _ => none

/-- A member that is a count or `null`. -/
def readOptionalCount (key : String) (json : Json F) : Option (Option Nat) :=
  match member key json with
  | some .null => some none
  | _ => (readCount key json).map some

/-- The value of an enumeration. -/
def readValue {α : Type} (value : α → String) (all : List α) (s : String) : Option α :=
  all.find? fun a => value a = s

/-- The kinds of artifacts. -/
def ArtifactKind.all : List ArtifactKind :=
  [ .diff, .trajectory, .context, .log, .checkpoint, .predictions, .metrics, .deltaVector,
    .verificationReceipt, .submission, .report, .other ]

/-- The types of events. -/
def EventType.all : List EventType :=
  [ .runStarted, .contractVerified, .baselineVerified, .contextCreated, .plannerRecommended,
    .planningFailed, .experimentProposed, .patchCreated, .patchChecked, .executionStarted,
    .executionFinished, .adapterFailed, .recoveryDecided, .outputChecked, .evaluationCompleted,
    .experimentDecided, .bestUpdated, .lessonRecorded, .lessonStatusChanged, .manualIntervention,
    .runStopped, .finalSelected, .submissionChecked ]

lemma readValue_kind (kind : ArtifactKind) :
    readValue ArtifactKind.value ArtifactKind.all kind.value = some kind := by
  cases kind <;> rfl

lemma readValue_type (type : EventType) :
    readValue EventType.value EventType.all type.value = some type := by
  cases type <;> rfl

lemma readValue_measurement (measurement : TokenMeasurement) :
    readValue TokenMeasurement.value [.provider, .estimated, .none] measurement.value =
      some measurement := by
  cases measurement <;> rfl

variable [Floats F]

/-- The coercion of `ArtifactRef`. -/
def readArtifact (json : Json F) : Option ArtifactRef := do
  let artifactId ← readText "artifact_id" json
  let kind ← (readText "kind" json).bind (readValue ArtifactKind.value ArtifactKind.all)
  let path ← readText "path" json
  let sha256 ← readText "sha256" json
  let sizeBytes ← readCount "size_bytes" json
  let contentType ← readOptionalText "content_type" json
  return ArtifactRef.stripped { artifactId, kind, path, sha256, sizeBytes, contentType }

/-- The coercion of `ResourceDelta`. -/
def readDelta (json : Json F) : Option ResourceDelta := do
  let llmInputTokens ← readCount "llm_input_tokens" json
  let llmOutputTokens ← readCount "llm_output_tokens" json
  let tokenMeasurement ← (readText "token_measurement" json).bind
    (readValue TokenMeasurement.value [.provider, .estimated, .none])
  let wallTimeMs ← readCount "wall_time_ms" json
  let cpuTimeMs ← readCount "cpu_time_ms" json
  let gpuTimeMs ← readCount "gpu_time_ms" json
  let gpuCount ← readCount "gpu_count" json
  let peakRssMb ← readOptionalCount "peak_rss_mb" json
  let peakGpuMemoryMb ← readOptionalCount "peak_gpu_memory_mb" json
  let manualInterventions ← readCount "manual_interventions" json
  return ⟨llmInputTokens, llmOutputTokens, tokenMeasurement, wallTimeMs, cpuTimeMs, gpuTimeMs,
    gpuCount, peakRssMb, peakGpuMemoryMb, manualInterventions⟩

/-- The elements of a member that is an array. -/
def readItems (key : String) (json : Json F) : Option (List (Json F)) :=
  match member key json with
  | some (.arr items) => some items
  | _ => none

/-- The coercion of `Event`, with the given reader of payloads. -/
def coerceEvent {P : Type} (payload : Json F → Option P) (json : Json F) : Option (Event P) := do
  let eventId ← readText "event_id" json
  let seq ← readCount "seq" json
  let timestamp ← (readText "timestamp" json).bind readTime
  let runId ← readText "run_id" json
  let eventType ← (readText "event_type" json).bind (readValue EventType.value EventType.all)
  let idempotencyKey ← readText "idempotency_key" json
  let causationEventId ← readOptionalText "causation_event_id" json
  let artifactRefs ← (readItems "artifact_refs" json).bind fun items => items.mapM readArtifact
  let resourceDelta ← (member "resource_delta" json).bind readDelta
  let prevEventHash ← readText "prev_event_hash" json
  let eventHash ← readText "event_hash" json
  let payload ← (member "payload" json).bind payload
  return {
    eventId := strip eventId
    seq
    timestamp
    runId := strip runId
    eventType
    idempotencyKey := strip idempotencyKey
    causationEventId := causationEventId.map strip
    payload
    artifactRefs
    resourceDelta
    prevEventHash := strip prevEventHash
    eventHash := strip eventHash }

lemma readArtifact_dump (a : ArtifactRef) :
    readArtifact (ArtifactRef.dump (F := F) a) = some a.stripped := by
  have sorted : ArtifactRef.dump (F := F) a = .obj
      [ ("artifact_id", .str a.artifactId),
        ("content_type", optionalText a.contentType),
        ("kind", .str a.kind.value),
        ("path", .str a.path),
        ("sha256", .str a.sha256),
        ("size_bytes", .int a.sizeBytes) ] := by
    simp (disch := decide) only [ArtifactRef.dump, Json.object, List.foldl_cons, List.foldl_nil,
      Json.setMember_nil, Json.setMember_before, Json.setMember_after]
  have contentType : readOptionalText "content_type" (ArtifactRef.dump (F := F) a) =
      some a.contentType := by
    rw [sorted, readOptionalText]
    cases a.contentType <;> simp [member, optionalText]
  rw [readArtifact, contentType, sorted]
  simp [readText, readCount, member, readValue_kind]

lemma readDelta_dump (d : ResourceDelta) : readDelta (dumpDelta (F := F) d) = some d := by
  have sorted : dumpDelta (F := F) d = .obj
      [ ("cpu_time_ms", .int d.cpuTimeMs),
        ("gpu_count", .int d.gpuCount),
        ("gpu_time_ms", .int d.gpuTimeMs),
        ("llm_input_tokens", .int d.llmInputTokens),
        ("llm_output_tokens", .int d.llmOutputTokens),
        ("manual_interventions", .int d.manualInterventions),
        ("peak_gpu_memory_mb", optionalCount d.peakGpuMemoryMb),
        ("peak_rss_mb", optionalCount d.peakRssMb),
        ("token_measurement", .str d.tokenMeasurement.value),
        ("wall_time_ms", .int d.wallTimeMs) ] := by
    simp (disch := decide) only [dumpDelta, Json.object, List.foldl_cons, List.foldl_nil,
      Json.setMember_nil, Json.setMember_before, Json.setMember_after]
  have gpuMemory : readOptionalCount "peak_gpu_memory_mb" (dumpDelta (F := F) d) =
      some d.peakGpuMemoryMb := by
    rw [sorted, readOptionalCount, readCount]
    cases d.peakGpuMemoryMb <;> simp [member, optionalCount]
  have rss : readOptionalCount "peak_rss_mb" (dumpDelta (F := F) d) = some d.peakRssMb := by
    rw [sorted, readOptionalCount, readCount]
    cases d.peakRssMb <;> simp [member, optionalCount]
  rw [readDelta, gpuMemory, rss, sorted]
  simp [readText, readCount, member, readValue_measurement]

/-- The law of coercion on the JSON of an event. -/
theorem coerceEvent_dump {P : Type} [Schema F P] (payload : Json F → Option P) (e : Event P) :
    coerceEvent payload (Event.dump (F := F) e) =
      (payload (Schema.dump e.payload)).map e.stripped := by
  have references : (e.artifactRefs.map (ArtifactRef.dump (F := F))).mapM readArtifact =
      some (e.artifactRefs.map ArtifactRef.stripped) := by
    induction e.artifactRefs with
    | nil => rfl
    | cons a rest ih => simp [readArtifact_dump, ih]
  have cause : readOptionalText "causation_event_id" (Event.dump (F := F) e) =
      some e.causationEventId := by
    rw [Event.dump_eq, readOptionalText]
    cases e.causationEventId <;> simp [member, optionalText]
  have eventId : member "event_id" (Event.dump (F := F) e) = some (.str e.eventId) := by
    rw [Event.dump_eq]
    simp [member]
  have seq : member "seq" (Event.dump (F := F) e) = some (.int e.seq) := by
    rw [Event.dump_eq]
    simp [member]
  have timestamp : member "timestamp" (Event.dump (F := F) e) = some (.str e.timestamp.isoformat) := by
    rw [Event.dump_eq]
    simp [member]
  have runId : member "run_id" (Event.dump (F := F) e) = some (.str e.runId) := by
    rw [Event.dump_eq]
    simp [member]
  have eventType : member "event_type" (Event.dump (F := F) e) = some (.str e.eventType.value) := by
    rw [Event.dump_eq]
    simp [member]
  have key : member "idempotency_key" (Event.dump (F := F) e) = some (.str e.idempotencyKey) := by
    rw [Event.dump_eq]
    simp [member]
  have refs : member "artifact_refs" (Event.dump (F := F) e) = some (.arr (e.artifactRefs.map ArtifactRef.dump)) := by
    rw [Event.dump_eq]
    simp [member]
  have delta : member "resource_delta" (Event.dump (F := F) e) = some (dumpDelta e.resourceDelta) := by
    rw [Event.dump_eq]
    simp [member]
  have prev : member "prev_event_hash" (Event.dump (F := F) e) = some (.str e.prevEventHash) := by
    rw [Event.dump_eq]
    simp [member]
  have hash : member "event_hash" (Event.dump (F := F) e) = some (.str e.eventHash) := by
    rw [Event.dump_eq]
    simp [member]
  simp only [coerceEvent, readText, readCount, readItems, cause, eventId, seq, timestamp, runId,
    eventType, key, refs, delta, prev, hash, member_payload, readTime_isoformat, readValue_type,
    readDelta_dump, references, Option.bind_eq_bind, Option.bind_some, Int.natCast_nonneg, if_true,
    Int.toNat_natCast]
  cases payload (Schema.dump e.payload) <;> rfl

end Members

/-! ### A model -/

/-- `RunStoppedPayload`. -/
structure RunStoppedPayload where
  reasonCode : String
  reason : String
deriving DecidableEq

namespace RunStoppedPayload

def dump (p : RunStoppedPayload) : Json Empty :=
  Json.object
    [("type", .str "run.stopped"), ("reason_code", .str p.reasonCode), ("reason", .str p.reason)]

def stripped (p : RunStoppedPayload) : RunStoppedPayload := ⟨strip p.reasonCode, strip p.reason⟩

def read (json : Json Empty) : Option RunStoppedPayload := do
  let type ← readText "type" json
  let reasonCode ← readText "reason_code" json
  let reason ← readText "reason" json
  if type = "run.stopped" ∧ NonEmpty reasonCode ∧ NonEmpty reason then
    some (stripped { reasonCode, reason })
  else none

lemma dump_eq (p : RunStoppedPayload) : p.dump = .obj
    [("reason", .str p.reason), ("reason_code", .str p.reasonCode), ("type", .str "run.stopped")] := by
  simp (disch := decide) only [dump, Json.object, List.foldl_cons, List.foldl_nil,
    Json.setMember_nil, Json.setMember_before]

lemma read_dump (p : RunStoppedPayload) :
    read p.dump = if NonEmpty p.reasonCode ∧ NonEmpty p.reason then some p.stripped else none := by
  rw [dump_eq]
  simp [read, readText, member]

lemma read_eq {json : Json Empty} {p : RunStoppedPayload} (h : read json = some p) :
    ∃ q : RunStoppedPayload, p = q.stripped ∧ NonEmpty q.reasonCode ∧ NonEmpty q.reason := by
  simp only [read, Option.bind_eq_bind, Option.bind_eq_some_iff] at h
  obtain ⟨type, _, code, _, reason, _, last⟩ := h
  split_ifs at last with nonempty
  cases last
  exact ⟨⟨code, reason⟩, rfl, nonempty.2⟩

end RunStoppedPayload

instance : Schema Empty RunStoppedPayload where
  type _ := .runStopped
  dump := RunStoppedPayload.dump
  data := RunStoppedPayload.dump
  artifacts _ := []
  deltas _ := []
  payload := RunStoppedPayload.read
  coerce := coerceEvent RunStoppedPayload.read

instance : LawfulSchema Empty RunStoppedPayload where
  canonical p := by
    apply Json.canonical_object
    simp [Json.Canonical]
  dump_inj p q same := by
    have members : p.dump = q.dump := same
    rw [RunStoppedPayload.dump_eq, RunStoppedPayload.dump_eq] at members
    cases p
    cases q
    simp_all
  payload_dump json p h := by
    obtain ⟨q, rfl, code, reason⟩ := RunStoppedPayload.read_eq h
    have again : NonEmpty q.stripped.reasonCode ∧ NonEmpty q.stripped.reason := by
      rw [RunStoppedPayload.stripped, NonEmpty, NonEmpty, strip_idem, strip_idem]
      exact ⟨code, reason⟩
    show RunStoppedPayload.read q.stripped.dump = some q.stripped
    rw [RunStoppedPayload.read_dump, if_pos again, RunStoppedPayload.stripped]
    simp [RunStoppedPayload.stripped, strip_idem]
  coerce_dump e := coerceEvent_dump RunStoppedPayload.read e

end TacoRank.Memory
