import TacoRank.Memory.LedgerFile
import TacoRank.Memory.Coercion

/-!
# Append and read

What the reader makes of the line that `append` writes. The hash of an event is computed from the
texts of the call, and the line holds the texts that the schema has stripped, so the reader accepts
the line when the schema leaves the call as it is: `read_append`. `append_read_agree` adds the
duplicates and the failures of `append`, and `interrupted_append` a write that stops early.
-/

namespace TacoRank.Memory
open Lib Lib.Result

section Laws
variable {F P E : Type} [Floats F] [Schema F P]

variable (F) in
/-- The schema leaves the texts of a call as they are and reads its payload back. -/
structure Call.Normal (c : Call P) : Prop where
  runId : strip c.runId = c.runId
  idempotencyKey : strip c.idempotencyKey = c.idempotencyKey
  payload : ∀ p : P, Schema.payload (Schema.dump (F := F) c.payload) = some p → p = c.payload

namespace EventStore

/-- The digest has no collision between two texts. -/
def Separates (s : EventStore F P E) (x y : Json F) : Prop :=
  s.canonicalSha256 x = s.canonicalSha256 y → canonicalBytes x = canonicalBytes y

/-- The digest has no collision between what a call hashes and what is stored. -/
def SeparatesCall (s : EventStore F P E) (events : List (Event P)) (c : Call P) (e : Event P) : Prop :=
  ∀ artifacts, payloadArtifacts F c.payload = .ok artifacts →
    s.Separates (Event.hashInput (c.envelope (Schema.type F c.payload) events artifacts))
      (Event.hashInput e)

variable {s : EventStore F P E} {events : List (Event P)} {c : Call P} {e : Event P}
  {artifacts : List ArtifactRef}

lemma Chain.valid (chain : s.Chain events) (mem : e ∈ events) : e.Valid F := by
  obtain ⟨front, back, rfl⟩ := List.append_of_mem mem
  exact (Log.Valid.accepted chain).valid

/-- The hash that the next event links to has no white space. -/
lemma Chain.strip_lastHash (chain : s.Chain events) : strip (lastHash events) = lastHash events := by
  apply strip_sha256
  cases last : events.getLast? with
  | none =>
    rw [lastHash, last]
    exact (by decide : matchesSha256 genesisHash = true)
  | some e =>
    rw [lastHash, last]
    exact (Chain.valid chain (List.mem_of_getLast? last)).eventHash

/-- The ids of recorded events have no white space. -/
lemma Chain.strip_eventId (chain : s.Chain events) {eventId : String}
    (mem : eventId ∈ events.map Event.eventId) : strip eventId = eventId := by
  obtain ⟨e, found, rfl⟩ := List.mem_map.mp mem
  exact Memory.strip_eventId (Chain.valid chain found).eventId

variable [LawfulSchema F P]

/-- What the schema stores for a call. -/
lemma Recorded.stored (recorded : s.Recorded events c e artifacts) :
    ∃ p, Schema.payload (Schema.dump (F := F) c.payload) = some p ∧
      e = (s.hashed (c.envelope (Schema.type F c.payload) events artifacts)).stripped p ∧
      e.Valid F :=
  modelValidate_dump.mp recorded.event

/-- The schema stores a call that it leaves as it is. -/
lemma Recorded.unchanged (chain : s.Chain events) (recorded : s.Recorded events c e artifacts)
    (normal : c.Normal F) :
    e = s.hashed (c.envelope (Schema.type F c.payload) events artifacts) := by
  obtain ⟨p, payload, stored, valid⟩ := recorded.stored
  have same := normal.payload p payload
  subst same
  have eventId : strip (eventIdOf (events.length + 1)) = eventIdOf (events.length + 1) := by
    have id := valid.eventIdOf
    rw [stored] at id
    exact id
  have cause : c.causationEventId.map strip = c.causationEventId := by
    cases found : c.causationEventId with
    | none => rfl
    | some cause =>
      cases recorded.causation cause found with
      | inl empty =>
        rw [empty]
        rfl
      | inr mem => rw [Option.map_some, chain.strip_eventId mem]
  have references : artifacts.map ArtifactRef.stripped = artifacts := by
    have refs := valid.artifactRefs
    rw [stored] at refs
    exact Except.ok.inj (refs.symm.trans recorded.references)
  have hash : ∀ bytes, strip (s.sha256 bytes) = s.sha256 bytes :=
    fun bytes => strip_sha256 (s.hexdigest bytes)
  rw [stored]
  simp only [Event.stripped, hashed, Call.envelope, canonicalSha256, eventId, cause, references, hash,
    normal.runId, normal.idempotencyKey, chain.strip_lastHash]

variable [Json.LawfulFloats F]

/-- Reading the line of an event. -/
lemma parseLine_dump {decoded : Json F} {e' : Event P} :
    s.parseLine (canonicalBytes (Event.dump (F := F) e)) = .ok (decoded, e') ↔
      decoded = Event.dump e ∧ modelValidate (Event.dump (F := F) e) = some e' ∧
        s.canonicalSha256 (Schema.dump e.payload) = inputHash e'.idempotencyKey := by
  have read : (Lines.decode (canonicalBytes (Event.dump (F := F) e))).bind Json.loads =
      some (Event.dump (F := F) e) := by
    rw [canonicalBytes, Lines.decode_encode, Option.bind_some, Json.loads_dumps e.canonical_dump]
  rw [parseLine_ok, read]
  constructor
  · rintro ⟨same, valid, hash⟩
    cases same
    rw [member_payload, Option.map_some, Option.some.injEq] at hash
    exact ⟨rfl, valid, hash⟩
  · rintro ⟨rfl, valid, hash⟩
    rw [member_payload, Option.map_some, hash]
    exact ⟨rfl, valid, rfl⟩

/-- The reader accepts the line of a call that the schema leaves as it is. -/
lemma Recorded.accepts (chain : s.Chain events) (recorded : s.Recorded events c e artifacts)
    (hash : inputHash c.idempotencyKey = s.canonicalSha256 (Schema.dump c.payload))
    (normal : c.Normal F) :
    s.Accepts (canonicalBytes (Event.dump (F := F) e)) (Event.dump e) e ∧ s.Follows events e := by
  obtain ⟨p, payload, stored, valid⟩ := recorded.stored
  have same := recorded.unchanged chain normal
  have again := Event.reload recorded.event
  subst same
  refine ⟨⟨parseLine_dump.mpr ⟨rfl, again, hash.symm⟩, rfl, ?_⟩, ?_⟩
  · rw [eventHashInput_dump]
    rfl
  · exact
      { valid
        seq := rfl
        prevEventHash := rfl
        runId := recorded.runId
        idempotencyKey := recorded.idempotencyKey
        causation := recorded.causation
        transition := recorded.transition }

/-- The schema left a call as it is whose line the reader accepts. -/
lemma Recorded.normal {decoded : Json F} {e' : Event P}
    (recorded : s.Recorded events c e artifacts)
    (accepts : s.Accepts (canonicalBytes (Event.dump (F := F) e)) decoded e')
    (separates : s.SeparatesCall events c e) : c.Normal F := by
  obtain ⟨p, payload, stored, valid⟩ := recorded.stored
  obtain ⟨rfl, validated, _⟩ := parseLine_dump.mp accepts.parse
  have same : e' = e := by
    rw [Event.reload recorded.event] at validated
    exact (Option.some.inj validated).symm
  subst same
  have hash := accepts.eventHash
  rw [eventHashInput_dump] at hash
  have raw : e'.eventHash = s.canonicalSha256
      (Event.hashInput (c.envelope (Schema.type F c.payload) events artifacts)) := by
    rw [stored]
    exact strip_sha256 (s.hexdigest _)
  have texts := separates artifacts recorded.references (raw.symm.trans hash)
  have inputs := Json.dumps_inj (Event.canonical_hashInput _) (Event.canonical_hashInput _)
    (Lines.encode_inj texts)
  obtain ⟨runId, key, dump⟩ := Event.hashInput_inj inputs
  rw [stored] at runId key dump
  refine ⟨runId.symm, key.symm, fun q reread => ?_⟩
  rw [payload] at reread
  cases reread
  exact (LawfulSchema.dump_inj _ _ dump).symm

variable [ToString E]

/-- The reader on the file that an append leaves: it accepts the new line exactly when the schema
leaves the call as it is, and then as the returned event. -/
theorem read_append {data : List UInt8} {events' : List (Event P)}
    (accepted : s.readLocked data = .ok events) (ok : s.newEvent events c = .ok e)
    (hash : inputHash c.idempotencyKey = s.canonicalSha256 (Schema.dump c.payload))
    (separates : s.SeparatesCall events c e) :
    s.readLocked (data ++ s.line e) = .ok events' ↔ c.Normal F ∧ events' = events ++ [e] := by
  obtain ⟨artifacts, recorded⟩ := newEvent_ok.mp ok
  rw [line, readLocked_append accepted (newline_notMem _)]
  constructor
  · rintro ⟨decoded, e', accepts, _, rfl⟩
    obtain ⟨_, validated, _⟩ := parseLine_dump.mp accepts.parse
    rw [Event.reload recorded.event] at validated
    exact ⟨recorded.normal accepts separates, by rw [Option.some.inj validated]⟩
  · rintro ⟨normal, rfl⟩
    obtain ⟨accepts, follows⟩ := recorded.accepts (chain_of_read accepted) hash normal
    exact ⟨_, e, accepts, follows, rfl⟩

end EventStore
end Laws

/-! ### A stop -/

section Stop

/-- The reason of a stop. -/
def stopped : RunStoppedPayload := { reasonCode := "MANUAL_STOP", reason := "done" }

/-- The key of the stop. -/
def stopKey : String := "r:run:stop:0:cdf6dcd7027c5f68a6a71450cdfd6bd348f7664b9f5dfaa63e71fd0a6c6460d2"

/-- A call that records a stop under a key. -/
def stopCall (key : String) : Call RunStoppedPayload where
  runId := "r"
  payload := stopped
  idempotencyKey := key
  timestamp := { year := 2026, month := 1, day := 1, date := by decide, time := by decide }

/-- The envelope of such a call on an empty ledger. -/
def stopEnvelope (key : String) : Event RunStoppedPayload :=
  (stopCall key).envelope .runStopped [] []

/-- SHA-256 on the payload and on the texts that the calls with the key, and with a blank before it,
hash. -/
@[irreducible] def stopDigest (bytes : List UInt8) : String :=
  if bytes = canonicalBytes stopped.dump then
    "cdf6dcd7027c5f68a6a71450cdfd6bd348f7664b9f5dfaa63e71fd0a6c6460d2"
  else if bytes = canonicalBytes (F := Empty) (Event.hashInput (stopEnvelope stopKey)) then
    "d74976cea2f7ec6c81b63cf097a6cbd1a762808902fda402ec7abbed40d2cf18"
  else if bytes = canonicalBytes (F := Empty) (Event.hashInput (stopEnvelope (" " ++ stopKey))) then
    "1d1f2c95960793759a1a1274bfb4e8fbdf0dcb57474110d9ce5721b8bbf1d9ad"
  else genesisHash

def stopStore : EventStore Empty RunStoppedPayload String where
  sha256 := stopDigest
  hexdigest bytes := by
    unfold stopDigest
    split_ifs <;> decide

lemma canonicalSha256_stopStore (json : Json Empty) :
    stopStore.canonicalSha256 json = stopDigest (canonicalBytes json) := rfl

lemma hashInput_ne_payload (e : Event RunStoppedPayload) :
    canonicalBytes (F := Empty) (Event.hashInput e) ≠ canonicalBytes stopped.dump := by
  intro same
  have values := Json.dumps_inj e.canonical_hashInput
    (LawfulSchema.canonical (F := Empty) stopped) (Lines.encode_inj same)
  rw [Event.hashInput_eq, show Schema.dump stopped = stopped.dump from rfl,
    RunStoppedPayload.dump_eq] at values
  simp at values

lemma sha256_payload (key : String) :
    stopStore.canonicalSha256 (Schema.dump (stopCall key).payload) = inputHash stopKey := by
  have known : inputHash stopKey =
      "cdf6dcd7027c5f68a6a71450cdfd6bd348f7664b9f5dfaa63e71fd0a6c6460d2" := by decide
  have dump : Schema.dump (stopCall key).payload = stopped.dump := rfl
  rw [canonicalSha256_stopStore, dump, stopDigest, if_pos rfl, known]

lemma sha256_kept : stopStore.canonicalSha256 (Event.hashInput (stopEnvelope stopKey)) =
    "d74976cea2f7ec6c81b63cf097a6cbd1a762808902fda402ec7abbed40d2cf18" := by
  rw [canonicalSha256_stopStore, stopDigest, if_neg (hashInput_ne_payload _), if_pos rfl]

lemma sha256_blank : stopStore.canonicalSha256 (Event.hashInput (stopEnvelope (" " ++ stopKey))) =
    "1d1f2c95960793759a1a1274bfb4e8fbdf0dcb57474110d9ce5721b8bbf1d9ad" := by
  have other : canonicalBytes (F := Empty) (Event.hashInput (stopEnvelope (" " ++ stopKey))) ≠
      canonicalBytes (F := Empty) (Event.hashInput (stopEnvelope stopKey)) := by
    intro same
    have inputs := Json.dumps_inj (Event.canonical_hashInput _) (Event.canonical_hashInput _)
      (Lines.encode_inj same)
    have keys : " " ++ stopKey = stopKey := (Event.hashInput_inj inputs).2.1
    exact absurd (congrArg String.length keys) (by simp)
  rw [canonicalSha256_stopStore, stopDigest, if_neg (hashInput_ne_payload _), if_neg other, if_pos rfl]

/-- The stored event of a call. -/
def stopEvent (key : String) : Event RunStoppedPayload :=
  (stopStore.hashed (stopEnvelope key)).stripped stopped

lemma stopEvent_key (key : String) : (stopEvent key).idempotencyKey = strip key := rfl

lemma strip_stopKey : strip stopKey = stopKey := by
  have visible : (stopKey.toList.all fun c => !isWhitespace c) = true := by decide
  exact strip_visible (by simpa only [List.all_eq_true, Bool.not_eq_true'] using visible)

lemma strip_blank : strip (" " ++ stopKey) = stopKey := by decide

lemma inputHash_blank : inputHash (" " ++ stopKey) = inputHash stopKey := by decide

lemma read_empty : stopStore.readLocked [] = .ok [] := rfl

/-- The store records the stop when its key is one after stripping. -/
lemma append_stop {key : String} (kept : strip key = stopKey)
    (hash : inputHash key = inputHash stopKey) :
    stopStore.append [] (stopCall key) = (.ok (stopEvent key), stopStore.line (stopEvent key)) := by
  have storedKey : (stopEvent key).idempotencyKey = stopKey := (stopEvent_key key).trans kept
  have storedHash : (stopEvent key).eventHash = stopStore.canonicalSha256
      (Event.hashInput (stopEnvelope key)) := strip_sha256 (stopStore.hexdigest _)
  have runId : (stopEvent key).runId = "r" := (by decide : strip "r" = "r")
  have eventId : (stopEvent key).eventId = eventIdOf 1 :=
    (by decide : strip (eventIdOf 1) = eventIdOf 1)
  have previous : (stopEvent key).prevEventHash = genesisHash :=
    strip_sha256 (by decide : matchesSha256 genesisHash = true)
  have valid : (stopEvent key).Valid Empty :=
    { runId := by
        rw [runId]
        decide
      idempotencyKey := by
        rw [storedKey]
        decide
      seq := le_refl _
      eventId := by
        rw [eventId]
        decide
      causation := fun cause mem => by cases mem
      prevEventHash := by
        rw [previous]
        decide
      eventHash := by
        rw [storedHash]
        exact stopStore.hexdigest _
      references := fun a mem => by cases mem
      eventIdOf := eventId
      eventType := rfl
      key := by
        rw [runId, storedKey]
        decide
      artifactRefs := rfl
      resourceDelta := fun d mem => by cases mem }
  have read : Schema.payload (Schema.dump (F := Empty) stopped) = some stopped := by decide
  have event : modelValidate (Event.dump (F := Empty) (stopStore.hashed (stopEnvelope key))) =
      some (stopEvent key) :=
    modelValidate_dump.mpr ⟨stopped, read, rfl, valid⟩
  have nested : collectRunIds (Schema.data (F := Empty) stopped) = [] := by
    show collectRunIds stopped.dump = []
    rw [RunStoppedPayload.dump_eq]
    simp [collectRunIds, collectMembers]
  have recorded : stopStore.newEvent [] (stopCall key) = .ok (stopEvent key) := by
    refine EventStore.newEvent_ok.mpr ⟨[], ?_⟩
    exact
      { idempotencyKey := by simp
        runId := fun first mem => by cases mem
        causation := fun cause mem => by cases mem
        nested := fun runId mem => by
          rw [show (stopCall key).payload = stopped from rfl, nested] at mem
          cases mem
        transition := rfl
        references := rfl
        verified := rfl
        event }
  rw [EventStore.append_accepted read_empty, EventStore.appendTo, recorded]
  exact if_pos (hash.trans (sha256_payload key).symm)

/-- The schema has stripped the key of the stored event. -/
lemma hashInput_stopEvent {key : String} (kept : strip key = stopKey) :
    Event.hashInput (F := Empty) (stopEvent key) = Event.hashInput (stopEnvelope stopKey) := by
  have storedKey : (stopEvent key).idempotencyKey = stopKey := (stopEvent_key key).trans kept
  have runId : (stopEvent key).runId = "r" := (by decide : strip "r" = "r")
  have eventId : (stopEvent key).eventId = eventIdOf 1 :=
    (by decide : strip (eventIdOf 1) = eventIdOf 1)
  have previous : (stopEvent key).prevEventHash = genesisHash :=
    strip_sha256 (by decide : matchesSha256 genesisHash = true)
  rw [Event.hashInput_eq, Event.hashInput_eq, storedKey, runId, eventId, previous]
  rfl

lemma references_stop {key : String} {artifacts : List ArtifactRef}
    (references : payloadArtifacts Empty (stopCall key).payload = .ok artifacts) : artifacts = [] := by
  cases references
  rfl

lemma separates_kept : stopStore.SeparatesCall [] (stopCall stopKey) (stopEvent stopKey) := by
  intro artifacts references _
  rw [references_stop references, hashInput_stopEvent strip_stopKey]
  rfl

lemma separates_blank :
    stopStore.SeparatesCall [] (stopCall (" " ++ stopKey)) (stopEvent (" " ++ stopKey)) := by
  intro artifacts references same
  rw [references_stop references, hashInput_stopEvent strip_blank] at same
  have digests := sha256_blank.symm.trans (same.trans sha256_kept)
  exact absurd digests (by decide)

lemma normal_kept : (stopCall stopKey).Normal Empty where
  runId := by decide
  idempotencyKey := strip_stopKey
  payload p read := by
    have known : Schema.payload (Schema.dump (F := Empty) stopped) = some stopped := by decide
    exact Option.some.inj (read.symm.trans known)

lemma notNormal_blank : ¬ (stopCall (" " ++ stopKey)).Normal Empty := by
  intro normal
  have same : stopKey = " " ++ stopKey := strip_blank.symm.trans normal.idempotencyKey
  exact absurd (congrArg String.length same) (by simp)

/-- Nothing can be read from the file of the call with a blank before its key. -/
lemma unreadable_blank (events : List (Event RunStoppedPayload)) :
    stopStore.readLocked (stopStore.line (stopEvent (" " ++ stopKey))) ≠ .ok events := by
  intro read
  rcases EventStore.append_cases read_empty (append_stop strip_blank inputHash_blank) with
    ⟨e, same, ok, _, hash⟩ | ⟨_, same, _⟩
  · cases same
    exact notNormal_blank ((EventStore.read_append read_empty ok hash separates_blank).mp read).1
  · cases same

end Stop

section Agreement
variable {F P E : Type} [Floats F] [Json.LawfulFloats F] [Schema F P] [LawfulSchema F P] [ToString E]
  {s : EventStore F P E} {events : List (Event P)}

namespace EventStore

/-- What an append does to a file that the reader accepts. When it returns an event, the file reads
back as the events before it and this event, in one chain, exactly when the schema leaves the call as
it is; a recorded key raises with its event; and nothing is written when it raises. -/
theorem append_read_agree {data : List UInt8} (accepted : s.readLocked data = .ok events)
    (c : Call P) :
    (∀ e file, s.append data c = (.ok e, file) → s.SeparatesCall events c e →
      ((s.readLocked file = .ok (events ++ [e]) ∧ s.Chain (events ++ [e])) ↔ c.Normal F)) ∧
    (∀ existing ∈ events, existing.idempotencyKey = c.idempotencyKey →
      inputHash c.idempotencyKey = s.canonicalSha256 (Schema.dump c.payload) →
      s.append data c = (.error (.duplicateIdempotencyKey c.idempotencyKey existing), data)) ∧
    (∀ error file, s.append data c = (.error error, file) → file = data) := by
  refine ⟨?_, fun existing mem key hash => append_duplicate accepted mem key hash, ?_⟩
  · intro e file run separates
    rcases append_cases accepted run with ⟨e', same, ok, rfl, hash⟩ | ⟨error, same, _⟩
    · cases same
      have read : s.readLocked (data ++ s.line e) = .ok (events ++ [e]) ↔ _ :=
        read_append accepted ok hash separates
      constructor
      · exact fun agree => (read.mp agree.1).1
      · intro normal
        have again := read.mpr ⟨normal, rfl⟩
        exact ⟨again, chain_of_read again⟩
    · cases same
  · intro error file run
    rcases append_cases accepted run with ⟨e, same, _⟩ | ⟨_, _, rfl⟩
    · cases same
    · rfl

end EventStore
end Agreement

theorem append_read_agree_stop :
    let file := stopStore.line (stopEvent stopKey)
    stopStore.append [] (stopCall stopKey) = (.ok (stopEvent stopKey), file) ∧
      stopStore.readLocked file = .ok [stopEvent stopKey] ∧
      stopStore.append file (stopCall stopKey) =
        (.error (.duplicateIdempotencyKey stopKey (stopEvent stopKey)), file) := by
  have appended := append_stop strip_stopKey rfl
  have first := EventStore.append_read_agree read_empty (stopCall stopKey)
  have read := ((first.1 _ _ appended separates_kept).mpr normal_kept).1
  have second := EventStore.append_read_agree read (stopCall stopKey)
  have key : (stopEvent stopKey).idempotencyKey = (stopCall stopKey).idempotencyKey :=
    (stopEvent_key stopKey).trans strip_stopKey
  have mem : stopEvent stopKey ∈ [] ++ [stopEvent stopKey] := by simp
  have repeated := second.2.1 _ mem key (sha256_payload stopKey).symm
  exact ⟨appended, read, repeated⟩

theorem appended_event_unreadable :
    stopStore.readLocked [] = .ok [] ∧
      stopStore.append [] (stopCall (" " ++ stopKey)) =
        (.ok (stopEvent (" " ++ stopKey)), stopStore.line (stopEvent (" " ++ stopKey))) ∧
      ∀ events, stopStore.readLocked (stopStore.line (stopEvent (" " ++ stopKey))) ≠ .ok events :=
  ⟨read_empty, append_stop strip_blank inputHash_blank, unreadable_blank⟩

section Interruption
variable {F P E : Type} [Floats F] [Json.LawfulFloats F] [Schema F P] [LawfulSchema F P] [ToString E]
  {s : EventStore F P E} {events : List (Event P)}

namespace EventStore

/-- A write that stops after some bytes of the line. The repair leaves the file before the write, or
the whole line; the repaired file holds the events before it, or these and the new one, except when
the whole line of a call was written that the schema has changed. -/
theorem interrupted_append {data file : List UInt8} (accepted : s.readLocked data = .ok events)
    (c : Call P) (e : Event P) (run : s.append data c = (.ok e, file))
    (separates : s.SeparatesCall events c e) (n : Nat) (written : n ≤ (s.line e).length) :
    let repaired := (s.repairIncompleteTail (data ++ (s.line e).take n)).2
    data <+: repaired ∧
      (s.Holds repaired (if n = (s.line e).length then events ++ [e] else events) ↔
        (n = (s.line e).length → c.Normal F)) := by
  rcases append_cases accepted run with ⟨e', same, ok, rfl, hash⟩ | ⟨error, same, _⟩
  · cases same
    have complete := (readLocked_ok.mp accepted).1
    dsimp only [repairIncompleteTail]
    rw [holds_iff]
    by_cases whole : n = (s.line e).length
    · subst whole
      have ended : Lines.Complete newline (data ++ s.line e) := Lines.complete_append
      rw [List.take_length, Lines.repair_complete ended, if_pos rfl,
        read_append accepted ok hash separates]
      exact ⟨List.prefix_append _ _, by simp⟩
    · have torn : newline ∉ (s.line e).take n := by
        have short : n ≤ (canonicalBytes (Event.dump (F := F) e)).length := by
          have size : (s.line e).length = (canonicalBytes (Event.dump (F := F) e)).length + 1 := by
            simp [line]
          omega
        rw [line, List.take_append_of_le_length short]
        exact fun mem => newline_notMem _ (List.mem_of_mem_take mem)
      rw [Lines.repair_torn complete torn, if_neg whole]
      exact ⟨List.prefix_refl _, by simp [accepted, whole]⟩
  · cases same

end EventStore
end Interruption

theorem interrupted_append_stop :
    let line := stopStore.line (stopEvent stopKey)
    stopStore.Holds (stopStore.repairIncompleteTail (line.take (line.length - 1))).2 [] ∧
      stopStore.Holds (stopStore.repairIncompleteTail (line.take line.length)).2
        [stopEvent stopKey] := by
  have appended := append_stop strip_stopKey rfl
  have size : (stopStore.line (stopEvent stopKey)).length - 1 ≠
      (stopStore.line (stopEvent stopKey)).length := by
    rw [EventStore.line, List.length_append]
    simp
  have cut := fun n => EventStore.interrupted_append read_empty (stopCall stopKey)
    (stopEvent stopKey) appended separates_kept n
  constructor
  · have torn := (cut _ (Nat.sub_le _ 1)).2.mpr fun whole => absurd whole size
    rw [if_neg size, List.nil_append] at torn
    exact torn
  · have whole := (cut _ le_rfl).2.mpr fun _ => normal_kept
    rw [if_pos rfl, List.nil_append, List.nil_append] at whole
    exact whole

theorem interrupted_append_unreadable :
    let line := stopStore.line (stopEvent (" " ++ stopKey))
    stopStore.readLocked [] = .ok [] ∧
      stopStore.append [] (stopCall (" " ++ stopKey)) =
        (.ok (stopEvent (" " ++ stopKey)), line) ∧
      ∀ events,
        stopStore.readLocked (stopStore.repairIncompleteTail (line.take line.length)).2 ≠
          .ok events := by
  have ended : Lines.Complete newline (stopStore.line (stopEvent (" " ++ stopKey))) := by
    rw [← List.nil_append (stopStore.line _)]
    exact Lines.complete_append
  refine ⟨read_empty, append_stop strip_blank inputHash_blank, fun events read => ?_⟩
  dsimp only [EventStore.repairIncompleteTail] at read
  rw [List.take_length, Lines.repair_complete ended] at read
  exact unreadable_blank events read

end TacoRank.Memory
