import TacoRank.Memory.Envelope
import TacoRank.Orchestrator.Ledger

/-!
# The ledger file

`EventStore` of `memory/event_store.py` on the bytes of the ledger file: the repair of an incomplete
tail, the reader of the hash chain and `append`. A file is the list of its bytes; a missing file is
an empty one, and the lock keeps other writers away. `Chain` is what the reader has checked about all
lines (`chain_of_read`, and `validLedger_of_read` for the validator of the state machine),
`readLocked_append` what it makes of one more line, and `append_cases` what an append does to a file
that the reader accepts.
-/

namespace TacoRank.Memory
open Lib Lib.Result

/-- What the store raises: `raised` comes from the transition validator and the artifact store,
`valueError` from `payload_artifacts`. -/
inductive StoreError (P E : Type) where
  | ledgerError (message : String)
  | ledgerCorruptionError (message : String)
  | duplicateIdempotencyKey (key : String) (event : Event P)
  | valueError (message : String)
  | validationError
  | raised (error : E)
deriving DecidableEq

/-- `EventStore`, with the digest that it uses. -/
structure EventStore (F P E : Type) where
  /-- The digest of SHA-256 in lowercase hexadecimal digits. -/
  sha256 : List UInt8 → String
  hexdigest : ∀ bytes, matchesSha256 (sha256 bytes) = true
  transitionValidator : Option (List (Event P) → P → Except E Unit) := none
  artifactStore : Option (ArtifactRef → Except E Unit) := none

/-- The arguments of `append`; the timestamp is the given one or the time of the call. -/
structure Call (P : Type) where
  runId : String
  payload : P
  idempotencyKey : String
  causationEventId : Option String := none
  resourceDelta : Option ResourceDelta := none
  timestamp : UtcTime

/-- `GENESIS_HASH`. -/
def genesisHash : String := String.ofList (List.replicate 64 '0')

/-- The byte that ends a line. -/
def newline : UInt8 := 10

/-- The state of the reader's loop. -/
structure Scan (P : Type) where
  events : List (Event P) := []
  previousHash : String := genesisHash
  runId : Option String := none
  idempotency : List String := []

/-- The hash that the next event links to. -/
def lastHash {P : Type} (events : List (Event P)) : String :=
  (events.getLast?.map Event.eventHash).getD genesisHash

/-- The state of the reader after the given events. -/
def Scan.of {P : Type} (events : List (Event P)) : Scan P :=
  { events
    previousHash := lastHash events
    runId := events.head?.map Event.runId
    idempotency := events.map Event.idempotencyKey }

lemma lastHash_append {P : Type} (events : List (Event P)) (e : Event P) :
    lastHash (events ++ [e]) = e.eventHash := by
  simp [lastHash]

/-- The state after one more event. -/
lemma Scan.of_append {P : Type} (events : List (Event P)) (e : Event P) :
    Scan.of (events ++ [e]) =
      { events := events ++ [e]
        previousHash := e.eventHash
        runId := some ((events.head?.map Event.runId).getD e.runId)
        idempotency := events.map Event.idempotencyKey ++ [e.idempotencyKey] } := by
  rw [Scan.of, lastHash_append]
  cases events <;> simp

section Store
variable {F P E : Type} [Floats F]

/-- `canonical_bytes`. -/
def canonicalBytes (json : Json F) : List UInt8 := Lines.encode (Json.dumps json)

/-- A check of the reader. -/
def check (condition : Prop) [Decidable condition] (message : String) :
    Except (StoreError P E) Unit :=
  if condition then .ok () else .error (.ledgerCorruptionError message)

/-- A guard of `append`. -/
def refuse (condition : Bool) (error : StoreError P E) : Except (StoreError P E) Unit :=
  if condition then .error error else .ok ()

namespace EventStore

/-- `canonical_sha256`. -/
def canonicalSha256 (s : EventStore F P E) (json : Json F) : String := s.sha256 (canonicalBytes json)

variable [Schema F P]

/-- The line of an event. -/
def line (_ : EventStore F P E) (event : Event P) : List UInt8 :=
  canonicalBytes (Event.dump (F := F) event) ++ [newline]

/-- The value and the event of a line. Of a library's error the text is left out. -/
def parseLine (s : EventStore F P E) (raw : List UInt8) : Except String (Json F × Event P) :=
  match Lines.decode raw with
  | none => .error "UnicodeDecodeError"
  | some text =>
    match Json.loads text with
    | none => .error "JSONDecodeError"
    | some decoded =>
      match modelValidate decoded with
      | none => .error "ValidationError"
      | some event =>
        if (member "payload" decoded).map s.canonicalSha256 = some (inputHash event.idempotencyKey)
        then .ok (decoded, event)
        else .error "idempotency key input hash does not match payload"

variable [ToString E]

/-- The validator of the store accepts the payload. -/
def validates (s : EventStore F P E) (events : List (Event P)) (payload : P) : Except E Unit :=
  match s.transitionValidator with
  | some validator => validator events payload
  | none => .ok ()

/-- The artifact store of the store verifies the references. -/
def verifies (s : EventStore F P E) (artifacts : List ArtifactRef) : Except E Unit :=
  match s.artifactStore with
  | some verify => artifacts.forM verify
  | none => .ok ()

/-- The duplicate check of `append`. -/
def acknowledged (_ : EventStore F P E) (events : List (Event P)) (key : String) :
    Except (StoreError P E) Unit :=
  match events.find? fun existing => existing.idempotencyKey = key with
  | some existing => .error (.duplicateIdempotencyKey key existing)
  | none => .ok ()

/-- One round of the loop in `_read_locked`. -/
def readLine (s : EventStore F P E) (scan : Scan P) (raw : List UInt8) :
    Except (StoreError P E) (Scan P) := do
  let number := toString (scan.events.length + 1)
  let (decoded, event) ← (s.parseLine raw).mapError fun reason =>
    .ledgerCorruptionError ("invalid complete ledger line " ++ number ++ ": " ++ reason)
  check (raw = canonicalBytes decoded) ("ledger line " ++ number ++ " is not canonical JSON")
  check (event.seq = scan.events.length + 1)
    ("non-contiguous sequence at line " ++ number ++ ": expected " ++ number)
  check (event.prevEventHash = scan.previousHash)
    ("prev_event_hash mismatch at " ++ event.eventId)
  check (event.eventHash = s.canonicalSha256 (eventHashInput decoded))
    ("event_hash mismatch at " ++ event.eventId)
  check (scan.runId.all fun runId => event.runId = runId) "a ledger may contain only one run_id"
  check (event.idempotencyKey ∉ scan.idempotency) "duplicate idempotency key in ledger"
  check (event.causationEventId.all fun cause =>
      cause = "" ∨ cause ∈ scan.events.map Event.eventId)
    ("unknown causation event " ++ event.causationEventId.getD "")
  (s.validates scan.events event.payload).mapError fun error =>
    .ledgerCorruptionError ("illegal transition at " ++ event.eventId ++ ": " ++ toString error)
  return {
    events := scan.events ++ [event]
    previousHash := event.eventHash
    runId := some (scan.runId.getD event.runId)
    idempotency := scan.idempotency ++ [event.idempotencyKey] }

/-- `_read_locked`. -/
def readLocked (s : EventStore F P E) (data : List UInt8) :
    Except (StoreError P E) (List (Event P)) :=
  if Lines.Complete newline data then
    Scan.events <$> (Lines.lines newline data).foldlM s.readLine {}
  else .error (.ledgerCorruptionError "ledger has an incomplete trailing fragment")

/-- `repair_incomplete_tail`: whether the file was cut, and the file after it. -/
def repairIncompleteTail (_ : EventStore F P E) (data : List UInt8) : Bool × List UInt8 :=
  let repaired := Lines.repair newline data
  (decide (data.length ≠ repaired.length), repaired)

end EventStore

/-- The envelope of a call after the given events, before it is hashed. -/
def Call.envelope (c : Call P) (type : EventType) (events : List (Event P))
    (artifacts : List ArtifactRef) : Event P :=
  { eventId := eventIdOf (events.length + 1)
    seq := events.length + 1
    timestamp := c.timestamp
    runId := c.runId
    eventType := type
    idempotencyKey := c.idempotencyKey
    causationEventId := c.causationEventId
    payload := c.payload
    artifactRefs := artifacts
    resourceDelta := c.resourceDelta.getD {}
    prevEventHash := lastHash events
    eventHash := "" }

namespace EventStore
variable [Schema F P] [ToString E]

/-- An envelope with its hash. -/
def hashed (s : EventStore F P E) (envelope : Event P) : Event P :=
  { envelope with eventHash := s.canonicalSha256 (Event.hashInput envelope) }

/-- The part of `append` between the read and the write. -/
def newEvent (s : EventStore F P E) (events : List (Event P)) (c : Call P) :
    Except (StoreError P E) (Event P) := do
  s.acknowledged events c.idempotencyKey
  refuse (events.head?.any fun first => first.runId ≠ c.runId)
    (.ledgerError "run_id does not match the existing ledger")
  refuse (c.causationEventId.any fun cause => cause ≠ "" ∧ cause ∉ events.map Event.eventId)
    (.ledgerError "causation_event_id does not exist")
  refuse ((collectRunIds (Schema.data (F := F) c.payload)).any fun runId => runId ≠ c.runId)
    (.ledgerError "payload run_id does not match event envelope")
  (s.validates events c.payload).mapError .raised
  let artifacts ← (payloadArtifacts F c.payload).mapError .valueError
  (s.verifies artifacts).mapError .raised
  let envelope := c.envelope (Schema.type F c.payload) events artifacts
  match modelValidate (Event.dump (F := F) (s.hashed envelope)) with
  | some event => return event
  | none => throw .validationError

/-- The rest of `append` on a file that holds the given events: the result, and the file after it. -/
def appendTo (s : EventStore F P E) (file : List UInt8) (events : List (Event P)) (c : Call P) :
    Except (StoreError P E) (Event P) × List UInt8 :=
  match s.newEvent events c with
  | .ok event => (.ok event, file ++ s.line event)
  | .error error => (.error error, file)

/-- `append`: the result, and the file after it. -/
def append (s : EventStore F P E) (data : List UInt8) (c : Call P) :
    Except (StoreError P E) (Event P) × List UInt8 :=
  if inputHash c.idempotencyKey = s.canonicalSha256 (Schema.dump c.payload) then
    let file := (s.repairIncompleteTail data).2
    match s.readLocked file with
    | .ok events => s.appendTo file events c
    | .error error => (.error error, file)
  else (.error (.ledgerError "idempotency key input hash does not match payload"), data)

end EventStore

/-! ### The reader -/

@[simp] lemma check_ok {condition : Prop} [Decidable condition] {message : String} {u : Unit} :
    (check condition message : Except (StoreError P E) Unit) = .ok u ↔ condition := by
  unfold check
  by_cases h : condition <;> simp [h]

@[simp] lemma refuse_ok {condition : Bool} {error : StoreError P E} {u : Unit} :
    refuse condition error = .ok u ↔ condition = false := by
  unfold refuse
  cases condition <;> simp

/-- A canonical text holds no line break. -/
lemma newline_notMem [Json.LawfulFloats F] (json : Json F) : newline ∉ canonicalBytes json := by
  intro mem
  obtain ⟨c, found, code⟩ := Lines.mem_encode (by decide) mem
  have visible := Json.dumps_visible json c found
  rw [code] at visible
  exact absurd visible (by decide)

namespace EventStore
variable [Schema F P] [ToString E]

/-- What the reader checks about an event against the events before it. -/
structure Follows (s : EventStore F P E) (events : List (Event P)) (e : Event P) : Prop where
  valid : e.Valid F
  seq : e.seq = events.length + 1
  prevEventHash : e.prevEventHash = lastHash events
  runId : ∀ first ∈ events.head?, e.runId = first.runId
  idempotencyKey : e.idempotencyKey ∉ events.map Event.idempotencyKey
  causation : ∀ cause ∈ e.causationEventId, cause = "" ∨ cause ∈ events.map Event.eventId
  transition : s.validates events e.payload = .ok ()

/-- A chain of events: contiguous sequence numbers, linked hashes, one run id, unique keys, causes
in the past and legal transitions. -/
abbrev Chain (s : EventStore F P E) (events : List (Event P)) : Prop := Log.Valid s.Follows events

/-- The reader accepts a line as an event. -/
structure Accepts (s : EventStore F P E) (raw : List UInt8) (decoded : Json F) (e : Event P) :
    Prop where
  parse : s.parseLine raw = .ok (decoded, e)
  canonical : raw = canonicalBytes decoded
  eventHash : e.eventHash = s.canonicalSha256 (eventHashInput decoded)

omit [ToString E] in
lemma parseLine_ok {s : EventStore F P E} {raw : List UInt8} {decoded : Json F} {e : Event P} :
    s.parseLine raw = .ok (decoded, e) ↔
      (Lines.decode raw).bind Json.loads = some decoded ∧ modelValidate decoded = some e ∧
        (member "payload" decoded).map s.canonicalSha256 = some (inputHash e.idempotencyKey) := by
  unfold parseLine
  cases Lines.decode raw with
  | none => simp
  | some text =>
    dsimp only [Option.bind_some]
    cases Json.loads (F := F) text with
    | none => simp
    | some json =>
      cases valid : modelValidate (P := P) json with
      | none =>
        simp only [valid, reduceCtorEq, Option.some.injEq, false_iff, not_and]
        rintro rfl same
        rw [valid] at same
        cases same
      | some event =>
        simp only [valid]
        split_ifs with hash
        · simp only [Except.ok.injEq, Prod.mk.injEq, Option.some.injEq]
          constructor
          · rintro ⟨rfl, rfl⟩
            exact ⟨rfl, valid, hash⟩
          · rintro ⟨rfl, same, _⟩
            rw [valid] at same
            exact ⟨rfl, Option.some.inj same⟩
        · simp only [Option.some.injEq, false_iff, not_and]
          rintro rfl same
          rw [valid, Option.some.injEq] at same
          rwa [← same]

/-- One round of the loop: the line is accepted and follows the events before it. -/
lemma readLine_ok {s : EventStore F P E} {events : List (Event P)} {raw : List UInt8}
    {scan : Scan P} :
    s.readLine (Scan.of events) raw = .ok scan ↔
      ∃ decoded e, s.Accepts raw decoded e ∧ s.Follows events e ∧ scan = Scan.of (events ++ [e]) := by
  simp only [readLine, bind_eq_ok, mapError_ok, check_ok, pure_eq_ok, Prod.exists]
  constructor
  · rintro ⟨decoded, e, parse, _, canonical, _, seq, _, prev, _, hash, _, run, _, key, _, cause, _,
      transition, rfl⟩
    refine ⟨decoded, e, ⟨parse, canonical, hash⟩, ?_, (Scan.of_append events e).symm⟩
    exact
      { valid := modelValidate_valid (parseLine_ok.mp parse).2.1
        seq, prevEventHash := prev, idempotencyKey := key, transition
        runId := by simpa [Scan.of, Option.all_eq_true] using run
        causation := by simpa [Scan.of, Option.all_eq_true] using cause }
  · rintro ⟨decoded, e, accepts, follows, rfl⟩
    refine ⟨decoded, e, accepts.parse, (), accepts.canonical, (), follows.seq, (),
      follows.prevEventHash, (), accepts.eventHash, (), ?_, (), follows.idempotencyKey, (), ?_, (),
      follows.transition, (Scan.of_append events e).symm⟩
    · simpa [Scan.of, Option.all_eq_true] using follows.runId
    · simpa [Scan.of, Option.all_eq_true] using follows.causation

/-- The loop keeps the state of the reader and checks a chain. -/
lemma foldlM_readLine {s : EventStore F P E} {raws : List (List UInt8)} {scan : Scan P}
    (ok : raws.foldlM s.readLine {} = .ok scan) :
    scan = Scan.of scan.events ∧ s.Chain scan.events := by
  induction raws using List.reverseRecOn generalizing scan with
  | nil =>
    cases ok
    exact ⟨rfl, .nil⟩
  | append_singleton raws raw ih =>
    rw [foldlM_snoc, bind_eq_ok] at ok
    obtain ⟨before, earlier, step⟩ := ok
    obtain ⟨state, chain⟩ := ih earlier
    rw [state] at step
    obtain ⟨decoded, e, _, follows, rfl⟩ := readLine_ok.mp step
    exact ⟨rfl, chain.snoc follows⟩

lemma readLocked_ok {s : EventStore F P E} {data : List UInt8} {events : List (Event P)} :
    s.readLocked data = .ok events ↔
      Lines.Complete newline data ∧
        (Lines.lines newline data).foldlM s.readLine {} = .ok (Scan.of events) := by
  unfold readLocked
  split_ifs with complete
  · constructor
    · intro ok
      cases run : (Lines.lines newline data).foldlM s.readLine {} with
      | error e =>
        rw [run] at ok
        cases ok
      | ok scan =>
        rw [run] at ok
        cases ok
        rw [← (foldlM_readLine run).1]
        exact ⟨complete, rfl⟩
    · intro run
      rw [run.2]
      rfl
  · simp [complete]

/-- The events of a file that the reader accepts are a chain. -/
theorem chain_of_read {s : EventStore F P E} {data : List UInt8} {events : List (Event P)}
    (accepted : s.readLocked data = .ok events) : s.Chain events :=
  (foldlM_readLine (readLocked_ok.mp accepted).2).2

/-- The file of a store that validates transitions holds a valid ledger. -/
theorem validLedger_of_read {s : EventStore F P E} {data : List UInt8} {events : List (Event P)}
    (accepted : s.readLocked data = .ok events) (event : Event P → TacoRank.Event)
    (seq : ∀ e, (event e).eventId = e.seq)
    (validator : ∀ before e, s.validates before e.payload = .ok () →
      validateTransition (before.map event) (event e).payload = .ok ()) :
    ValidLedger (events.map event) := by
  have chain := chain_of_read accepted
  clear accepted
  induction chain with
  | nil => exact .nil
  | @snoc before e _ follows ih =>
    rw [List.map_append, List.map_singleton]
    refine ih.snoc ⟨?_, validator before e follows.transition⟩
    rw [seq, follows.seq, List.length_map]

/-- The reader on a file with one more line. -/
theorem readLocked_append {s : EventStore F P E} {data raw : List UInt8}
    {events events' : List (Event P)} (accepted : s.readLocked data = .ok events)
    (whole : newline ∉ raw) :
    s.readLocked (data ++ (raw ++ [newline])) = .ok events' ↔
      ∃ decoded e, s.Accepts raw decoded e ∧ s.Follows events e ∧ events' = events ++ [e] := by
  obtain ⟨complete, run⟩ := readLocked_ok.mp accepted
  rw [readLocked_ok, Lines.lines_append complete whole, foldlM_snoc, run, ok_bind, readLine_ok]
  constructor
  · rintro ⟨_, decoded, e, accepts, follows, state⟩
    exact ⟨decoded, e, accepts, follows, congrArg Scan.events state⟩
  · rintro ⟨decoded, e, accepts, follows, rfl⟩
    exact ⟨Lines.complete_append, decoded, e, accepts, follows, rfl⟩

/-! ### The writer -/

/-- What `append` has checked when it writes an event. -/
structure Recorded (s : EventStore F P E) (events : List (Event P)) (c : Call P) (e : Event P)
    (artifacts : List ArtifactRef) : Prop where
  idempotencyKey : c.idempotencyKey ∉ events.map Event.idempotencyKey
  runId : ∀ first ∈ events.head?, c.runId = first.runId
  causation : ∀ cause ∈ c.causationEventId, cause = "" ∨ cause ∈ events.map Event.eventId
  nested : ∀ runId ∈ collectRunIds (Schema.data (F := F) c.payload), runId = c.runId
  transition : s.validates events c.payload = .ok ()
  references : payloadArtifacts F c.payload = .ok artifacts
  verified : s.verifies artifacts = .ok ()
  event : modelValidate (Event.dump (F := F)
    (s.hashed (c.envelope (Schema.type F c.payload) events artifacts))) = some e

omit [Floats F] [Schema F P] [ToString E] in
lemma acknowledged_ok {s : EventStore F P E} {events : List (Event P)} {key : String} {u : Unit} :
    s.acknowledged events key = .ok u ↔ key ∉ events.map Event.idempotencyKey := by
  unfold acknowledged
  cases found : events.find? fun existing => existing.idempotencyKey = key with
  | none => simpa using found
  | some existing =>
    have same : existing.idempotencyKey = key := by simpa using List.find?_some found
    have mem : key ∈ events.map Event.idempotencyKey :=
      List.mem_map.mpr ⟨existing, List.mem_of_find?_eq_some found, same⟩
    simp [mem]

omit [ToString E] in
/-- The part of `append` before the write returns an event when its checks pass. -/
lemma newEvent_ok {s : EventStore F P E} {events : List (Event P)} {c : Call P} {e : Event P} :
    s.newEvent events c = .ok e ↔ ∃ artifacts, s.Recorded events c e artifacts := by
  have sameRun : (events.head?.any fun first => first.runId ≠ c.runId) = false ↔
      ∀ first ∈ events.head?, c.runId = first.runId := by
    cases events with
    | nil => simp
    | cons first rest => simpa using eq_comm
  have known : (c.causationEventId.any fun cause =>
        cause ≠ "" ∧ cause ∉ events.map Event.eventId) = false ↔
      ∀ cause ∈ c.causationEventId, cause = "" ∨ cause ∈ events.map Event.eventId := by
    cases c.causationEventId with
    | none => simp
    | some cause =>
      by_cases empty : cause = "" <;> simp [empty]
  have own : ((collectRunIds (Schema.data (F := F) c.payload)).any fun runId => runId ≠ c.runId) =
      false ↔ ∀ runId ∈ collectRunIds (Schema.data (F := F) c.payload), runId = c.runId := by
    simp
  simp only [newEvent, bind_eq_ok, mapError_ok, refuse_ok, acknowledged_ok, sameRun, known, own]
  constructor
  · rintro ⟨_, fresh, _, run, _, cause, _, nested, _, transition, artifacts, references, _, verified,
      last⟩
    refine ⟨artifacts, fresh, run, cause, nested, transition, references, verified, ?_⟩
    split at last
    · rename_i event validated
      rw [validated]
      cases last
      rfl
    · cases last
  · rintro ⟨artifacts, recorded⟩
    refine ⟨(), recorded.idempotencyKey, (), recorded.runId, (), recorded.causation, (),
      recorded.nested, (), recorded.transition, artifacts, recorded.references, (),
      recorded.verified, ?_⟩
    rw [recorded.event]
    rfl

lemma append_accepted {s : EventStore F P E} {data : List UInt8} {events : List (Event P)}
    {c : Call P} (accepted : s.readLocked data = .ok events) :
    s.append data c =
      if inputHash c.idempotencyKey = s.canonicalSha256 (Schema.dump c.payload)
      then s.appendTo data events c
      else (.error (.ledgerError "idempotency key input hash does not match payload"), data) := by
  have complete := (readLocked_ok.mp accepted).1
  rw [append, repairIncompleteTail]
  simp only [Lines.repair_complete complete, accepted]

variable {s : EventStore F P E} {events : List (Event P)} {c : Call P} {e : Event P}

/-- An append to a file that the reader accepts returns an event and writes its line, or raises and
leaves the file as it is. -/
lemma append_cases {data file : List UInt8} {result : Except (StoreError P E) (Event P)}
    (accepted : s.readLocked data = .ok events) (run : s.append data c = (result, file)) :
    (∃ e, result = .ok e ∧ s.newEvent events c = .ok e ∧ file = data ++ s.line e ∧
        inputHash c.idempotencyKey = s.canonicalSha256 (Schema.dump c.payload)) ∨
      (∃ error, result = .error error ∧ file = data) := by
  rw [append_accepted accepted] at run
  split_ifs at run with hash
  · unfold appendTo at run
    cases ok : s.newEvent events c with
    | ok e =>
      rw [ok] at run
      cases run
      exact .inl ⟨e, rfl, rfl, rfl, hash⟩
    | error error =>
      rw [ok] at run
      cases run
      exact .inr ⟨error, rfl, rfl⟩
  · cases run
    exact .inr ⟨_, rfl, rfl⟩

/-- An append with a recorded key. -/
lemma append_duplicate {data : List UInt8} {existing : Event P}
    (accepted : s.readLocked data = .ok events) (mem : existing ∈ events)
    (key : existing.idempotencyKey = c.idempotencyKey)
    (hash : inputHash c.idempotencyKey = s.canonicalSha256 (Schema.dump c.payload)) :
    s.append data c = (.error (.duplicateIdempotencyKey c.idempotencyKey existing), data) := by
  have found : events.find? (fun other => other.idempotencyKey = c.idempotencyKey) =
      some existing := by
    obtain ⟨front, back, rfl⟩ := List.append_of_mem mem
    have fresh := (Log.Valid.accepted (chain_of_read accepted)).idempotencyKey
    rw [List.find?_append, List.find?_eq_none.mpr, Option.none_or, List.find?_cons_of_pos]
    · simp [key]
    · intro other earlier
      simp only [decide_eq_true_eq]
      intro same
      exact fresh (List.mem_map.mpr ⟨other, earlier, same.trans key.symm⟩)
  rw [append_accepted accepted, if_pos hash, appendTo, newEvent, acknowledged, found]
  rfl

/-- The file holds exactly these events and takes further appends. -/
structure Holds (s : EventStore F P E) (file : List UInt8) (events : List (Event P)) : Prop where
  read : s.readLocked file = .ok events
  further : ∀ c : Call P,
    inputHash c.idempotencyKey = s.canonicalSha256 (Schema.dump c.payload) →
    s.append file c = s.appendTo file events c

lemma holds_iff {file : List UInt8} : s.Holds file events ↔ s.readLocked file = .ok events := by
  constructor
  · exact Holds.read
  · intro read
    exact ⟨read, fun c hash => by rw [append_accepted read, if_pos hash]⟩

end EventStore
end Store
end TacoRank.Memory
