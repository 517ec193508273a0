import TacoRank.Memory.AppendRead
import Mathlib.Data.Set.Function

/-!
# Tamper evidence

What the last hash of a ledger file says about the lines before it. Each hash is computed from the
canonical text of a line without its own hash, and this text links to the hash before it, so the last
hash determines the events of the file and all of its bytes but the white space around the stored
hashes, which the schema strips before the reader compares them: `tamper_evidence`.
-/

namespace TacoRank.Memory
open Lib Lib.Result

/-! ### The members of a line -/

section Members
variable {F : Type} [Floats F]

omit [Floats F] in
lemma member_eventHashInput {key : String} (other : key ≠ "event_hash") (json : Json F) :
    member key (eventHashInput json) = member key json := by
  cases json with
  | obj ms =>
    have kept : (ms.filter fun m => m.1 ≠ "event_hash").find? (fun m => m.1 = key) =
        ms.find? fun m => m.1 = key := by
      rw [List.find?_filter]
      congr 1
      funext m
      by_cases same : m.1 = key <;> simp [same, other]
    simp only [eventHashInput, member, kept]
  | _ => rfl

/-- A canonical line is determined by its hash and by what the hash is computed from. -/
lemma eq_of_eventHashInput {json json' : Json F} {text : String} (canonical : Json.Canonical json)
    (canonical' : Json.Canonical json') (hash : member "event_hash" json = some (.str text))
    (hash' : member "event_hash" json' = some (.str text))
    (same : eventHashInput json = eventHashInput json') : json = json' := by
  have whole : ∀ line : Json F, Json.Canonical line → member "event_hash" line = some (.str text) →
      ∃ ms, eventHashInput line = .obj ms ∧
        line = .obj (Json.setMember "event_hash" (.str text) ms) := by
    intro line sorted hash
    unfold member at hash
    split at hash
    · rename_i ms
      obtain ⟨⟨key, x⟩, found, rfl⟩ := Option.map_eq_some_iff.mp hash
      have name : key = "event_hash" := by simpa using List.find?_some found
      subst name
      have mem := List.mem_of_find?_eq_some found
      exact ⟨_, rfl, by rw [Json.setMember_filter sorted.1 mem]⟩
    · cases hash
  obtain ⟨ms, input, rfl⟩ := whole json canonical hash
  obtain ⟨ms', input', rfl⟩ := whole json' canonical' hash'
  rw [input, input', Json.obj.injEq] at same
  rw [same]

lemma canonical_eventHashInput {json : Json F} (canonical : Json.Canonical json) :
    Json.Canonical (eventHashInput json) := by
  cases json with
  | obj ms =>
    refine ⟨canonical.1.filter _, Json.canonicalMembers_iff.mpr fun m mem => ?_⟩
    exact Json.canonicalMembers_iff.mp canonical.2 m (List.mem_of_mem_filter mem)
  | _ => exact canonical

end Members

/-- What the validation library promises about the coercion of events: it reads the members one by
one, and the hash is a text whose white space is stripped. -/
class MemberwiseSchema (F P : Type) [Floats F] [Schema F P] : Prop where
  eventHash : ∀ (json : Json F) (e : Event P), Schema.coerce json = some e →
    ∃ text, member "event_hash" json = some (.str text) ∧ e.eventHash = strip text
  others : ∀ (json json' : Json F) (e e' : Event P), Schema.coerce json = some e →
    Schema.coerce json' = some e' → eventHashInput json = eventHashInput json' →
    e' = { e with eventHash := e'.eventHash }

section Coercion
variable {F P : Type}

/-- The coercion of events keeps this promise. -/
lemma coerceEvent_eventHash {payload : Json F → Option P} {json : Json F} {e : Event P}
    (read : coerceEvent payload json = some e) :
    ∃ text, member "event_hash" json = some (.str text) ∧ e.eventHash = strip text := by
  simp only [coerceEvent, Option.bind_eq_bind, Option.bind_eq_some_iff] at read
  obtain ⟨_, _, _, _, _, _, _, _, _, _, _, _, _, _, _, _, _, _, _, _, text, hash, _, _, last⟩ := read
  cases last
  refine ⟨text, ?_, rfl⟩
  unfold readText at hash
  split at hash
  · rename_i found
    cases hash
    exact found
  · cases hash

lemma coerceEvent_others {payload : Json F → Option P} {json json' : Json F} {e e' : Event P}
    (read : coerceEvent payload json = some e) (read' : coerceEvent payload json' = some e')
    (same : eventHashInput json = eventHashInput json') :
    e' = { e with eventHash := e'.eventHash } := by
  have members : ∀ key, key ≠ "event_hash" → member key json' = member key json := by
    intro key other
    rw [← member_eventHashInput other json', ← same, member_eventHashInput other]
  have text : ∀ key, key ≠ "event_hash" → readText key json' = readText key json := by
    intro key other
    rw [readText, readText, members key other]
  have optionalText : readOptionalText "causation_event_id" json' =
      readOptionalText "causation_event_id" json := by
    rw [readOptionalText, readOptionalText, members _ (by decide)]
  have count : readCount "seq" json' = readCount "seq" json := by
    rw [readCount, readCount, members _ (by decide)]
  have items : readItems "artifact_refs" json' = readItems "artifact_refs" json := by
    rw [readItems, readItems, members _ (by decide)]
  simp only [coerceEvent, Option.bind_eq_bind, Option.bind_eq_some_iff] at read
  obtain ⟨_, eventId, _, seq, _, timestamp, _, runId, _, eventType, _, key, _, cause, _, refs, _, delta,
    _, previous, _, _, _, value, last⟩ := read
  cases last
  replace timestamp := Option.bind_eq_some_iff.mpr timestamp
  replace eventType := Option.bind_eq_some_iff.mpr eventType
  replace refs := Option.bind_eq_some_iff.mpr refs
  replace delta := Option.bind_eq_some_iff.mpr delta
  replace value := Option.bind_eq_some_iff.mpr value
  simp (disch := decide) only [coerceEvent, Option.bind_eq_bind, text, optionalText, count, items,
    members, eventId, seq, timestamp, runId, eventType, key, cause, refs, delta, previous, value,
    Option.bind_some] at read'
  obtain ⟨_, _, last'⟩ := Option.bind_eq_some_iff.mp read'
  cases last'
  rfl

end Coercion

instance : MemberwiseSchema Empty RunStoppedPayload where
  eventHash _ _ read := coerceEvent_eventHash read
  others _ _ _ _ read read' same := coerceEvent_others read read' same

/-! ### The chain -/

section Chain
variable (F : Type) [Floats F]

/-- The value of a line. -/
def lineValue (raw : List UInt8) : Option (Json F) := (Lines.decode raw).bind Json.loads

/-- The texts that the reader hashes to check the hashes of these lines. -/
def hashInputs (raws : List (List UInt8)) : Set (List UInt8) :=
  {bytes | ∃ raw ∈ raws, ∃ decoded, lineValue F raw = some decoded ∧
    bytes = canonicalBytes (eventHashInput decoded)}

/-- The white space around the hash that a line stores. -/
def hashPadding (raw : List UInt8) : Option (List Char × List Char) :=
  match (lineValue F raw).bind (member "event_hash") with
  | some (.str text) => some (padding text)
  | _ => none

end Chain

section Evidence
variable {F P E : Type} [Floats F] [Json.LawfulFloats F] [Schema F P] [MemberwiseSchema F P]
  [ToString E] {s : EventStore F P E}

namespace EventStore

omit [ToString E] in
/-- Two lines with one hash hold one event, and are the same but for the white space around the hash. -/
lemma Accepts.determined {raw raw' : List UInt8} {decoded decoded' : Json F} {e e' : Event P}
    (accepts : s.Accepts raw decoded e) (accepts' : s.Accepts raw' decoded' e')
    (injective : Set.InjOn s.sha256 (hashInputs F [raw, raw']))
    (hash : e.eventHash = e'.eventHash) :
    e' = e ∧ (raw' = raw ↔ hashPadding F raw' = hashPadding F raw) := by
  obtain ⟨value, valid, _⟩ := parseLine_ok.mp accepts.parse
  obtain ⟨value', valid', _⟩ := parseLine_ok.mp accepts'.parse
  have coerced : Schema.coerce decoded = some e := (Option.filter_eq_some_iff.mp valid).1
  have coerced' : Schema.coerce decoded' = some e' := (Option.filter_eq_some_iff.mp valid').1
  have read : ∀ {line : List UInt8} {json : Json F}, (Lines.decode line).bind Json.loads = some json →
      json.Canonical := by
    intro line json value
    obtain ⟨text, _, loaded⟩ := Option.bind_eq_some_iff.mp value
    exact Json.canonical_loads loaded
  -- one hash, one text without the hash
  have digests := accepts.eventHash.symm.trans (hash.trans accepts'.eventHash)
  have bytes := injective ⟨raw, by simp, decoded, value, rfl⟩ ⟨raw', by simp, decoded', value', rfl⟩
    digests
  have inputs : eventHashInput decoded = eventHashInput decoded' :=
    Json.dumps_inj (canonical_eventHashInput (read value)) (canonical_eventHashInput (read value'))
      (Lines.encode_inj bytes)
  have event : e' = e := by
    rw [MemberwiseSchema.others _ _ _ _ coerced coerced' inputs, ← hash]
  obtain ⟨text, member, stored⟩ := MemberwiseSchema.eventHash _ _ coerced
  obtain ⟨text', member', stored'⟩ := MemberwiseSchema.eventHash _ _ coerced'
  refine ⟨event, fun same => by rw [same], fun around => ?_⟩
  have texts : text' = text := by
    apply eq_of_padding
    · rw [← stored, ← stored', hash]
    · have padded : hashPadding F raw = some (padding text) := by
        simp only [hashPadding, lineValue, value, Option.bind_some, member]
      have padded' : hashPadding F raw' = some (padding text') := by
        simp only [hashPadding, lineValue, value', Option.bind_some, member']
      rw [padded, padded', Option.some.injEq] at around
      exact around
  subst texts
  have decodeds := eq_of_eventHashInput (read value) (read value') member member' inputs
  rw [accepts.canonical, accepts'.canonical, decodeds]

omit [Json.LawfulFloats F] [MemberwiseSchema F P] in
lemma foldlM_nil {events : List (Event P)}
    (run : ([] : List (List UInt8)).foldlM s.readLine {} = .ok (Scan.of events)) : events = [] :=
  (congrArg Scan.events (Except.ok.inj run)).symm

omit [Json.LawfulFloats F] [MemberwiseSchema F P] in
/-- The last line was read after the lines before it. -/
lemma foldlM_last {raws : List (List UInt8)} {raw : List UInt8} {events : List (Event P)}
    (run : (raws ++ [raw]).foldlM s.readLine {} = .ok (Scan.of events)) :
    ∃ before decoded e, raws.foldlM s.readLine {} = .ok (Scan.of before) ∧
      s.Accepts raw decoded e ∧ s.Follows before e ∧ events = before ++ [e] := by
  rw [foldlM_snoc, bind_eq_ok] at run
  obtain ⟨scan, earlier, step⟩ := run
  have state := (foldlM_readLine earlier).1
  rw [state] at earlier step
  obtain ⟨decoded, e, accepts, follows, same⟩ := readLine_ok.mp step
  exact ⟨scan.events, decoded, e, earlier, accepts, follows, congrArg Scan.events same⟩

omit [Floats F] [Json.LawfulFloats F] [Schema F P] [MemberwiseSchema F P] [ToString E] in
lemma last_of_lastHash {events events' : List (Event P)} (length : events.length = events'.length)
    (same : lastHash events = lastHash events') :
    events.getLast?.map Event.eventHash = events'.getLast?.map Event.eventHash := by
  cases events using List.reverseRecOn with
  | nil => rw [List.length_eq_zero_iff.mp length.symm]
  | append_singleton front e =>
    cases events' using List.reverseRecOn with
    | nil => simp at length
    | append_singleton front' e' =>
      rw [lastHash_append, lastHash_append] at same
      simp [same]

/-- The hash of the last event determines the lines before it. -/
lemma foldlM_determined {raws raws' : List (List UInt8)} {events events' : List (Event P)}
    (run : raws.foldlM s.readLine {} = .ok (Scan.of events))
    (run' : raws'.foldlM s.readLine {} = .ok (Scan.of events'))
    (last : events.getLast?.map Event.eventHash = events'.getLast?.map Event.eventHash)
    (injective : Set.InjOn s.sha256 (hashInputs F (raws ++ raws'))) :
    events' = events ∧
      (raws' = raws ↔ raws'.map (hashPadding F) = raws.map (hashPadding F)) := by
  -- from the last line back, by the link to the hash before it
  induction raws using List.reverseRecOn generalizing raws' events events' with
  | nil =>
    cases foldlM_nil run
    cases raws' using List.reverseRecOn with
    | nil =>
      cases foldlM_nil run'
      exact ⟨rfl, by simp⟩
    | append_singleton raws' raw' =>
      obtain ⟨_, _, _, _, _, _, rfl⟩ := foldlM_last run'
      simp at last
  | append_singleton raws raw ih =>
    obtain ⟨before, decoded, e, earlier, accepts, follows, rfl⟩ := foldlM_last run
    cases raws' using List.reverseRecOn with
    | nil =>
      cases foldlM_nil run'
      simp at last
    | append_singleton raws' raw' =>
      obtain ⟨before', decoded', e', earlier', accepts', follows', rfl⟩ := foldlM_last run'
      rw [List.getLast?_concat, List.getLast?_concat, Option.map_some, Option.map_some,
        Option.some.injEq] at last
      have part : ∀ {front : List (List UInt8)}, (∀ line ∈ front, line ∈ raws ++ [raw] ++ (raws' ++ [raw'])) →
          Set.InjOn s.sha256 (hashInputs F front) := by
        intro front mem
        refine injective.mono fun bytes input => ?_
        obtain ⟨line, found, rest⟩ := input
        exact ⟨line, mem line found, rest⟩
      obtain ⟨rfl, line⟩ := accepts.determined accepts' (part (by simp)) last
      have sizes : before.length = before'.length := by
        have numbers := follows.seq.symm.trans follows'.seq
        omega
      have links : lastHash before = lastHash before' :=
        follows.prevEventHash.symm.trans follows'.prevEventHash
      obtain ⟨rfl, lines⟩ := ih earlier earlier' (last_of_lastHash sizes links)
        (part fun line mem => by
          rw [List.mem_append] at mem
          rcases mem with mem | mem <;> simp [mem])
      refine ⟨rfl, ?_⟩
      rw [List.map_append, List.map_append, List.map_singleton, List.map_singleton]
      constructor
      · intro same
        rw [← List.map_singleton, ← List.map_append, same, List.map_append, List.map_singleton]
      · intro around
        obtain ⟨front, back⟩ := List.append_inj' around rfl
        rw [lines.mpr front, line.mpr (List.singleton_inj.mp back)]

/-- Two files that the reader accepts with one last hash hold the same events, and are the same
exactly when the same white space stands around the stored hashes. -/
theorem tamper_evidence {data data' : List UInt8} {events events' : List (Event P)}
    (accepted : s.readLocked data = .ok events) (accepted' : s.readLocked data' = .ok events')
    (last : events.getLast?.map Event.eventHash = events'.getLast?.map Event.eventHash)
    (injective : Set.InjOn s.sha256
      (hashInputs F (Lines.lines newline data ++ Lines.lines newline data'))) :
    events' = events ∧
      (data' = data ↔ (Lines.lines newline data').map (hashPadding F) =
        (Lines.lines newline data).map (hashPadding F)) := by
  obtain ⟨complete, run⟩ := readLocked_ok.mp accepted
  obtain ⟨complete', run'⟩ := readLocked_ok.mp accepted'
  obtain ⟨same, files⟩ := foldlM_determined run run' last injective
  refine ⟨same, ?_⟩
  rw [← files]
  exact ⟨fun same => by rw [same], Lines.lines_inj complete' complete⟩

end EventStore
end Evidence

/-! ### A stop -/

/-- The stop with a blank before its hash. -/
def paddedStop : Event RunStoppedPayload :=
  { stopEvent stopKey with eventHash := " " ++ (stopEvent stopKey).eventHash }

lemma strip_paddedStop : strip paddedStop.eventHash = (stopEvent stopKey).eventHash := by
  have digits : (stopEvent stopKey).eventHash =
      "d74976cea2f7ec6c81b63cf097a6cbd1a762808902fda402ec7abbed40d2cf18" :=
    (strip_sha256 (stopStore.hexdigest _)).trans sha256_kept
  rw [paddedStop, digits]
  decide

lemma read_stop : stopStore.readLocked (stopStore.line (stopEvent stopKey)) =
    .ok [stopEvent stopKey] := by
  rcases EventStore.append_cases read_empty (append_stop strip_stopKey rfl) with
    ⟨e, same, ok, _, hash⟩ | ⟨_, same, _⟩
  · cases same
    exact (EventStore.read_append read_empty ok hash separates_kept).mpr ⟨normal_kept, rfl⟩
  · cases same

lemma hashInput_paddedStop : Event.hashInput (F := Empty) paddedStop =
    Event.hashInput (stopEvent stopKey) := by
  have other : ∀ (e : Event RunStoppedPayload) (hash : String),
      Event.hashInput (F := Empty) { e with eventHash := hash } = Event.hashInput e := fun _ _ => rfl
  exact other _ _

lemma read_line {e : Event RunStoppedPayload} {events : List (Event RunStoppedPayload)} :
    stopStore.readLocked (stopStore.line e) = .ok events ↔
      ∃ decoded e', stopStore.Accepts (canonicalBytes (Event.dump (F := Empty) e)) decoded e' ∧
        stopStore.Follows [] e' ∧ events = [] ++ [e'] := by
  rw [← EventStore.readLocked_append read_empty (newline_notMem _), List.nil_append, EventStore.line]

/-- The reader takes the line with the blank for the same event. -/
lemma read_paddedStop : stopStore.readLocked (stopStore.line paddedStop) =
    .ok [stopEvent stopKey] := by
  obtain ⟨_, e, accepts, follows, same⟩ := read_line.mp read_stop
  obtain rfl : stopEvent stopKey = e := List.singleton_inj.mp same
  obtain ⟨rfl, validated, _⟩ := EventStore.parseLine_dump.mp accepts.parse
  have read : Schema.payload (Schema.dump (F := Empty) stopped) = some stopped := by decide
  have stored : stopEvent stopKey = paddedStop.stripped stopped := by
    have others : (paddedStop.stripped stopped) =
        { (stopEvent stopKey).stripped stopped with eventHash := strip paddedStop.eventHash } := rfl
    rw [others, strip_paddedStop, stopEvent, Event.stripped_idem]
  have valid : modelValidate (Event.dump (F := Empty) paddedStop) = some (stopEvent stopKey) :=
    modelValidate_dump.mpr ⟨stopped, read, stored, follows.valid⟩
  have key : inputHash (stopEvent stopKey).idempotencyKey = inputHash stopKey := by
    rw [stopEvent_key, strip_stopKey]
  have hash := accepts.eventHash
  rw [eventHashInput_dump] at hash
  refine read_line.mpr
    ⟨Event.dump paddedStop, stopEvent stopKey, ⟨?_, rfl, ?_⟩, follows, rfl⟩
  · exact EventStore.parseLine_dump.mpr ⟨rfl, valid, (sha256_payload stopKey).trans key.symm⟩
  · rw [eventHashInput_dump, hashInput_paddedStop]
    exact hash

/-- Both lines are hashed alike. -/
lemma hashInputs_stop (bytes : List UInt8) (mem : bytes ∈ hashInputs Empty
    (Lines.lines newline (stopStore.line (stopEvent stopKey)) ++
      Lines.lines newline (stopStore.line paddedStop))) :
    bytes = canonicalBytes (F := Empty) (Event.hashInput (stopEvent stopKey)) := by
  have one : ∀ e : Event RunStoppedPayload, Lines.lines newline (stopStore.line e) =
      [canonicalBytes (Event.dump (F := Empty) e)] := by
    intro e
    have complete : Lines.Complete newline ([] : List UInt8) := by simp [Lines.Complete]
    have single := Lines.lines_append complete (newline_notMem (Event.dump (F := Empty) e))
    rw [List.nil_append] at single
    rw [EventStore.line, single]
    rfl
  rw [one, one] at mem
  obtain ⟨raw, found, decoded, value, rfl⟩ := mem
  have loaded : ∀ e : Event RunStoppedPayload, lineValue Empty (canonicalBytes (Event.dump e)) =
      some (Event.dump e) := fun e => by
    have text : Lines.decode (canonicalBytes (Event.dump (F := Empty) e)) =
        some (Json.dumps (Event.dump (F := Empty) e)) := Lines.decode_encode
    rw [lineValue, text, Option.bind_some, Json.loads_dumps e.canonical_dump]
  simp only [List.cons_append, List.nil_append, List.mem_cons, List.not_mem_nil, or_false] at found
  rcases found with rfl | rfl
  · rw [loaded, Option.some.injEq] at value
    rw [← value, eventHashInput_dump]
  · rw [loaded, Option.some.injEq] at value
    rw [← value, eventHashInput_dump, hashInput_paddedStop]

lemma injOn_stop : Set.InjOn stopStore.sha256 (hashInputs Empty
    (Lines.lines newline (stopStore.line (stopEvent stopKey)) ++
      Lines.lines newline (stopStore.line paddedStop))) := by
  intro x xs y ys _
  rw [hashInputs_stop x xs, hashInputs_stop y ys]

theorem tamper_evidence_stop :
    let file := stopStore.line (stopEvent stopKey)
    let file' := stopStore.line paddedStop
    [stopEvent stopKey] = [stopEvent stopKey] ∧
      (file' = file ↔ (Lines.lines newline file').map (hashPadding Empty) =
        (Lines.lines newline file).map (hashPadding Empty)) :=
  EventStore.tamper_evidence read_stop read_paddedStop rfl injOn_stop

theorem padded_hash_accepted :
    let file := stopStore.line (stopEvent stopKey)
    let file' := stopStore.line paddedStop
    stopStore.readLocked file = .ok [stopEvent stopKey] ∧
      stopStore.readLocked file' = .ok [stopEvent stopKey] ∧
      Set.InjOn stopStore.sha256
        (hashInputs Empty (Lines.lines newline file ++ Lines.lines newline file')) ∧
      file' ≠ file := by
  refine ⟨read_stop, read_paddedStop, injOn_stop, fun same => ?_⟩
  have texts := List.append_cancel_right same
  have values := Json.dumps_inj paddedStop.canonical_dump (stopEvent stopKey).canonical_dump
    (Lines.encode_inj texts)
  rw [Event.dump_eq, Event.dump_eq] at values
  have hashes : " " ++ (stopEvent stopKey).eventHash = (stopEvent stopKey).eventHash := by
    simp only [Json.obj.injEq, List.cons.injEq, Prod.mk.injEq, Json.str.injEq, true_and] at values
    exact values.2.2.1
  exact absurd (congrArg String.length hashes) (by simp)

end TacoRank.Memory
