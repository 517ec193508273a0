import TacoRank.Execution.Artifacts

/-!
# Seal verification

What `verify_execution_seal` accepts: `verifyExecutionSeal_ok` says which bytes it reads and what it
compares, for any repository. For a seal of `write_execution_seal` this is exactly the sealed
expectation (`seal_verification_exact`), when the identifiers also follow the pattern of the run layout.
-/

namespace TacoRank.Execution
open Lib Lib.Result Lib.PurePosixPath
open Memory (matchesId matchesSha256)

/-! ### Names of directories -/

lemma isComponent_of_identifier {s : String} (h : matchesIdentifier s = true) : IsComponent s := by
  simp only [matchesIdentifier, Bool.and_eq_true, decide_eq_true_eq, List.all_eq_true] at h
  obtain ⟨⟨nonempty, _⟩, chars⟩ := h
  refine ⟨nonempty, ?_, ?_⟩
  · rintro rfl
    exact absurd (chars '.' (by decide)) (by decide)
  · intro slash
    exact absurd (chars '/' slash) (by decide)

/-- A number has no slash and no dot. -/
lemma isComponent_attempt {digits : List Char} (h : ∀ c ∈ digits, c.isDigit = true) :
    IsComponent ("attempt_" ++ String.ofList digits) := by
  refine ⟨?_, ?_, ?_⟩
  · intro empty
    exact absurd (congrArg String.toList empty) (by simp)
  · intro dot
    exact absurd (congrArg String.toList dot) (by simp)
  · intro slash
    rw [String.toList_append, List.mem_append] at slash
    rcases slash with front | digit
    · exact absurd front (by decide)
    · rw [String.toList_ofList] at digit
      exact absurd (h '/' digit) (by decide)

lemma digits_padded {width n : Nat} : ∀ c ∈ Memory.padded width n, c.isDigit = true := by
  intro c mem
  rw [Memory.padded, List.mem_append] at mem
  rcases mem with zero | digit
  · rw [(List.mem_replicate.mp zero).2]
    rfl
  · exact Nat.isDigit_of_mem_toDigits (by decide) (by decide) digit

/-- The two directories that the verifier looks for. -/
def layouts (values : SealedValues) : List (List String) :=
  [ ["artifacts", values.runId, values.experimentId, attemptName values.executionAttempt.toNat],
    ["runs", values.runId, "artifacts", values.experimentId,
      paddedAttemptName values.executionAttempt.toNat] ]

lemma identifier_ok {value field : String} {x : String} :
    identifier value field = .ok x ↔ matchesId value = true ∧ x = value := by
  simp only [identifier, bind_eq_ok, ensure_eq_ok, pure_eq_ok, exists_const]
  rw [eq_comm (a := value)]

lemma expectedPrefixes_ok {values : SealedValues} {prefixes : List PurePosixPath}
    (run : matchesIdentifier values.runId = true)
    (experiment : matchesIdentifier values.experimentId = true) :
    expectedPrefixes values = .ok prefixes ↔
      (matchesId values.runId = true ∧ matchesId values.experimentId = true) ∧
        prefixes = (layouts values).map fun directory => ⟨"", directory ++ ["outputs"]⟩ := by
  have components : ∀ part ∈ ["runs", values.runId, "artifacts", values.experimentId,
      paddedAttemptName values.executionAttempt.toNat], IsComponent part := by
    simp only [List.forall_mem_cons, List.not_mem_nil, IsEmpty.forall_iff, implies_true, and_true]
    exact ⟨by decide, isComponent_of_identifier run, by decide, isComponent_of_identifier experiment,
      isComponent_attempt digits_padded⟩
  have read := parse_join components
  have text : asPosix ⟨"", ["runs", values.runId, "artifacts", values.experimentId,
      paddedAttemptName values.executionAttempt.toNat]⟩ = _ := asPosix_join (List.cons_ne_nil _ _)
  have root : parse "runs" = ⟨"", ["runs"]⟩ := by decide
  simp only [expectedPrefixes, experimentArtifactPrefix, runRelativeDirectory, bind_eq_ok, identifier_ok,
    pure_eq_ok, root]
  constructor
  · rintro ⟨current, ⟨directory, ⟨_, ⟨first, rfl⟩, rfl⟩, _, ⟨second, rfl⟩, rfl⟩, rfl⟩
    refine ⟨⟨first, second⟩, ?_⟩
    simp only [child, List.cons_append, List.nil_append, text, read]
    rfl
  · rintro ⟨⟨first, second⟩, rfl⟩
    refine ⟨_, ⟨_, ⟨_, ⟨first, rfl⟩, rfl⟩, _, ⟨second, rfl⟩, rfl⟩, ?_⟩
    simp only [child, List.cons_append, List.nil_append, text, read]
    rfl

/-! ### What the verifier reads -/

lemma predictionRelative_ok {prediction : ArtifactRef} {path : PurePosixPath} :
    predictionRelative prediction = .ok path ↔
      ('\\' ∉ prediction.path.toList ∧ ¬ path.IsAbsolute ∧ path.asPosix = prediction.path ∧
        ".." ∉ path.parts) ∧ path = parse prediction.path := by
  simp only [predictionRelative, bind_eq_ok, ensure_eq_ok, pure_eq_ok, exists_const]
  constructor
  · rintro ⟨plain, rfl⟩
    exact ⟨plain, rfl⟩
  · rintro ⟨plain, rfl⟩
    exact ⟨plain, rfl⟩

/-- The seal lies beside the output directory that holds the prediction. -/
lemma sealRelative_ok {values : SealedValues} {path : PurePosixPath} {sealPath : List String}
    (relative : path.root = "")
    (run : matchesIdentifier values.runId = true)
    (experiment : matchesIdentifier values.experimentId = true) :
    sealRelative values path = .ok sealPath ↔
      (matchesId values.runId = true ∧ matchesId values.experimentId = true) ∧
        ∃ directory ∈ layouts values, ∃ rest, rest ≠ [] ∧ path.parts = directory ++ "outputs" :: rest ∧
          sealPath = directory ++ [executionSealFilename] := by
  have below : ∀ directory : List String,
      (path.IsRelativeTo ⟨"", directory ++ ["outputs"]⟩ ∧ path ≠ ⟨"", directory ++ ["outputs"]⟩) ↔
        ∃ rest, rest ≠ [] ∧ path.parts = directory ++ "outputs" :: rest := by
    intro directory
    obtain ⟨root, parts⟩ := path
    cases relative
    simp only [IsRelativeTo, true_and, ne_eq, PurePosixPath.mk.injEq]
    constructor
    · rintro ⟨⟨rest, rfl⟩, other⟩
      refine ⟨rest, ?_, by simp⟩
      rintro rfl
      exact other (List.append_nil _)
    · rintro ⟨rest, nonempty, rfl⟩
      refine ⟨⟨rest, by simp⟩, ?_⟩
      intro same
      have long := congrArg List.length same
      have some := List.length_pos_iff.mpr nonempty
      simp only [List.length_append, List.length_cons, List.length_nil] at long
      omega
  rw [sealRelative, bind_eq_ok]
  simp only [expectedPrefixes_ok run experiment]
  constructor
  · rintro ⟨_, ⟨ids, rfl⟩, found⟩
    refine ⟨ids, ?_⟩
    split at found
    · rename_i outputs only
      have mem : outputs ∈ [outputs] := List.mem_singleton_self outputs
      rw [← only, List.mem_filter] at mem
      obtain ⟨listed, holds⟩ := mem
      obtain ⟨directory, layout, rfl⟩ := List.mem_map.mp listed
      obtain ⟨rest, nonempty, split⟩ := (below directory).mp (of_decide_eq_true holds)
      refine ⟨directory, layout, rest, nonempty, split, ?_⟩
      rw [pure_eq_ok, List.dropLast_concat] at found
      exact found.symm
    · cases found
  · rintro ⟨ids, directory, layout, rest, nonempty, split, rfl⟩
    refine ⟨_, ⟨ids, rfl⟩, ?_⟩
    -- the two layouts differ in their first component
    have apart : ∀ other : List String, other.head? ≠ directory.head? → other ≠ [] → directory ≠ [] →
        ¬ (path.IsRelativeTo ⟨"", other ++ ["outputs"]⟩ ∧ path ≠ ⟨"", other ++ ["outputs"]⟩) := by
      intro other heads first second
      rw [below]
      rintro ⟨rest', _, split'⟩
      rw [split] at split'
      have same := congrArg List.head? split'
      rw [List.head?_append_of_ne_nil _ first, List.head?_append_of_ne_nil _ second] at same
      exact heads same.symm
    have only : ((layouts values).map fun directory => (⟨"", directory ++ ["outputs"]⟩ : PurePosixPath)).filter
        (fun outputs => path.IsRelativeTo outputs ∧ path ≠ outputs) = [⟨"", directory ++ ["outputs"]⟩] := by
      have this := (below directory).mpr ⟨rest, nonempty, split⟩
      simp only [layouts, List.mem_cons, List.not_mem_nil, or_false] at layout
      simp only [layouts, List.map_cons, List.map_nil]
      rcases layout with rfl | rfl
      · refine (List.filter_cons_of_pos ?_).trans (congrArg _ ((List.filter_cons_of_neg ?_).trans List.filter_nil))
        · exact decide_eq_true this
        · simpa using apart ["runs", values.runId, "artifacts", values.experimentId,
            paddedAttemptName values.executionAttempt.toNat] (by simp) (by simp) (by simp)
      · refine (List.filter_cons_of_neg ?_).trans ?_
        · simpa using apart ["artifacts", values.runId, values.experimentId,
            attemptName values.executionAttempt.toNat] (by simp) (by simp) (by simp)
        · refine (List.filter_cons_of_pos ?_).trans (congrArg _ List.filter_nil)
          exact decide_eq_true this
    rw [only]
    simp

/-! ### The bytes of a seal -/

section Payload
variable {F : Type} [PythonFloats F]

/-- The members of a seal, sorted. -/
def sealMembers (values : SealedValues) (prediction : ArtifactRef) : List (String × Json F) :=
  [ ("command_id", .str values.commandId),
    ("data_manifest_sha256", .str values.dataManifestSha256),
    ("execution_attempt", .int values.executionAttempt),
    ("experiment_id", .str values.experimentId),
    ("patch_receipt_id", .str values.patchReceiptId),
    ("patch_receipt_sha256", .str values.patchReceiptSha256),
    ("prediction", .obj
      [ ("path", .str prediction.path),
        ("sha256", .str prediction.sha256),
        ("size_bytes", .int prediction.sizeBytes) ]),
    ("producer", .str executionSealProducer),
    ("producer_commit_sha", .str values.producerCommitSha),
    ("run_id", .str values.runId),
    ("schema", .str executionSealSchema) ]

lemma sealPayload_eq {values : SealedValues} {prediction : ArtifactRef} :
    sealPayload (F := F) values prediction = .obj (sealMembers values prediction) := by
  simp (disch := decide) only [sealPayload, sealMembers, Json.object, List.foldl_cons, List.foldl_nil,
    Json.setMember_nil, Json.setMember_before, Json.setMember_after]

lemma sealPayload_canonical {values : SealedValues} {prediction : ArtifactRef} :
    Json.Canonical (sealPayload (F := F) values prediction) := by
  apply Json.canonical_object
  simp only [List.forall_mem_cons, List.not_mem_nil, IsEmpty.forall_iff, implies_true, and_true,
    Json.Canonical, true_and]
  apply Json.canonical_object
  simp only [List.forall_mem_cons, List.not_mem_nil, IsEmpty.forall_iff, implies_true, and_true,
    Json.Canonical]

variable [Json.LawfulFloats F]

lemma decode_jsonBytes {value : Json F} (canonical : Json.Canonical value) :
    (Lines.decode (jsonBytes value)).bind Json.loads = some value := by
  have bytes : jsonBytes value = Lines.encode (Json.dumps value ++ ['\n']) := by
    rw [jsonBytes, Lines.encode, Lines.encode, List.flatMap_append]
    rfl
  rw [bytes, Lines.decode_encode]
  exact Json.loads_dumps_append canonical rfl

/-- The verifier reads canonical objects only. -/
lemma readSeal_ok {raw : List UInt8} {members : List (String × Json F)} :
    readSeal raw = .ok members ↔
      raw.length ≤ 64 * 1024 ∧ Json.Canonical (.obj members) ∧ raw = jsonBytes (.obj members) := by
  rw [readSeal, bind_eq_ok]
  simp only [ensure_eq_ok, exists_and_left, exists_const]
  refine and_congr_right fun _ => ?_
  constructor
  · intro found
    split at found
    · cases found
    · rename_i payload read
      obtain ⟨text, decoded, loaded⟩ := Option.bind_eq_some_iff.mp read
      simp only [bind_eq_ok, ensure_eq_ok, exists_const] at found
      obtain ⟨canonical, found⟩ := found
      split at found
      · rw [pure_eq_ok] at found
        exact found ▸ ⟨Json.canonical_loads loaded, canonical⟩
      · cases found
  · rintro ⟨canonical, rfl⟩
    rw [decode_jsonBytes canonical]
    dsimp only
    rw [bind_eq_ok]
    exact ⟨(), ensure_eq_ok.mpr rfl, rfl⟩

end Payload

/-! ### What the verifier compares -/

/-- An expectation that the verifier does not refuse at once. -/
structure Expected (values : SealedValues) : Prop where
  runId : matchesIdentifier values.runId = true
  experimentId : matchesIdentifier values.experimentId = true
  executionAttempt : 0 < values.executionAttempt
  producerCommitSha : matchesCommit values.producerCommitSha = true
  commandId : matchesIdentifier values.commandId = true
  dataManifestSha256 : matchesSha256 values.dataManifestSha256 = true
  patchReceiptId : isReceiptId values.patchReceiptId = true
  patchReceiptSha256 : matchesSha256 values.patchReceiptSha256 = true

lemma checkExpectation_ok {values : SealedValues} {u : Unit} :
    checkExpectation values = .ok u ↔ Expected values := by
  simp only [checkExpectation, bind_eq_ok, ensure_eq_ok, exists_const]
  constructor
  · rintro ⟨⟨run, experiment⟩, attempt, commit, command, manifest, receiptId, receipt⟩
    exact ⟨run, experiment, attempt, commit, command, manifest, receiptId, receipt⟩
  · intro h
    exact ⟨⟨h.runId, h.experimentId⟩, h.executionAttempt, h.producerCommitSha, h.commandId,
      h.dataManifestSha256, h.patchReceiptId, h.patchReceiptSha256⟩

section Compare
set_option linter.unusedSectionVars false
variable {F : Type} [PythonFloats F] {sha256 : List UInt8 → String}

/-- The members of a seal have the values, in the sense of `==`. -/
structure Carries (values : SealedValues) (prediction : ArtifactRef) (members : List (String × Json F)) :
    Prop where
  keys : hasKeys members requiredKeys = true
  fields : ∀ field ∈ expectedValues values, field.2 (members.lookup field.1) = true
  prediction : ∃ fields, members.lookup "prediction" = some (.obj fields) ∧
    hasKeys fields ["path", "sha256", "size_bytes"] = true ∧
    equalsText prediction.path (fields.lookup "path") = true ∧
    equalsText prediction.sha256 (fields.lookup "sha256") = true ∧
    equalsInt prediction.sizeBytes (fields.lookup "size_bytes") = true

lemma equalsText_iff {text : String} {x : Option (Json F)} :
    equalsText text x = true ↔ x = some (.str text) := by
  unfold equalsText
  split
  · rename_i s
    rw [decide_eq_true_iff, Option.some.injEq, Json.str.injEq]
  · rename_i other
    simp only [Bool.false_eq_true, false_iff]
    exact fun same => other text same

/-- The comparisons decide; the checks before them repeat those of the expectation. -/
lemma checkPayload_ok {values : SealedValues} {members : List (String × Json F)} (expected : Expected values) :
    checkPayload values members = .ok () ↔
      hasKeys members requiredKeys = true ∧
        ∀ field ∈ expectedValues values, field.2 (members.lookup field.1) = true := by
  simp only [checkPayload, check_bind_eq_ok, ensure_eq_ok, forM_eq_ok]
  constructor
  · rintro ⟨keys, -, -, -, -, same⟩
    exact ⟨keys, same⟩
  · rintro ⟨keys, same⟩
    have text : ∀ {k v : String}, (k, equalsText v) ∈ expectedValues (F := F) values →
        members.lookup k = some (.str v) := fun mem => equalsText_iff.mp (same _ mem)
    have command := text (k := "command_id") (v := values.commandId) (by simp [expectedValues])
    have manifest := text (k := "data_manifest_sha256") (v := values.dataManifestSha256)
      (by simp [expectedValues])
    have receiptId := text (k := "patch_receipt_id") (v := values.patchReceiptId)
      (by simp [expectedValues])
    have receipt := text (k := "patch_receipt_sha256") (v := values.patchReceiptSha256)
      (by simp [expectedValues])
    refine ⟨keys, ?_, ?_, ?_, ?_, same⟩
    · rw [memberText, command]
      exact expected.commandId
    · rw [memberText, manifest]
      exact expected.dataManifestSha256
    · rw [receiptId]
      exact ensure_eq_ok.mpr expected.patchReceiptId
    · rw [receipt]
      exact ensure_eq_ok.mpr expected.patchReceiptSha256

lemma checkPrediction_ok (hexdigest : ∀ bytes, matchesSha256 (sha256 bytes) = true) {path : PurePosixPath}
    {prediction : ArtifactRef} {content : List UInt8} {members : List (String × Json F)} :
    checkPrediction sha256 path prediction content members = .ok () ↔
      (∃ fields, members.lookup "prediction" = some (.obj fields) ∧
        hasKeys fields ["path", "sha256", "size_bytes"] = true ∧
        equalsText path.asPosix (fields.lookup "path") = true ∧
        equalsText (sha256 content) (fields.lookup "sha256") = true ∧
        equalsInt content.length (fields.lookup "size_bytes") = true) ∧
      prediction.sha256 = sha256 content ∧ prediction.sizeBytes = content.length := by
  unfold checkPrediction
  split
  · rename_i fields found
    simp only [check_bind_eq_ok, ensure_eq_ok, found, hexdigest, true_and, Option.some.injEq,
      Json.obj.injEq, exists_eq_left', and_assoc]
  · rename_i other
    constructor
    · intro h
      cases h
    · rintro ⟨⟨fields, found, -⟩, -⟩
      exact absurd found (other fields)

lemma fileContent_eq {entry : Option Entry} {bytes : List UInt8} :
    fileContent entry = some bytes ↔ entry = some (.file bytes) := by
  unfold fileContent
  split
  · rw [Option.some.injEq, Option.some.injEq, Entry.file.injEq]
  · rename_i other
    constructor
    · intro h
      cases h
    · intro h
      exact absurd h (other bytes)

/-- `verify_execution_seal` accepts the members that it reads from the seal of the expectation, when they
carry the expectation and the reference, and the reference is that of the bytes. -/
lemma verifyExecutionSeal_ok (hexdigest : ∀ bytes, matchesSha256 (sha256 bytes) = true) {disk : Disk}
    {prediction : ArtifactRef} {values : SealedValues} {members : List (String × Json F)} :
    verifyExecutionSeal sha256 disk prediction values = .ok members ↔
      Expected values ∧ ∃ path, predictionRelative prediction = .ok path ∧
        ∃ sealPath, sealRelative values path = .ok sealPath ∧
          (crossesSymlink disk path.parts = false ∧ crossesSymlink disk sealPath = false) ∧
          ∃ content raw, disk path.parts = some (.file content) ∧ disk sealPath = some (.file raw) ∧
            readSeal raw = .ok members ∧ Carries values prediction members ∧
            prediction.sha256 = sha256 content ∧ prediction.sizeBytes = content.length := by
  rw [verifyExecutionSeal, check_bind_eq_ok, checkExpectation_ok]
  refine and_congr_right fun expected => ?_
  rw [bind_eq_ok]
  refine exists_congr fun path => and_congr_right fun relative => ?_
  rw [bind_eq_ok]
  refine exists_congr fun sealPath => and_congr_right fun _ => ?_
  rw [check_bind_eq_ok, ensure_eq_ok]
  refine and_congr_right fun _ => ?_
  rw [check_bind_eq_ok, ensure_eq_ok]
  have canonical : path.asPosix = prediction.path := (predictionRelative_ok.mp relative).1.2.2.1
  constructor
  · rintro ⟨-, found⟩
    split at found
    · rename_i content raw first second
      rw [bind_eq_ok] at found
      obtain ⟨read, reading, found⟩ := found
      rw [check_bind_eq_ok, check_bind_eq_ok, pure_eq_ok, checkPayload_ok expected,
        checkPrediction_ok hexdigest] at found
      obtain ⟨⟨keys, fields⟩, ⟨⟨inner, listed, exactly, text, digest, size⟩, same, length⟩, rfl⟩ := found
      refine ⟨content, raw, fileContent_eq.mp first, fileContent_eq.mp second, reading,
        ⟨keys, fields, inner, listed, exactly, ?_, ?_, ?_⟩, same, length⟩
      · exact canonical ▸ text
      · exact same ▸ digest
      · exact length ▸ size
    · cases found
  · rintro ⟨content, raw, first, second, reading, carries, same, length⟩
    rw [first, second]
    refine ⟨⟨rfl, rfl⟩, ?_⟩
    obtain ⟨inner, listed, exactly, text, digest, size⟩ := carries.prediction
    dsimp only [fileContent]
    rw [bind_eq_ok]
    refine ⟨members, reading, ?_⟩
    rw [check_bind_eq_ok, check_bind_eq_ok, pure_eq_ok, checkPayload_ok expected,
      checkPrediction_ok hexdigest]
    refine ⟨⟨carries.keys, carries.fields⟩, ⟨⟨inner, listed, exactly, ?_, ?_, ?_⟩, same, length⟩, rfl⟩
    · exact canonical.symm ▸ text
    · exact same ▸ digest
    · exact length ▸ size

/-! ### Sealed runs -/

/-- A component of a normalized relative path. -/
structure Plain (part : String) : Prop where
  component : IsComponent part
  parent : part ≠ ".."
  backslash : '\\' ∉ part.toList

lemma plain_of_identifier {s : String} (h : matchesIdentifier s = true) : Plain s := by
  have component := isComponent_of_identifier h
  simp only [matchesIdentifier, Bool.and_eq_true, decide_eq_true_eq, List.all_eq_true] at h
  refine ⟨component, ?_, ?_⟩
  · rintro rfl
    exact absurd (h.2 '.' (by decide)) (by decide)
  · intro slash
    exact absurd (h.2 '\\' slash) (by decide)

lemma plain_attempt {digits : List Char} (h : ∀ c ∈ digits, c.isDigit = true) :
    Plain ("attempt_" ++ String.ofList digits) := by
  refine ⟨isComponent_attempt h, ?_, ?_⟩
  · intro dots
    exact absurd (congrArg String.toList dots) (by simp)
  · intro slash
    rw [String.toList_append, List.mem_append] at slash
    rcases slash with front | digit
    · exact absurd front (by decide)
    · rw [String.toList_ofList] at digit
      exact absurd (h '\\' digit) (by decide)

lemma digits_attempt {n : Nat} : ∀ c ∈ Nat.toDigits 10 n, c.isDigit = true :=
  fun _ mem => Nat.isDigit_of_mem_toDigits (by decide) (by decide) mem

lemma RunArtifactManager.plain_directory (m : RunArtifactManager) : ∀ part ∈ m.directory, Plain part := by
  have run := plain_of_identifier m.runIdentifier
  have experiment := plain_of_identifier m.experimentIdentifier
  intro part mem
  rw [directory, List.mem_append, List.mem_append] at mem
  rcases mem with (root | own) | rest
  · obtain ⟨component, parent, backslash, -⟩ := m.store.normalized part root
    exact ⟨component, parent, backslash⟩
  · split_ifs at own
    · exact List.mem_singleton.mp own ▸ run
    · cases own
  · simp only [List.mem_cons, List.not_mem_nil, or_false] at rest
    rcases rest with rfl | rfl
    · exact experiment
    · split_ifs
      · exact plain_attempt digits_attempt
      · exact plain_attempt digits_padded

/-- The text of plain components is a normalized path. -/
lemma predictionRelative_plain {parts : List String} {prediction : ArtifactRef} (nonempty : parts ≠ [])
    (plain : ∀ part ∈ parts, Plain part) (text : prediction.path = join parts) :
    predictionRelative prediction = .ok ⟨"", parts⟩ := by
  have read := parse_join fun part mem => (plain part mem).component
  rw [predictionRelative_ok, text, read]
  refine ⟨⟨?_, not_not.mpr rfl, asPosix_join nonempty, ?_⟩, rfl⟩
  · intro slash
    rcases mem_join slash with same | ⟨part, mem, inside⟩
    · cases same
    · exact (plain part mem).backslash inside
  · intro parent
    exact (plain ".." parent).parent rfl

/-- The bytes of the prediction that a run leaves in its output directory, and their reference. -/
structure InOutputs (sha256 : List UInt8 → String) (m : RunArtifactManager) (prediction : ArtifactRef)
    (content : List UInt8) (rest : List String) : Prop where
  nonempty : rest ≠ []
  plain : ∀ part ∈ rest, Plain part
  path : prediction.path = join (m.directory ++ "outputs" :: rest)
  sha256 : prediction.sha256 = sha256 content
  sizeBytes : prediction.sizeBytes = content.length

/-- The expectation and the reference are what the seal binds. -/
structure IsSealed (values : SealedValues) (prediction : ArtifactRef) (expected : SealedValues)
    (reference : ArtifactRef) : Prop where
  values : expected = values
  path : reference.path = prediction.path
  sha256 : reference.sha256 = prediction.sha256
  sizeBytes : reference.sizeBytes = prediction.sizeBytes

/-- The seal that the verifier looks for. -/
def consultedSeal (reference : ArtifactRef) (expected : SealedValues) :
    Except ArtifactError (List String) := do
  sealRelative expected (← predictionRelative reference)

/-- The seal and the prediction are as they were written. -/
structure Unmodified (F : Type) [Floats F] (m : RunArtifactManager) (values : SealedValues)
    (prediction : ArtifactRef) (content : List UInt8) (disk : Disk) : Prop where
  sealFile : disk m.executionSealPath = some (.file (jsonBytes (sealPayload (F := F) values prediction)))
  predictionFile : disk (parse prediction.path).parts = some (.file content)
  sealPath : crossesSymlink disk m.executionSealPath = false
  predictionPath : crossesSymlink disk (parse prediction.path).parts = false

/-- Verification accepts what was sealed and nothing else. -/
structure ExactlySealed (F : Type) [PythonFloats F] (sha256 : List UInt8 → String) (m : RunArtifactManager)
    (values : SealedValues) (prediction : ArtifactRef) (content : List UInt8) : Prop where
  /-- The seal and the prediction are unmodified. -/
  accepts : ∀ disk, Unmodified F m values prediction content disk → ∀ reference expected,
    (consultedSeal reference expected = .ok m.executionSealPath ∧
      ∃ members : List (String × Json F),
        verifyExecutionSeal sha256 disk reference expected = .ok members) ↔
      IsSealed values prediction expected reference
  /-- A sealed value or the prediction is altered, and the prediction's digest stands for its bytes. -/
  refuses : (∀ bytes, sha256 bytes = sha256 content → bytes = content) →
    ∀ disk reference expected, IsSealed values prediction expected reference →
    (∀ raw (members : List (String × Json F)), disk m.executionSealPath = some (.file raw) →
        readSeal raw = .ok members → ¬ Carries values prediction members) ∨
      disk (parse prediction.path).parts ≠ some (.file content) →
    ∀ members : List (String × Json F),
      verifyExecutionSeal sha256 disk reference expected ≠ .ok members

/-- The seal is one that the verifier can accept: it lies in one of the two layouts, the identifiers of
the run follow the pattern of the run layout, and the request is one that the runner accepts. -/
structure Verifiable (F : Type) [Floats F] (m : RunArtifactManager) (values : SealedValues)
    (prediction : ArtifactRef) : Prop where
  layout : m.directory ∈ layouts values
  runId : matchesId m.runId = true
  experimentId : matchesId m.experimentId = true
  producerCommitSha : matchesCommit values.producerCommitSha = true
  commandId : matchesIdentifier values.commandId = true
  dataManifestSha256 : matchesSha256 values.dataManifestSha256 = true
  patchReceiptId : isReceiptId values.patchReceiptId = true
  size : (jsonBytes (sealPayload (F := F) values prediction)).length ≤ 64 * 1024

lemma lookup_sealMembers {values : SealedValues} {prediction : ArtifactRef} :
    ∀ member ∈ sealMembers (F := F) values prediction,
      (sealMembers values prediction).lookup member.1 = some member.2 := by
  simp +decide [sealMembers, List.lookup_cons]

/-- The honest members carry exactly the sealed values. -/
lemma carries_sealMembers {values expected : SealedValues} {prediction reference : ArtifactRef} :
    Carries expected reference (sealMembers (F := F) values prediction) ↔
      IsSealed values prediction expected reference := by
  have member : ∀ {k x}, (k, x) ∈ sealMembers (F := F) values prediction →
      (sealMembers values prediction).lookup k = some x := fun mem => lookup_sealMembers _ mem
  have text : ∀ {v w : String}, equalsText v (some (Json.str (F := F) w)) = true ↔ w = v := by
    intro v w
    rw [equalsText_iff, Option.some.injEq, Json.str.injEq]
  have count : ∀ {n k : Int}, equalsInt n (some (Json.int (F := F) k)) = true ↔ k = n := by
    intro n k
    exact decide_eq_true_iff
  have compare : (∀ field ∈ expectedValues expected,
      field.2 ((sealMembers (F := F) values prediction).lookup field.1) = true) ↔ expected = values := by
    simp only [expectedValues, List.forall_mem_cons, List.not_mem_nil, IsEmpty.forall_iff, implies_true,
      and_true]
    simp only [member (k := "schema") (x := .str executionSealSchema) (by simp [sealMembers]),
      member (k := "producer") (x := .str executionSealProducer) (by simp [sealMembers]),
      member (k := "run_id") (x := .str values.runId) (by simp [sealMembers]),
      member (k := "experiment_id") (x := .str values.experimentId) (by simp [sealMembers]),
      member (k := "execution_attempt") (x := .int values.executionAttempt) (by simp [sealMembers]),
      member (k := "producer_commit_sha") (x := .str values.producerCommitSha) (by simp [sealMembers]),
      member (k := "command_id") (x := .str values.commandId) (by simp [sealMembers]),
      member (k := "data_manifest_sha256") (x := .str values.dataManifestSha256) (by simp [sealMembers]),
      member (k := "patch_receipt_id") (x := .str values.patchReceiptId) (by simp [sealMembers]),
      member (k := "patch_receipt_sha256") (x := .str values.patchReceiptSha256) (by simp [sealMembers]),
      text, count, true_and]
    constructor
    · rintro ⟨run, experiment, attempt, commit, command, manifest, receiptId, receipt⟩
      cases expected
      cases values
      simp_all
    · rintro rfl
      simp
  constructor
  · rintro ⟨-, fields, inner, listed, -, path, digest, size⟩
    rw [member (k := "prediction") (by simp [sealMembers]; rfl), Option.some.injEq, Json.obj.injEq] at listed
    subst listed
    refine ⟨compare.mp fields, (text.mp path).symm, (text.mp digest).symm, ?_⟩
    have same := count.mp size
    exact (Int.ofNat.inj same).symm
  · rintro ⟨rfl, path, digest, size⟩
    refine ⟨by rfl, compare.mpr rfl, _, member (k := "prediction") (by simp [sealMembers]; rfl), by rfl, ?_, ?_, ?_⟩
    · exact text.mpr path.symm
    · exact text.mpr digest.symm
    · exact count.mpr (by rw [size])

section Sealed
variable {m : RunArtifactManager} {values expected : SealedValues} {prediction reference : ArtifactRef}
  {content : List UInt8} {rest : List String} {disk : Disk}

lemma InOutputs.plain_parts (inside : InOutputs sha256 m prediction content rest) :
    ∀ part ∈ m.directory ++ "outputs" :: rest, Plain part := by
  intro part mem
  rcases List.mem_append.mp mem with front | back
  · exact m.plain_directory part front
  · cases back with
    | head => exact ⟨by decide, by decide, by decide⟩
    | tail _ later => exact inside.plain part later

lemma InOutputs.parse (inside : InOutputs sha256 m prediction content rest) :
    PurePosixPath.parse prediction.path = ⟨"", m.directory ++ "outputs" :: rest⟩ := by
  rw [inside.path]
  exact parse_join fun part mem => (inside.plain_parts part mem).component

/-- The reference of the prediction has a normalized path. -/
lemma InOutputs.relative (inside : InOutputs sha256 m prediction content rest)
    (same : reference.path = prediction.path) :
    predictionRelative reference = .ok ⟨"", m.directory ++ "outputs" :: rest⟩ :=
  predictionRelative_plain (by simp) inside.plain_parts (same.trans inside.path)

/-- The verifier looks for the seal where the manager puts it when the layout is one of the two. -/
lemma InOutputs.consulted (inside : InOutputs sha256 m prediction content rest)
    (run : values.runId = m.runId) (experiment : values.experimentId = m.experimentId)
    (same : reference.path = prediction.path) :
    consultedSeal reference values = .ok m.executionSealPath ↔
      (matchesId m.runId = true ∧ matchesId m.experimentId = true) ∧ m.directory ∈ layouts values := by
  have runIdentifier : matchesIdentifier values.runId = true := run ▸ m.runIdentifier
  have experimentIdentifier : matchesIdentifier values.experimentId = true :=
    experiment ▸ m.experimentIdentifier
  rw [consultedSeal, inside.relative same, ok_bind,
    sealRelative_ok rfl runIdentifier experimentIdentifier, run, experiment]
  refine and_congr_right fun _ => ?_
  constructor
  · rintro ⟨directory, layout, rest', -, -, path⟩
    have equal : m.directory = directory := List.append_cancel_right path
    exact equal ▸ layout
  · intro layout
    exact ⟨m.directory, layout, rest, inside.nonempty, rfl, rfl⟩

variable [Json.LawfulFloats F]

/-- What an accepted verification of the unmodified files compared. -/
lemma Unmodified.isSealed (hexdigest : ∀ bytes, matchesSha256 (sha256 bytes) = true)
    (unmodified : Unmodified F m values prediction content disk)
    (consulted : consultedSeal reference expected = .ok m.executionSealPath)
    {members : List (String × Json F)}
    (accepted : verifyExecutionSeal sha256 disk reference expected = .ok members) :
    Expected expected ∧ (jsonBytes (sealPayload (F := F) values prediction)).length ≤ 64 * 1024 ∧
      IsSealed values prediction expected reference := by
  obtain ⟨wellFormed, path, relative, sealPath, found, -, content', raw, -, sealFile, reading, carries, -⟩ :=
    (verifyExecutionSeal_ok hexdigest).mp accepted
  rw [consultedSeal, relative, ok_bind, found, Except.ok.injEq] at consulted
  subst consulted
  have bytes : raw = jsonBytes (sealPayload (F := F) values prediction) := by
    rw [unmodified.sealFile, Option.some.injEq, Entry.file.injEq] at sealFile
    exact sealFile.symm
  have size := (readSeal_ok.mp reading).1
  have honest : readSeal raw = .ok (sealMembers (F := F) values prediction) := by
    rw [readSeal_ok, ← sealPayload_eq]
    exact ⟨size, sealPayload_canonical, bytes⟩
  rw [honest, Except.ok.injEq] at reading
  subst reading
  exact ⟨wellFormed, bytes ▸ size, carries_sealMembers.mp carries⟩

end Sealed

/-- Verification of a written seal is exact when the seal is verifiable, and only then. -/
theorem seal_verification_exact [Json.LawfulFloats F] (hexdigest : ∀ bytes, matchesSha256 (sha256 bytes) = true)
    {m : RunArtifactManager} {request : RunRequest} {commandId receiptSha256 : String}
    {prediction sealReference : ArtifactRef} {content : List UInt8} {rest : List String} {before after : Disk}
    (written : m.writeExecutionSeal (F := F) sha256 request commandId prediction receiptSha256 before =
      .ok (sealReference, after))
    (inside : InOutputs sha256 m prediction content rest) :
    ExactlySealed F sha256 m (m.sealedValues request commandId receiptSha256) prediction content ↔
      Verifiable F m (m.sealedValues request commandId receiptSha256) prediction := by
  have receipt : matchesSha256 receiptSha256 = true := by
    rw [RunArtifactManager.writeExecutionSeal, check_bind_eq_ok, check_bind_eq_ok, ensure_eq_ok,
      ensure_eq_ok] at written
    exact written.2.1
  have parts : (PurePosixPath.parse prediction.path).parts = m.directory ++ "outputs" :: rest := by
    rw [inside.parse]
  constructor
  · -- on a repository with the two files only, the sealed expectation is accepted
    intro exactly
    have apart : m.directory ++ "outputs" :: rest ≠ m.executionSealPath := by
      intro same
      have long := congrArg List.length same
      have some := List.length_pos_iff.mpr inside.nonempty
      simp only [RunArtifactManager.executionSealPath, List.length_append, List.length_cons,
        List.length_nil] at long
      omega
    let disk : Disk := fun path =>
      if path = m.executionSealPath then
        some (.file (jsonBytes (sealPayload (F := F) (m.sealedValues request commandId receiptSha256) prediction)))
      else if path = m.directory ++ "outputs" :: rest then some (.file content)
      else none
    have links : ∀ path, crossesSymlink disk path = false := by
      intro path
      rw [crossesSymlink, List.any_eq_false]
      intro front _
      simp only [disk, decide_eq_true_eq]
      split_ifs <;> simp
    have unmodified : Unmodified F m (m.sealedValues request commandId receiptSha256) prediction content disk :=
      ⟨if_pos rfl, by rw [parts]; exact (if_neg apart).trans (if_pos rfl), links _, links _⟩
    obtain ⟨consulted, members, accepted⟩ :=
      (exactly.accepts disk unmodified prediction _).mpr ⟨rfl, rfl, rfl, rfl⟩
    obtain ⟨wellFormed, size, -⟩ := unmodified.isSealed hexdigest consulted accepted
    obtain ⟨⟨run, experiment⟩, layout⟩ := (inside.consulted rfl rfl rfl).mp consulted
    exact ⟨layout, run, experiment, wellFormed.producerCommitSha, wellFormed.commandId,
      wellFormed.dataManifestSha256, wellFormed.patchReceiptId, size⟩
  · intro verifiable
    have consulted : ∀ reference : ArtifactRef, reference.path = prediction.path →
        consultedSeal reference (m.sealedValues request commandId receiptSha256) = .ok m.executionSealPath :=
      fun reference same => (inside.consulted rfl rfl same).mpr
        ⟨⟨verifiable.runId, verifiable.experimentId⟩, verifiable.layout⟩
    have wellFormed : Expected (m.sealedValues request commandId receiptSha256) :=
      ⟨m.runIdentifier, m.experimentIdentifier, Int.natCast_pos.mpr m.positive, verifiable.producerCommitSha,
        verifiable.commandId, verifiable.dataManifestSha256, verifiable.patchReceiptId, receipt⟩
    constructor
    · intro disk unmodified reference expected
      constructor
      · rintro ⟨found, members, accepted⟩
        exact (unmodified.isSealed hexdigest found accepted).2.2
      · rintro ⟨rfl, path, digest, size⟩
        refine ⟨consulted reference path, sealMembers (m.sealedValues request commandId receiptSha256) prediction, ?_⟩
        have found := consulted reference path
        rw [consultedSeal, inside.relative path, ok_bind] at found
        rw [verifyExecutionSeal_ok hexdigest]
        refine ⟨wellFormed, _, inside.relative path, _, found, ⟨?_, unmodified.sealPath⟩, content, _, ?_,
          unmodified.sealFile, ?_, carries_sealMembers.mpr ⟨rfl, path, digest, size⟩,
          digest.trans inside.sha256, size.trans inside.sizeBytes⟩
        · rw [← parts]
          exact unmodified.predictionPath
        · rw [← parts]
          exact unmodified.predictionFile
        · rw [readSeal_ok, ← sealPayload_eq]
          exact ⟨verifiable.size, sealPayload_canonical, rfl⟩
    · rintro injective disk reference expected ⟨rfl, path, digest, size⟩ altered members accepted
      obtain ⟨-, path', relative, sealPath, found, -, content', raw, predictionFile, sealFile, reading, carries,
        sameDigest, -⟩ := (verifyExecutionSeal_ok hexdigest).mp accepted
      have where_ := consulted reference path
      rw [consultedSeal, relative, ok_bind, found, Except.ok.injEq] at where_
      rw [inside.relative path, Except.ok.injEq] at relative
      subst where_ relative
      have whole : content' = content :=
        injective content' (sameDigest.symm.trans (digest.trans inside.sha256))
      rcases altered with other | other
      · apply other raw members sealFile reading
        obtain ⟨keys, fields, inner, listed, exactly, text, hash, count⟩ := carries
        exact ⟨keys, fields, inner, listed, exactly, path ▸ text, digest ▸ hash, size ▸ count⟩
      · apply other
        rw [parts, predictionFile, whole]

end Compare

/-! ### Two runs -/

section Runs

instance : PythonFloats Empty where
  toFloats := inferInstance
  equalsInt x _ := x.elim

/-- The bytes of a prediction of one row. -/
def oneRow : List UInt8 := Lines.encode "row_id,score\n0,0.5\n".toList

/-- SHA-256 on these bytes; other bytes have another digest. -/
def oneRowDigest (bytes : List UInt8) : String :=
  if bytes = oneRow then "eb31646db7b63d0f8671adc3de1740880fc558ff29e12a218a767507f437ca40"
  else String.ofList (List.replicate 64 '0')

lemma hexdigest_oneRow : ∀ bytes, matchesSha256 (oneRowDigest bytes) = true := by
  intro bytes
  unfold oneRowDigest
  split_ifs <;> decide

/-- The request of both runs. -/
def sealedRequest : RunRequest where
  experimentId := "exp_0001"
  attempt := 1
  fidelity := .smoke
  commandId := "candidate_smoke"
  patchCommitSha := String.ofList (List.replicate 40 'a')
  patchReceiptId := "receipt_001"
  seed := 0
  dataManifestSha256 := String.ofList (List.replicate 64 'b')

def receiptHash : String := String.ofList (List.replicate 64 'c')

/-- The reference of the prediction in an output directory. -/
def oneRowReference (m : RunArtifactManager) : ArtifactRef where
  artifactId := "sha256-" ++ oneRowDigest oneRow
  path := join (m.directory ++ ["outputs", "predictions.csv"])
  sha256 := oneRowDigest oneRow
  sizeBytes := oneRow.length

/-- The repository after the run: the prediction, and no seal yet. -/
def oneRowDisk (m : RunArtifactManager) : Disk := fun path =>
  if path = m.directory ++ ["outputs", "predictions.csv"] then some (.file oneRow) else none

lemma inOutputs_oneRow (m : RunArtifactManager) :
    InOutputs oneRowDigest m (oneRowReference m) oneRow ["predictions.csv"] where
  nonempty := by simp
  plain part mem := by
    rw [List.mem_singleton.mp mem]
    exact ⟨by decide, by decide, by decide⟩
  path := rfl
  sha256 := rfl
  sizeBytes := rfl

/-- A run in the layout of new runs. -/
def layoutManager : RunArtifactManager where
  store := { artifactRoot := ["runs", "run_001", "artifacts"], includeRunId := false, normalized := by decide }
  runId := "run_001"
  experimentId := "exp_0001"
  attempt := 1
  runIdentifier := by decide
  experimentIdentifier := by decide
  positive := by decide

theorem seal_verification_exact_layout : ExactlySealed Empty oneRowDigest layoutManager
    (layoutManager.sealedValues sealedRequest "candidate_smoke" receiptHash) (oneRowReference layoutManager)
    oneRow := by
  obtain ⟨⟨sealReference, after⟩, written⟩ : ∃ result,
      layoutManager.writeExecutionSeal (F := Empty) oneRowDigest sealedRequest "candidate_smoke"
        (oneRowReference layoutManager) receiptHash (oneRowDisk layoutManager) = .ok result := ⟨_, rfl⟩
  apply (seal_verification_exact hexdigest_oneRow written (inOutputs_oneRow layoutManager)).mpr
  exact {
    layout := by decide
    runId := by decide
    experimentId := by decide
    producerCommitSha := by decide
    commandId := by decide
    dataManifestSha256 := by decide
    patchReceiptId := by decide
    size := by decide +kernel }

/-- A run whose identifier starts with an underscore, in the layout that the store defaults to. -/
def underscoreManager : RunArtifactManager where
  store := { artifactRoot := ["artifacts"], normalized := by decide }
  runId := "_run"
  experimentId := "exp_0001"
  attempt := 1
  runIdentifier := by decide
  experimentIdentifier := by decide
  positive := by decide

/-- Its seal is written, and its verification raises an error of the other layout. -/
theorem underscore_run_refused : ∃ sealReference after,
    underscoreManager.writeExecutionSeal (F := Empty) oneRowDigest sealedRequest "candidate_smoke"
      (oneRowReference underscoreManager) receiptHash (oneRowDisk underscoreManager) =
        .ok (sealReference, after) ∧
    verifyExecutionSeal (F := Empty) oneRowDigest after (oneRowReference underscoreManager)
      (underscoreManager.sealedValues sealedRequest "candidate_smoke" receiptHash) =
        .error (.valueError "run_id is not a valid TacoRank identifier") :=
  ⟨_, _, rfl, rfl⟩

end Runs
end TacoRank.Execution
