import TacoRank.Lib.PosixPath
import TacoRank.Lib.Result
import TacoRank.Memory.Envelope

/-!
# Execution artifacts

`RunArtifactManager.write_execution_seal` and `verify_execution_seal` of `execution/artifacts.py`, with
the artifact store of `execution/interfaces.py` and the layouts of `run_layout.py`. A path is the list
of its components below the repository root, which is resolved; the digest is a parameter.
-/

namespace TacoRank.Execution
open Lib Lib.Result
open Memory (matchesId matchesSha256 padded)

/-! ### Identifiers -/

/-- `^[A-Za-z0-9_-]{1,128}$`, the pattern of the runner, of the artifact store and of the verifier. -/
def matchesIdentifier (s : String) : Bool :=
  decide (s ≠ "") && decide (s.toList.length ≤ 128) &&
    s.toList.all fun c => c.isAlphanum || c = '_' || c = '-'

/-- `[0-9a-f]{40}|[0-9a-f]{64}`. -/
def matchesCommit (s : String) : Bool :=
  (decide (s.toList.length = 40) || decide (s.toList.length = 64)) &&
    s.toList.all fun c => c.isDigit || (decide ('a' ≤ c) && decide (c ≤ 'f'))

/-- A receipt id: some text of at most 256 characters. -/
def isReceiptId (s : String) : Bool := decide (s ≠ "") && decide (s.toList.length ≤ 256)

/-- `"attempt_{0}".format(attempt)`. -/
def attemptName (attempt : Nat) : String := "attempt_" ++ String.ofList (Nat.toDigits 10 attempt)

/-- `"attempt_%03d" % attempt`. -/
def paddedAttemptName (attempt : Nat) : String := "attempt_" ++ String.ofList (padded 3 attempt)

/-! ### Files -/

/-- What a path of the repository names. -/
inductive Entry where
  | file (content : List UInt8)
  | directory
  | symlink
deriving DecidableEq

/-- The repository. -/
abbrev Disk := List String → Option Entry

/-- The path or a directory above it is a symbolic link. -/
def crossesSymlink (disk : Disk) (path : List String) : Bool :=
  path.inits.any fun front => disk front = some .symlink

/-- The bytes of a regular file. -/
def fileContent : Option Entry → Option (List UInt8)
  | some (.file content) => some content
  | _ => none

/-- The errors of this module, those of `run_layout` and those of the artifact store. -/
inductive ArtifactError where
  | executionSealVerificationError (message : String)
  | executionArtifactPathError (message : String)
  | valueError (message : String)
  | artifactError (message : String)
deriving DecidableEq

abbrev refusal {α : Type} (message : String) : Except ArtifactError α :=
  .error (.executionSealVerificationError message)

/-! ### Layouts -/

/-- `CanonicalArtifactStoreAdapter`: the directory of the artifacts, which `_normalized_relative` has
accepted, and whether the run has a directory of its own in it. -/
structure ArtifactStoreAdapter where
  artifactRoot : List String
  includeRunId : Bool := true
  /-- `ArtifactStore.approved_roots`. -/
  approvedRoots : List (List String) := [["artifacts"], ["runs"]]
  normalized : ∀ part ∈ artifactRoot, PurePosixPath.IsComponent part ∧ part ≠ ".." ∧
    '\\' ∉ part.toList ∧ '\x00' ∉ part.toList

/-- `RunArtifactManager`, with what its constructor checks. -/
structure RunArtifactManager where
  store : ArtifactStoreAdapter
  runId : String
  experimentId : String
  attempt : Nat
  runIdentifier : matchesIdentifier runId = true
  experimentIdentifier : matchesIdentifier experimentId = true
  positive : 0 < attempt

namespace RunArtifactManager

/-- `attempt_directory`. -/
def directory (m : RunArtifactManager) : List String :=
  m.store.artifactRoot ++ (if m.store.includeRunId then [m.runId] else []) ++
    [m.experimentId, if m.store.includeRunId then attemptName m.attempt else paddedAttemptName m.attempt]

end RunArtifactManager

/-- `_identifier` of `run_layout.py`. -/
def identifier (value field : String) : Except ArtifactError String := do
  ensure (matchesId value = true) (.valueError (field ++ " is not a valid TacoRank identifier"))
  return value

/-- `run_relative_directory`. -/
def runRelativeDirectory (runId : String) : Except ArtifactError PurePosixPath := do
  return (PurePosixPath.parse "runs").child (← identifier runId "run_id")

/-- `experiment_artifact_prefix`, of a positive attempt. -/
def experimentArtifactPrefix (runId experimentId : String) (attempt : Nat) :
    Except ArtifactError String := do
  let path := (← runRelativeDirectory runId).child "artifacts"
  let path := path.child (← identifier experimentId "experiment_id")
  return (path.child (paddedAttemptName attempt)).asPosix

/-! ### Writing the seal -/

def executionSealFilename : String := "execution-seal.json"

def executionSealSchema : String := "tacorank.execution-seal.v1"

def executionSealProducer : String := "tacorank.execution.ExecutionRunner"

/-- The bytes of `write_json`. -/
def jsonBytes {F : Type} [Floats F] (value : Json F) : List UInt8 := Lines.encode (Json.dumps value) ++ [10]

/-- The values that a seal binds. -/
structure SealedValues where
  runId : String
  experimentId : String
  executionAttempt : Int
  producerCommitSha : String
  commandId : String
  dataManifestSha256 : String
  patchReceiptId : String
  patchReceiptSha256 : String
deriving DecidableEq

namespace RunArtifactManager

/-- The values of `write_execution_seal`. -/
def sealedValues (m : RunArtifactManager) (request : RunRequest) (commandId receiptSha256 : String) :
    SealedValues where
  runId := m.runId
  experimentId := m.experimentId
  executionAttempt := m.attempt
  producerCommitSha := request.patchCommitSha
  commandId := commandId
  dataManifestSha256 := request.dataManifestSha256
  patchReceiptId := request.patchReceiptId
  patchReceiptSha256 := receiptSha256

/-- `execution_seal_path`. -/
def executionSealPath (m : RunArtifactManager) : List String := m.directory ++ [executionSealFilename]

end RunArtifactManager

/-- The payload of a seal, a sorted object. -/
def sealPayload {F : Type} (values : SealedValues) (prediction : ArtifactRef) : Json F :=
  Json.object
    [ ("schema", .str executionSealSchema),
      ("producer", .str executionSealProducer),
      ("run_id", .str values.runId),
      ("experiment_id", .str values.experimentId),
      ("execution_attempt", .int values.executionAttempt),
      ("producer_commit_sha", .str values.producerCommitSha),
      ("command_id", .str values.commandId),
      ("data_manifest_sha256", .str values.dataManifestSha256),
      ("patch_receipt_id", .str values.patchReceiptId),
      ("patch_receipt_sha256", .str values.patchReceiptSha256),
      ("prediction", Json.object
        [ ("path", .str prediction.path),
          ("sha256", .str prediction.sha256),
          ("size_bytes", .int prediction.sizeBytes) ]) ]

section Writer
variable {F : Type} [Floats F] (sha256 : List UInt8 → String)

/-- `ArtifactStore.write` on a path that names nothing yet. -/
def storeWrite (store : ArtifactStoreAdapter) (path : List String) (content : List UInt8) (disk : Disk) :
    Except ArtifactError (ArtifactRef × Disk) := do
  ensure (store.approvedRoots.any fun root => root.isPrefixOf path)
    (.artifactError ("artifact path is outside approved roots: " ++ PurePosixPath.join path))
  return (
    { artifactId := "sha256-" ++ sha256 content
      path := PurePosixPath.join path
      sha256 := sha256 content
      sizeBytes := content.length },
    fun other => if other = path then some (.file content) else disk other)

/-- `write_execution_seal`: the reference of the seal, and the repository after it. -/
def RunArtifactManager.writeExecutionSeal (m : RunArtifactManager) (request : RunRequest)
    (commandId : String) (prediction : ArtifactRef) (receiptSha256 : String) (disk : Disk) :
    Except ArtifactError (ArtifactRef × Disk) := do
  ensure ((disk m.executionSealPath).isNone = true)
    (.executionArtifactPathError "execution seal path already exists")
  ensure (matchesSha256 receiptSha256 = true)
    (.executionArtifactPathError "verified receipt hash is required")
  ensure (crossesSymlink disk m.executionSealPath = false)
    (.valueError "artifact path contains a symbolic link")
  storeWrite sha256 m.store m.executionSealPath
    (jsonBytes (sealPayload (F := F) (m.sealedValues request commandId receiptSha256) prediction)) disk

end Writer

/-! ### Verifying the seal -/

/-- Floats with the comparison `x == n` of the language. -/
class PythonFloats (F : Type) extends Floats F where
  equalsInt : F → Int → Bool

section Verifier
variable {F : Type} [PythonFloats F] (sha256 : List UInt8 → String)

/-- `str(value)`; the text of a container is cut after its bracket, which no pattern accepts. -/
def pythonStr : Json F → String
  | .null => "None"
  | .bool true => "True"
  | .bool false => "False"
  | .int n => String.ofList (Json.decimal n)
  | .float x => String.ofList (Floats.repr x)
  | .str s => s
  | .arr _ => "["
  | .obj _ => "\x7b"

/-- `value == text`. -/
def equalsText (text : String) : Option (Json F) → Bool
  | some (.str s) => s = text
  | _ => false

/-- `value == n`; the truth values are numbers, and so are floats. -/
def equalsInt (n : Int) : Option (Json F) → Bool
  | some (.int m) => m = n
  | some (.bool b) => (if b then 1 else 0) = n
  | some (.float x) => PythonFloats.equalsInt x n
  | _ => false

/-- The keys of a mapping are exactly these. -/
def hasKeys (members : List (String × Json F)) (keys : List String) : Bool :=
  (members.map Prod.fst).all (keys.contains ·) && keys.all ((members.map Prod.fst).contains ·)

/-- The checks of the expectation. -/
def checkExpectation (values : SealedValues) : Except ArtifactError Unit := do
  ensure (matchesIdentifier values.runId = true ∧ matchesIdentifier values.experimentId = true)
    (.executionSealVerificationError "invalid execution seal identity")
  ensure (0 < values.executionAttempt)
    (.executionSealVerificationError "execution attempt must be positive")
  ensure (matchesCommit values.producerCommitSha = true)
    (.executionSealVerificationError "producer commit is malformed")
  ensure (matchesIdentifier values.commandId = true)
    (.executionSealVerificationError "expected command_id is required")
  ensure (matchesSha256 values.dataManifestSha256 = true)
    (.executionSealVerificationError "expected data manifest is required")
  ensure (isReceiptId values.patchReceiptId = true)
    (.executionSealVerificationError "expected patch receipt id is required")
  ensure (matchesSha256 values.patchReceiptSha256 = true)
    (.executionSealVerificationError "expected patch receipt hash is required")

/-- `prediction_relative`. -/
def predictionRelative (prediction : ArtifactRef) : Except ArtifactError PurePosixPath := do
  let path := PurePosixPath.parse prediction.path
  ensure ('\\' ∉ prediction.path.toList ∧ ¬ path.IsAbsolute ∧ path.asPosix = prediction.path ∧
      ".." ∉ path.parts)
    (.executionSealVerificationError "prediction path is not normalized")
  return path

/-- `expected_prefixes`, the output directories of the two layouts. -/
def expectedPrefixes (values : SealedValues) : Except ArtifactError (List PurePosixPath) := do
  let attempt := values.executionAttempt.toNat
  let current ← experimentArtifactPrefix values.runId values.experimentId attempt
  return [
    ⟨"", ["artifacts", values.runId, values.experimentId, attemptName attempt, "outputs"]⟩,
    (PurePosixPath.parse current).child "outputs"]

/-- `seal_relative`: the seal beside the one output directory that the prediction is in. -/
def sealRelative (values : SealedValues) (prediction : PurePosixPath) :
    Except ArtifactError (List String) := do
  let prefixes ← expectedPrefixes values
  match prefixes.filter fun outputs => prediction.IsRelativeTo outputs ∧ prediction ≠ outputs with
  | [outputs] => return outputs.parts.dropLast ++ [executionSealFilename]
  | _ => refusal "prediction is outside the exact execution output directory"

/-- The payload of the bytes of a seal. -/
def readSeal (raw : List UInt8) : Except ArtifactError (List (String × Json F)) := do
  ensure (raw.length ≤ 64 * 1024)
    (.executionSealVerificationError "execution seal is unexpectedly large")
  match (Lines.decode raw).bind Json.loads with
  | none => refusal "execution seal is malformed"
  | some payload => do
    ensure (raw = jsonBytes payload)
      (.executionSealVerificationError "execution seal is not canonical JSON")
    match payload with
    | .obj members => return members
    | _ => refusal "execution seal is not canonical JSON"

/-- `required_keys`. -/
def requiredKeys : List String :=
  [ "schema", "producer", "run_id", "experiment_id", "execution_attempt", "producer_commit_sha",
    "command_id", "data_manifest_sha256", "patch_receipt_id", "patch_receipt_sha256", "prediction" ]

/-- `expected_values`, with the comparison of each. -/
def expectedValues (values : SealedValues) : List (String × (Option (Json F) → Bool)) :=
  [ ("schema", equalsText executionSealSchema),
    ("producer", equalsText executionSealProducer),
    ("run_id", equalsText values.runId),
    ("experiment_id", equalsText values.experimentId),
    ("execution_attempt", equalsInt values.executionAttempt),
    ("producer_commit_sha", equalsText values.producerCommitSha),
    ("command_id", equalsText values.commandId),
    ("data_manifest_sha256", equalsText values.dataManifestSha256),
    ("patch_receipt_id", equalsText values.patchReceiptId),
    ("patch_receipt_sha256", equalsText values.patchReceiptSha256) ]

/-- `str(payload.get(key, ""))`. -/
def memberText (members : List (String × Json F)) (key : String) : String :=
  ((members.lookup key).map pythonStr).getD ""

/-- The check of `receipt_id`. -/
def checkReceiptId : Option (Json F) → Except ArtifactError Unit
  | some (.str receiptId) =>
    ensure (isReceiptId receiptId = true)
      (.executionSealVerificationError "execution seal receipt id is malformed")
  | _ => refusal "execution seal receipt id is malformed"

/-- The check of `receipt_sha`, which may be null here. -/
def checkReceiptHash : Option (Json F) → Except ArtifactError Unit
  | none | some .null => .ok ()
  | some receiptHash =>
    ensure (matchesSha256 (pythonStr receiptHash) = true)
      (.executionSealVerificationError "execution seal receipt hash is malformed")

/-- The checks of the payload up to the prediction. -/
def checkPayload (values : SealedValues) (members : List (String × Json F)) :
    Except ArtifactError Unit := do
  ensure (hasKeys members requiredKeys = true)
    (.executionSealVerificationError "execution seal has unexpected fields")
  ensure (matchesIdentifier (memberText members "command_id") = true)
    (.executionSealVerificationError "execution seal command_id is malformed")
  ensure (matchesSha256 (memberText members "data_manifest_sha256") = true)
    (.executionSealVerificationError "execution seal data manifest is malformed")
  checkReceiptId (members.lookup "patch_receipt_id")
  checkReceiptHash (members.lookup "patch_receipt_sha256")
  (expectedValues values).forM fun field =>
    ensure (field.2 (members.lookup field.1) = true)
      (.executionSealVerificationError ("execution seal " ++ field.1 ++ " mismatch"))

/-- The checks of the sealed prediction, of its bytes and of its reference. -/
def checkPrediction (path : PurePosixPath) (prediction : ArtifactRef) (content : List UInt8)
    (members : List (String × Json F)) : Except ArtifactError Unit :=
  match members.lookup "prediction" with
  | some (.obj fields) => do
    ensure (hasKeys fields ["path", "sha256", "size_bytes"] = true)
      (.executionSealVerificationError "execution seal prediction is malformed")
    ensure (matchesSha256 (sha256 content) = true)
      (.executionSealVerificationError "prediction digest is malformed")
    ensure (equalsText path.asPosix (fields.lookup "path") = true ∧
        equalsText (sha256 content) (fields.lookup "sha256") = true ∧
        equalsInt content.length (fields.lookup "size_bytes") = true)
      (.executionSealVerificationError "execution seal prediction mismatch")
    ensure (prediction.sha256 = sha256 content ∧ prediction.sizeBytes = content.length)
      (.executionSealVerificationError "prediction ArtifactRef mismatch")
  | _ => refusal "execution seal prediction is malformed"

/-- `verify_execution_seal`. -/
def verifyExecutionSeal (disk : Disk) (prediction : ArtifactRef) (values : SealedValues) :
    Except ArtifactError (List (String × Json F)) := do
  checkExpectation values
  let path ← predictionRelative prediction
  let sealPath ← sealRelative values path
  ensure (crossesSymlink disk path.parts = false ∧ crossesSymlink disk sealPath = false)
    (.executionSealVerificationError "execution seal path contains a symbolic link")
  ensure ((disk path.parts).isSome = true ∧ (disk sealPath).isSome = true)
    (.executionSealVerificationError "execution seal evidence is missing")
  match fileContent (disk path.parts), fileContent (disk sealPath) with
  | some content, some raw => do
    let members ← readSeal raw
    checkPayload values members
    checkPrediction sha256 path prediction content members
    return members
  | _, _ => refusal "execution seal evidence is not a file"

end Verifier
end TacoRank.Execution
