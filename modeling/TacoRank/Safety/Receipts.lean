import TacoRank.Coding.Artifacts
import TacoRank.Lib.AsciiJson
import TacoRank.Safety.PathPolicy

/-!
# Gate A receipts

`ReceiptIdentity` and `ReceiptStore` of `safety/receipts.py`. A receipt is a canonical JSON object in a file that is
named by the digest of its bytes. Its payload passes for the identity that it was written from, with the experiment
root or without it, and for no other one (`checkPayloadIdentity_ok`).
-/

namespace TacoRank.Safety
open Lib Lib.Result Lib.PurePosixPath
open Memory (matchesId matchesSha256)
open Execution
open Coding (withDirectories withFile)

/-- The exceptions of a receipt store. -/
inductive ReceiptError where
  | valueError (message : String)
  | runtimeError (message : String)
  | osError | typeError | attributeError | unicodeDecodeError | jsonDecodeError
deriving DecidableEq

/-! ### Identities -/

/-- `[0-9a-f]{40,64}`. -/
def matchesGitSha (s : String) : Bool :=
  decide (40 ≤ s.toList.length) && decide (s.toList.length ≤ 64) &&
    s.toList.all fun c => c.isDigit || (decide ('a' ≤ c) && decide (c ≤ 'f'))

/-- `_validate_component`. -/
def validateComponent (value field : String) : Except ReceiptError Unit :=
  ensure (matchesId value = true) (.valueError (field ++ " is not a safe path component"))

/-- `_validate_git_sha`. -/
def validateGitSha (value : String) : Except ReceiptError Unit :=
  ensure (matchesGitSha value = true) (.valueError "patch_commit_sha must be a lowercase Git object id")

/-- The check of a digest. -/
def validateSha256 (value field : String) : Except ReceiptError Unit :=
  ensure (matchesSha256 value = true) (.valueError (field ++ " must be a lowercase SHA-256"))

/-- The fields of `ReceiptIdentity`. -/
structure IdentityFields where
  runId : String
  experimentId : String
  attempt : Int
  patchCommitSha : String
  diffSha256 : String
  contractSha256 : String
  protectedManifestSha256 : String
  dataManifestSha256 : String
  experimentRootCommitSha : Option String := none
  cumulativeDiffSha256 : Option String := none
deriving DecidableEq

namespace IdentityFields

/-- The end of `__post_init__`. -/
def checkCumulative : Option String → Option String → Except ReceiptError Unit
  | none, none => .ok ()
  | some root, some cumulative => do
    validateGitSha root
    validateSha256 cumulative "cumulative_diff_sha256"
  | _, _ => .error (.valueError "experiment root and cumulative diff identities must be supplied together")

/-- `__post_init__`. -/
def postInit (f : IdentityFields) : Except ReceiptError Unit := do
  validateComponent f.runId "run_id"
  validateComponent f.experimentId "experiment_id"
  ensure (0 < f.attempt) (.valueError "attempt must be a positive integer")
  validateGitSha f.patchCommitSha
  validateSha256 f.diffSha256 "diff_sha256"
  validateSha256 f.contractSha256 "contract_sha256"
  validateSha256 f.protectedManifestSha256 "protected_manifest_sha256"
  validateSha256 f.dataManifestSha256 "data_manifest_sha256"
  checkCumulative f.experimentRootCommitSha f.cumulativeDiffSha256

/-- What identifies the patch besides the experiment root. -/
def values (f : IdentityFields) : List (String × (String ⊕ Int)) :=
  [ ("run_id", .inl f.runId),
    ("experiment_id", .inl f.experimentId),
    ("attempt", .inr f.attempt),
    ("patch_commit_sha", .inl f.patchCommitSha),
    ("diff_sha256", .inl f.diffSha256),
    ("contract_sha256", .inl f.contractSha256),
    ("protected_manifest_sha256", .inl f.protectedManifestSha256),
    ("data_manifest_sha256", .inl f.dataManifestSha256) ]

/-- The cumulative diff since the experiment root. -/
def cumulativeValues (f : IdentityFields) : List (String × (String ⊕ Int)) :=
  match f.experimentRootCommitSha, f.cumulativeDiffSha256 with
  | some root, some cumulative =>
    [("experiment_root_commit_sha", .inl root), ("cumulative_diff_sha256", .inl cumulative)]
  | _, _ => []

end IdentityFields

/-- `ReceiptIdentity`. -/
structure ReceiptIdentity extends IdentityFields where
  checked : toIdentityFields.postInit = .ok ()

/-! ### Documents -/

section Documents
variable {F : Type} [PythonFloats F]

/-- The bytes of `_canonical_json`. -/
def canonicalJson (value : Json F) : List UInt8 := Lines.encode (Json.dumpsAscii value ++ ['\n'])

/-- A check of the gate as a mapping, by its members in the order of their keys. -/
structure CheckRecord (F : Type) where
  members : List (String × Json F)
  canonical : Json.Canonical (.obj members)

/-- `_json_safe_mapping`. -/
def jsonSafeMapping (check : CheckRecord F) : Except ReceiptError (List (String × Json F)) :=
  match Json.loads (Json.dumpsAscii (.obj check.members)) with
  | some (.obj members) => .ok members
  | some _ => .error (.valueError "check payload must be a mapping")
  | none => .error .jsonDecodeError

/-- `check.get("status") in accepted_statuses`; a container is not hashable. -/
def statusAccepted : Json F → Except ReceiptError Bool
  | .obj members =>
    match members.lookup "status" with
    | some (.str status) => .ok (decide (status = "pass") || decide (status = "not_applicable"))
    | some (.arr _) | some (.obj _) => .error .typeError
    | _ => .ok false
  | _ => .error .attributeError

/-- `all` of the checks are accepted; the first one that is not ends the search. -/
def allAccepted : List (Json F) → Except ReceiptError Bool
  | [] => .ok true
  | check :: checks => (statusAccepted check).bind fun accepted => if accepted then allAccepted checks else .ok false

/-- The value of an identity in a document. -/
def identityJson (member : String × (String ⊕ Int)) : String × Json F := (member.1, member.2.elim .str .int)

/-- The members of a receipt. -/
def receiptFields (identity : IdentityFields) (checks : List (List (String × Json F))) (timestamp : String) :
    List (String × Json F) :=
  [ ("schema_version", .str "1.0"),
    ("checks", .arr (checks.map .obj)),
    ("timestamp", .str timestamp) ] ++ (identity.values ++ identity.cumulativeValues).map identityJson

/-- `payload.get(name) == value`. -/
def carriesValue (members : List (String × Json F)) (member : String × (String ⊕ Int)) : Bool :=
  member.2.elim (fun text => equalsText text (members.lookup member.1))
    (fun n => equalsInt n (members.lookup member.1))

/-- `sorted` of names. -/
def sortedNames (names : List String) : List String := names.mergeSort fun a b => !decide (b.toList < a.toList)

/-- A receipt without the root in the identity may name one that is well formed. -/
def checkUnclaimedRoot (members : List (String × Json F)) : Except ReceiptError Unit :=
  match members.lookup "experiment_root_commit_sha", members.lookup "cumulative_diff_sha256" with
  | none, none => .ok ()
  | some (.str root), cumulative => do
    validateGitSha root
    match cumulative with
    | some (.str digest) =>
      ensure (matchesSha256 digest = true) (.valueError "receipt cumulative diff identity is malformed")
    | _ => .error (.valueError "receipt cumulative diff identity is malformed")
  | _, _ => .error (.valueError "patch_commit_sha must be a lowercase Git object id")

/-- `not payload.get("checks") or any(...)`: what is not a list is empty, or cannot be searched for checks. -/
def checkAccepted (members : List (String × Json F)) : Except ReceiptError Unit :=
  let refused : Except ReceiptError Unit :=
    .error (.valueError "receipt does not prove Gate A accepted every check")
  match members.lookup "checks" with
  | some (.arr []) | some (.obj []) | some (.bool false) | some .null | none => refused
  | some (.arr checks) => (allAccepted checks).bind fun accepted => if accepted then .ok () else refused
  | some (.obj _) => .error .attributeError
  | some (.str s) => if s = "" then refused else .error .attributeError
  | some (.bool true) => .error .typeError
  | some (.int n) => if n = 0 then refused else .error .typeError
  | some (.float x) => if PythonFloats.equalsInt x 0 then refused else .error .typeError

/-- The comparisons of `verify` with the payload. -/
def checkPayloadIdentity (identity : IdentityFields) (members : List (String × Json F)) :
    Except ReceiptError Unit := do
  identity.experimentRootCommitSha.elim (checkUnclaimedRoot members) fun _ => .ok ()
  let mismatched := (identity.values ++ identity.cumulativeValues).filter fun member => !carriesValue members member
  ensure (mismatched = []) (.valueError
    ("receipt identity mismatch: " ++ ", ".intercalate (sortedNames (mismatched.map Prod.fst))))
  checkAccepted members

/-- `json.loads(encoded.decode("utf-8"))`. -/
def parseReceipt (encoded : List UInt8) : Except ReceiptError (Json F) :=
  match Lines.decode encoded with
  | none => .error .unicodeDecodeError
  | some text =>
    match Json.loads text with
    | none => .error .jsonDecodeError
    | some payload => .ok payload

/-- The members of a payload; another value fails at the first operation of a mapping. -/
def payloadMembers (identity : IdentityFields) : Json F → Except ReceiptError (List (String × Json F))
  | .obj members => .ok members
  | .arr _ | .str _ => .error .attributeError
  | _ => if identity.experimentRootCommitSha.isSome then .error .attributeError else .error .typeError

end Documents

/-! ### The store -/

/-- `ReceiptStore`, with what its constructor checks. -/
structure ReceiptStore where
  artifactRoot : String := "artifacts"
  includeRunId : Bool := true
  maxReceiptBytes : Nat := 1024 * 1024
  normalized : normalizePolicyPath artifactRoot.toList = .ok artifactRoot.toList
  positive : 0 < maxReceiptBytes

/-- `WrittenReceipt`. -/
structure WrittenReceipt where
  receiptId : String
  artifactRef : Memory.ArtifactRef
  relativePath : String

/-- The factory of `ArtifactRef`: the schema strips its texts and validates them. -/
def buildArtifactRef (payload : Memory.ArtifactRef) : Except ReceiptError Memory.ArtifactRef := do
  ensure (payload.stripped.valid = true) (.valueError "validation error for ArtifactRef")
  return payload.stripped

/-- The fields of an artifact reference. -/
def artifactFields {F : Type} (artifact : Memory.ArtifactRef) : List (String × Json F) :=
  [ ("artifact_id", .str artifact.artifactId),
    ("kind", .str artifact.kind.value),
    ("path", .str artifact.path),
    ("sha256", .str artifact.sha256),
    ("size_bytes", .int artifact.sizeBytes),
    ("content_type", artifact.contentType.elim .null .str) ]

namespace ReceiptStore
variable {F : Type} [PythonFloats F] (sha256 : List UInt8 → String) (s : ReceiptStore)

/-- `_receipt_relative_path`. -/
def receiptRelativePath (identity : IdentityFields) (receiptId : String) : String :=
  join ([s.artifactRoot] ++ (if s.includeRunId then [identity.runId] else []) ++
    [ identity.experimentId,
      if s.includeRunId then attemptName identity.attempt.toNat else paddedAttemptName identity.attempt.toNat,
      "gate_a", receiptId ++ ".json" ])

/-- `_safe_artifact_path`. A path below no symbolic link resolves to itself, so it stays in the repository. -/
def safeArtifactPath (disk : Disk) (relativePath : String) : Except ReceiptError (List String) := do
  let normalized ← (normalizePolicyPath relativePath.toList).mapError .valueError
  let within ← (pathIsWithin normalized s.artifactRoot.toList).mapError .valueError
  ensure (within = true) (.valueError "receipt path is outside the approved artifact root")
  let target := split (String.ofList normalized)
  ensure (crossesSymlink disk target = false) (.valueError "receipt path traverses a symbolic link")
  return target

/-- The receipt of checks: its bytes. -/
def encodeReceipt (clock : Option String) (identity : ReceiptIdentity) (checks : List (CheckRecord F)) :
    Except ReceiptError (List UInt8) :=
  match clock with
  | none => .error (.valueError "receipt clock must return a timezone-aware datetime")
  | some timestamp => do
    let normalizedChecks ← checks.mapM jsonSafeMapping
    let accepted ← allAccepted (normalizedChecks.map .obj)
    ensure (normalizedChecks ≠ [] ∧ accepted = true)
      (.valueError "an acceptance receipt cannot contain failed checks")
    let encoded := canonicalJson (Json.object (receiptFields identity.toIdentityFields normalizedChecks timestamp))
    ensure (encoded.length ≤ s.maxReceiptBytes) (.valueError "receipt exceeds the configured size bound")
    return encoded

/-- `target.open("xb")`: a file that exists must hold the same bytes. -/
def createReceipt (disk : Disk) (target : List String) (encoded : List UInt8) : Except ReceiptError Disk :=
  match disk target with
  | none => .ok (withFile disk target encoded)
  | some (.file existing) => do
    ensure (existing = encoded) (.runtimeError "receipt path exists with different bytes")
    return disk
  | some _ => .error .osError

/-- The reference of a receipt, before the schema. -/
def artifactPayload (receiptId relativePath : String) (encoded : List UInt8) : Memory.ArtifactRef where
  artifactId := "sha256-" ++ receiptId
  kind := .verificationReceipt
  path := relativePath
  sha256 := receiptId
  sizeBytes := encoded.length
  contentType := some "application/json"

/-- The bytes of a receipt, its path and its target, up to `mkdir(parents=True, exist_ok=True)`. -/
def prepareReceipt (clock : Option String) (identity : ReceiptIdentity) (checks : List (CheckRecord F)) (disk : Disk) :
    Except ReceiptError (List UInt8 × String × List String) := do
  let encoded ← s.encodeReceipt clock identity checks
  let relativePath := s.receiptRelativePath identity.toIdentityFields (sha256 encoded)
  let target ← s.safeArtifactPath disk relativePath
  ensure (∀ front ∈ target.dropLast.inits, fileContent (disk front) = none) .osError
  return (encoded, relativePath, target)

/-- `write`: what it returns, and the repository after it. -/
def write (clock : Option String) (identity : ReceiptIdentity) (checks : List (CheckRecord F)) (disk : Disk) :
    Except ReceiptError WrittenReceipt × Disk :=
  match s.prepareReceipt sha256 clock identity checks disk with
  | .error error => (.error error, disk)
  | .ok (encoded, relativePath, target) =>
    let disk := withDirectories disk target.dropLast
    match createReceipt disk target encoded with
    | .error error => (.error error, disk)
    | .ok disk =>
      ((buildArtifactRef (artifactPayload (sha256 encoded) relativePath encoded)).map fun artifact =>
        { receiptId := sha256 encoded, artifactRef := artifact, relativePath }, disk)

/-- `size_bytes`, an integer that is not a truth value, within the bound. -/
def expectedSize : Option (Json F) → Except ReceiptError Int
  | some (.int n) => do
    ensure (1 ≤ n ∧ n ≤ s.maxReceiptBytes) (.valueError "receipt artifact size exceeds the configured bound")
    return n
  | _ => .error (.valueError "receipt artifact size exceeds the configured bound")

/-- `path`, a text. -/
def referencePath : Option (Json F) → Except ReceiptError String
  | some (.str path) => .ok path
  | _ => .error (.valueError "receipt artifact path is missing")

/-- The bytes of a regular file. -/
def receiptFile (entry : Option Execution.Entry) : Except ReceiptError (List UInt8) :=
  (fileContent entry).elim (.error (.valueError "receipt artifact is missing or is a symbolic link")) .ok

/-- The bytes of `verify`, which are those of the digest. -/
def readReceipt (disk : Disk) (artifactRef : List (String × Json F)) (identity : IdentityFields)
    (receiptId : String) : Except ReceiptError (List UInt8) := do
  ensure (matchesSha256 receiptId = true) (.valueError "receipt_id must be a lowercase SHA-256")
  let relativePath ← referencePath (artifactRef.lookup "path")
  ensure (relativePath = s.receiptRelativePath identity receiptId)
    (.valueError "receipt artifact path does not match its exact identity")
  ensure (equalsText "verification_receipt" (artifactRef.lookup "kind") = true)
    (.valueError "receipt artifact kind is invalid")
  ensure (equalsText ("sha256-" ++ receiptId) (artifactRef.lookup "artifact_id") = true)
    (.valueError "receipt artifact id does not match receipt_id")
  let target ← s.safeArtifactPath disk relativePath
  let encoded ← receiptFile (disk target)
  let size ← s.expectedSize (artifactRef.lookup "size_bytes")
  ensure (encoded.length = size ∧ encoded.length ≤ s.maxReceiptBytes)
    (.valueError "receipt artifact stat identity differs")
  ensure (sha256 encoded = receiptId) (.valueError "receipt bytes do not match receipt_id")
  ensure (equalsText (sha256 encoded) (artifactRef.lookup "sha256") = true)
    (.valueError "receipt artifact hash does not match")
  return encoded

/-- `verify`. -/
def verify (disk : Disk) (artifactRef : List (String × Json F)) (identity : ReceiptIdentity)
    (receiptId : String) : Except ReceiptError (List (String × Json F)) := do
  let encoded ← s.readReceipt sha256 disk artifactRef identity.toIdentityFields receiptId
  let payload ← parseReceipt encoded
  let members ← payloadMembers identity.toIdentityFields payload
  checkPayloadIdentity identity.toIdentityFields members
  return members

end ReceiptStore

/-! ### Round trips -/

section RoundTrips
variable {F : Type} [PythonFloats F] [Json.LawfulFloats F]

lemma parseReceipt_canonicalJson {value : Json F} (canonical : Json.Canonical value) :
    parseReceipt (canonicalJson value) = .ok value := by
  rw [parseReceipt, canonicalJson, Lines.decode_encode]
  dsimp only
  rw [(Json.loads_dumpsAscii canonical).2]

/-- The checks of a gate pass through JSON as they are. -/
lemma jsonSafeMapping_ok (check : CheckRecord F) : jsonSafeMapping check = .ok check.members := by
  rw [jsonSafeMapping, (Json.loads_dumpsAscii check.canonical).1]

lemma mapM_jsonSafeMapping (checks : List (CheckRecord F)) :
    checks.mapM jsonSafeMapping = .ok (checks.map CheckRecord.members) := by
  rw [mapM_eq_ok, List.forall₂_map_right_iff, List.forall₂_same]
  exact fun check _ => jsonSafeMapping_ok check

end RoundTrips

section Fields
variable {F : Type} {identity other : IdentityFields} {checks : List (List (String × Json F))} {timestamp : String}

lemma receiptFields_keys : ((receiptFields identity checks timestamp).map Prod.fst).Nodup := by
  have names : (receiptFields identity checks timestamp).map Prod.fst =
      ["schema_version", "checks", "timestamp"] ++
        (identity.values.map Prod.fst ++ identity.cumulativeValues.map Prod.fst) := by
    simp [receiptFields, identityJson, List.map_append, Function.comp_def]
  rw [names]
  unfold IdentityFields.cumulativeValues
  split
  all_goals
    simp only [IdentityFields.values, List.map_cons, List.map_nil]
    decide

lemma receiptFields_canonical [PythonFloats F] (canonical : ∀ check ∈ checks, Json.Canonical (.obj check)) :
    Json.Canonical (Json.object (receiptFields identity checks timestamp)) := by
  apply Json.canonical_object
  intro member mem
  have scalar (value : String ⊕ Int) : Json.Canonical (F := F) (value.elim .str .int) := by
    cases value <;> trivial
  simp only [receiptFields, List.mem_append, List.mem_cons, List.not_mem_nil, or_false, List.mem_map] at mem
  rcases mem with (rfl | rfl | rfl) | ⟨value, _, rfl⟩
  · trivial
  · refine Json.canonicalItems_iff.mpr fun item listed => ?_
    obtain ⟨check, mem, rfl⟩ := List.mem_map.mp listed
    exact canonical check mem
  · trivial
  · exact scalar value.2

end Fields

/-! ### Members and identities -/

/-- An identity that leaves the experiment root open. -/
def IdentityFields.withoutRoot (f : IdentityFields) : IdentityFields :=
  { f with experimentRootCommitSha := none, cumulativeDiffSha256 := none }

lemma ReceiptIdentity.together (i : ReceiptIdentity) :
    (i.experimentRootCommitSha = none ∧ i.cumulativeDiffSha256 = none) ∨
      ∃ root cumulative, i.experimentRootCommitSha = some root ∧ i.cumulativeDiffSha256 = some cumulative := by
  have checked := i.checked
  simp only [IdentityFields.postInit, check_bind_eq_ok] at checked
  have last := checked.2.2.2.2.2.2.2.2
  cases root : i.experimentRootCommitSha with
  | none =>
    cases cumulative : i.cumulativeDiffSha256 with
    | none => exact .inl ⟨rfl, rfl⟩
    | some digest =>
      rw [root, cumulative] at last
      cases last
  | some commit =>
    cases cumulative : i.cumulativeDiffSha256 with
    | none =>
      rw [root, cumulative] at last
      cases last
    | some digest => exact .inr ⟨commit, digest, rfl, rfl⟩

section Members
set_option linter.unusedSectionVars false
variable {F : Type} [PythonFloats F] {identity other : ReceiptIdentity} {checks : List (List (String × Json F))}
  {timestamp : String}

/-- The members of a receipt in the order of their keys. -/
def receiptMembers (identity : IdentityFields) (checks : List (List (String × Json F))) (timestamp : String) :
    List (String × Json F) :=
  (receiptFields identity checks timestamp).foldl (fun found member => Json.setMember member.1 member.2 found) []

lemma lookup_receiptMembers {member : String × Json F}
    (mem : member ∈ receiptFields identity.toIdentityFields checks timestamp) :
    (receiptMembers identity.toIdentityFields checks timestamp).lookup member.1 = some member.2 :=
  Json.lookup_members receiptFields_keys mem

lemma lookup_receiptMembers_value {name : String} {value : String ⊕ Int}
    (mem : (name, value) ∈ identity.values ++ identity.cumulativeValues) :
    (receiptMembers identity.toIdentityFields checks timestamp).lookup name =
      some (value.elim .str .int : Json F) := by
  have written : (name, (value.elim .str .int : Json F)) ∈ receiptFields identity.toIdentityFields checks timestamp :=
    List.mem_append_right _ (List.mem_map.mpr ⟨_, mem, rfl⟩)
  exact lookup_receiptMembers written

/-- A member compares as the value that it was written from. -/
lemma carriesValue_iff {members : List (String × Json F)} {name : String} {value wanted : String ⊕ Int}
    (found : members.lookup name = some (value.elim .str .int)) :
    carriesValue members (name, wanted) = true ↔ wanted = value := by
  unfold carriesValue
  dsimp only
  rw [found]
  cases value with
  | inl text =>
    cases wanted with
    | inl other =>
      simp only [Sum.elim_inl, equalsText, decide_eq_true_eq, Sum.inl.injEq]
      exact eq_comm
    | inr n => simp [equalsInt]
  | inr m =>
    cases wanted with
    | inl other => simp [equalsText]
    | inr n =>
      simp only [Sum.elim_inr, equalsInt, decide_eq_true_eq, Sum.inr.injEq]
      exact eq_comm

/-- Values of the same names are all carried when they are the values that were written. -/
lemma carried_iff_eq {members : List (String × Json F)} {values wanted : List (String × (String ⊕ Int))}
    (names : wanted.map Prod.fst = values.map Prod.fst)
    (found : ∀ value ∈ values, members.lookup value.1 = some (value.2.elim .str .int)) :
    (∀ member ∈ wanted, carriesValue members member = true) ↔ wanted = values := by
  induction values generalizing wanted with
  | nil => simp [List.map_eq_nil_iff.mp names]
  | cons value values ih =>
    cases wanted with
    | nil => cases names
    | cons member wanted =>
      obtain ⟨name, w⟩ := member
      rw [List.map_cons, List.map_cons, List.cons.injEq] at names
      obtain ⟨same, names⟩ := names
      dsimp only at same
      subst same
      rw [List.forall_mem_cons, carriesValue_iff (found value List.mem_cons_self),
        ih names fun v mem => found v (List.mem_cons_of_mem _ mem), List.cons.injEq]
      refine and_congr_left fun _ => ?_
      constructor
      · rintro rfl
        rfl
      · intro same
        rw [← same]

lemma values_eq_iff {f g : IdentityFields} : f.values = g.values ↔ f.withoutRoot = g.withoutRoot := by
  cases f
  cases g
  simp [IdentityFields.values, IdentityFields.withoutRoot]

lemma fields_eq_iff {f g : IdentityFields} : f = g ↔ f.withoutRoot = g.withoutRoot ∧
    f.experimentRootCommitSha = g.experimentRootCommitSha ∧ f.cumulativeDiffSha256 = g.cumulativeDiffSha256 := by
  cases f
  cases g
  simp [IdentityFields.withoutRoot, and_assoc]

lemma carriesValue_text {members : List (String × Json F)} {name text : String} :
    carriesValue members (name, .inl text) = true ↔ members.lookup name = some (.str text) :=
  Execution.equalsText_iff (F := F)

/-- What a receipt says about the experiment root. -/
lemma lookup_root :
    (receiptMembers identity.toIdentityFields checks timestamp).lookup "experiment_root_commit_sha" =
        identity.experimentRootCommitSha.map Json.str ∧
      (receiptMembers identity.toIdentityFields checks timestamp).lookup "cumulative_diff_sha256" =
        identity.cumulativeDiffSha256.map Json.str := by
  rcases identity.together with ⟨noRoot, noCumulative⟩ | ⟨root, cumulative, hasRoot, hasCumulative⟩
  · have none : identity.cumulativeValues = [] := by rw [IdentityFields.cumulativeValues, noRoot, noCumulative]
    rw [noRoot, noCumulative]
    constructor
    all_goals
      refine Json.lookup_members_of_notMem ?_
      simp +decide [receiptFields, identityJson, none, IdentityFields.values]
  · have has : identity.cumulativeValues =
        [("experiment_root_commit_sha", .inl root), ("cumulative_diff_sha256", .inl cumulative)] := by
      rw [IdentityFields.cumulativeValues, hasRoot, hasCumulative]
    have listed (name text : String) (mem : (name, .inl text) ∈ identity.cumulativeValues) :
        (receiptMembers identity.toIdentityFields checks timestamp).lookup name = some (.str text) :=
      lookup_receiptMembers_value (List.mem_append_right _ mem)
    rw [hasRoot, hasCumulative]
    exact ⟨listed _ root (by rw [has]; exact List.mem_cons_self),
      listed _ cumulative (by rw [has]; exact List.mem_cons_of_mem _ List.mem_cons_self)⟩

/-- The experiment root of an identity is compared when it has one. -/
lemma carried_root_iff {root cumulative : String} (wantedRoot : other.experimentRootCommitSha = some root)
    (wantedCumulative : other.cumulativeDiffSha256 = some cumulative) :
    (∀ member ∈ other.cumulativeValues,
      carriesValue (receiptMembers identity.toIdentityFields checks timestamp) member = true) ↔
      identity.experimentRootCommitSha = some root ∧ identity.cumulativeDiffSha256 = some cumulative := by
  have wanted : other.cumulativeValues =
      [("experiment_root_commit_sha", .inl root), ("cumulative_diff_sha256", .inl cumulative)] := by
    rw [IdentityFields.cumulativeValues, wantedRoot, wantedCumulative]
  rw [wanted, List.forall_mem_cons, List.forall_mem_singleton, carriesValue_text, carriesValue_text,
    lookup_root.1, lookup_root.2]
  simp

/-- A receipt carries its own identity, with the experiment root or without it, and no other one. -/
lemma carried_iff : (∀ member ∈ other.values ++ other.cumulativeValues,
      carriesValue (receiptMembers identity.toIdentityFields checks timestamp) member = true) ↔
    other.toIdentityFields = identity.toIdentityFields ∨ other.toIdentityFields = identity.withoutRoot := by
  have own : (∀ member ∈ other.values,
      carriesValue (receiptMembers identity.toIdentityFields checks timestamp) member = true) ↔
        other.values = identity.values :=
    carried_iff_eq rfl fun value mem => lookup_receiptMembers_value (List.mem_append_left _ mem)
  rw [List.forall_mem_append, own, values_eq_iff]
  rcases other.together with ⟨noRoot, noCumulative⟩ | ⟨root, cumulative, hasRoot, hasCumulative⟩
  · have none : other.cumulativeValues = [] := by rw [IdentityFields.cumulativeValues, noRoot, noCumulative]
    have bare : other.toIdentityFields = other.withoutRoot :=
      fields_eq_iff.mpr ⟨rfl, noRoot, noCumulative⟩
    rw [none]
    simp only [List.not_mem_nil, IsEmpty.forall_iff, implies_true, and_true]
    constructor
    · intro same
      exact .inr (bare.trans same)
    · rintro (same | same)
      · rw [same]
      · rw [← bare, same]
  · rw [carried_root_iff hasRoot hasCumulative]
    constructor
    · rintro ⟨same, root', cumulative'⟩
      exact .inl (fields_eq_iff.mpr ⟨same, hasRoot.trans root'.symm, hasCumulative.trans cumulative'.symm⟩)
    · rintro (same | same)
      · exact ⟨by rw [same], by rw [← hasRoot, same], by rw [← hasCumulative, same]⟩
      · rw [same] at hasRoot
        cases hasRoot

/-- A receipt may name a root that the identity leaves open. -/
lemma checkUnclaimedRoot_ok :
    checkUnclaimedRoot (receiptMembers identity.toIdentityFields checks timestamp) = .ok () := by
  have checked := identity.checked
  simp only [IdentityFields.postInit, check_bind_eq_ok] at checked
  have last := checked.2.2.2.2.2.2.2.2
  unfold checkUnclaimedRoot
  rw [lookup_root.1, lookup_root.2]
  rcases identity.together with ⟨noRoot, noCumulative⟩ | ⟨root, cumulative, hasRoot, hasCumulative⟩
  · rw [noRoot, noCumulative]
    rfl
  · rw [hasRoot, hasCumulative] at last ⊢
    simp only [IdentityFields.checkCumulative, validateSha256, check_bind_eq_ok, ensure_eq_ok] at last
    exact check_bind_eq_ok.mpr ⟨last.1, ensure_eq_ok.mpr last.2⟩

lemma checkAccepted_ok (nonempty : checks ≠ []) (accepted : allAccepted (checks.map Json.obj) = .ok true) :
    checkAccepted (receiptMembers identity.toIdentityFields checks timestamp) = .ok () := by
  have listed : (receiptMembers identity.toIdentityFields checks timestamp).lookup "checks" =
      some (.arr (checks.map .obj)) := by
    have written : ("checks", (.arr (checks.map .obj) : Json F)) ∈
        receiptFields identity.toIdentityFields checks timestamp :=
      List.mem_append_left _ (List.mem_cons_of_mem _ List.mem_cons_self)
    exact lookup_receiptMembers written
  unfold checkAccepted
  rw [listed]
  cases checks with
  | nil => exact absurd rfl nonempty
  | cons check checks =>
    rw [List.map_cons] at accepted ⊢
    dsimp only
    rw [accepted]
    rfl

/-- The payload of a receipt passes for its own identity. -/
lemma checkPayloadIdentity_ok (nonempty : checks ≠ [])
    (accepted : allAccepted (checks.map Json.obj) = .ok true) :
    checkPayloadIdentity other.toIdentityFields (receiptMembers identity.toIdentityFields checks timestamp) =
        .ok () ↔
      other.toIdentityFields = identity.toIdentityFields ∨ other.toIdentityFields = identity.withoutRoot := by
  have root : other.experimentRootCommitSha.elim
      (checkUnclaimedRoot (receiptMembers identity.toIdentityFields checks timestamp)) (fun _ => .ok ()) = .ok () := by
    cases other.experimentRootCommitSha with
    | none => exact checkUnclaimedRoot_ok
    | some _ => rfl
  have carried : (∀ member ∈ other.values ++ other.cumulativeValues,
        carriesValue (receiptMembers identity.toIdentityFields checks timestamp) member = true) ↔
      other.toIdentityFields = identity.toIdentityFields ∨ other.toIdentityFields = identity.withoutRoot :=
    carried_iff
  rw [← carried, checkPayloadIdentity, root, ok_bind]
  simp only [check_bind_eq_ok, ensure_eq_ok, checkAccepted_ok nonempty accepted, and_true, List.filter_eq_nil_iff,
    Bool.not_eq_true', Bool.not_eq_false]

end Members

end TacoRank.Safety
