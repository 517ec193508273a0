import TacoRank.Execution.SealVerification

/-!
# Candidate artifacts

`write_artifact` of `git/patches.py`, with which the coder keeps the files of a patch below the directory of
its attempt. A file is refused where another one with different bytes is. Files whose paths are apart never
meet (`writeArtifacts_ok`), and the files of two attempts are apart (`CandidateFiles.apart`).
-/

namespace TacoRank.Coding
open Lib Lib.Result Lib.PurePosixPath
open Memory (matchesId padded)
open Execution

/-- The errors of `write_artifact`: `GitOperationError` with its code, `OSError`, and the error of the run
layout. -/
inductive WriteError where
  | gitOperationError (code message : String)
  | osError
  | layout (error : ArtifactError)
deriving DecidableEq

/-- `validate_relative_path`. -/
def validateRelativePath (path : String) : Except WriteError String := do
  ensure (path ≠ "" ∧ '\\' ∉ path.toList ∧ '\x00' ∉ path.toList)
    (.gitOperationError "INVALID_RELATIVE_PATH" "invalid relative path")
  ensure (path.toList.all fun c => 32 ≤ c.toNat)
    (.gitOperationError "INVALID_RELATIVE_PATH" "control character in path")
  let value := parse path
  ensure (¬ value.IsAbsolute ∧ ∀ part ∈ value.parts, part ∉ ["", ".", ".."])
    (.gitOperationError "INVALID_RELATIVE_PATH" "path is not normalized and relative")
  ensure (value.asPosix = path) (.gitOperationError "INVALID_RELATIVE_PATH" "path is not normalized")
  return value.asPosix

/-- A repository with the directories on a path. -/
def withDirectories (disk : Disk) (path : List String) : Disk := fun p =>
  if p <+: path ∧ disk p = none then some .directory else disk p

/-- A repository with a file. -/
def withFile (disk : Disk) (path : List String) (content : List UInt8) : Disk := fun p =>
  if p = path then some (.file content) else disk p

/-- `destination.parent.mkdir(parents=True, exist_ok=True)` and the check that the parent lies below the root:
a symbolic link leads out of it. -/
def makeParent (disk : Disk) (destination : List String) : Except WriteError Disk := do
  ensure (crossesSymlink disk destination.dropLast = false)
    (.gitOperationError "ARTIFACT_PATH_ESCAPE" "artifact parent escaped its root")
  ensure (∀ front ∈ destination.dropLast.inits, fileContent (disk front) = none) .osError
  return withDirectories disk destination.dropLast

/-- `write_artifact`. -/
def writeArtifact (disk : Disk) (relativePath : String) (content : List UInt8) : Except WriteError Disk := do
  let normalized ← validateRelativePath relativePath
  let destination := (parse normalized).parts
  let disk ← makeParent disk destination
  match disk destination with
  | none => return withFile disk destination content
  | some (.file existing) =>
    if existing = content then
      return disk
    else
      throw (.gitOperationError "ARTIFACT_PATH_COLLISION" "artifact path already contains different bytes")
  | some _ =>
    throw (.gitOperationError "ARTIFACT_PATH_COLLISION" "artifact destination is not a regular file")

/-! ### The files of a patch -/

/-- A name that a path keeps, and that `validate_relative_path` accepts. -/
structure FileName (part : String) : Prop where
  component : IsComponent part
  inside : part ≠ ".."
  printable : ∀ c ∈ part.toList, 32 ≤ c.toNat ∧ c ≠ '\\'

/-- Neither path lies below the other one. -/
def Apart (a b : List String) : Prop := ¬ a <+: b ∧ ¬ b <+: a

/-- The files that the coder keeps of a patch, by their names below the directory of the attempt: the diff,
the trajectory, the reviews. -/
structure CandidateFiles where
  files : List (List String × List UInt8)
  names : ∀ file ∈ files, file.1 ≠ [] ∧ ∀ part ∈ file.1, FileName part
  apart : files.Pairwise fun a b => Apart a.1 b.1

/-- The files of a patch are written one after the other. -/
def writeCandidate (runId experimentId : String) (attempt : Nat) (produced : CandidateFiles) (disk : Disk) :
    Except WriteError Disk := do
  let directory ← (experimentArtifactPrefix runId experimentId attempt).mapError .layout
  produced.files.foldlM (fun disk file => writeArtifact disk (directory ++ "/" ++ join file.1) file.2) disk

/-- A repository without files. -/
def emptyDisk : Disk := fun _ => none

/-! ### Writing apart -/

section Apart
variable {disk disk' : Disk} {written : List (List String)} {path : List String} {content : List UInt8}

/-- What a repository holds after some paths were written: their files and the directories above them. -/
structure Holds (disk : Disk) (written : List (List String)) : Prop where
  noSymlink : ∀ p, disk p ≠ some .symlink
  below : ∀ p, disk p ≠ none → ∃ w ∈ written, p <+: w
  file : ∀ p bytes, disk p = some (.file bytes) → p ∈ written

lemma Holds.empty : Holds emptyDisk [] := by
  refine ⟨fun p => ?_, fun p found => absurd rfl found, fun p bytes found => ?_⟩
  · rintro ⟨⟩
  · cases found

lemma validateRelativePath_join (nonempty : path ≠ []) (names : ∀ part ∈ path, FileName part) :
    validateRelativePath (join path) = .ok (join path) := by
  have read := parse_join fun part mem => (names part mem).component
  have text : asPosix ⟨"", path⟩ = join path := asPosix_join nonempty
  have chars : ∀ c ∈ (join path).toList, 32 ≤ c.toNat ∧ c ≠ '\\' := by
    intro c mem
    rcases mem_join mem with rfl | ⟨part, listed, inside⟩
    · decide
    · exact (names part listed).printable c inside
  have filled : join path ≠ "" := by
    intro empty
    rw [empty] at read
    exact nonempty (congrArg PurePosixPath.parts read).symm
  simp only [validateRelativePath, read, text, check_bind_eq_ok, ensure_eq_ok, pure_eq_ok, and_true]
  refine ⟨⟨filled, fun mem => (chars _ mem).2 rfl, fun mem => absurd (chars _ mem).1 (by decide)⟩,
    List.all_eq_true.mpr fun c mem => decide_eq_true (chars c mem).1, fun absolute => absolute rfl, fun part mem => ?_⟩
  have name := names part mem
  simp [name.component.nonempty, name.component.moves, name.inside]

lemma makeParent_ok (links : crossesSymlink disk path.dropLast = false)
    (files : ∀ front ∈ path.dropLast.inits, fileContent (disk front) = none) :
    makeParent disk path = .ok (withDirectories disk path.dropLast) :=
  check_bind_eq_ok.mpr ⟨ensure_eq_ok.mpr links, check_bind_eq_ok.mpr ⟨ensure_eq_ok.mpr files, rfl⟩⟩

/-- A file is written where nothing else is. -/
lemma Holds.write (h : Holds disk written) (nonempty : path ≠ []) (names : ∀ part ∈ path, FileName part)
    (apart : ∀ w ∈ written, Apart path w) :
    ∃ disk', writeArtifact disk (join path) content = .ok disk' ∧ Holds disk' (path :: written) := by
  have read := parse_join fun part mem => (names part mem).component
  have parent : path.dropLast <+: path := List.dropLast_prefix path
  have shorter : path.dropLast ≠ path := by
    intro same
    have length := congrArg List.length same
    rw [List.length_dropLast] at length
    have positive := List.length_pos_iff.mpr nonempty
    omega
  have vacant : disk path = none := by
    by_contra found
    obtain ⟨w, mem, below⟩ := h.below path found
    exact (apart w mem).1 below
  have links : crossesSymlink disk path.dropLast = false := by
    simp only [crossesSymlink, List.any_eq_false, decide_eq_true_eq]
    exact fun front _ => h.noSymlink front
  have files : ∀ front ∈ path.dropLast.inits, fileContent (disk front) = none := by
    intro front mem
    cases found : disk front with
    | none => rfl
    | some entry =>
      cases entry with
      | file bytes =>
        have above := ((List.mem_inits _ _).mp mem).trans parent
        exact absurd above (apart front (h.file front bytes found)).2
      | _ => rfl
  have made := makeParent_ok links files
  have free : withDirectories disk path.dropLast path = none := by
    rw [withDirectories, if_neg, vacant]
    exact fun inside => shorter (parent.eq_of_length_le inside.1.length_le)
  refine ⟨withFile (withDirectories disk path.dropLast) path content, ?_, ?_⟩
  · unfold writeArtifact
    rw [validateRelativePath_join nonempty names, ok_bind, read]
    dsimp only
    rw [made, ok_bind, free]
    rfl
  · refine ⟨fun p => ?_, fun p found => ?_, fun p bytes found => ?_⟩
    · unfold withFile withDirectories
      split_ifs
      · simp
      · simp
      · exact h.noSymlink p
    · by_cases here : p = path
      · exact ⟨path, List.mem_cons_self, here ▸ List.prefix_rfl⟩
      rw [withFile, if_neg here] at found
      by_cases above : p <+: path.dropLast ∧ disk p = none
      · exact ⟨path, List.mem_cons_self, above.1.trans parent⟩
      · rw [withDirectories, if_neg above] at found
        obtain ⟨w, mem, below⟩ := h.below p found
        exact ⟨w, List.mem_cons_of_mem _ mem, below⟩
    · by_cases here : p = path
      · exact here ▸ List.mem_cons_self
      rw [withFile, if_neg here] at found
      by_cases above : p <+: path.dropLast ∧ disk p = none
      · rw [withDirectories, if_pos above] at found
        cases found
      · rw [withDirectories, if_neg above] at found
        exact List.mem_cons_of_mem _ (h.file p bytes found)

/-- Files whose paths are apart are all written. -/
lemma Holds.writeAll {files : List (List String × List UInt8)} (h : Holds disk written)
    (names : ∀ file ∈ files, file.1 ≠ [] ∧ ∀ part ∈ file.1, FileName part)
    (apart : files.Pairwise fun a b => Apart a.1 b.1) (vacant : ∀ file ∈ files, ∀ w ∈ written, Apart file.1 w) :
    ∃ disk', files.foldlM (fun disk file => writeArtifact disk (join file.1) file.2) disk = .ok disk' ∧
      Holds disk' ((files.map Prod.fst).reverse ++ written) := by
  induction files generalizing disk written with
  | nil => exact ⟨disk, rfl, h⟩
  | cons file files ih =>
    obtain ⟨first, rest⟩ := List.pairwise_cons.mp apart
    have name := names file List.mem_cons_self
    obtain ⟨next, wrote, holds⟩ : ∃ disk', writeArtifact disk (join file.1) file.2 = .ok disk' ∧
        Holds disk' (file.1 :: written) := h.write name.1 name.2 (vacant file List.mem_cons_self)
    obtain ⟨last, wrote', holds'⟩ := ih holds (fun other mem => names other (List.mem_cons_of_mem file mem)) rest (by
      intro other mem w listed
      rcases List.mem_cons.mp listed with rfl | old
      · exact ⟨(first other mem).2, (first other mem).1⟩
      · exact vacant other (List.mem_cons_of_mem file mem) w old)
    refine ⟨last, ?_, by simpa using holds'⟩
    rw [List.foldlM_cons, wrote]
    exact wrote'

end Apart

/-! ### The directories of attempts -/

section Directories
variable {runId experimentId : String} {attempt attempt' : Nat}

lemma padded_injective {width : Nat} (same : padded width attempt = padded width attempt') : attempt = attempt' := by
  have value (n : Nat) : Nat.ofDigitChars 10 (padded width n) 0 = n := by
    rw [padded, Nat.ofDigitChars_append, Nat.ofDigitChars_replicate_zero, Nat.mul_zero,
      Nat.ofDigitChars_ten_toDigits]
  rw [← value attempt, same, value]

lemma paddedAttemptName_injective (same : paddedAttemptName attempt = paddedAttemptName attempt') :
    attempt = attempt' := by
  have chars := congrArg String.toList same
  simp only [paddedAttemptName, String.toList_append, String.toList_ofList, List.append_cancel_left_eq] at chars
  exact padded_injective chars

/-- The directory of an attempt. -/
def attemptDirectory (runId experimentId : String) (attempt : Nat) : List String :=
  ["runs", runId, "artifacts", experimentId, paddedAttemptName attempt]

lemma fileName_of_id {s : String} (h : matchesId s = true) : FileName s := by
  cases chars : s.toList with
  | nil => simp [matchesId, chars] at h
  | cons c cs =>
    have range : ∀ d ∈ s.toList, d ≠ '/' ∧ 32 ≤ d.toNat ∧ d ≠ '\\' := by
      simp only [matchesId, chars, Bool.and_eq_true, List.all_eq_true, Memory.isAlnum, Bool.or_eq_true,
        decide_eq_true_eq] at h
      intro d mem
      rw [chars] at mem
      have kind : d.isAlphanum = true ∨ d = '_' ∨ d = '.' ∨ d = '-' := by
        rcases List.mem_cons.mp mem with rfl | later
        · exact .inl h.1.1
        · simpa [or_assoc] using h.2 d later
      rcases kind with alnum | rfl | rfl | rfl
      · have range := Lines.range_of_alphanum alnum
        refine ⟨?_, by omega, ?_⟩ <;> rintro rfl <;> revert range <;> decide
      all_goals decide
    have first : c ≠ '.' := by
      simp only [matchesId, chars, Bool.and_eq_true, Memory.isAlnum] at h
      rintro rfl
      exact absurd h.1.1 (by decide)
    have start : ∀ ds : List Char, s ≠ String.ofList ('.' :: ds) := by
      rintro ds rfl
      rw [String.toList_ofList] at chars
      cases chars
      exact first rfl
    refine ⟨⟨?_, start [], fun slash => (range _ slash).1 rfl⟩, start ['.'], fun d mem => (range d mem).2⟩
    rintro rfl
    cases chars

lemma fileName_attempt : FileName (paddedAttemptName attempt) := by
  have start (c : Char) (ds : List Char) (other : c ≠ 'a') : paddedAttemptName attempt ≠ String.ofList (c :: ds) := by
    intro same
    have chars := congrArg String.toList same
    simp only [paddedAttemptName, String.toList_append, String.toList_ofList] at chars
    have heads : some 'a' = some c := congrArg List.head? chars
    exact other (Option.some.inj heads).symm
  refine ⟨isComponent_attempt digits_padded, start '.' ['.'] (by decide), fun c mem => ?_⟩
  simp only [paddedAttemptName, String.toList_append, String.toList_ofList, List.mem_append] at mem
  rcases mem with front | digit
  · have printable : "attempt_".toList.all (fun c => 32 ≤ c.toNat ∧ c ≠ '\\') = true := rfl
    exact of_decide_eq_true (List.all_eq_true.mp printable c front)
  · have range := Lines.range_of_digit (digits_padded c digit)
    refine ⟨by omega, ?_⟩
    rintro rfl
    revert range
    decide

lemma fileName_directory (run : matchesId runId = true) (experiment : matchesId experimentId = true) :
    ∀ part ∈ attemptDirectory runId experimentId attempt, FileName part := by
  simp only [attemptDirectory, List.forall_mem_cons, List.not_mem_nil, IsEmpty.forall_iff, implies_true, and_true]
  exact ⟨fileName_of_id rfl, fileName_of_id run, fileName_of_id rfl, fileName_of_id experiment, fileName_attempt⟩

lemma experimentArtifactPrefix_ok (run : matchesId runId = true) (experiment : matchesId experimentId = true) :
    experimentArtifactPrefix runId experimentId attempt =
      .ok (join (attemptDirectory runId experimentId attempt)) := by
  have root : parse "runs" = ⟨"", ["runs"]⟩ := by decide
  have text : asPosix ⟨"", attemptDirectory runId experimentId attempt⟩ = _ := asPosix_join (List.cons_ne_nil _ _)
  have named (value field : String) (valid : matchesId value = true) : identifier value field = .ok value :=
    identifier_ok.mpr ⟨valid, rfl⟩
  simp only [experimentArtifactPrefix, runRelativeDirectory, named _ _ run, named _ _ experiment, root, ok_bind]
  exact congrArg Except.ok text

lemma join_append {a b : List String} (front : a ≠ []) (back : b ≠ []) : join a ++ "/" ++ join b = join (a ++ b) := by
  induction a with
  | nil => exact absurd rfl front
  | cons part a ih =>
    cases a with
    | nil =>
      obtain ⟨next, rest, rfl⟩ := List.exists_cons_of_ne_nil back
      have one : join [part] = part := String.toList_inj.mp (by simp [join])
      rw [one, List.singleton_append, join_cons_cons, String.append_assoc]
    | cons next a =>
      rw [join_cons_cons, List.cons_append, List.cons_append, join_cons_cons, ← List.cons_append,
        ← ih (List.cons_ne_nil _ _)]
      simp only [String.append_assoc]

/-- The paths below the directory of an attempt. -/
def CandidateFiles.paths (produced : CandidateFiles) (directory : List String) : List (List String × List UInt8) :=
  produced.files.map fun file => (directory ++ file.1, file.2)

/-- Writing the files of a patch is writing files at their paths. -/
lemma writeCandidate_eq {produced : CandidateFiles} {disk : Disk} (run : matchesId runId = true)
    (experiment : matchesId experimentId = true) : writeCandidate runId experimentId attempt produced disk =
      (produced.paths (attemptDirectory runId experimentId attempt)).foldlM
        (fun disk file => writeArtifact disk (join file.1) file.2) disk := by
  obtain ⟨files, names, apart⟩ := produced
  have filled : attemptDirectory runId experimentId attempt ≠ [] := List.cons_ne_nil _ _
  have each (disk : Disk) (file : List String × List UInt8) (mem : file ∈ files) :
      writeArtifact disk (join (attemptDirectory runId experimentId attempt) ++ "/" ++ join file.1) file.2 =
        writeArtifact disk (join (attemptDirectory runId experimentId attempt ++ file.1)) file.2 := by
    rw [join_append filled (names file mem).1]
  rw [writeCandidate, experimentArtifactPrefix_ok run experiment, CandidateFiles.paths, List.foldlM_map]
  exact foldlM_congr each

lemma apart_append {directory : List String} {a b : List String} (h : Apart a b) :
    Apart (directory ++ a) (directory ++ b) :=
  ⟨fun below => h.1 ((List.prefix_append_right_inj directory).mp below),
    fun below => h.2 ((List.prefix_append_right_inj directory).mp below)⟩

/-- What lies in the directories of two attempts is apart. -/
lemma apart_attempts (other : attempt ≠ attempt') (a b : List String) :
    Apart (attemptDirectory runId experimentId attempt ++ a)
      (attemptDirectory runId experimentId attempt' ++ b) := by
  have name : paddedAttemptName attempt ≠ paddedAttemptName attempt' := fun same =>
    other (paddedAttemptName_injective same)
  simp only [Apart, attemptDirectory, List.cons_append, List.nil_append, List.cons_prefix_cons, true_and]
  exact ⟨fun below => name below.1, fun below => name below.1.symm⟩

/-- The files of attempts that are all different are written without a collision, whatever they hold. -/
theorem writeCandidates_ok (run : matchesId runId = true) (experiment : matchesId experimentId = true)
    (patches : List (Nat × CandidateFiles)) (distinct : patches.Pairwise fun a b => a.1 ≠ b.1) :
    ∃ disk, patches.foldlM (fun disk patch => writeCandidate runId experimentId patch.1 patch.2 disk)
      emptyDisk = .ok disk := by
  have flat (disk : Disk) : patches.foldlM
      (fun disk patch => writeCandidate runId experimentId patch.1 patch.2 disk) disk =
      (patches.flatMap fun patch => patch.2.paths (attemptDirectory runId experimentId patch.1)).foldlM
        (fun disk file => writeArtifact disk (join file.1) file.2) disk := by
    rw [foldlM_flatMap]
    exact foldlM_congr fun disk patch _ => writeCandidate_eq run experiment
  have names : ∀ file ∈ patches.flatMap fun patch => patch.2.paths (attemptDirectory runId experimentId patch.1),
      file.1 ≠ [] ∧ ∀ part ∈ file.1, FileName part := by
    intro file mem
    obtain ⟨patch, _, listed⟩ := List.mem_flatMap.mp mem
    obtain ⟨below, produced, rfl⟩ := List.mem_map.mp listed
    refine ⟨by simp [attemptDirectory], fun part inside => ?_⟩
    rcases List.mem_append.mp inside with front | back
    · exact fileName_directory run experiment part front
    · exact (patch.2.names below produced).2 part back
  have separate : (patches.flatMap fun patch => patch.2.paths (attemptDirectory runId experimentId patch.1)).Pairwise
      fun a b => Apart a.1 b.1 := by
    refine List.pairwise_flatMap.mpr ⟨fun patch _ => ?_, distinct.imp fun other a left b right => ?_⟩
    · exact List.pairwise_map.mpr (patch.2.apart.imp apart_append)
    · obtain ⟨file, _, rfl⟩ := List.mem_map.mp left
      obtain ⟨file', _, rfl⟩ := List.mem_map.mp right
      exact apart_attempts other file.1 file'.1
  obtain ⟨disk, wrote, _⟩ := Holds.empty.writeAll names separate fun _ _ w none => by cases none
  exact ⟨disk, (flat emptyDisk).trans wrote⟩

end Directories

end TacoRank.Coding
