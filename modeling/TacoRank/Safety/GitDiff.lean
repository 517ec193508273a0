import TacoRank.Lib.Lines
import TacoRank.Lib.Result
import TacoRank.Lib.Shell
import TacoRank.Text

/-!
# The diff parser

Port of `parse_git_diff` in `safety/patch_gate.py` and of `ChangedPath` in `safety/path_policy.py`. The
parser reads a diff line by line, where a line ends at more characters than a line feed. Texts are lists of
characters.
-/

namespace TacoRank.Safety
open Lib Lib.Result

/-- What `parse_git_diff` raises. -/
inductive DiffError where
  | unicodeDecodeError
  | diffParseError (message : String)
deriving DecidableEq, Repr

/-- The values of `status`. -/
inductive ChangeStatus where
  | modified | added | deleted | renamed
deriving DecidableEq, Repr

/-- `ChangedPath`. -/
structure ChangedPath where
  oldPath : Option (List Char)
  newPath : Option (List Char)
  status : ChangeStatus
  oldMode : Option (List Char)
  newMode : Option (List Char)
deriving DecidableEq, Repr

namespace ChangedPath

/-- `reported_path`, where an empty path counts as missing. -/
def reportedPath (change : ChangedPath) : List Char :=
  ((change.newPath.filter (· ≠ [])).or (change.oldPath.filter (· ≠ []))).getD []

/-- `paths`. -/
def paths (change : ChangedPath) : List (List Char) :=
  (change.oldPath.toList ++ change.newPath.toList).eraseDups

/-- `is_submodule`. -/
def isSubmodule (change : ChangedPath) : Bool :=
  change.oldMode = some "160000".toList || change.newMode = some "160000".toList

/-- `is_symlink`. -/
def isSymlink (change : ChangedPath) : Bool :=
  change.oldMode = some "120000".toList || change.newMode = some "120000".toList

end ChangedPath

/-- The dictionary `current` of `parse_git_diff`. -/
structure DiffBlock where
  oldPath : Option (List Char)
  newPath : Option (List Char)
  status : ChangeStatus := .modified
  oldMode : Option (List Char) := none
  newMode : Option (List Char) := none
  oldMarkerSeen : Bool := false
  newMarkerSeen : Bool := false
  oldMarker : Option (List Char) := none
  newMarker : Option (List Char) := none
deriving DecidableEq, Repr

/-- The variables of the loop of `parse_git_diff`. -/
structure DiffState where
  changes : List ChangedPath := []
  current : Option DiffBlock := none
  hasChangeMarker : Bool := false
  inHunk : Bool := false
deriving DecidableEq, Repr

/-! ### Lines -/

/-- `line.startswith(literal)`. -/
def startsWith (line : List Char) (literal : String) : Bool := literal.toList.isPrefixOf line

/-- `line.rsplit(" ", 1)[-1]`. -/
def lastField (line : List Char) : List Char := line.rtakeWhile (· ≠ ' ')

/-- `line.split()`. -/
def fields (line : List Char) : List (List Char) := (line.splitOnP isPythonSpace).filter (· ≠ [])

/-- `re.fullmatch(r"[0-7]{6}", mode)`. -/
def isFileMode (mode : List Char) : Bool := mode.length = 6 && mode.all fun c => '0' ≤ c && c ≤ '7'

/-- `shlex.split(value, posix=True)`. -/
def shlexSplit (value : List Char) (message : String) : Except DiffError (List (List Char)) :=
  (Shell.split value).mapError fun _ => .diffParseError message

/-- `_diff_header_path`. -/
def diffHeaderPath (value : List Char) (side : String) : Except DiffError (List Char) := do
  ensure (startsWith value side = true ∧ value.length ≠ side.length)
    (.diffParseError ("diff header path lacks " ++ side ++ " prefix"))
  return value.drop side.length

/-- The only word of a value. -/
def onlyWord (value : List Char) (message : String) : Except DiffError (List Char) := do
  let tokens ← shlexSplit value message
  match tokens with
  | [token] => return token
  | _ => .error (.diffParseError message)

/-- `_metadata_path`. -/
def metadataPath (value : List Char) : Except DiffError (List Char) := onlyWord value "malformed rename path"

/-- `_file_marker_path`. -/
def fileMarkerPath (value : List Char) (side : String) : Except DiffError (Option (List Char)) :=
  (onlyWord value "malformed diff file marker").bind fun token =>
    if token = "/dev/null".toList then .ok none else (diffHeaderPath token side).map some

/-! ### Blocks -/

/-- `_changed_path_from_block`. -/
def changedPathFromBlock (block : DiffBlock) : Except DiffError ChangedPath := do
  ensure (block.oldMarkerSeen = block.newMarkerSeen) (.diffParseError "diff file markers are incomplete")
  let expectedOld := if block.status = .added then none else block.oldPath
  let expectedNew := if block.status = .deleted then none else block.newPath
  ensure (block.oldMarkerSeen = true → block.oldMarker = expectedOld ∧ block.newMarker = expectedNew)
    (.diffParseError "diff file markers do not match diff header")
  ensure ((block.oldMode.toList ++ block.newMode.toList).all isFileMode = true)
    (.diffParseError "diff contains an invalid file mode")
  return {
    oldPath := block.oldPath
    newPath := block.newPath
    status := block.status
    oldMode := block.oldMode
    newMode := block.newMode }

/-- The changes after the current block, if there is one, has ended. -/
def closeBlock (state : DiffState) : Except DiffError (List ChangedPath) :=
  match state.current with
  | none => .ok state.changes
  | some block => do
    ensure (state.hasChangeMarker = true) (.diffParseError "diff block contains no change marker")
    let change ← changedPathFromBlock block
    return state.changes ++ [change]

/-- A line that starts with `diff --git `. -/
def openBlock (state : DiffState) (line : List Char) : Except DiffError DiffState := do
  let changes ← closeBlock state
  let tokens ← shlexSplit line "malformed diff header"
  match tokens with
  | [diff, git, old, new] =>
    ensure (diff = "diff".toList ∧ git = "--git".toList) (.diffParseError "malformed diff header")
    let oldPath ← diffHeaderPath old "a/"
    let newPath ← diffHeaderPath new "b/"
    return { changes, current := some { oldPath := some oldPath, newPath := some newPath } }
  | _ => .error (.diffParseError "malformed diff header")

/-- `not in_hunk and line.startswith(literal)`. -/
def DiffState.metadata (state : DiffState) (line : List Char) (literal : String) : Bool :=
  !state.inHunk && startsWith line literal

/-- The current block was written. -/
def DiffState.write (state : DiffState) (block : DiffBlock) : DiffState := { state with current := some block }

/-- The current block was written, and has a change marker. -/
def DiffState.mark (state : DiffState) (block : DiffBlock) : DiffState :=
  { state with current := some block, hasChangeMarker := true }

/-- A line that follows the header of the current block. -/
def blockLine (state : DiffState) (block : DiffBlock) (line : List Char) : Except DiffError DiffState :=
  if state.metadata line "new file mode " then
    .ok (state.mark { block with status := .added, newMode := some (lastField line) })
  else if state.metadata line "deleted file mode " then
    .ok (state.mark { block with status := .deleted, oldMode := some (lastField line), newPath := none })
  else if state.metadata line "old mode " then
    .ok (state.mark { block with oldMode := some (lastField line) })
  else if state.metadata line "new mode " then
    .ok (state.mark { block with newMode := some (lastField line) })
  else if state.metadata line "rename from " then
    (metadataPath (line.drop "rename from ".length)).map fun path =>
      state.mark { block with oldPath := some path, status := .renamed }
  else if state.metadata line "rename to " then
    (metadataPath (line.drop "rename to ".length)).map fun path =>
      state.mark { block with newPath := some path, status := .renamed }
  else if state.metadata line "--- " then
    (fileMarkerPath (line.drop 4) "a/").map fun marker =>
      state.write { block with oldMarkerSeen := true, oldMarker := marker }
  else if state.metadata line "+++ " then
    (fileMarkerPath (line.drop 4) "b/").map fun marker =>
      state.write { block with newMarkerSeen := true, newMarker := marker }
  else if startsWith line "@@ " || startsWith line "@@@ " then
    .ok { state.mark block with inHunk := true }
  else if startsWith line "GIT binary patch" || startsWith line "Binary files " then
    .ok (state.mark block)
  else if startsWith line "index " && decide (3 ≤ (fields line).length) &&
      decide ((fields line).getLast? = some "160000".toList) then
    .ok (state.write { block with oldMode := some "160000".toList, newMode := some "160000".toList })
  else
    .ok state

/-- The body of the loop of `parse_git_diff`. -/
def parseLine (state : DiffState) (line : List Char) : Except DiffError DiffState :=
  if startsWith line "diff --git " then openBlock state line
  else match state.current with
    | some block => blockLine state block line
    | none =>
      if stripChars isPythonSpace line = [] then .ok state
      else .error (.diffParseError "content occurs before first diff header")

/-- `parse_git_diff` from the decoded text on. -/
def parseDiffText (text : List Char) : Except DiffError (List ChangedPath) := do
  ensure (stripChars isPythonSpace text ≠ []) (.diffParseError "diff is empty")
  let state ← (Lines.splitLines text).foldlM parseLine {}
  ensure (state.current ≠ none) (.diffParseError "no Git diff blocks found")
  let changes ← closeBlock state
  ensure ((changes.map ChangedPath.reportedPath).Nodup)
    (.diffParseError "diff contains duplicate logical path blocks")
  return changes

/-- `parse_git_diff`, which returns the changes of a `ParsedDiff`. -/
def parseGitDiff (diffBytes : List UInt8) : Except DiffError (List ChangedPath) :=
  match Lines.decode diffBytes with
  | some text => parseDiffText text
  | none => .error .unicodeDecodeError

end TacoRank.Safety
