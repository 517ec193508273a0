import TacoRank.Safety.GitDiff
import Mathlib.Data.List.DropRight

/-!
# What the diff parser finds

The diffs that git writes for plain paths (`gitDiff`), and that `parse_git_diff` hides no change of them
(`diff_hides_nothing`), whatever the lines of their hunks contain. The parser may take a part of such a
line for the header of a block of its own; the invariant `Kept` says what is left of the change that the
hunk belongs to.
-/

namespace TacoRank.Safety
open Lib Lib.Result

/-! ### The format of git -/

/-- The characters of plain paths. -/
def isPathChar (c : Char) : Bool := c.isAlphanum || c = '_' || c = '.' || c = '-' || c = '/'

/-- A path that git writes as it is. -/
structure PlainPath where
  chars : List Char
  nonempty : chars ≠ []
  plain : ∀ c ∈ chars, isPathChar c = true

/-- The mode of a tree entry. -/
structure FileMode where
  digits : List Char
  valid : isFileMode digits = true

/-- Symbolic links and submodules. -/
def FileMode.isLink (mode : FileMode) : Prop := mode.digits = "120000".toList ∨ mode.digits = "160000".toList

/-- The name of a blob. -/
structure ObjectId where
  digits : List Char
  hex : ∀ c ∈ digits, c.isAlphanum = true

/-- A text without a line feed, with any other character. -/
structure LineText where
  chars : List Char
  whole : '\n' ∉ chars

/-- A line of a hunk; `note` is that of a missing line feed. -/
inductive HunkLine where
  | context (text : LineText)
  | removed (text : LineText)
  | added (text : LineText)
  | note (text : LineText)

/-- A hunk; its header is what follows the first `@@`, with the ranges and the heading. -/
structure Hunk where
  header : LineText
  lines : List HunkLine

/-- The data of a binary patch: lines without spaces. -/
structure BinaryData where
  delta : Bool
  size : Nat
  lines : List (List Char)
  graphic : ∀ line ∈ lines, ∀ c ∈ line, 0x20 < c.toNat ∧ c.toNat < 0x7F

/-- How the contents of a file change. -/
inductive ContentChange where
  | empty
  | hunks (parts : List Hunk)
  | binaryNotice
  | binaryPatch (forward reverse : BinaryData)

/-- How a file changes. -/
inductive ChangeKind where
  | added (mode : FileMode) (oldId newId : ObjectId) (content : ContentChange)
  | deleted (mode : FileMode) (oldId newId : ObjectId) (content : ContentChange)
  | modified (mode : FileMode) (oldId newId : ObjectId) (content : ContentChange)
  | modeChanged (oldMode newMode : FileMode) (content : Option (ObjectId × ObjectId × ContentChange))

/-- A change of a file. -/
structure FileChange where
  path : PlainPath
  kind : ChangeKind

namespace HunkLine

/-- The line of the diff. -/
def text : HunkLine → List Char
  | context text => ' ' :: text.chars
  | removed text => '-' :: text.chars
  | added text => '+' :: text.chars
  | note text => '\\' :: text.chars

end HunkLine

/-- The lines of a hunk. -/
def Hunk.texts (hunk : Hunk) : List (List Char) :=
  ("@@ ".toList ++ hunk.header.chars) :: hunk.lines.map HunkLine.text

/-- The lines of the data of a binary patch, with the empty line that ends them. -/
def BinaryData.texts (data : BinaryData) : List (List Char) :=
  ((if data.delta then "delta ".toList else "literal ".toList) ++ Nat.toDigits 10 data.size) :: data.lines ++ [[]]

/-- The lines of a change of the contents, between files with the given names. -/
def ContentChange.texts (old new : List Char) : ContentChange → List (List Char)
  | empty => []
  | hunks parts => ("--- ".toList ++ old) :: ("+++ ".toList ++ new) :: parts.flatMap Hunk.texts
  | binaryNotice => ["Binary files ".toList ++ old ++ " and ".toList ++ new ++ " differ".toList]
  | binaryPatch forward reverse => "GIT binary patch".toList :: (forward.texts ++ reverse.texts)

/-- The line with the names of the blobs. -/
def indexText (oldId newId : ObjectId) (mode : List Char) : List Char :=
  "index ".toList ++ oldId.digits ++ "..".toList ++ newId.digits ++ mode

namespace FileChange

def oldName (f : FileChange) : List Char := "a/".toList ++ f.path.chars

def newName (f : FileChange) : List Char := "b/".toList ++ f.path.chars

/-- The header of the block. -/
def headerText (f : FileChange) : List Char :=
  [' '].intercalate ["diff".toList, "--git".toList, f.oldName, f.newName]

/-- The lines with the modes of the file. -/
def modeTexts (f : FileChange) : List (List Char) :=
  match f.kind with
  | .added mode _ _ _ => ["new file mode ".toList ++ mode.digits]
  | .deleted mode _ _ _ => ["deleted file mode ".toList ++ mode.digits]
  | .modified .. => []
  | .modeChanged oldMode newMode _ => ["old mode ".toList ++ oldMode.digits, "new mode ".toList ++ newMode.digits]

/-- The lines with the change of the contents. -/
def contentTexts (f : FileChange) : List (List Char) :=
  match f.kind with
  | .added _ oldId newId content => indexText oldId newId [] :: content.texts "/dev/null".toList f.newName
  | .deleted _ oldId newId content => indexText oldId newId [] :: content.texts f.oldName "/dev/null".toList
  | .modified mode oldId newId content =>
    indexText oldId newId (' ' :: mode.digits) :: content.texts f.oldName f.newName
  | .modeChanged _ _ none => []
  | .modeChanged _ _ (some (oldId, newId, content)) =>
    indexText oldId newId [] :: content.texts f.oldName f.newName

/-- The lines of the block of a file. -/
def texts (f : FileChange) : List (List Char) := f.headerText :: (f.modeTexts ++ f.contentTexts)

/-- The status of the change. -/
def status (f : FileChange) : ChangeStatus :=
  match f.kind with
  | .added .. => .added
  | .deleted .. => .deleted
  | .modified .. | .modeChanged .. => .modified

/-- The change adds, deletes or changes to or from a link. -/
def touchesLink (f : FileChange) : Prop :=
  match f.kind with
  | .added mode _ _ _ | .deleted mode _ _ _ => mode.isLink
  | .modified .. => False
  | .modeChanged oldMode newMode _ => oldMode.isLink ∨ newMode.isLink

end FileChange

/-- The diff of a list of changes. -/
def gitDiff (files : List FileChange) : List Char :=
  (files.flatMap FileChange.texts).flatMap fun text => text ++ ['\n']

/-! ### What is reported -/

/-- A change of the result is that of a file. -/
structure Reports (f : FileChange) (change : ChangedPath) : Prop where
  path : change.reportedPath = f.path.chars
  paths : change.paths = [f.path.chars]
  status : change.status = f.status
  link : f.touchesLink → change.isSymlink = true ∨ change.isSubmodule = true

/-- The change of a file has been recorded. -/
def Reported (f : FileChange) (changes : List ChangedPath) : Prop := ∃ change ∈ changes, Reports f change

/-- A mode that is reported as a link. -/
def LinkMode (mode : Option (List Char)) : Prop := mode = some "120000".toList ∨ mode = some "160000".toList

/-- The block of a file has what its change will be reported with. -/
structure Pending (f : FileChange) (block : DiffBlock) : Prop where
  oldPath : block.oldPath = some f.path.chars
  newPath : block.newPath = if f.status = .deleted then none else some f.path.chars
  status : block.status = f.status
  link : f.touchesLink → LinkMode block.oldMode ∨ LinkMode block.newMode

/-- The current block is that of a file. -/
def Current (f : FileChange) (s : DiffState) : Prop := ∃ block, s.current = some block ∧ Pending f block

/-- The change of a file is recorded, or its block is the current one and in a hunk. -/
def Kept (f : FileChange) (s : DiffState) : Prop :=
  Reported f s.changes ∨ (s.inHunk = true ∧ Current f s)

/-- The change of a file is recorded, or will be when the current block ends. -/
def Sealed (f : FileChange) (s : DiffState) : Prop := Reported f s.changes ∨ Current f s

section Steps
variable {f : FileChange} {s s' : DiffState} {block : DiffBlock} {line : List Char} {changes : List ChangedPath}

lemma Kept.sealed (h : Kept f s) : Sealed f s := h.imp_right And.right

lemma changedPath_inv {change : ChangedPath} (h : changedPathFromBlock block = .ok change) :
    change = ⟨block.oldPath, block.newPath, block.status, block.oldMode, block.newMode⟩ := by
  simp only [changedPathFromBlock, check_bind_eq_ok, pure_eq_ok] at h
  exact h.2.2.2.symm

/-- The block of a file is reported as the change of the file. -/
lemma Pending.reports {change : ChangedPath} (h : Pending f block) (closed : changedPathFromBlock block = .ok change) :
    Reports f change := by
  cases changedPath_inv closed
  have nonempty : (some f.path.chars).filter (· ≠ []) = some f.path.chars := by
    simp [Option.filter, f.path.nonempty]
  constructor
  · rw [ChangedPath.reportedPath, h.oldPath, h.newPath, nonempty]
    split
    · rfl
    · rw [nonempty]
      rfl
  · rw [ChangedPath.paths, h.oldPath, h.newPath]
    split
    · rfl
    · simp [List.eraseDups_cons]
  · exact h.status
  · intro link
    unfold ChangedPath.isSymlink ChangedPath.isSubmodule
    rcases h.link link with (mode | mode) | (mode | mode) <;> simp only [mode]
    · exact .inl rfl
    · exact .inr rfl
    · exact .inl (Bool.or_true _)
    · exact .inr (Bool.or_true _)

/-- What a block that ends adds to the changes. -/
lemma closeBlock_some (current : s.current = some block) (h : closeBlock s = .ok changes) :
    ∃ change, changedPathFromBlock block = .ok change ∧ changes = s.changes ++ [change] := by
  unfold closeBlock at h
  rw [current] at h
  obtain ⟨_, rest⟩ := check_bind_eq_ok.mp h
  obtain ⟨change, closed, same⟩ := bind_eq_ok.mp rest
  exact ⟨change, closed, (pure_eq_ok.mp same).symm⟩

/-- The changes before a block ends stay. -/
lemma closeBlock_grows (h : closeBlock s = .ok changes) : s.changes <+: changes := by
  cases current : s.current with
  | none =>
    unfold closeBlock at h
    rw [current] at h
    cases h
    exact List.prefix_rfl
  | some block =>
    obtain ⟨change, _, rfl⟩ := closeBlock_some current h
    exact List.prefix_append _ _

lemma Reported.grows {changes' : List ChangedPath} (h : Reported f changes) (grows : changes <+: changes') :
    Reported f changes' := by
  obtain ⟨change, mem, reports⟩ := h
  exact ⟨change, grows.subset mem, reports⟩

/-- When the current block ends, the change is recorded. -/
lemma Sealed.closed (h : Sealed f s) (closed : closeBlock s = .ok changes) : Reported f changes := by
  rcases h with reported | ⟨block, current, pending⟩
  · exact reported.grows (closeBlock_grows closed)
  · obtain ⟨change, made, rfl⟩ := closeBlock_some current closed
    exact ⟨change, by simp, pending.reports made⟩

/-- A header ends the current block. -/
lemma openBlock_inv (h : openBlock s line = .ok s') : closeBlock s = .ok s'.changes := by
  obtain ⟨changes, closed, rest⟩ := bind_eq_ok.mp h
  obtain ⟨tokens, _, rest⟩ := bind_eq_ok.mp rest
  split at rest
  · obtain ⟨_, rest⟩ := check_bind_eq_ok.mp rest
    obtain ⟨old, _, rest⟩ := bind_eq_ok.mp rest
    obtain ⟨new, _, rest⟩ := bind_eq_ok.mp rest
    cases pure_eq_ok.mp rest
    exact closed
  · cases rest

/-- What a line of a block that is not structural does to it. -/
structure Plain (s : DiffState) (block : DiffBlock) (s' : DiffState) (block' : DiffBlock) : Prop where
  changes : s'.changes = s.changes
  current : s'.current = some block'
  hunk : s.inHunk = true → s'.inHunk = true
  path : (block'.oldPath, block'.newPath, block'.status) = (block.oldPath, block.newPath, block.status)
  modes : (block'.oldMode, block'.newMode) = (block.oldMode, block.newMode) ∨
    block'.oldMode = some "160000".toList

/-- The literals that change the path or the status of a block, or end it. -/
def structural : List String :=
  ["diff --git ", "new file mode ", "deleted file mode ", "old mode ", "new mode ", "rename from ", "rename to "]

/-- A line that no structural literal starts. -/
def Inert (line : List Char) : Prop := ∀ literal ∈ structural, startsWith line literal = false

/-- A line inside a hunk, or an inert one. -/
def Quiet (s : DiffState) (line : List Char) : Prop := s.inHunk = true ∨ Inert line

lemma Quiet.metadata (h : Quiet s line) {literal : String} (mem : literal ∈ structural) :
    ¬ s.metadata line literal = true := by
  rcases h with hunk | inert
  · simp [DiffState.metadata, hunk]
  · simp [DiffState.metadata, inert literal mem]

/-- A quiet line changes at most the markers and the modes of a block. -/
lemma blockLine_quiet (current : s.current = some block) (quiet : Quiet s line)
    (h : blockLine s block line = .ok s') : ∃ block', Plain s block s' block' := by
  unfold blockLine at h
  rw [if_neg (quiet.metadata (by simp [structural])), if_neg (quiet.metadata (by simp [structural])),
    if_neg (quiet.metadata (by simp [structural])), if_neg (quiet.metadata (by simp [structural])),
    if_neg (quiet.metadata (by simp [structural])), if_neg (quiet.metadata (by simp [structural]))] at h
  rcases ite_eq_ok h with ⟨_, h⟩ | ⟨_, h⟩
  · obtain ⟨marker, _, rfl⟩ := map_eq_ok.mp h
    exact ⟨_, rfl, rfl, id, rfl, .inl rfl⟩
  rcases ite_eq_ok h with ⟨_, h⟩ | ⟨_, h⟩
  · obtain ⟨marker, _, rfl⟩ := map_eq_ok.mp h
    exact ⟨_, rfl, rfl, id, rfl, .inl rfl⟩
  rcases ite_eq_ok h with ⟨_, h⟩ | ⟨_, h⟩
  · cases h
    exact ⟨_, rfl, rfl, fun _ => rfl, rfl, .inl rfl⟩
  rcases ite_eq_ok h with ⟨_, h⟩ | ⟨_, h⟩
  · cases h
    exact ⟨_, rfl, rfl, id, rfl, .inl rfl⟩
  rcases ite_eq_ok h with ⟨_, h⟩ | ⟨_, h⟩
  · cases h
    exact ⟨_, rfl, rfl, id, rfl, .inr rfl⟩
  · cases h
    exact ⟨block, rfl, current, id, rfl, .inl rfl⟩

/-- The block stays that of its file. -/
lemma Pending.plain {block' : DiffBlock} (h : Pending f block) (plain : Plain s block s' block') :
    Pending f block' := by
  have path := plain.path
  simp only [Prod.mk.injEq] at path
  obtain ⟨oldPath, newPath, status⟩ := path
  refine ⟨oldPath.trans h.oldPath, newPath.trans h.newPath, status.trans h.status, fun link => ?_⟩
  rcases plain.modes with same | submodule
  · simp only [Prod.mk.injEq] at same
    rw [same.1, same.2]
    exact h.link link
  · exact .inl (.inr submodule)

/-- No line of a block ends it. -/
lemma blockLine_changes (h : blockLine s block line = .ok s') : s'.changes = s.changes := by
  unfold blockLine at h
  rcases ite_eq_ok h with ⟨_, h⟩ | ⟨_, h⟩
  · cases h
    rfl
  rcases ite_eq_ok h with ⟨_, h⟩ | ⟨_, h⟩
  · cases h
    rfl
  rcases ite_eq_ok h with ⟨_, h⟩ | ⟨_, h⟩
  · cases h
    rfl
  rcases ite_eq_ok h with ⟨_, h⟩ | ⟨_, h⟩
  · cases h
    rfl
  rcases ite_eq_ok h with ⟨_, h⟩ | ⟨_, h⟩
  · obtain ⟨_, _, rfl⟩ := map_eq_ok.mp h
    rfl
  rcases ite_eq_ok h with ⟨_, h⟩ | ⟨_, h⟩
  · obtain ⟨_, _, rfl⟩ := map_eq_ok.mp h
    rfl
  rcases ite_eq_ok h with ⟨_, h⟩ | ⟨_, h⟩
  · obtain ⟨_, _, rfl⟩ := map_eq_ok.mp h
    rfl
  rcases ite_eq_ok h with ⟨_, h⟩ | ⟨_, h⟩
  · obtain ⟨_, _, rfl⟩ := map_eq_ok.mp h
    rfl
  rcases ite_eq_ok h with ⟨_, h⟩ | ⟨_, h⟩
  · cases h
    rfl
  rcases ite_eq_ok h with ⟨_, h⟩ | ⟨_, h⟩
  · cases h
    rfl
  rcases ite_eq_ok h with ⟨_, h⟩ | ⟨_, h⟩
  · cases h
    rfl
  · cases h
    rfl

/-- The body of the loop on a header. -/
lemma parseLine_header (header : startsWith line "diff --git " = true) :
    parseLine s line = openBlock s line := by
  rw [parseLine, if_pos header]

/-- The body of the loop inside a block. -/
lemma parseLine_block (current : s.current = some block) (inside : startsWith line "diff --git " = false) :
    parseLine s line = blockLine s block line := by
  rw [parseLine, if_neg (by simp [inside]), current]

/-- The changes only grow. -/
lemma parseLine_grows (h : parseLine s line = .ok s') : s.changes <+: s'.changes := by
  by_cases header : startsWith line "diff --git " = true
  · rw [parseLine_header header] at h
    exact closeBlock_grows (openBlock_inv h)
  · cases current : s.current with
    | some block =>
      rw [parseLine_block current (by simpa using header)] at h
      exact blockLine_changes h ▸ List.prefix_rfl
    | none =>
      rw [parseLine, if_neg header, current] at h
      rcases ite_eq_ok h with ⟨_, h⟩ | ⟨_, h⟩ <;> cases h
      exact List.prefix_rfl

/-- An inert line leaves the block of a file as the current one. -/
lemma Current.inert (h : Current f s) (inert : Inert line) (ok : parseLine s line = .ok s') : Current f s' := by
  obtain ⟨block, current, pending⟩ := h
  rw [parseLine_block current (inert "diff --git " (by simp [structural]))] at ok
  obtain ⟨block', plain⟩ := blockLine_quiet current (.inr inert) ok
  exact ⟨block', plain.current, pending.plain plain⟩

/-- No line of a hunk hides the change that the hunk belongs to. -/
lemma Kept.step (h : Kept f s) (ok : parseLine s line = .ok s') : Kept f s' := by
  rcases h with reported | ⟨hunk, current⟩
  · exact .inl (reported.grows (parseLine_grows ok))
  · by_cases header : startsWith line "diff --git " = true
    · -- what looks like a header ends the block, whose change is recorded
      rw [parseLine_header header] at ok
      exact .inl (Sealed.closed (.inr current) (openBlock_inv ok))
    · obtain ⟨block, current, pending⟩ := current
      rw [parseLine_block current (by simpa using header)] at ok
      obtain ⟨block', plain⟩ := blockLine_quiet current (.inl hunk) ok
      exact .inr ⟨plain.hunk hunk, block', plain.current, pending.plain plain⟩

end Steps

/-! ### The lines of a diff -/

/-- The characters of the lines that git writes itself. -/
def Printable (cs : List Char) : Prop := ∀ c ∈ cs, 0x20 ≤ c.toNat ∧ c.toNat < 0x7F

instance (cs : List Char) : Decidable (Printable cs) := List.decidableBAll _ cs

section Lines
variable {cs ds : List Char} {c : Char}

lemma Printable.append (first : Printable cs) (last : Printable ds) : Printable (cs ++ ds) := by
  intro c mem
  exact (List.mem_append.mp mem).elim (first c) (last c)

/-- A printable text is one line. -/
lemma Printable.lines (h : Printable cs) : Lines.splitLines (cs ++ ['\n']) = [cs] := by
  refine Lines.splitLines_line fun c mem => ?_
  obtain ⟨low, high⟩ := h c mem
  unfold Lines.isLineBreak
  simp only [Bool.or_eq_false_iff, Bool.and_eq_false_iff, decide_eq_false_iff_not, beq_eq_false_iff_ne]
  omega

/-- The characters of plain paths stand for themselves in the shell. -/
lemma range_of_pathChar (h : isPathChar c = true) :
    0x2D ≤ c.toNat ∧ c.toNat ≤ 0x7A ∧ c.toNat ≠ 0x5C := by
  simp only [isPathChar, Bool.or_eq_true, decide_eq_true_eq] at h
  rcases h with (((h | rfl) | rfl) | rfl) | rfl
  · rcases Lines.range_of_alphanum h with h | h | h <;> omega
  all_goals decide

lemma ne_of_toNat {d : Char} (h : c.toNat ≠ d.toNat) : c ≠ d := by
  rintro rfl
  exact h rfl

lemma plain_of_pathChar (h : isPathChar c = true) : Shell.isPlain c = true := by
  obtain ⟨low, high, other⟩ := range_of_pathChar h
  have no (d : Char) (outside : c.toNat ≠ d.toNat) : decide (c = d) = false :=
    decide_eq_false (ne_of_toNat outside)
  have feed : '\n'.toNat = 0x0A ∧ '\r'.toNat = 0x0D ∧ '\t'.toNat = 0x09 ∧ ' '.toNat = 0x20 ∧
      '\''.toNat = 0x27 ∧ '"'.toNat = 0x22 ∧ '\\'.toNat = 0x5C := by decide
  apply Shell.isPlain_iff.mpr
  refine ⟨?_, ?_, ne_of_toNat (by omega)⟩
  · simp only [Shell.isBlank, Bool.or_eq_false_iff]
    exact ⟨⟨⟨no ' ' (by omega), no '\t' (by omega)⟩, no '\r' (by omega)⟩, no '\n' (by omega)⟩
  · simp only [Shell.isQuote, Bool.or_eq_false_iff]
    exact ⟨no '\'' (by omega), no '"' (by omega)⟩

lemma PlainPath.printable (path : PlainPath) : Printable path.chars := by
  intro c mem
  obtain ⟨low, high, _⟩ := range_of_pathChar (path.plain c mem)
  omega

lemma ObjectId.printable (id : ObjectId) : Printable id.digits := by
  intro c mem
  rcases Lines.range_of_alphanum (id.hex c mem) with h | h | h <;> omega

lemma FileMode.range (mode : FileMode) (mem : c ∈ mode.digits) : 0x30 ≤ c.toNat ∧ c.toNat ≤ 0x37 := by
  have valid := mode.valid
  simp only [isFileMode, Bool.and_eq_true, List.all_eq_true, decide_eq_true_eq] at valid
  exact valid.2 c mem

lemma FileMode.printable (mode : FileMode) : Printable mode.digits := by
  intro c mem
  have range := mode.range mem
  omega

/-- What follows the last space of a line. -/
lemma lastField_space (free : ' ' ∉ ds) : lastField (cs ++ ' ' :: ds) = ds := by
  have every : ∀ c ∈ ds.reverse, decide (c ≠ ' ') = true := by
    intro c mem
    rw [List.mem_reverse] at mem
    exact decide_eq_true fun space => free (space ▸ mem)
  have text : (cs ++ ' ' :: ds).reverse = ds.reverse ++ ' ' :: cs.reverse := by simp
  rw [lastField, List.rtakeWhile, text, List.takeWhile_append_of_pos every, List.takeWhile_cons_of_neg (by simp),
    List.append_nil, List.reverse_reverse]

lemma FileMode.lastField (mode : FileMode) : lastField (cs ++ ' ' :: mode.digits) = mode.digits := by
  refine lastField_space fun mem => ?_
  have range := mode.range mem
  revert range
  decide

end Lines

/-! ### The lines of a block -/

section Blocks
variable {f : FileChange} {s s' : DiffState} {line : List Char}

/-- The block of a file right after its header. -/
def FileChange.opened (f : FileChange) (changes : List ChangedPath) : DiffState :=
  { changes, current := some { oldPath := some f.path.chars, newPath := some f.path.chars } }

lemma diffHeaderPath_name {side : String} {path : PlainPath} :
    diffHeaderPath (side.toList ++ path.chars) side = .ok path.chars := by
  have length : side.toList.length = side.length := String.length_toList
  have positive : 0 < path.chars.length := List.length_pos_of_ne_nil path.nonempty
  refine check_bind_eq_ok.mpr ⟨ensure_eq_ok.mpr ⟨?_, ?_⟩, pure_eq_ok.mpr ?_⟩
  · simp [startsWith]
  · rw [List.length_append]
    omega
  · rw [← length, List.drop_left]

/-- The header of a file is cut into its words. -/
lemma shlexSplit_header {message : String} :
    shlexSplit f.headerText message = .ok ["diff".toList, "--git".toList, f.oldName, f.newName] := by
  rw [shlexSplit, FileChange.headerText, Shell.split_plain]
  · rfl
  · intro word mem
    simp only [List.mem_cons, List.not_mem_nil, or_false] at mem
    rcases mem with rfl | rfl | rfl | rfl <;> simp [FileChange.oldName, FileChange.newName]
  · have side (name : List Char) (plain : ∀ c ∈ name, Shell.isPlain c = true) :
        ∀ c ∈ name ++ f.path.chars, Shell.isPlain c = true := by
      intro c mem
      exact (List.mem_append.mp mem).elim (plain c) fun mem => plain_of_pathChar (f.path.plain c mem)
    intro word mem
    simp only [List.mem_cons, List.not_mem_nil, or_false] at mem
    rcases mem with rfl | rfl | rfl | rfl
    · exact List.all_eq_true.mp rfl
    · exact List.all_eq_true.mp rfl
    · exact side _ (List.all_eq_true.mp rfl)
    · exact side _ (List.all_eq_true.mp rfl)

/-- The header of a file opens its block. -/
lemma parseLine_headerText (ok : parseLine s f.headerText = .ok s') :
    closeBlock s = .ok s'.changes ∧ s' = f.opened s'.changes := by
  have header : startsWith f.headerText "diff --git " = true := rfl
  rw [parseLine_header header] at ok
  have closed := openBlock_inv ok
  refine ⟨closed, ?_⟩
  obtain ⟨changes, closed', rest⟩ := bind_eq_ok.mp ok
  rw [shlexSplit_header, ok_bind] at rest
  obtain ⟨_, rest⟩ := check_bind_eq_ok.mp rest
  rw [FileChange.oldName, FileChange.newName, diffHeaderPath_name, diffHeaderPath_name] at rest
  cases rest
  rfl

/-- The last word of a line with the mode of a link is reported as a link. -/
lemma FileMode.isLink.reported {mode : FileMode} (link : mode.isLink) (cs : List Char) :
    LinkMode (some (Safety.lastField (cs ++ ' ' :: mode.digits))) := by
  rw [mode.lastField]
  exact link.imp (congrArg some) (congrArg some)

/-- The lines with the modes leave the block with what its change is reported with. -/
lemma modeTexts_current {changes : List ChangedPath} (ok : f.modeTexts.foldlM parseLine (f.opened changes) = .ok s') :
    Current f s' := by
  unfold FileChange.modeTexts at ok
  cases kind : f.kind with
  | added mode oldId newId content =>
    rw [kind] at ok
    obtain ⟨_, step, rest⟩ := bind_eq_ok.mp ok
    cases step
    cases rest
    have status : f.status = .added := by rw [FileChange.status, kind]
    refine ⟨_, rfl, rfl, ?_, status.symm, fun link => .inr ?_⟩
    · rw [status]
      rfl
    · rw [FileChange.touchesLink, kind] at link
      exact link.reported "new file mode".toList
  | deleted mode oldId newId content =>
    rw [kind] at ok
    obtain ⟨_, step, rest⟩ := bind_eq_ok.mp ok
    cases step
    cases rest
    have status : f.status = .deleted := by rw [FileChange.status, kind]
    refine ⟨_, rfl, rfl, ?_, status.symm, fun link => .inl ?_⟩
    · rw [status]
      rfl
    · rw [FileChange.touchesLink, kind] at link
      exact link.reported "deleted file mode".toList
  | modified mode oldId newId content =>
    rw [kind] at ok
    cases ok
    have status : f.status = .modified := by rw [FileChange.status, kind]
    refine ⟨_, rfl, rfl, ?_, status.symm, fun link => ?_⟩
    · rw [status]
      rfl
    · rw [FileChange.touchesLink, kind] at link
      exact link.elim
  | modeChanged oldMode newMode content =>
    rw [kind] at ok
    obtain ⟨_, step, rest⟩ := bind_eq_ok.mp ok
    cases step
    obtain ⟨_, step, rest⟩ := bind_eq_ok.mp rest
    cases step
    cases rest
    have status : f.status = .modified := by rw [FileChange.status, kind]
    refine ⟨_, rfl, rfl, ?_, status.symm, fun link => ?_⟩
    · rw [status]
      rfl
    · rw [FileChange.touchesLink, kind] at link
      rcases link with link | link
      · exact .inl (link.reported "old mode".toList)
      · exact .inr (link.reported "new mode".toList)

lemma inert_of_head {c : Char} {cs : List Char} (other : c ≠ 'd' ∧ c ≠ 'n' ∧ c ≠ 'o' ∧ c ≠ 'r') :
    Inert (c :: cs) := by
  obtain ⟨d, n, o, r⟩ := other
  have no {e : Char} {es : List Char} (ne : c ≠ e) : (e :: es).isPrefixOf (c :: cs) = false := by
    simp [List.isPrefixOf, Ne.symm ne]
  intro literal mem
  simp only [structural, List.mem_cons, List.not_mem_nil, or_false] at mem
  rcases mem with rfl | rfl | rfl | rfl | rfl | rfl | rfl
  · exact no d
  · exact no n
  · exact no d
  · exact no o
  · exact no n
  · exact no r
  · exact no r

/-- Every structural literal has a space. -/
lemma inert_of_free (free : ' ' ∉ line) : Inert line := by
  intro literal mem
  have space : ' ' ∈ literal.toList := by
    revert literal
    decide
  by_contra starts
  have first : literal.toList <+: line := List.isPrefixOf_iff_prefix.mp (by simpa [startsWith] using starts)
  exact free (first.subset space)

/-- Inert lines leave the block of a file as the current one. -/
lemma Current.inerts {lines : List (List Char)} (h : Current f s) (inert : ∀ line ∈ lines, Inert line)
    (ok : lines.foldlM parseLine s = .ok s') : Current f s' :=
  foldlM_keep h (fun line mem _ _ current step => current.inert (inert line mem) step) ok

/-- The lines of hunks keep the change that they belong to. -/
lemma Kept.lines {lines : List (List Char)} (h : Kept f s) (ok : lines.foldlM parseLine s = .ok s') : Kept f s' :=
  foldlM_keep h (fun _ _ _ _ kept step => kept.step step) ok

/-- The header of a hunk enters it. -/
lemma Current.hunk (h : Current f s) (ok : parseLine s ("@@ ".toList ++ line) = .ok s') : Kept f s' := by
  have inert : Inert ("@@ ".toList ++ line) := inert_of_head (by decide)
  refine .inr ⟨?_, h.inert inert ok⟩
  obtain ⟨block, current, _⟩ := h
  rw [parseLine_block current (inert "diff --git " (by simp [structural]))] at ok
  have skip {literal : String} (other : startsWith ("@@ ".toList ++ line) literal = false) :
      ¬ s.metadata ("@@ ".toList ++ line) literal = true := by
    rw [DiffState.metadata, other, Bool.and_false]
    exact Bool.false_ne_true
  have enters : (startsWith ("@@ ".toList ++ line) "@@ " || startsWith ("@@ ".toList ++ line) "@@@ ") = true := rfl
  unfold blockLine at ok
  rw [if_neg (skip rfl), if_neg (skip rfl), if_neg (skip rfl), if_neg (skip rfl), if_neg (skip rfl),
    if_neg (skip rfl), if_neg (skip rfl), if_neg (skip rfl), if_pos enters] at ok
  cases ok
  rfl

/-- The lines of a list of texts, each of which ends with a feed. -/
def linesOf (texts : List (List Char)) : List (List Char) :=
  texts.flatMap fun text => Lines.splitLines (text ++ ['\n'])

lemma linesOf_append {texts texts' : List (List Char)} : linesOf (texts ++ texts') = linesOf texts ++ linesOf texts' :=
  List.flatMap_append

lemma linesOf_printable {texts : List (List Char)} (printable : ∀ text ∈ texts, Printable text) :
    linesOf texts = texts := by
  induction texts with
  | nil => rfl
  | cons text texts ih =>
    have rest := ih fun t mem => printable t (List.mem_cons_of_mem text mem)
    unfold linesOf at rest ⊢
    rw [List.flatMap_cons, (printable text List.mem_cons_self).lines, rest]
    rfl

/-- The hunks of a file. -/
lemma Current.hunks {parts : List Hunk} (h : Current f s)
    (ok : (linesOf (parts.flatMap Hunk.texts)).foldlM parseLine s = .ok s') : Sealed f s' := by
  cases parts with
  | nil =>
    cases ok
    exact .inr h
  | cons hunk parts =>
    have breaks : ∀ c ∈ "@@ ".toList, Lines.isLineBreak c = false := by
      have checked : "@@ ".toList.all (fun c => !Lines.isLineBreak c) = true := rfl
      simpa using checked
    have nonempty : hunk.header.chars ++ ['\n'] ≠ [] := by simp
    obtain ⟨rest, lines, split⟩ := Lines.splitLines_starts breaks nonempty
    have first : linesOf ((hunk :: parts).flatMap Hunk.texts) = ("@@ ".toList ++ rest) :: (lines ++
        linesOf (hunk.lines.map HunkLine.text ++ parts.flatMap Hunk.texts)) := by
      unfold linesOf
      rw [List.flatMap_cons, Hunk.texts, List.cons_append, List.flatMap_cons, List.append_assoc, split]
      rfl
    rw [first] at ok
    obtain ⟨next, header, rest⟩ := bind_eq_ok.mp ok
    exact ((h.hunk header).lines rest).sealed

/-- Lines that git writes itself and that are inert. -/
def Silent (texts : List (List Char)) : Prop := ∀ text ∈ texts, Printable text ∧ Inert text

lemma Current.silent {texts rest : List (List Char)} (h : Current f s) (silent : Silent texts)
    (ok : (linesOf (texts ++ rest)).foldlM parseLine s = .ok s') :
    ∃ next, Current f next ∧ (linesOf rest).foldlM parseLine next = .ok s' := by
  rw [linesOf_append, linesOf_printable fun text mem => (silent text mem).1, List.foldlM_append] at ok
  obtain ⟨next, first, last⟩ := bind_eq_ok.mp ok
  exact ⟨next, h.inerts (fun text mem => (silent text mem).2) first, last⟩

lemma Silent.append {texts texts' : List (List Char)} (first : Silent texts) (last : Silent texts') :
    Silent (texts ++ texts') := by
  intro text mem
  exact (List.mem_append.mp mem).elim (first text) (last text)

lemma Silent.cons {text : List Char} {texts : List (List Char)} (printable : Printable text) (inert : Inert text)
    (rest : Silent texts) : Silent (text :: texts) := by
  intro t mem
  rcases List.mem_cons.mp mem with rfl | mem
  · exact ⟨printable, inert⟩
  · exact rest t mem

lemma Silent.nil : Silent [] := by
  intro t mem
  cases mem

lemma BinaryData.silent (data : BinaryData) : Silent data.texts := by
  have size : Printable (Nat.toDigits 10 data.size) := by
    intro c mem
    have range := Lines.range_of_digit (Nat.isDigit_of_mem_toDigits (by decide) (by decide) mem)
    omega
  have lines : Silent data.lines := by
    intro line mem
    refine ⟨fun c here => ?_, inert_of_free fun space => ?_⟩
    · have graphic := data.graphic line mem c here
      omega
    · have graphic := data.graphic line mem ' ' space
      revert graphic
      decide
  have method : Printable (if data.delta then "delta ".toList else "literal ".toList) ∧
      ∀ cs, Inert ((if data.delta then "delta ".toList else "literal ".toList) ++ cs) := by
    split
    · refine ⟨by decide, fun cs literal mem => ?_⟩
      simp only [structural, List.mem_cons, List.not_mem_nil, or_false] at mem
      rcases mem with rfl | rfl | rfl | rfl | rfl | rfl | rfl <;> rfl
    · exact ⟨by decide, fun cs => inert_of_head (by decide)⟩
  refine .cons (method.1.append size) (method.2 _) (lines.append (.cons ?_ (inert_of_free ?_) .nil))
  · intro c mem
    cases mem
  · intro mem
    cases mem

/-- The change of the contents of a file. -/
lemma Current.content {content : ContentChange} {old new : List Char} (h : Current f s) (oldName : Printable old)
    (newName : Printable new) (ok : (linesOf (content.texts old new)).foldlM parseLine s = .ok s') :
    Sealed f s' := by
  cases content with
  | empty =>
    cases ok
    exact .inr h
  | hunks parts =>
    have markers : Silent ["--- ".toList ++ old, "+++ ".toList ++ new] :=
      .cons (.append (by decide) oldName) (inert_of_head (by decide))
        (.cons (.append (by decide) newName) (inert_of_head (by decide)) .nil)
    obtain ⟨next, current, rest⟩ := h.silent markers ok
    exact current.hunks rest
  | binaryNotice =>
    have notice : Silent ["Binary files ".toList ++ old ++ " and ".toList ++ new ++ " differ".toList] := by
      refine .cons ?_ (inert_of_head (by decide)) .nil
      exact ((((Printable.append (by decide) oldName).append (by decide)).append newName).append (by decide))
    rw [← List.append_nil (ContentChange.texts old new _)] at ok
    obtain ⟨next, current, rest⟩ := h.silent notice ok
    cases rest
    exact .inr current
  | binaryPatch forward reverse =>
    have patch : Silent ("GIT binary patch".toList :: (forward.texts ++ reverse.texts)) :=
      .cons (by decide) (inert_of_head (by decide)) (forward.silent.append reverse.silent)
    rw [← List.append_nil (ContentChange.texts old new _)] at ok
    obtain ⟨next, current, rest⟩ := h.silent patch ok
    cases rest
    exact .inr current

/-- The line with the names of the blobs. -/
lemma indexText_silent {oldId newId : ObjectId} {mode : List Char} (printable : Printable mode) :
    Silent [indexText oldId newId mode] := by
  refine .cons ?_ (inert_of_head (by decide)) .nil
  exact (((Printable.append (by decide) oldId.printable).append (by decide)).append newId.printable).append printable

lemma printable_nil : Printable [] := by
  intro c mem
  cases mem

lemma FileChange.oldName_printable (f : FileChange) : Printable f.oldName := .append (by decide) f.path.printable

lemma FileChange.newName_printable (f : FileChange) : Printable f.newName := .append (by decide) f.path.printable

/-- The lines with the change of the contents. -/
lemma contentTexts_sealed (h : Current f s) (ok : (linesOf f.contentTexts).foldlM parseLine s = .ok s') :
    Sealed f s' := by
  have oldName := f.oldName_printable
  have newName := f.newName_printable
  have nowhere : Printable "/dev/null".toList := by decide
  unfold FileChange.contentTexts at ok
  split at ok
  · obtain ⟨next, current, rest⟩ := h.silent (indexText_silent printable_nil) ok
    exact current.content nowhere newName rest
  · obtain ⟨next, current, rest⟩ := h.silent (indexText_silent printable_nil) ok
    exact current.content oldName nowhere rest
  · rename_i mode _ _ _ _
    have printable : Printable ([' '] ++ mode.digits) := .append (by decide) mode.printable
    obtain ⟨next, current, rest⟩ := h.silent (indexText_silent printable) ok
    exact current.content oldName newName rest
  · cases ok
    exact .inr h
  · obtain ⟨next, current, rest⟩ := h.silent (indexText_silent printable_nil) ok
    exact current.content oldName newName rest

lemma FileChange.marks_printable (f : FileChange) : ∀ text ∈ f.headerText :: f.modeTexts, Printable text := by
  have header : f.headerText = "diff --git ".toList ++ f.oldName ++ [' '] ++ f.newName := by
    simp [FileChange.headerText, List.intercalate]
  have mode (m : FileMode) (literal : List Char) (printable : Printable literal) :
      Printable (literal ++ m.digits) := printable.append m.printable
  intro text mem
  rcases List.mem_cons.mp mem with rfl | mem
  · rw [header]
    exact ((Printable.append (by decide) f.oldName_printable).append (by decide)).append f.newName_printable
  · unfold FileChange.modeTexts at mem
    split at mem
    · rw [List.mem_singleton.mp mem]
      exact mode _ _ (by decide)
    · rw [List.mem_singleton.mp mem]
      exact mode _ _ (by decide)
    · cases mem
    · simp only [List.mem_cons, List.not_mem_nil, or_false] at mem
      rcases mem with rfl | rfl
      · exact mode _ _ (by decide)
      · exact mode _ _ (by decide)

/-- After its block the change of a file is recorded, or will be; what was before it is recorded. -/
lemma texts_sealed (ok : (linesOf f.texts).foldlM parseLine s = .ok s') :
    Sealed f s' ∧ ∀ g, Sealed g s → Sealed g s' := by
  have split : f.texts = (f.headerText :: f.modeTexts) ++ f.contentTexts := rfl
  rw [split, linesOf_append, linesOf_printable f.marks_printable, List.foldlM_append] at ok
  obtain ⟨marked, marks, contents⟩ := bind_eq_ok.mp ok
  obtain ⟨opened, header, modes⟩ := bind_eq_ok.mp marks
  obtain ⟨closed, same⟩ := parseLine_headerText header
  have fresh := modes
  rw [same] at fresh
  refine ⟨contentTexts_sealed (modeTexts_current fresh) contents, fun g sealed => .inl ?_⟩
  have grows {lines : List (List Char)} {s s' : DiffState} (h : Reported g s.changes)
      (ok : lines.foldlM parseLine s = .ok s') : Reported g s'.changes :=
    foldlM_keep (I := fun s => Reported g s.changes) h
      (fun _ _ _ _ reported step => reported.grows (parseLine_grows step)) ok
  exact grows (grows (sealed.closed closed) modes) contents

/-- After the blocks of all files their changes are recorded, or will be. -/
lemma blocks_sealed {files : List FileChange} (ok : (linesOf (files.flatMap FileChange.texts)).foldlM parseLine s = .ok s') :
    (∀ f ∈ files, Sealed f s') ∧ ∀ g, Sealed g s → Sealed g s' := by
  induction files generalizing s with
  | nil =>
    cases ok
    exact ⟨fun f mem => (List.not_mem_nil mem).elim, fun _ sealed => sealed⟩
  | cons f files ih =>
    rw [List.flatMap_cons, linesOf_append, List.foldlM_append] at ok
    obtain ⟨next, first, rest⟩ := bind_eq_ok.mp ok
    obtain ⟨own, before⟩ := texts_sealed first
    obtain ⟨others, kept⟩ := ih rest
    refine ⟨fun g mem => ?_, fun g sealed => kept g (before g sealed)⟩
    rcases List.mem_cons.mp mem with rfl | mem
    · exact kept _ own
    · exact others g mem

end Blocks

/-- The diff parser hides no change: when it returns on the diff of some files, each of them has a change
in the result with its path and its status, and a link is reported as one. -/
theorem diff_hides_nothing {files : List FileChange} {changes : List ChangedPath}
    (parsed : parseGitDiff (Lines.encode (gitDiff files)) = .ok changes) :
    ∀ f ∈ files, ∃ change ∈ changes, Reports f change := by
  intro f mem
  rw [parseGitDiff, Lines.decode_encode] at parsed
  obtain ⟨_, parsed⟩ := check_bind_eq_ok.mp parsed
  obtain ⟨state, folded, parsed⟩ := bind_eq_ok.mp parsed
  obtain ⟨_, parsed⟩ := check_bind_eq_ok.mp parsed
  obtain ⟨closed, parsed, rest⟩ := bind_eq_ok.mp parsed
  obtain ⟨_, rest⟩ := check_bind_eq_ok.mp rest
  cases rest
  rw [gitDiff, Lines.splitLines_flatMap] at folded
  exact ((blocks_sealed folded).1 f mem).closed parsed

/-- The blob with a name. -/
def blob (name : String) (hex : name.toList.all Char.isAlphanum = true) : ObjectId :=
  ⟨name.toList, List.all_eq_true.mp hex⟩

/-- A change of a file whose added line contains, after line separators, the header of another block, and a
new symbolic link. -/
def forgedFiles : List FileChange :=
  [ { path := ⟨"solution/model.py".toList, by decide, List.all_eq_true.mp rfl⟩
      kind := .modified ⟨"100644".toList, by decide⟩ (blob "1a2b3c" rfl) (blob "4d5e6f" rfl)
        (.hunks [{
          header := ⟨"-1 +1 @@".toList, by decide⟩
          lines := [.removed ⟨"x = 0".toList, by decide⟩,
            .added ⟨"x = 1\u2028diff --git a/notes b/notes\u2028new file mode 100644".toList, by decide⟩] }]) },
    { path := ⟨"solution/data".toList, by decide, List.all_eq_true.mp rfl⟩
      kind := .added ⟨"120000".toList, by decide⟩ (blob "000000" rfl) (blob "7a8b9c" rfl)
        (.hunks [{
          header := ⟨"-0,0 +1 @@".toList, by decide⟩
          lines := [.added ⟨"/etc/passwd".toList, by decide⟩,
            .note ⟨" No newline at end of file".toList, by decide⟩] }]) } ]

theorem diff_hides_nothing_forged : ∃ changes, parseGitDiff (Lines.encode (gitDiff forgedFiles)) = .ok changes ∧
    changes.length = 3 ∧ ∀ f ∈ forgedFiles, ∃ change ∈ changes, Reports f change := by
  have three : (parseDiffText (gitDiff forgedFiles)).toOption.map List.length = some 3 := by decide +kernel
  have read : parseGitDiff (Lines.encode (gitDiff forgedFiles)) = parseDiffText (gitDiff forgedFiles) := by
    rw [parseGitDiff, Lines.decode_encode]
  rw [← read] at three
  obtain ⟨changes, returned, length⟩ := Option.map_eq_some_iff.mp three
  have parsed : parseGitDiff (Lines.encode (gitDiff forgedFiles)) = .ok changes := by
    cases outcome : parseGitDiff (Lines.encode (gitDiff forgedFiles)) <;> rw [outcome] at returned <;>
      cases returned
    rfl
  exact ⟨changes, parsed, length, diff_hides_nothing parsed⟩

end TacoRank.Safety
