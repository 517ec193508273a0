import Mathlib.Data.List.Basic

/-!
# Comma-separated values

The reader of comma-separated texts as a state machine over characters: quoted fields, doubled quotes,
lines that end in a line feed, a carriage return or both, and a limit for the length of a field. A strict
reader raises errors that a lenient one does not; what a strict reader returns, a lenient one returns too
(`records_lenient`).
-/

namespace Lib.Csv

/-- Where the reader is in a record. -/
inductive Position where
  | startRecord | startField | inField | inQuotedField | quoteInQuotedField | eatCrnl
deriving DecidableEq

/-- The errors of the reader. -/
inductive Error where
  | fieldLimit | delimiterExpected | newlineInField | unexpectedEnd
deriving DecidableEq

/-- The state of the reader: the fields of the record so far, and the characters of the next one. -/
structure Reader where
  position : Position := .startRecord
  field : List Char := []
  fields : List String := []
deriving DecidableEq

/-- The longest field. -/
def fieldLimit : Nat := 131072

namespace Reader

/-- A character of a field. -/
def addChar (r : Reader) (position : Position) (c : Char) : Except Error Reader :=
  if fieldLimit ≤ r.field.length then .error .fieldLimit
  else .ok { r with position, field := r.field ++ [c] }

/-- The end of a field. -/
def saveField (r : Reader) (position : Position) : Reader :=
  { position, field := [], fields := r.fields ++ [String.ofList r.field] }

/-- A line feed, a carriage return, or the end of the line (`none`). -/
def isLineEnd : Option Char → Bool
  | none => true
  | some c => c = '\n' || c = '\r'

/-- Where a line end leads to. -/
def afterLineEnd (c : Option Char) : Position := if c.isNone then .startRecord else .eatCrnl

/-- A character where a field starts. -/
def processStart (r : Reader) (c : Option Char) : Except Error Reader :=
  if isLineEnd c then .ok (r.saveField (afterLineEnd c))
  else match c with
    | some '"' => .ok { r with position := .inQuotedField }
    | some ',' => .ok (r.saveField .startField)
    | some c => r.addChar .inField c
    | none => .ok r

/-- The reader after a character, or after the end of a line. -/
def process (strict : Bool) (r : Reader) (c : Option Char) : Except Error Reader :=
  match r.position with
  | .startRecord =>
    if c.isNone then .ok r
    else if isLineEnd c then .ok { r with position := .eatCrnl }
    else r.processStart c
  | .startField => r.processStart c
  | .inField =>
    if isLineEnd c then .ok (r.saveField (afterLineEnd c))
    else match c with
      | some ',' => .ok (r.saveField .startField)
      | some c => r.addChar .inField c
      | none => .ok r
  | .inQuotedField =>
    match c with
    | some '"' => .ok { r with position := .quoteInQuotedField }
    | some c => r.addChar .inQuotedField c
    | none => .ok r
  | .quoteInQuotedField =>
    if isLineEnd c then .ok (r.saveField (afterLineEnd c))
    else match c with
      | some '"' => r.addChar .inQuotedField '"'
      | some ',' => .ok (r.saveField .startField)
      | some c => if strict then .error .delimiterExpected else r.addChar .inField c
      | none => .ok r
  | .eatCrnl =>
    if c.isNone then .ok { r with position := .startRecord }
    else if isLineEnd c then .ok r
    else .error .newlineInField

/-- The reader after a line. -/
def feed (strict : Bool) (r : Reader) (line : List Char) : Except Error Reader :=
  (line.map some ++ [none]).foldlM (process strict) r

end Reader

/-- The lines of a text, with their ends. -/
def lines : List Char → List (List Char)
  | [] => []
  | '\r' :: '\n' :: cs => ['\r', '\n'] :: lines cs
  | c :: cs =>
    if c = '\n' ∨ c = '\r' then [c] :: lines cs
    else match lines cs with
      | [] => [[c]]
      | line :: rest => (c :: line) :: rest

/-- The record that a text leaves open at its end. -/
def lastRecord (strict : Bool) (r : Reader) : List (List String) × Option Error :=
  if r.field = [] ∧ r.position ≠ .inQuotedField then ([], none)
  else if strict then ([], some .unexpectedEnd)
  else ([(r.saveField .startRecord).fields], none)

/-- The records of the lines, up to the first error. -/
def readLines (strict : Bool) : List (List Char) → Reader → List (List String) × Option Error
  | [], r => lastRecord strict r
  | line :: rest, r =>
    match r.feed strict line with
    | .error e => ([], some e)
    | .ok next =>
      if next.position = .startRecord then
        let later := readLines strict rest {}
        (next.fields :: later.1, later.2)
      else readLines strict rest next

/-- The records of a text, up to the first error; an empty line is an empty record. -/
def records (strict : Bool) (text : List Char) : List (List String) × Option Error :=
  readLines strict (lines text) {}

/-- A strict step is a lenient one. -/
lemma process_lenient {r next : Reader} {c : Option Char} (h : r.process true c = .ok next) :
    r.process false c = .ok next := by
  unfold Reader.process at h ⊢
  split at h
  · exact h
  · exact h
  · exact h
  · exact h
  · by_cases ends : Reader.isLineEnd c = true
    · rwa [if_pos ends] at h ⊢
    · rw [if_neg ends] at h ⊢
      split at h
      · exact h
      · exact h
      · cases h
      · exact h
  · exact h

lemma feed_lenient {r next : Reader} {line : List Char} (h : r.feed true line = .ok next) :
    r.feed false line = .ok next := by
  unfold Reader.feed at h ⊢
  generalize line.map some ++ [none] = cs at h ⊢
  induction cs generalizing r with
  | nil => exact h
  | cons c cs ih =>
    rw [List.foldlM_cons] at h ⊢
    cases first : r.process true c with
    | error e =>
      rw [first] at h
      cases h
    | ok middle =>
      rw [first] at h
      rw [process_lenient first]
      exact ih h

lemma readLines_lenient {ls : List (List Char)} {r : Reader} {found : List (List String)}
    (h : readLines true ls r = (found, none)) : readLines false ls r = (found, none) := by
  induction ls generalizing r found with
  | nil =>
    unfold readLines lastRecord at h ⊢
    by_cases closed : r.field = [] ∧ r.position ≠ .inQuotedField
    · rwa [if_pos closed] at h ⊢
    · rw [if_neg closed, if_pos rfl] at h
      cases h
  | cons line rest ih =>
    rw [readLines] at h ⊢
    cases fed : r.feed true line with
    | error e =>
      rw [fed] at h
      cases h
    | ok next =>
      rw [fed] at h
      rw [feed_lenient fed]
      dsimp only at h ⊢
      split_ifs at h ⊢
      · obtain ⟨records, failure⟩ := Prod.mk.inj h
        rw [ih (Prod.ext rfl failure), ← records]
      · exact ih h

/-- What a strict reader returns without an error, a lenient reader returns too. -/
theorem records_lenient {text : List Char} {found : List (List String)}
    (h : records true text = (found, none)) : records false text = (found, none) :=
  readLines_lenient h

end Lib.Csv
