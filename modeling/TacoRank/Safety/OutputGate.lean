import TacoRank.Lib.Csv
import TacoRank.Lib.Result
import TacoRank.Memory.Envelope
import Mathlib.Algebra.Order.Ring.Rat
import Mathlib.Data.List.Dedup

/-!
# The output gate

The checks of `OutputGate._check_sync` on the bytes of a prediction, under an `OutputContract`; the live
run has that of `_output_contract` in `orchestrator/live.py`. What the resolution of the artifact and the
verification of the seal have found is given. Floats are a parameter.
-/

namespace TacoRank.Safety
open Lib Lib.Result

/-! ### Values -/

/-- The floats of the language, and the digits that it reads besides those of ASCII. -/
class PythonNumbers (S : Type) where
  digit : Char → Option Nat
  /-- `float(text)`. -/
  float : String → Option S
  /-- `float(n)`, which may overflow. -/
  ofInt : Int → Option S
  /-- `int(x)`, which infinities and NaN do not have. -/
  truncate : S → Option Int
  isFinite : S → Bool
  /-- The value of a finite float; hashing and `==` go by it. -/
  value : S → ℚ
  /-- `x == y`. -/
  equal : S → S → Bool
  /-- `x == n`. -/
  equalInt : S → Int → Bool
  /-- `str(x)`. -/
  text : S → String
  /-- `x.hex()`. -/
  hex : S → String
  /-- The value of `m / n`. -/
  quotient : Nat → Nat → ℚ
  quotient_mono : ∀ {m m' n : Nat}, m ≤ m' → quotient m n ≤ quotient m' n
  /-- `"{:.2%}".format(x)`. -/
  percent : ℚ → String
  /-- `"%.6f" % x`. -/
  sixDigits : ℚ → String

/-- A value of a row. -/
inductive Value (S : Type) where
  | int (n : Int)
  | float (x : S)
  | str (text : String)
  | bool (b : Bool)
deriving DecidableEq

section Values
variable (S : Type) [PythonNumbers S]

/-- The value of a digit. -/
def digitValue (c : Char) : Option Nat :=
  if c.isDigit then some (c.toNat - 48) else PythonNumbers.digit S c

/-- The value of digits, which single underscores may separate. -/
def digitsValue (cs : List Char) : Option Nat :=
  let groups := cs.splitOn '_'
  if groups.all (· ≠ []) then
    (groups.flatten.mapM (digitValue S)).map fun ds => ds.foldl (fun n d => 10 * n + d) 0
  else none

/-- `int(text)`. -/
def pythonInt (text : String) : Option Int :=
  match stripChars isPythonSpace text.toList with
  | '-' :: cs => (digitsValue S cs).map fun n => -(n : Int)
  | '+' :: cs => (digitsValue S cs).map fun n => (n : Int)
  | cs => (digitsValue S cs).map fun n => (n : Int)

variable {S}

namespace Value

/-- The integer that a truth value is. -/
def ofBool (b : Bool) : Int := if b then 1 else 0

/-- `v == w`. -/
def same : Value S → Value S → Bool
  | .str a, .str b => a = b
  | .int m, .int n => m = n
  | .int m, .bool b => m = ofBool b
  | .bool a, .int n => ofBool a = n
  | .bool a, .bool b => a = b
  | .float x, .float y => PythonNumbers.equal x y
  | .float x, .int n => PythonNumbers.equalInt x n
  | .int m, .float y => PythonNumbers.equalInt y m
  | .float x, .bool b => PythonNumbers.equalInt x (ofBool b)
  | .bool a, .float y => PythonNumbers.equalInt y (ofBool a)
  | _, _ => false

/-- `str(v)`. -/
def text : Value S → String
  | .str a => a
  | .int n => String.ofList (Json.decimal n)
  | .float x => PythonNumbers.text x
  | .bool true => "True"
  | .bool false => "False"

/-- `int(v)`, when it does not raise. -/
def toInt : Value S → Option Int
  | .str a => pythonInt S a
  | .int n => some n
  | .float x => PythonNumbers.truncate x
  | .bool b => some (ofBool b)

/-- `float(v)`, when it does not raise. -/
def toFloat : Value S → Option S
  | .str a => PythonNumbers.float a
  | .int n => PythonNumbers.ofInt n
  | .float x => some x
  | .bool b => PythonNumbers.ofInt (ofBool b)

/-- `isinstance(v, bool)`. -/
def isBool : Value S → Bool
  | .bool _ => true
  | _ => false

/-- `not isinstance(v, bool) and isinstance(v, (int, float))`. -/
def isNumber : Value S → Bool
  | .int _ | .float _ => true
  | _ => false

end Value

/-- `x == y` of values that may be missing. -/
def sameValue : Option (Value S) → Option (Value S) → Bool
  | some v, some w => v.same w
  | none, none => true
  | _, _ => false

end Values

/-! ### Ordered digests -/

/-- `len(record).to_bytes(8, "big")`. -/
def lengthBytes (n : Nat) : List UInt8 := (List.range 8).map fun i => UInt8.ofNat (n / 256 ^ (7 - i))

/-- What a digest of records is updated with. -/
def recordBytes (records : List (Json Empty)) : List UInt8 :=
  records.flatMap fun record =>
    let bytes := Lines.encode (Json.dumps record)
    lengthBytes bytes.length ++ bytes

/-- `[row_id, user_id, item_id]`. -/
def identityRecord (rowId : Int) (userId itemId : String) : Json Empty :=
  .arr [.int rowId, .str userId, .str itemId]

/-- `[row_id, user_id, item_id, score.hex()]`. -/
def predictionRecord (rowId : Int) (userId itemId hex : String) : Json Empty :=
  .arr [.int rowId, .str userId, .str itemId, .str hex]

section Digests
variable {S : Type} [PythonNumbers S] (sha256 : List UInt8 → String)

/-- The row ids that `_validate_contiguous_row_ids` accepts. -/
def contiguousRowIds (rowIds : List (Value S)) : Except String (List Int) :=
  rowIds.zipIdx.mapM fun (rowId, index) =>
    match rowId with
    | .int n =>
      if n = index then .ok n else .error "row IDs must be zero-based, contiguous, and ordered"
    | _ => .error "row IDs must be integers"

/-- `ordered_row_identity_sha256` of `evaluation/adapter.py`. -/
def orderedRowIdentitySha256 (rowIds userIds itemIds : List (Value S)) : Except String String := do
  ensure (rowIds.length = userIds.length ∧ userIds.length = itemIds.length ∧ rowIds ≠ [])
    "row identities must align and be non-empty"
  let ids ← contiguousRowIds rowIds
  return sha256 (recordBytes ((ids.zip (userIds.zip itemIds)).map fun (rowId, userId, itemId) =>
    identityRecord rowId userId.text itemId.text))

/-- The record of a row, whose score has to be a finite float. -/
def scoredRecord (rowId : Int) (userId itemId score : Value S) : Except String (Json Empty) := do
  let numeric ← score.toFloat.elim (.error "could not convert the score to float") .ok
  ensure (PythonNumbers.isFinite numeric = true) "prediction scores must be finite"
  return predictionRecord rowId userId.text itemId.text (PythonNumbers.hex numeric)

/-- `ordered_prediction_sha256` of `evaluation/adapter.py`. -/
def orderedPredictionSha256 (rowIds userIds itemIds scores : List (Value S)) : Except String String := do
  ensure (rowIds.length = userIds.length ∧ userIds.length = itemIds.length ∧
    itemIds.length = scores.length ∧ scores ≠ []) "prediction identities must align and be non-empty"
  let ids ← contiguousRowIds rowIds
  let records ← (ids.zip (userIds.zip (itemIds.zip scores))).mapM fun (rowId, userId, itemId, score) =>
    scoredRecord rowId userId itemId score
  return sha256 (recordBytes records)

end Digests

/-! ### Contracts and findings -/

/-- `ViolationCode`, the codes of the output gate. -/
inductive ViolationCode where
  | outputHeaderMismatch | outputTypeMismatch | outputRowCountMismatch | outputRowIdMismatch
  | outputIdentityMismatch | outputNonfiniteScore | outputDegenerateScores | outputArtifactMismatch
  | outputProducerMismatch | outputProtectedData
deriving DecidableEq, Repr

/-- `PolicyViolation`. -/
structure PolicyViolation where
  code : ViolationCode
  check : String
  message : String
  path : Option String := none
deriving DecidableEq, Repr

/-- The kinds of `OutputColumn`. -/
inductive ColumnKind where
  | integer | number | string | boolean
deriving DecidableEq, Repr

/-- `OutputColumn`. -/
structure OutputColumn where
  name : String
  kind : ColumnKind
deriving DecidableEq, Repr

/-- `OutputContract`, with what its constructor checks. A row is given by its values. -/
structure OutputContract (S : Type) where
  columns : List OutputColumn
  scoreColumn : String
  expectedRows : List (String → Option (Value S))
  identityColumns : List String
  rowIdColumn : Option String := some "row_id"
  requireContiguousRowId : Bool := true
  forbiddenColumns : List String := []
  minimumUniqueScores : Nat := 2
  maximumSingleScoreFraction : ℚ := 1
  distinct : (columns.map OutputColumn.name).Nodup
  scored : scoreColumn ∈ columns.map OutputColumn.name
  identified : ∀ name ∈ identityColumns, name ∈ columns.map OutputColumn.name
  numbered : ∀ name ∈ rowIdColumn, name ∈ columns.map OutputColumn.name
  unique : 0 < minimumUniqueScores
  fraction : 0 < maximumSingleScoreFraction ∧ maximumSingleScoreFraction ≤ 1

/-- `OutputContract.header`. -/
def OutputContract.header {S : Type} (contract : OutputContract S) : List String :=
  contract.columns.map OutputColumn.name

/-! ### Reading the rows -/

/-- A row of `csv.DictReader`: the fields by their column, missing ones as none, and whether fields are
left over. -/
structure DictRow where
  entries : List (String × Option String)
  overflow : Bool

/-- `row.get(name)`; of a repeated column the last one counts. -/
def DictRow.get (row : DictRow) (name : String) : Option String := (row.entries.reverse.lookup name).join

/-- The row of a record. -/
def dictRow (header record : List String) : DictRow where
  entries := header.zip (record.map some) ++ (header.drop record.length).map fun name => (name, none)
  overflow := decide (header.length < record.length)

/-- The header and the rows of `csv.DictReader`, which skips empty records; of an unreadable text there
are no rows. -/
def readDict (text : List Char) : List String × List DictRow × Option Csv.Error :=
  let read := Csv.records true text
  let header := read.1.head?.getD []
  (header, if read.2.isSome then [] else (read.1.tail.filter (· ≠ [])).map (dictRow header), read.2)

/-- The table of the bytes: header, rows and what made it unreadable. Bytes that are not UTF-8 count as
an unreadable text. -/
def readTable (bytes : Option (List UInt8)) : List String × List DictRow × Option Csv.Error :=
  match bytes with
  | none => ([], [], none)
  | some bytes =>
    match Lines.decode bytes with
    | none => ([], [], some .unexpectedEnd)
    | some text => readDict text

/-- `[+-]?[0-9]+`. -/
def isPlainInteger (text : String) : Bool :=
  match text.toList with
  | '+' :: cs => cs ≠ [] && cs.all Char.isDigit
  | '-' :: cs => cs ≠ [] && cs.all Char.isDigit
  | cs => cs ≠ [] && cs.all Char.isDigit

/-- `casefold` on the characters that it turns into letters of `true` and `false`. -/
def foldLetter (c : Char) : Char := if c.toNat = 0x17F then 's' else c.toLower

/-- A finding when a condition holds. -/
def findingIf (condition : Prop) [Decidable condition] (finding : PolicyViolation) : List PolicyViolation :=
  if condition then [finding] else []

@[simp] lemma findingIf_eq_nil {condition : Prop} [Decidable condition] {finding : PolicyViolation} :
    findingIf condition finding = [] ↔ ¬ condition := by
  unfold findingIf
  split_ifs with h <;> simp [h]

section Gate
variable {S : Type} [PythonNumbers S] (sha256 : List UInt8 → String) (contract : OutputContract S)
  (path : String)

/-- `_convert_value`, when it does not raise. -/
def convertValue (kind : ColumnKind) (text : String) : Option (Value S) :=
  match kind with
  | .string => some (.str text)
  | .integer => if isPlainInteger text then (pythonInt S text).map .int else none
  | .number => (PythonNumbers.float text).map .float
  | .boolean =>
    let folded := String.ofList (text.toList.map foldLetter)
    if folded = "true" ∨ folded = "1" then some (.bool true)
    else if folded = "false" ∨ folded = "0" then some (.bool false)
    else none

/-- The value of a row in a column, when there is one that can be converted. -/
def columnValue (row : DictRow) (column : OutputColumn) : Option (Value S) :=
  (row.get column.name).bind (convertValue column.kind)

/-- A row of `_convert_rows`: its values by column. -/
def convertRow (row : DictRow) (name : String) : Option (Value S) :=
  (contract.columns.find? fun column => column.name = name).bind (columnValue row)

/-- The converted rows of the bytes. -/
def convertedRows (bytes : Option (List UInt8)) : List (String → Option (Value S)) :=
  (readTable bytes).2.1.map (convertRow contract)

/-- The findings about the columns and the rows. -/
def tableFindings (table : List String × List DictRow × Option Csv.Error) : List PolicyViolation :=
  findingIf (table.2.2.isSome = true)
    ⟨.outputHeaderMismatch, "header", "prediction artifact is not a readable strict UTF-8 CSV", path⟩ ++
  findingIf (table.2.1.any DictRow.overflow = true)
    ⟨.outputHeaderMismatch, "header", "prediction row contains more fields than the exact header", path⟩ ++
  findingIf (table.1 ≠ contract.header)
    ⟨.outputHeaderMismatch, "header", "prediction header differs from the frozen contract", path⟩ ++
  findingIf (table.1.any contract.forbiddenColumns.contains = true)
    ⟨.outputProtectedData, "protected_data",
      "prediction output includes protected target or hidden-data columns", path⟩ ++
  findingIf (table.2.1.length ≠ contract.expectedRows.length)
    ⟨.outputRowCountMismatch, "row_count", "prediction row count differs from the frozen population", path⟩

/-- The findings of `_convert_rows`. -/
def conversionFindings (rows : List DictRow) : List PolicyViolation :=
  rows.zipIdx.flatMap fun (row, index) =>
    contract.columns.flatMap fun column =>
      findingIf ((columnValue (S := S) row column).isNone = true)
        ⟨.outputTypeMismatch, "column_types",
          "column '" ++ column.name ++ "' has an invalid value at row " ++ toString index, path⟩

/-- `_check_row_ids`. -/
def rowIdFindings (rows : List (String → Option (Value S))) : List PolicyViolation :=
  match contract.rowIdColumn with
  | none => []
  | some name =>
    findingIf (contract.requireContiguousRowId = true ∧
        ¬ rows.zipIdx.all (fun (row, index) => sameValue (row name) (some (.int index))) = true)
      ⟨.outputRowIdMismatch, "row_id", "row ids must be zero-based and contiguous in official order", path⟩

/-- The identity of a row. -/
def identityOf (row : String → Option (Value S)) : List (Option (Value S)) := contract.identityColumns.map row

/-- Two identities are equal. -/
def sameIdentity (a b : List (Option (Value S))) : Bool :=
  a.length = b.length && (a.zip b).all fun (x, y) => sameValue x y

/-- `_check_identities`. -/
def identityFindings (rows : List (String → Option (Value S))) : List PolicyViolation :=
  let actual := rows.map (identityOf contract)
  let expected := contract.expectedRows.map (identityOf contract)
  let count (identity : List (Option (Value S))) (all : List (List (Option (Value S)))) : Nat :=
    all.countP (sameIdentity identity)
  findingIf (¬ (actual.length = expected.length ∧
      (actual.zip expected).all (fun (a, b) => sameIdentity a b) = true))
    ⟨.outputIdentityMismatch, "identity_alignment",
      "user/item identities or official row order do not match", path⟩ ++
  findingIf (¬ (actual ++ expected).all (fun identity => count identity actual = count identity expected) = true)
    ⟨.outputIdentityMismatch, "duplicate_preservation",
      "repeated identity rows were collapsed, added, or removed", path⟩

/-- `len(set(scores))`. -/
def distinctScores (scores : List S) : Nat := (scores.map PythonNumbers.value).dedup.length

/-- `Counter(scores).most_common(1)[0][1]`. -/
def mostCommonCount (scores : List S) : Nat :=
  let values := scores.map PythonNumbers.value
  (values.map fun v => values.count v).foldr max 0

/-- The numeric scores as floats; a score that is too large for a float raises. -/
def numericScores (rows : List (String → Option (Value S))) : Option (List S) :=
  (rows.filterMap fun row => (row contract.scoreColumn).filter Value.isNumber).mapM Value.toFloat

/-- The findings about the scores. -/
def scoreFindings (rows : List (String → Option (Value S))) (numeric : List S) : List PolicyViolation :=
  let scores := numeric.filter PythonNumbers.isFinite
  let infinite := numeric.filter fun score => !PythonNumbers.isFinite score
  let concentration := PythonNumbers.quotient S (mostCommonCount scores) scores.length
  infinite.map (fun _ =>
    ⟨.outputNonfiniteScore, "finite_scores", "prediction score contains NaN or infinity", path⟩) ++
  findingIf (scores.length ≠ rows.length ∧ infinite = [])
    ⟨.outputNonfiniteScore, "finite_scores",
      "every prediction row must contain a finite numeric score", path⟩ ++
  findingIf (scores ≠ [] ∧ distinctScores scores < min contract.minimumUniqueScores rows.length)
    ⟨.outputDegenerateScores, "score_diversity",
      "prediction scores do not provide sufficient ordering diversity", path⟩ ++
  findingIf (scores ≠ [] ∧ contract.maximumSingleScoreFraction < concentration)
    ⟨.outputDegenerateScores, "score_concentration",
      "one score value occupies " ++ PythonNumbers.percent S concentration ++
        " of prediction rows, above the frozen " ++
        PythonNumbers.percent S contract.maximumSingleScoreFraction ++ " limit", path⟩

/-- What the hashes are made of: the number, the identity and the score of a row. -/
def hashedRow (rowIdColumn userColumn itemColumn : String) (row : String → Option (Value S)) :
    Option (Value S × Value S × Value S × Value S) := do
  return (← row rowIdColumn, ← row userColumn, ← row itemColumn, ← row contract.scoreColumn)

/-- A row that is in its place and has a finite score. -/
def hashedValues (row : Value S × Value S × Value S × Value S) (index : Nat) :
    Option (Int × String × String × S) := do
  let rowId ← if row.1.isBool then none else row.1.toInt
  let score ← row.2.2.2.toFloat
  if rowId = index ∧ PythonNumbers.isFinite score = true then
    return (rowId, row.2.1.text, row.2.2.1.text, score)
  else none

/-- `_ordered_output_hashes`. -/
def orderedOutputHashes (rows : List (String → Option (Value S))) (fallback : List UInt8) : String × String :=
  let rejected :=
    (sha256 (Lines.encode "invalid-row-identity\x00".toList ++ fallback),
      sha256 (Lines.encode "invalid-prediction-identity\x00".toList ++ fallback))
  match contract.rowIdColumn, contract.identityColumns with
  | some rowIdColumn, [userColumn, itemColumn] =>
    let complete := (rows.mapM (hashedRow contract rowIdColumn userColumn itemColumn)).bind fun values =>
      values.zipIdx.mapM fun (row, index) => hashedValues row index
    match complete with
    | some (first :: rest) =>
      (sha256 (recordBytes ((first :: rest).map fun (rowId, userId, itemId, _) =>
          identityRecord rowId userId itemId)),
        sha256 (recordBytes ((first :: rest).map fun (rowId, userId, itemId, score) =>
          predictionRecord rowId userId itemId (PythonNumbers.hex score))))
    | _ => rejected
  | _, _ => rejected

/-- `OutputCheckResult`, the part about the bytes. -/
structure OutputCheck where
  accepted : Bool
  orderedRowIdentitySha256 : String
  orderedPredictionSha256 : String
  findings : List PolicyViolation

/-- The checks on the bytes of a prediction, after the findings about its artifact and its seal; there is
no result when a score is an integer too large for a float. -/
def checkPrediction (found : List PolicyViolation) (bytes : Option (List UInt8)) : Option OutputCheck := do
  let table := readTable bytes
  let rows := convertedRows contract bytes
  let numeric ← numericScores contract rows
  let findings := found ++ tableFindings contract path table ++ conversionFindings contract path table.2.1 ++
    rowIdFindings contract path rows ++ identityFindings contract path rows ++
    scoreFindings contract path rows numeric
  let hashes := orderedOutputHashes sha256 contract rows (bytes.getD [])
  return {
    accepted := findings.isEmpty
    orderedRowIdentitySha256 := hashes.1
    orderedPredictionSha256 := hashes.2
    findings }

end Gate

/-! ### The contract of the live run -/

/-- A row of `_PopulationData.rows`. -/
structure PopulationRow where
  rowId : Nat
  userId : String
  videoId : String
deriving DecidableEq, Repr

/-- The values of a row of a population. -/
def PopulationRow.values {S : Type} (row : PopulationRow) (name : String) : Option (Value S) :=
  if name = "row_id" then some (.int row.rowId)
  else if name = "user_id" then some (.str row.userId)
  else if name = "video_id" then some (.str row.videoId)
  else none

/-- `_output_contract`. -/
def outputContract (S : Type) (rows : List PopulationRow) (limit : ℚ) (fraction : 0 < limit ∧ limit ≤ 1) :
    OutputContract S where
  columns := [⟨"row_id", .integer⟩, ⟨"user_id", .string⟩, ⟨"video_id", .string⟩, ⟨"score", .number⟩]
  scoreColumn := "score"
  expectedRows := rows.map PopulationRow.values
  identityColumns := ["user_id", "video_id"]
  forbiddenColumns := ["label", "target"]
  maximumSingleScoreFraction := limit
  distinct := by decide
  scored := by decide
  identified := by decide
  numbered := by decide
  unique := by decide
  fraction := fraction

end TacoRank.Safety
