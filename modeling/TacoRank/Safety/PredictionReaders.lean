import TacoRank.Lib.Result
import TacoRank.Safety.GateSoundness

/-!
# The two readers of a prediction

`validate_submission` of `benchmarks/kuairand_pure/submission_adapter.py` reads the bytes that the output
gate has accepted once more, before the protected evaluator scores them. The gate skips empty lines and
asks for two distinct scores; the adapter does neither. On everything else they agree (`readers_agree`).
-/

namespace TacoRank.Safety
open Lib Lib.Result

/-! ### The submission adapter -/

/-- The errors of `validate_submission`, and those of the library that it lets through. -/
inductive SubmissionError where
  | valueError (message : String)
  | unicodeDecodeError
  | csvError (error : Csv.Error)
deriving DecidableEq

/-- A row of a submission. -/
structure SubmissionRow (S : Type) where
  rowId : Int
  userId : String
  itemId : String
  score : S

/-- `SubmissionCheck`. -/
structure SubmissionCheck (S : Type) where
  rows : List (SubmissionRow S)
  uniqueScores : Nat
  uniqueScoreFraction : ℚ
  artifactSha256 : String
  orderedRowIdentitySha256 : String
  orderedPredictionSha256 : String

/-- `HEADER`. -/
def submissionHeader : List String := ["row_id", "user_id", "video_id", "score"]

/-- The default of `minimum_unique_fraction`, the float 0.01. -/
def defaultUniqueFraction : ℚ := 5764607523034235 / 576460752303423488

section Adapter
variable {S : Type} [PythonNumbers S] (sha256 : List UInt8 → String)

/-- A check of the adapter. -/
abbrev demand (condition : Prop) [Decidable condition] (message : String) : Except SubmissionError Unit :=
  ensure condition (.valueError message)

/-- The value of a conversion. -/
def orValueError {α : Type} (value : Option α) (message : String) : Except SubmissionError α :=
  value.elim (.error (.valueError message)) .ok

/-- The row of a record, with its position after the header. -/
def parseRecord (expectedRows : List PopulationRow) (record : List String) (index : Nat) :
    Except SubmissionError (SubmissionRow S) :=
  let line := "line " ++ toString (index + 2)
  match record with
  | [rowId, userId, videoId, rawScore] => do
    let parsedRowId ← orValueError (pythonInt S rowId) (line ++ " row_id is not an integer")
    demand (parsedRowId = index) (line ++ " row_id must be " ++ toString index)
    let expected ← orValueError expectedRows[index]? "submission has more rows than the evaluation population"
    demand (userId = expected.userId ∧ videoId = expected.videoId)
      (line ++ " does not align with the evaluation row")
    let score ← orValueError (PythonNumbers.float rawScore) (line ++ " score is not numeric")
    demand (PythonNumbers.isFinite score = true) (line ++ " score must be finite")
    return { rowId := parsedRowId, userId, itemId := videoId, score }
  | _ => .error (.valueError (line ++ " must contain four fields"))

variable (S) in
/-- `validate_submission`. -/
def validateSubmission (bytes : List UInt8) (expectedRows : List PopulationRow)
    (minimumUniqueFraction : ℚ := defaultUniqueFraction) : Except SubmissionError (SubmissionCheck S) := do
  demand (0 ≤ minimumUniqueFraction ∧ minimumUniqueFraction ≤ 1) "minimum_unique_fraction must be in [0, 1]"
  let text ← (Lines.decode bytes).elim (.error .unicodeDecodeError) .ok
  let (records, failure) := Csv.records false text
  -- an error of the first record comes before the check of the header
  (if records = [] then failure else none).elim (.ok ()) fun error => .error (.csvError error)
  demand (records.head?.getD [] = submissionHeader) "header must be row_id,user_id,video_id,score"
  let rows ← records.tail.zipIdx.mapM fun (record, index) => parseRecord (S := S) expectedRows record index
  failure.elim (.ok ()) fun error => .error (.csvError error)
  demand (rows.length = expectedRows.length)
    ("submission row count " ++ toString rows.length ++ " does not match expected " ++
      toString expectedRows.length)
  demand (rows ≠ []) "submission must not be empty"
  let unique := distinctScores (rows.map SubmissionRow.score)
  let fraction := PythonNumbers.quotient S unique rows.length
  demand (¬ fraction < minimumUniqueFraction)
    ("score diversity " ++ PythonNumbers.sixDigits S fraction ++ " is below required " ++
      PythonNumbers.sixDigits S minimumUniqueFraction)
  let rowIds := rows.map fun row => Value.int row.rowId
  let userIds := rows.map fun row => Value.str row.userId
  let itemIds := rows.map fun row => Value.str row.itemId
  let rowIdentity ← (orderedRowIdentitySha256 sha256 rowIds userIds itemIds).mapError .valueError
  let predictionIdentity ← (orderedPredictionSha256 sha256 rowIds userIds itemIds
    (rows.map fun row => Value.float row.score)).mapError .valueError
  return {
    rows
    uniqueScores := unique
    uniqueScoreFraction := fraction
    artifactSha256 := sha256 bytes
    orderedRowIdentitySha256 := rowIdentity
    orderedPredictionSha256 := predictionIdentity }

end Adapter

/-! ### What the gate has checked -/

section Agreement
set_option linter.unusedSectionVars false
variable {S : Type} [PythonNumbers S] {sha256 : List UInt8 → String} {expected : List PopulationRow}
  {limit : ℚ} {fraction : 0 < limit ∧ limit ≤ 1} {path : String} {found : List PolicyViolation}
  {bytes : List UInt8} {gate : OutputCheck}

/-- The values of the row by column. -/
def SubmissionRow.values (row : SubmissionRow S) (name : String) : Option (Value S) :=
  if name = "row_id" then some (.int row.rowId)
  else if name = "user_id" then some (.str row.userId)
  else if name = "video_id" then some (.str row.itemId)
  else if name = "score" then some (.float row.score)
  else none

/-- A row of the live contract by column. -/
lemma convertRow_live {rowId userId videoId rawScore : String} (name : String) :
    convertRow (outputContract S expected limit fraction)
        (dictRow submissionHeader [rowId, userId, videoId, rawScore]) name =
      if name = "row_id" then convertValue .integer rowId
      else if name = "user_id" then some (.str userId)
      else if name = "video_id" then some (.str videoId)
      else if name = "score" then convertValue .number rawScore
      else none := by
  have distinct : submissionHeader.Nodup := by decide
  have cell (i : Nat) (column : OutputColumn) (at_ : submissionHeader[i]? = some column.name)
      (listed : column ∈ (outputContract S expected limit fraction).columns) :
      convertRow (outputContract S expected limit fraction)
          (dictRow submissionHeader [rowId, userId, videoId, rawScore]) column.name =
        ([rowId, userId, videoId, rawScore][i]?).bind (convertValue column.kind) := by
    rw [convertRow_column listed, columnValue, dictRow_get distinct at_]
  split_ifs with h1 h2 h3 h4
  · subst h1
    exact cell 0 ⟨"row_id", .integer⟩ rfl (by simp [outputContract])
  · subst h2
    exact cell 1 ⟨"user_id", .string⟩ rfl (by simp [outputContract])
  · subst h3
    exact cell 2 ⟨"video_id", .string⟩ rfl (by simp [outputContract])
  · subst h4
    exact cell 3 ⟨"score", .number⟩ rfl (by simp [outputContract])
  · have nowhere : (outputContract S expected limit fraction).columns.find? (fun column => column.name = name) =
        none := by
      simp [outputContract, Ne.symm h1, Ne.symm h2, Ne.symm h3, Ne.symm h4]
    rw [convertRow, nowhere]
    rfl

lemma identityOf_live {row : String → Option (Value S)} :
    identityOf (outputContract S expected limit fraction) row = [row "user_id", row "video_id"] := rfl

/-- A record that the gate has checked is a row of the adapter. -/
lemma Conforms.parses {kept : List (List String)} {rows : List (String → Option (Value S))} {numeric : List S}
    (conforms : Conforms (outputContract S expected limit fraction) kept rows numeric) {record : List String}
    {index : Nat} (at_ : kept[index]? = some record) :
    ∃ row : SubmissionRow S, parseRecord expected record index = .ok row ∧ row.rowId = index ∧
      PythonNumbers.isFinite row.score = true ∧
      convertRow (outputContract S expected limit fraction) (dictRow submissionHeader record) = row.values := by
  have four : record.length = 4 := conforms.length record (List.mem_of_getElem? at_)
  obtain ⟨rowId, userId, videoId, rawScore, rfl⟩ : ∃ a b c d, record = [a, b, c, d] := by
    match record, four with
    | [a, b, c, d], _ => exact ⟨a, b, c, d, rfl⟩
  have row_at : rows[index]? = some (convertRow (outputContract S expected limit fraction)
      (dictRow submissionHeader [rowId, userId, videoId, rawScore])) := by
    rw [conforms.converted, List.getElem?_map, at_]
    rfl
  have mem := List.mem_of_getElem? row_at
  have number := conforms.rowId rfl (List.mem_cons_self ..) rfl row_at
  rw [convertRow_live, if_pos rfl] at number
  have parsed : pythonInt S rowId = some (index : Int) := by
    simp only [convertValue] at number
    split_ifs at number
    obtain ⟨n, read, same⟩ := Option.map_eq_some_iff.mp number
    rw [read, Value.int.inj same]
  have scores : ∀ row ∈ rows, ∃ score, HasScore (outputContract S expected limit fraction) row score :=
    forall_left_of_forall₂ (conforms.scores.imp fun row score h => ⟨score, h⟩)
  obtain ⟨score, value, read, -, float, finite⟩ := scores _ mem
  have rawFloat : PythonNumbers.float rawScore = some score := by
    rw [show (outputContract S expected limit fraction).scoreColumn = "score" from rfl, convertRow_live] at read
    obtain ⟨x, isFloat, same⟩ := Option.map_eq_some_iff.mp read
    rw [← same] at float
    rw [isFloat]
    exact float
  obtain ⟨official, official_at, same⟩ : ∃ official, expected[index]? = some official ∧
      sameIdentity (identityOf (outputContract S expected limit fraction)
        (convertRow (outputContract S expected limit fraction)
          (dictRow submissionHeader [rowId, userId, videoId, rawScore])))
        (identityOf (outputContract S expected limit fraction) (PopulationRow.values official)) = true := by
    have aligned := conforms.identities
    rw [show (outputContract S expected limit fraction).expectedRows = expected.map PopulationRow.values from rfl,
      List.forall₂_map_right_iff] at aligned
    have small := (List.getElem?_eq_some_iff.mp row_at).1
    have small' : index < expected.length := aligned.length_eq ▸ small
    refine ⟨expected[index], List.getElem?_eq_getElem small', ?_⟩
    have pair := (List.forall₂_iff_get.mp aligned).2 index small small'
    have here := (List.getElem?_eq_some_iff.mp row_at).2
    simpa [here] using pair
  have names : userId = official.userId ∧ videoId = official.videoId := by
    rw [identityOf_live, identityOf_live, convertRow_live, convertRow_live] at same
    simpa [sameIdentity, PopulationRow.values, sameValue, Value.same] using same
  refine ⟨⟨index, userId, videoId, score⟩, ?_, rfl, finite, ?_⟩
  · simp only [parseRecord, parsed, orValueError, Option.elim_some, official_at, rawFloat, ok_bind, ensure,
      if_true, finite, names, and_self]
    rfl
  · funext name
    rw [convertRow_live, number, SubmissionRow.values]
    simp only [convertValue, rawFloat, Option.map_some]

/-- The rows of the records that the gate has checked. -/
lemma Conforms.submissionRows {kept : List (List String)} {gateRows : List (String → Option (Value S))}
    {numeric : List S} (conforms : Conforms (outputContract S expected limit fraction) kept gateRows numeric) :
    ∃ rows : List (SubmissionRow S),
      kept.zipIdx.mapM (fun entry => parseRecord (S := S) expected entry.1 entry.2) = .ok rows ∧
      rows.length = expected.length ∧ gateRows = rows.map SubmissionRow.values ∧
      rows.map SubmissionRow.rowId = (List.range rows.length).map (fun n : Nat => (n : Int)) ∧
      ∀ row ∈ rows, PythonNumbers.isFinite row.score = true := by
  have each : ∀ entry ∈ kept.zipIdx, ∃ row : SubmissionRow S,
      parseRecord expected entry.1 entry.2 = .ok row ∧ row.rowId = entry.2 ∧
        PythonNumbers.isFinite row.score = true ∧
        convertRow (outputContract S expected limit fraction) (dictRow submissionHeader entry.1) = row.values :=
    fun entry mem => conforms.parses (List.mem_zipIdx_iff_getElem?.mp mem)
  obtain ⟨rows, related⟩ := exists_forall₂ each
  have length : rows.length = kept.length := by
    rw [← related.length_eq, List.length_zipIdx]
  have count : kept.length = expected.length := conforms.count.trans (List.length_map _)
  refine ⟨rows, mapM_eq_ok.mpr (related.imp fun _ _ h => h.1), length.trans count, ?_, ?_, ?_⟩
  · have same := map_eq_map_of_forall₂
      (f := fun entry => convertRow (outputContract S expected limit fraction) (dictRow submissionHeader entry.1))
      (g := SubmissionRow.values) (related.imp fun _ _ h => h.2.2.2)
    have records := congrArg
      (List.map fun record => convertRow (outputContract S expected limit fraction) (dictRow submissionHeader record))
      (List.zipIdx_map_fst 0 kept)
    rw [← same, conforms.converted]
    exact records.symm.trans (List.map_map ..)
  · have same := map_eq_map_of_forall₂ (f := fun entry : List String × Nat => (entry.2 : Int))
      (g := SubmissionRow.rowId) (related.imp fun _ _ h => h.2.1.symm)
    have indices := List.zipIdx_map_snd 0 kept
    rw [← same, length, List.range_eq_range', ← indices, List.map_map]
    rfl
  · exact forall_left_of_forall₂ (List.Forall₂.flip (related.imp fun _ _ h => h.2.2.1))

/-! ### Agreement -/

/-- The reader finds an empty record: a line of the bytes is empty. -/
def HasEmptyLine (bytes : List UInt8) : Prop :=
  ∃ text, Lines.decode bytes = some text ∧ [] ∈ (Csv.records false text).1

/-- The adapter returns the rows and the digests of the gate. -/
structure SameReading (check : SubmissionCheck S) (rows : List (String → Option (Value S))) (gate : OutputCheck) :
    Prop where
  rows : rows = check.rows.map SubmissionRow.values
  rowIdentity : check.orderedRowIdentitySha256 = gate.orderedRowIdentitySha256
  prediction : check.orderedPredictionSha256 = gate.orderedPredictionSha256

/-- The scores of the adapter's rows are those of the gate. -/
lemma numericScores_values {rows : List (SubmissionRow S)} :
    numericScores (outputContract S expected limit fraction) (rows.map SubmissionRow.values) =
      some (rows.map SubmissionRow.score) := by
  have numbers : (rows.map SubmissionRow.values).filterMap
      (fun row => (row (outputContract S expected limit fraction).scoreColumn).filter Value.isNumber) =
        rows.map fun row => Value.float row.score := by
    rw [List.filterMap_map]
    exact congrFun (List.filterMap_eq_map (f := fun row : SubmissionRow S => Value.float row.score)) rows
  rw [numericScores, numbers]
  apply mapM_eq_some_of_forall₂
  rw [List.forall₂_map_left_iff, List.forall₂_map_right_iff, List.forall₂_same]
  intro row _
  rfl

/-- What the digests take of a row. -/
def SubmissionRow.entry (row : SubmissionRow S) : Entry S :=
  ⟨row.rowId.toNat, .str row.userId, .str row.itemId, .float row.score, row.score⟩

section Rows
variable {rows : List (SubmissionRow S)}

/-- A row id is not negative. -/
lemma rowId_toNat (ids : rows.map SubmissionRow.rowId = (List.range rows.length).map (fun n : Nat => (n : Int)))
    {row : SubmissionRow S} (mem : row ∈ rows) : ((row.rowId.toNat : Nat) : Int) = row.rowId := by
  have listed := List.mem_map_of_mem (f := SubmissionRow.rowId) mem
  rw [ids] at listed
  obtain ⟨n, -, same⟩ := List.mem_map.mp listed
  rw [← same, Int.toNat_natCast]

lemma entries_indexed
    (ids : rows.map SubmissionRow.rowId = (List.range rows.length).map (fun n : Nat => (n : Int))) :
    (rows.map SubmissionRow.entry).map Entry.index = List.range (rows.map SubmissionRow.entry).length := by
  have naturals := congrArg (List.map Int.toNat) ids
  rw [List.map_map, List.map_map] at naturals
  rw [List.map_map, List.length_map]
  refine naturals.trans ?_
  rw [show (Int.toNat ∘ fun n : Nat => (n : Int)) = id from funext fun n => Int.toNat_natCast n, List.map_id]

lemma entries_read
    (ids : rows.map SubmissionRow.rowId = (List.range rows.length).map (fun n : Nat => (n : Int)))
    (finite : ∀ row ∈ rows, PythonNumbers.isFinite row.score = true) :
    List.Forall₂ (fun row entry =>
        Entry.Reads (outputContract S expected limit fraction) "row_id" "user_id" "video_id" entry row)
      (rows.map SubmissionRow.values) (rows.map SubmissionRow.entry) := by
  rw [List.forall₂_map_left_iff, List.forall₂_map_right_iff, List.forall₂_same]
  intro row mem
  refine ⟨?_, rfl, rfl, rfl, rfl, finite row mem⟩
  show some (Value.int row.rowId) = some (.int (row.rowId.toNat : Nat))
  rw [rowId_toNat ids mem]

/-- The digests of the adapter. -/
lemma submission_digests (sha256 : List UInt8 → String) (some_rows : rows ≠ [])
    (ids : rows.map SubmissionRow.rowId = (List.range rows.length).map (fun n : Nat => (n : Int)))
    (finite : ∀ row ∈ rows, PythonNumbers.isFinite row.score = true) :
    orderedRowIdentitySha256 sha256 (rows.map fun row => .int row.rowId) (rows.map fun row => .str row.userId)
        (rows.map fun row => (.str row.itemId : Value S)) =
      .ok (sha256 (recordBytes ((rows.map SubmissionRow.entry).map Entry.identity))) ∧
    orderedPredictionSha256 sha256 (rows.map fun row => .int row.rowId) (rows.map fun row => .str row.userId)
        (rows.map fun row => .str row.itemId) (rows.map fun row => .float row.score) =
      .ok (sha256 (recordBytes ((rows.map SubmissionRow.entry).map Entry.prediction))) := by
  have numbers : (rows.map SubmissionRow.entry).map (fun entry => (.int entry.index : Value S)) =
      rows.map fun row => .int row.rowId := by
    rw [List.map_map]
    apply List.map_congr_left
    intro row mem
    exact congrArg Value.int (rowId_toNat ids mem)
  have nonempty : rows.map SubmissionRow.entry ≠ [] := by simpa using some_rows
  have scored : ∀ entry ∈ rows.map SubmissionRow.entry, entry.score.toFloat = some entry.numeric ∧
      PythonNumbers.isFinite entry.numeric = true := by
    intro entry mem
    obtain ⟨row, listed, rfl⟩ := List.mem_map.mp mem
    exact ⟨rfl, finite row listed⟩
  have identity := orderedRowIdentitySha256_entries sha256 nonempty (entries_indexed ids)
  have prediction := orderedPredictionSha256_entries sha256 nonempty (entries_indexed ids) scored
  rw [numbers] at identity prediction
  simp only [List.map_map] at identity prediction ⊢
  exact ⟨identity, prediction⟩

end Rows

lemma defaultUniqueFraction_valid : 0 ≤ defaultUniqueFraction ∧ defaultUniqueFraction ≤ 1 := by
  decide +kernel

/-- The adapter on a text with the right header. -/
lemma validateSubmission_ok {text : List Char} {records : List (List String)} {check : SubmissionCheck S}
    (decoded : Lines.decode bytes = some text)
    (read : Csv.records false text = (submissionHeader :: records, none)) :
    validateSubmission S sha256 bytes expected = .ok check ↔
      ∃ rows : List (SubmissionRow S),
        records.zipIdx.mapM (fun entry => parseRecord (S := S) expected entry.1 entry.2) = .ok rows ∧
        rows.length = expected.length ∧ rows ≠ [] ∧
        ¬ PythonNumbers.quotient S (distinctScores (rows.map SubmissionRow.score)) rows.length <
          defaultUniqueFraction ∧
        ∃ rowIdentity predictionIdentity,
          orderedRowIdentitySha256 sha256 (rows.map fun row => .int row.rowId)
            (rows.map fun row => .str row.userId) (rows.map fun row => (.str row.itemId : Value S)) =
              .ok rowIdentity ∧
          orderedPredictionSha256 sha256 (rows.map fun row => .int row.rowId)
            (rows.map fun row => .str row.userId) (rows.map fun row => .str row.itemId)
            (rows.map fun row => .float row.score) = .ok predictionIdentity ∧
          check = ⟨rows, distinctScores (rows.map SubmissionRow.score),
            PythonNumbers.quotient S (distinctScores (rows.map SubmissionRow.score)) rows.length,
            sha256 bytes, rowIdentity, predictionIdentity⟩ := by
  rw [validateSubmission, check_bind_eq_ok, ensure_eq_ok, decoded]
  simp only [defaultUniqueFraction_valid, and_self, true_and, Option.elim_some, ok_bind, read]
  rw [check_bind_eq_ok, check_bind_eq_ok, bind_eq_ok]
  simp only [List.head?_cons, Option.getD_some, List.tail_cons, ensure_eq_ok, true_and, reduceCtorEq, if_false,
    Option.elim_none]
  refine exists_congr fun rows => and_congr_right fun _ => ?_
  rw [check_bind_eq_ok, check_bind_eq_ok, check_bind_eq_ok, check_bind_eq_ok, ensure_eq_ok, ensure_eq_ok,
    ensure_eq_ok, bind_eq_ok]
  simp only [bind_eq_ok, mapError_ok, pure_eq_ok, true_and]
  refine and_congr_right fun _ => and_congr_right fun _ => and_congr_right fun _ => exists_congr fun _ => ?_
  rw [← exists_and_left]
  exact exists_congr fun _ => and_congr_right fun _ => and_congr_right fun _ => eq_comm

/-- What the gate has accepted, the adapter accepts with the same reading, except when a line is empty or
the scores have fewer distinct values than the adapter wants. -/
theorem readers_agree (nonempty : expected ≠ [])
    (checked : checkPrediction sha256 (outputContract S expected limit fraction) path found (some bytes) =
      some gate)
    (accepted : gate.accepted = true) :
    (∃ check, validateSubmission S sha256 bytes expected = .ok check ∧
      SameReading check (convertedRows (outputContract S expected limit fraction) (some bytes)) gate) ↔
      ¬ HasEmptyLine bytes ∧ ∀ scores,
        numericScores (outputContract S expected limit fraction)
            (convertedRows (outputContract S expected limit fraction) (some bytes)) = some scores →
          defaultUniqueFraction ≤ PythonNumbers.quotient S (distinctScores scores) expected.length := by
  have silent : gate.findings = [] := by
    obtain ⟨numeric, -, same⟩ := Option.bind_eq_some_iff.mp checked
    obtain rfl := Option.some.inj same
    exact List.isEmpty_iff.mp accepted
  obtain ⟨text, records, numeric, decoded, read, conforms, scored⟩ := checkPrediction_conforms checked silent
  obtain ⟨rows, parsed, length, converted, ids, finite⟩ := conforms.submissionRows
  have hashes := checkPrediction_hashes checked
  have lenient := Csv.records_lenient read
  rw [converted] at scored hashes ⊢
  have some_rows : rows ≠ [] := by
    rintro rfl
    exact nonempty (List.length_eq_zero_iff.mp length.symm)
  have empty_line : HasEmptyLine bytes ↔ [] ∈ records := by
    unfold HasEmptyLine
    have first : ([] : List String) ≠ (outputContract S expected limit fraction).header := by
      intro same
      cases same
    simp [decoded, lenient, first]
  rw [empty_line, numericScores_values]
  simp only [Option.some.injEq, forall_eq']
  rw [← length]
  constructor
  · rintro ⟨check, ok, -⟩
    obtain ⟨rows', parsed', -, -, diverse, -⟩ := (validateSubmission_ok decoded lenient).mp ok
    have full : [] ∉ records := by
      intro mem
      rw [← List.zipIdx_map_fst 0 records] at mem
      obtain ⟨⟨record, index⟩, listed, rfl⟩ := List.mem_map.mp mem
      -- the adapter counts the fields of an empty record too
      have each := (mapM_eq_ok.mp parsed').imp fun entry _ h =>
        (⟨_, h⟩ : ∃ row, parseRecord expected entry.1 entry.2 = .ok row)
      obtain ⟨row, refused⟩ := forall_left_of_forall₂ each _ listed
      cases refused
    have kept : records.filter (· ≠ []) = records :=
      List.filter_eq_self.mpr fun record mem => decide_eq_true fun empty => full (empty ▸ mem)
    rw [kept, parsed', Except.ok.injEq] at parsed
    subst parsed
    exact ⟨full, not_lt.mp diverse⟩
  · rintro ⟨full, diverse⟩
    have kept : records.filter (· ≠ []) = records :=
      List.filter_eq_self.mpr fun record mem => decide_eq_true fun empty => full (empty ▸ mem)
    rw [kept] at parsed
    obtain ⟨identity, prediction⟩ := submission_digests sha256 some_rows ids finite
    rw [orderedOutputHashes_entries rfl rfl (by simpa using some_rows) (entries_indexed ids)
      (entries_read ids finite)] at hashes
    exact ⟨_, (validateSubmission_ok decoded lenient).mpr
        ⟨rows, parsed, length, some_rows, not_lt.mpr diverse, _, _, identity, prediction, rfl⟩,
      rfl, (congrArg Prod.fst hashes).symm, (congrArg Prod.snd hashes).symm⟩

end Agreement

/-! ### Two rows -/

section Runs

/-- The live contract that no score may fill more than half of the rows. -/
def spreadScores : OutputContract ℚ := outputContract ℚ twoRows (1 / 2) (by decide +kernel)

theorem readers_agree_plain : ∃ gate check,
    validateSubmission ℚ (fun _ => "digest") (prediction "0,u,v,0.5\n1,w,x,0.25\n") twoRows = .ok check ∧
      SameReading check (convertedRows spreadScores (some (prediction "0,u,v,0.5\n1,w,x,0.25\n"))) gate := by
  have run : (checkPrediction (fun _ => "digest") spreadScores "predictions.csv" []
      (some (prediction "0,u,v,0.5\n1,w,x,0.25\n"))).map OutputCheck.accepted = some true := by
    decide +kernel
  obtain ⟨gate, checked, accepted⟩ := Option.map_eq_some_iff.mp run
  have decoded : Lines.decode (prediction "0,u,v,0.5\n1,w,x,0.25\n") = some
      "row_id,user_id,video_id,score\n0,u,v,0.5\n1,w,x,0.25\n".toList := Lines.decode_encode
  refine ⟨gate, (readers_agree (by decide) checked accepted).mpr ⟨?_, fun scores scored => ?_⟩⟩
  · rintro ⟨text, read, empty⟩
    rw [decoded, Option.some.injEq] at read
    subst read
    exact absurd empty (by decide +kernel)
  · have all : numericScores spreadScores
        (convertedRows spreadScores (some (prediction "0,u,v,0.5\n1,w,x,0.25\n"))) = some [1 / 2, 1 / 4] := by
      decide +kernel
    obtain rfl := Option.some.inj (scored.symm.trans all)
    decide +kernel

/-- With an empty line between the rows the gate accepts and the adapter raises. -/
theorem empty_line_accepted :
    (checkPrediction (fun _ => "digest") spreadScores "predictions.csv" []
        (some (prediction "0,u,v,0.5\n\n1,w,x,0.25\n"))).map OutputCheck.accepted = some true ∧
      (validateSubmission ℚ (fun _ => "digest") (prediction "0,u,v,0.5\n\n1,w,x,0.25\n")
        twoRows).toOption.isNone = true := by
  decide +kernel

end Runs
end TacoRank.Safety
