import TacoRank.Safety.OutputGate
import Mathlib.Algebra.Order.Field.Basic
import Mathlib.Data.Nat.Cast.Order.Field

/-!
# Soundness of the output gate

A prediction without findings is the frozen population: `checkPrediction_conforms` collects what the passes
over the header, the cells, the row ids, the identities and the scores have checked, and `output_gate_sound`
adds that the digests of the gate are those of the evaluator.
-/

namespace TacoRank.Safety
open Lib Lib.Result

section Rows
set_option linter.unusedSectionVars false
variable {S : Type} [PythonNumbers S] {contract : OutputContract S}

/-! ### Cells -/

/-- The last of the pairs of a key counts; there is one. -/
lemma lookup_reverse_of_mem {α : Type} {entries : List (String × α)} {name : String} {value : α}
    (distinct : (entries.map Prod.fst).Nodup) (mem : (name, value) ∈ entries) :
    entries.reverse.lookup name = some value := by
  obtain ⟨before, after, rfl⟩ := List.append_of_mem mem
  rw [List.lookup_eq_some_iff]
  refine ⟨after.reverse, before.reverse, by simp, ?_⟩
  intro pair listed
  rw [List.map_append, List.map_cons, List.nodup_append, List.nodup_cons] at distinct
  have other : pair.1 ∈ after.map Prod.fst := List.mem_map_of_mem (List.mem_reverse.mp listed)
  have differ : name ≠ pair.1 := fun same => distinct.2.1.1 (same ▸ other)
  simpa using differ

lemma getElem?_dictRow {header record : List String} {i : Nat} :
    (dictRow header record).entries[i]? = header[i]?.map fun name => (name, record[i]?) := by
  induction header generalizing record i with
  | nil => simp [dictRow]
  | cons name header ih =>
    cases record with
    | nil =>
      show (List.map (fun name => (name, none)) (name :: header))[i]? = _
      rw [List.getElem?_map]
      rfl
    | cons field record =>
      cases i with
      | zero => simp [dictRow]
      | succ i => 
        have rest : (dictRow header record).entries[i]? = _ := ih
        simpa [dictRow] using rest

lemma dictRow_keys {header record : List String} : (dictRow header record).entries.map Prod.fst = header := by
  apply List.ext_getElem?
  intro i
  rw [List.getElem?_map, getElem?_dictRow, Option.map_map]
  exact Option.map_id'

/-- Every column has the field of its position. -/
lemma dictRow_get {header record : List String} {i : Nat} {name : String} (distinct : header.Nodup)
    (at_ : header[i]? = some name) : (dictRow header record).get name = record[i]? := by
  have entry : (name, record[i]?) ∈ (dictRow header record).entries := by
    apply List.mem_of_getElem? (i := i)
    rw [getElem?_dictRow, at_, Option.map_some]
  rw [DictRow.get, lookup_reverse_of_mem (dictRow_keys ▸ distinct) entry, Option.join_some]

/-- A record without missing and without surplus fields. -/
lemma dictRow_length {header record : List String} (distinct : header.Nodup)
    (fits : (dictRow header record).overflow = false)
    (complete : ∀ name ∈ header, ((dictRow header record).get name).isSome = true) :
    record.length = header.length := by
  have short : record.length ≤ header.length := by simpa [dictRow] using fits
  by_contra differ
  have missing : record.length < header.length := by omega
  have at_ := List.getElem?_eq_getElem missing
  have present := complete _ (List.mem_of_getElem? at_)
  rw [dictRow_get distinct at_, List.getElem?_eq_none le_rfl] at present
  cases present

/-- The value of a column of the contract. -/
lemma convertRow_column {row : DictRow} {column : OutputColumn} (mem : column ∈ contract.columns) :
    convertRow contract row column.name = columnValue (S := S) row column := by
  have found : contract.columns.find? (fun other => other.name = column.name) = some column := by
    rw [List.find?_eq_some_iff_append]
    obtain ⟨before, after, same⟩ := List.append_of_mem mem
    have distinct := contract.distinct
    rw [same, List.map_append, List.map_cons, List.nodup_append] at distinct
    refine ⟨decide_eq_true rfl, before, after, same, ?_⟩
    intro other listed
    have differ := distinct.2.2 other.name (List.mem_map_of_mem listed) column.name List.mem_cons_self
    simpa using differ
  rw [convertRow, found, Option.bind_some]

lemma conversionFindings_eq_nil {path : String} {rows : List DictRow}
    (h : conversionFindings contract path rows = []) :
    ∀ row ∈ rows, ∀ column ∈ contract.columns, (columnValue (S := S) row column).isSome = true := by
  intro row mem column listed
  rw [conversionFindings, List.flatMap_eq_nil_iff] at h
  obtain ⟨index, at_⟩ := List.getElem?_of_mem mem
  have first := h (row, index) (List.mem_zipIdx_iff_getElem?.mpr at_)
  rw [List.flatMap_eq_nil_iff] at first
  have second := first column listed
  rw [findingIf_eq_nil, Option.isNone_iff_eq_none] at second
  exact Option.isSome_iff_ne_none.mpr second

/-! ### Scores -/

/-- The row has a finite score. -/
def HasScore (contract : OutputContract S) (row : String → Option (Value S)) (score : S) : Prop :=
  ∃ value, row contract.scoreColumn = some value ∧ value.isNumber = true ∧ value.toFloat = some score ∧
    PythonNumbers.isFinite score = true

/-- One row more. -/
lemma numericScores_cons {row : String → Option (Value S)} {rows : List (String → Option (Value S))}
    {numeric : List S} (h : numericScores contract (row :: rows) = some numeric) :
    numericScores contract rows = some numeric ∨
      ∃ value score rest, row contract.scoreColumn = some value ∧ value.isNumber = true ∧
        value.toFloat = some score ∧ numericScores contract rows = some rest ∧ numeric = score :: rest := by
  unfold numericScores at h ⊢
  rw [List.filterMap_cons] at h
  cases number : (row contract.scoreColumn).filter Value.isNumber with
  | none =>
    rw [number] at h
    exact .inl h
  | some value =>
    rw [number] at h
    simp only [List.mapM_cons] at h
    obtain ⟨score, float, h⟩ := Option.bind_eq_some_iff.mp h
    obtain ⟨rest, others, h⟩ := Option.bind_eq_some_iff.mp h
    obtain ⟨found, isNumber⟩ := Option.filter_eq_some_iff.mp number
    exact .inr ⟨value, score, rest, found, isNumber, float, others, (Option.some.inj h).symm⟩

lemma numericScores_length {rows : List (String → Option (Value S))} {numeric : List S}
    (h : numericScores contract rows = some numeric) : numeric.length ≤ rows.length := by
  induction rows generalizing numeric with
  | nil =>
    cases h
    exact le_rfl
  | cons row rows ih =>
    rcases numericScores_cons h with same | ⟨value, score, rest, -, -, -, others, rfl⟩
    · exact (ih same).trans (Nat.le_succ _)
    · exact Nat.succ_le_succ (ih others)

/-- With as many finite scores as rows, every row has one. -/
lemma hasScore_of_length {rows : List (String → Option (Value S))} {numeric : List S}
    (h : numericScores contract rows = some numeric)
    (whole : (numeric.filter PythonNumbers.isFinite).length = rows.length) :
    numeric.filter PythonNumbers.isFinite = numeric ∧ List.Forall₂ (HasScore contract) rows numeric := by
  induction rows generalizing numeric with
  | nil =>
    cases h
    exact ⟨rfl, .nil⟩
  | cons row rows ih =>
    rw [List.length_cons] at whole
    have fewer := List.length_filter_le (PythonNumbers.isFinite (S := S)) numeric
    rcases numericScores_cons h with same | ⟨value, score, rest, found, isNumber, float, others, rfl⟩
    · have bound := numericScores_length same
      omega
    · have bound := numericScores_length others
      have fewer_rest := List.length_filter_le (PythonNumbers.isFinite (S := S)) rest
      cases finite : PythonNumbers.isFinite score with
      | false =>
        rw [List.filter_cons_of_neg (by simp [finite])] at whole
        omega
      | true =>
        rw [List.filter_cons_of_pos finite, List.length_cons] at whole
        obtain ⟨kept, all⟩ := ih others (Nat.succ.inj whole)
        rw [List.filter_cons_of_pos finite, kept]
        exact ⟨rfl, .cons ⟨value, found, isNumber, float, finite⟩ all⟩

/-- No value is more frequent than the most common one. -/
lemma count_le_mostCommonCount {scores : List S} {v : ℚ} (mem : v ∈ scores.map PythonNumbers.value) :
    (scores.map PythonNumbers.value).count v ≤ mostCommonCount scores := by
  have bounded : ∀ (counts : List Nat), ∀ n ∈ counts, n ≤ counts.foldr max 0 := by
    intro counts
    induction counts with
    | nil => simp
    | cons n counts ih =>
      intro m mem
      rcases List.mem_cons.mp mem with rfl | mem
      · exact le_max_left m _
      · exact (ih m mem).trans (le_max_right n _)
  exact bounded _ _ (List.mem_map_of_mem mem)

/-! ### Digests -/

/-- What the digests take of a row. -/
structure Entry (S : Type) where
  index : Nat
  userId : Value S
  itemId : Value S
  score : Value S
  numeric : S

/-- The entry is that of the row. -/
structure Entry.Reads (contract : OutputContract S) (rowId userId itemId : String) (entry : Entry S)
    (row : String → Option (Value S)) : Prop where
  rowId : row rowId = some (.int entry.index)
  userId : row userId = some entry.userId
  itemId : row itemId = some entry.itemId
  score : row contract.scoreColumn = some entry.score
  float : entry.score.toFloat = some entry.numeric
  finite : PythonNumbers.isFinite entry.numeric = true

/-- The values of a column. -/
def columnOf (rows : List (String → Option (Value S))) (name : String) : List (Value S) :=
  rows.filterMap fun row => row name

lemma columnOf_eq {rows : List (String → Option (Value S))} {entries : List (Entry S)} {name : String}
    {f : Entry S → Value S} (h : List.Forall₂ (fun row entry => row name = some (f entry)) rows entries) :
    columnOf rows name = entries.map f := by
  induction h with
  | nil => rfl
  | cons first _ ih => rw [columnOf, List.filterMap_cons, first, List.map_cons, ← ih, columnOf]

section Entries
variable {sha256 : List UInt8 → String} {rowId userId itemId : String} {entries : List (Entry S)}
  {rows : List (String → Option (Value S))}

lemma zipIdx_of_index (indexed : entries.map Entry.index = List.range entries.length) :
    entries.zipIdx = entries.map fun entry => (entry, entry.index) := by
  rw [List.zipIdx_eq_zip_range', ← List.range_eq_range', ← indexed]
  rw [← List.zip_map', List.map_id']

/-- The evaluator accepts the row ids. -/
lemma contiguousRowIds_entries (indexed : entries.map Entry.index = List.range entries.length) :
    contiguousRowIds (entries.map fun entry => (.int entry.index : Value S)) =
      .ok (entries.map fun entry => (entry.index : Int)) := by
  have numbered : (entries.map fun entry => (.int entry.index : Value S)).zipIdx =
      entries.map fun entry => ((.int entry.index : Value S), entry.index) := by
    rw [← List.map_zipIdx, zipIdx_of_index indexed, List.map_map]
    rfl
  rw [contiguousRowIds, numbered]
  exact mapM_map_ok fun entry _ => if_pos rfl

/-- The records of the row digest. -/
def Entry.identity (entry : Entry S) : Json Empty :=
  identityRecord entry.index entry.userId.text entry.itemId.text

/-- The records of the prediction digest. -/
def Entry.prediction (entry : Entry S) : Json Empty :=
  predictionRecord entry.index entry.userId.text entry.itemId.text (PythonNumbers.hex entry.numeric)

/-- The row digest of the evaluator. -/
lemma orderedRowIdentitySha256_entries (sha256 : List UInt8 → String) (nonempty : entries ≠ [])
    (indexed : entries.map Entry.index = List.range entries.length) :
    orderedRowIdentitySha256 sha256 (entries.map fun entry => .int entry.index) (entries.map Entry.userId)
        (entries.map Entry.itemId) =
      .ok (sha256 (recordBytes (entries.map Entry.identity))) := by
  rw [orderedRowIdentitySha256, check_bind_eq_ok, ensure_eq_ok, contiguousRowIds_entries indexed]
  refine ⟨by simpa using nonempty, ?_⟩
  rw [ok_bind, pure_eq_ok, List.zip_map', List.zip_map', List.map_map]
  rfl

/-- The prediction digest of the evaluator. -/
lemma orderedPredictionSha256_entries (sha256 : List UInt8 → String) (nonempty : entries ≠ [])
    (indexed : entries.map Entry.index = List.range entries.length)
    (scored : ∀ entry ∈ entries, entry.score.toFloat = some entry.numeric ∧
      PythonNumbers.isFinite entry.numeric = true) :
    orderedPredictionSha256 sha256 (entries.map fun entry => .int entry.index) (entries.map Entry.userId)
        (entries.map Entry.itemId) (entries.map Entry.score) =
      .ok (sha256 (recordBytes (entries.map Entry.prediction))) := by
  rw [orderedPredictionSha256, check_bind_eq_ok, ensure_eq_ok, contiguousRowIds_entries indexed]
  refine ⟨by simpa using nonempty, ?_⟩
  rw [ok_bind, List.zip_map', List.zip_map', List.zip_map', bind_eq_ok]
  refine ⟨_, mapM_map_ok (h := Entry.prediction) fun entry mem => ?_, rfl⟩
  obtain ⟨float, finite⟩ := scored entry mem
  simp only [scoredRecord, float, Option.elim_some, ok_bind, ensure, finite, if_true]
  rfl

/-- The digests of the gate. -/
lemma orderedOutputHashes_entries {fallback : List UInt8} (numbered : contract.rowIdColumn = some rowId)
    (identity : contract.identityColumns = [userId, itemId]) (nonempty : entries ≠ [])
    (indexed : entries.map Entry.index = List.range entries.length)
    (reads : List.Forall₂ (fun row entry => entry.Reads contract rowId userId itemId row) rows entries) :
    orderedOutputHashes sha256 contract rows fallback =
      (sha256 (recordBytes (entries.map Entry.identity)), sha256 (recordBytes (entries.map Entry.prediction))) := by
  have scored : ∀ entry ∈ entries, entry.score.toFloat = some entry.numeric ∧
      PythonNumbers.isFinite entry.numeric = true :=
    forall_left_of_forall₂ (List.Forall₂.flip (reads.imp fun _ _ h => ⟨h.float, h.finite⟩))
  have values : rows.mapM (hashedRow contract rowId userId itemId) =
      some (entries.map fun entry => (.int entry.index, entry.userId, entry.itemId, entry.score)) := by
    apply mapM_eq_some_of_forall₂
    rw [List.forall₂_map_right_iff]
    refine reads.imp fun row entry h => ?_
    rw [hashedRow, h.rowId, h.userId, h.itemId, h.score]
    rfl
  have indices : (entries.map fun entry =>
        ((.int entry.index, entry.userId, entry.itemId, entry.score) :
          Value S × Value S × Value S × Value S)).zipIdx =
      entries.map fun entry => ((.int entry.index, entry.userId, entry.itemId, entry.score), entry.index) := by
    rw [← List.map_zipIdx, zipIdx_of_index indexed, List.map_map]
    rfl
  have complete : (entries.map fun entry =>
        ((.int entry.index, entry.userId, entry.itemId, entry.score) :
          Value S × Value S × Value S × Value S)).zipIdx.mapM (fun row => hashedValues row.1 row.2) =
      some (entries.map fun entry =>
        ((entry.index : Int), entry.userId.text, entry.itemId.text, entry.numeric)) := by
    rw [indices]
    apply mapM_eq_some_of_forall₂
    rw [List.forall₂_map_left_iff, List.forall₂_map_right_iff, List.forall₂_same]
    intro entry mem
    obtain ⟨float, finite⟩ := scored entry mem
    simp [hashedValues, Value.isBool, Value.toInt, float, finite]
  rw [orderedOutputHashes, numbered, identity]
  dsimp only
  rw [values, Option.bind_some, complete]
  cases entries with
  | nil => exact absurd rfl nonempty
  | cons entry entries =>
    simp only [List.map_cons, List.map_map]
    rfl

end Entries

/-! ### Predictions without findings -/

/-- What the passes of the gate have checked of the records after the header, empty ones left out. -/
structure Conforms (contract : OutputContract S) (records : List (List String))
    (rows : List (String → Option (Value S))) (numeric : List S) : Prop where
  converted : rows = records.map fun record => convertRow contract (dictRow contract.header record)
  length : ∀ record ∈ records, record.length = contract.header.length
  cells : ∀ record ∈ records, ∀ column ∈ contract.columns,
    (columnValue (S := S) (dictRow contract.header record) column).isSome = true
  count : records.length = contract.expectedRows.length
  rowIds : ∀ name, contract.rowIdColumn = some name → contract.requireContiguousRowId = true →
    ∀ (index : Nat) row, rows[index]? = some row → sameValue (row name) (some (.int index)) = true
  identities : List.Forall₂ (fun row official =>
    sameIdentity (identityOf contract row) (identityOf contract official) = true) rows contract.expectedRows
  scores : List.Forall₂ (HasScore contract) rows numeric
  distinct : min contract.minimumUniqueScores rows.length ≤ distinctScores numeric
  concentrated : numeric ≠ [] → PythonNumbers.quotient S (mostCommonCount numeric) numeric.length ≤
    contract.maximumSingleScoreFraction

lemma tableFindings_eq_nil {path : String} {text : List Char}
    (h : tableFindings contract path (readDict text) = []) :
    ∃ records, Csv.records true text = (contract.header :: records, none) ∧
      readDict text = (contract.header, (records.filter (· ≠ [])).map (dictRow contract.header), none) ∧
      (∀ record ∈ records.filter (· ≠ []), (dictRow contract.header record).overflow = false) ∧
      (records.filter (· ≠ [])).length = contract.expectedRows.length := by
  simp only [tableFindings, List.append_eq_nil_iff, findingIf_eq_nil, not_not] at h
  obtain ⟨⟨⟨⟨readable, fits⟩, header⟩, -⟩, count⟩ := h
  have failure : (Csv.records true text).2 = none := by simpa [readDict] using readable
  have head : (Csv.records true text).1.head?.getD [] = contract.header := header
  have named : contract.header ≠ [] := List.ne_nil_of_mem contract.scored
  cases all : (Csv.records true text).1 with
  | nil =>
    rw [all] at head
    exact absurd head.symm named
  | cons first records =>
    rw [all] at head
    have same : first = contract.header := head
    have shape : Csv.records true text = (contract.header :: records, none) :=
      Prod.ext (same ▸ all) failure
    have dict : readDict text =
        (contract.header, (records.filter (· ≠ [])).map (dictRow contract.header), none) := by
      simp [readDict, shape]
    rw [dict] at fits count
    rw [List.length_map] at count
    refine ⟨records, shape, dict, fun record mem => ?_, count⟩
    simpa using fun over_ => fits (List.any_eq_true.mpr ⟨_, List.mem_map.mpr ⟨record, mem, rfl⟩, over_⟩)

lemma rowIdFindings_eq_nil {path name : String} {rows : List (String → Option (Value S))}
    (h : rowIdFindings contract path rows = []) (numbered : contract.rowIdColumn = some name)
    (contiguous : contract.requireContiguousRowId = true) (index : Nat) (row : String → Option (Value S))
    (at_ : rows[index]? = some row) : sameValue (row name) (some (.int index)) = true := by
  rw [rowIdFindings, numbered] at h
  dsimp only at h
  rw [findingIf_eq_nil, not_and, not_not] at h
  exact List.all_eq_true.mp (h contiguous) (row, index) (List.mem_zipIdx_iff_getElem?.mpr at_)

lemma identityFindings_eq_nil {path : String} {rows : List (String → Option (Value S))}
    (h : identityFindings contract path rows = []) :
    List.Forall₂ (fun row official =>
      sameIdentity (identityOf contract row) (identityOf contract official) = true)
      rows contract.expectedRows := by
  simp only [identityFindings, List.append_eq_nil_iff, findingIf_eq_nil, not_not, List.length_map,
    List.all_eq_true] at h
  obtain ⟨⟨count, same⟩, -⟩ := h
  rw [List.forall₂_iff_zip]
  refine ⟨count, ?_⟩
  intro row official mem
  apply same (identityOf contract row, identityOf contract official)
  rw [List.zip_map, List.mem_map]
  exact ⟨(row, official), mem, rfl⟩

variable {sha256 : List UInt8 → String} {path : String} {found : List PolicyViolation} {bytes : List UInt8}
  {check : OutputCheck}

lemma checkPrediction_conforms
    (checked : checkPrediction sha256 contract path found (some bytes) = some check)
    (silent : check.findings = []) :
    ∃ text records numeric, Lines.decode bytes = some text ∧
      Csv.records true text = (contract.header :: records, none) ∧
      Conforms contract (records.filter (· ≠ [])) (convertedRows contract (some bytes)) numeric ∧
      numericScores contract (convertedRows contract (some bytes)) = some numeric := by
  obtain ⟨numeric, scored, same⟩ := Option.bind_eq_some_iff.mp checked
  obtain rfl := Option.some.inj same
  simp only [List.append_eq_nil_iff] at silent
  obtain ⟨⟨⟨⟨⟨-, table⟩, cells⟩, ids⟩, identities⟩, scores⟩ := silent
  cases decoded : Lines.decode bytes with
  | none => simp [readTable, decoded, tableFindings] at table
  | some text =>
    have read : readTable (some bytes) = readDict text := by simp [readTable, decoded]
    rw [read] at table cells
    obtain ⟨records, shape, dict, fits, count⟩ := tableFindings_eq_nil table
    have rows : convertedRows contract (some bytes) =
        (records.filter (· ≠ [])).map fun record => convertRow contract (dictRow contract.header record) := by
      rw [convertedRows, read, dict, List.map_map]
      rfl
    have whole : ∀ record ∈ records.filter (· ≠ []), ∀ column ∈ contract.columns,
        (columnValue (S := S) (dictRow contract.header record) column).isSome = true := by
      rw [dict] at cells
      intro record mem
      exact conversionFindings_eq_nil cells _ (List.mem_map_of_mem mem)
    simp only [scoreFindings, List.append_eq_nil_iff, findingIf_eq_nil, List.map_eq_nil_iff, not_and,
      not_lt] at scores
    obtain ⟨⟨⟨finite, every⟩, diverse⟩, concentrated⟩ := scores
    obtain ⟨kept, each⟩ := hasScore_of_length scored (not_not.mp fun differ => every differ finite)
    rw [kept] at diverse concentrated
    refine ⟨text, records, numeric, rfl, shape, ?_, scored⟩
    refine ⟨rows, ?_, whole, count, fun name numbered contiguous => rowIdFindings_eq_nil ids numbered contiguous,
      identityFindings_eq_nil identities, each, ?_, concentrated⟩
    · intro record mem
      apply dictRow_length contract.distinct (fits record mem)
      intro name listed
      obtain ⟨column, column_mem, rfl⟩ := List.mem_map.mp listed
      obtain ⟨value, present⟩ := Option.isSome_iff_exists.mp (whole record mem column column_mem)
      obtain ⟨text, found, -⟩ := Option.bind_eq_some_iff.mp present
      exact Option.isSome_iff_exists.mpr ⟨text, found⟩
    · by_cases empty : numeric = []
      · have none_left := each.length_eq
        rw [empty, List.length_nil] at none_left
        rw [none_left, Nat.min_zero]
        exact Nat.zero_le _
      · exact diverse empty

/-- The digests of the gate. -/
lemma checkPrediction_hashes (checked : checkPrediction sha256 contract path found (some bytes) = some check) :
    (check.orderedRowIdentitySha256, check.orderedPredictionSha256) =
      orderedOutputHashes sha256 contract (convertedRows contract (some bytes)) bytes := by
  obtain ⟨numeric, -, same⟩ := Option.bind_eq_some_iff.mp checked
  obtain rfl := Option.some.inj same
  rfl

section Conforming
variable {records : List (List String)} {rows : List (String → Option (Value S))} {numeric : List S}

/-- Every column of a row has a value. -/
lemma Conforms.present (conforms : Conforms contract records rows numeric) {row : String → Option (Value S)}
    (mem : row ∈ rows) {column : OutputColumn} (listed : column ∈ contract.columns) :
    ∃ text value, convertValue column.kind text = some value ∧ row column.name = some value := by
  rw [conforms.converted] at mem
  obtain ⟨record, record_mem, rfl⟩ := List.mem_map.mp mem
  obtain ⟨value, found⟩ := Option.isSome_iff_exists.mp (conforms.cells record record_mem column listed)
  obtain ⟨text, -, converted⟩ := Option.bind_eq_some_iff.mp found
  exact ⟨text, value, converted, (convertRow_column listed).trans found⟩

lemma Conforms.present_name (conforms : Conforms contract records rows numeric)
    {row : String → Option (Value S)} (mem : row ∈ rows) {name : String} (listed : name ∈ contract.header) :
    ∃ value, row name = some value := by
  obtain ⟨column, column_mem, rfl⟩ := List.mem_map.mp listed
  obtain ⟨-, value, -, found⟩ := conforms.present mem column_mem
  exact ⟨value, found⟩

/-- A row id is its position. -/
lemma Conforms.rowId (conforms : Conforms contract records rows numeric) {rowId : String}
    (numbered : contract.rowIdColumn = some rowId) (integer : ⟨rowId, .integer⟩ ∈ contract.columns)
    (contiguous : contract.requireContiguousRowId = true) {index : Nat} {row : String → Option (Value S)}
    (at_ : rows[index]? = some row) : row rowId = some (.int index) := by
  obtain ⟨text, value, converted, found⟩ := conforms.present (List.mem_of_getElem? at_) integer
  have same := conforms.rowIds rowId numbered contiguous index row at_
  have whole : ∃ n, value = .int n := by
    simp only [convertValue] at converted
    split_ifs at converted
    obtain ⟨n, -, made⟩ := Option.map_eq_some_iff.mp converted
    exact ⟨n, made.symm⟩
  obtain ⟨n, rfl⟩ := whole
  rw [found] at same ⊢
  have equal : n = (index : Int) := by simpa [sameValue, Value.same] using same
  rw [equal]

/-- The entries of the rows. -/
lemma Conforms.entries (conforms : Conforms contract records rows numeric) {rowId userId itemId : String}
    (numbered : contract.rowIdColumn = some rowId) (integer : ⟨rowId, .integer⟩ ∈ contract.columns)
    (contiguous : contract.requireContiguousRowId = true)
    (identity : contract.identityColumns = [userId, itemId]) :
    ∃ entries : List (Entry S), entries.map Entry.index = List.range entries.length ∧
      List.Forall₂ (fun row entry => entry.Reads contract rowId userId itemId row) rows entries := by
  have each : ∀ place ∈ rows.zipIdx, ∃ entry : Entry S,
      entry.index = place.2 ∧ entry.Reads contract rowId userId itemId place.1 := by
    rintro ⟨row, index⟩ place
    have at_ := List.mem_zipIdx_iff_getElem?.mp place
    have mem := List.mem_of_getElem? at_
    obtain ⟨user, hasUser⟩ := conforms.present_name mem (contract.identified userId (by simp [identity]))
    obtain ⟨item, hasItem⟩ := conforms.present_name mem (contract.identified itemId (by simp [identity]))
    have scores : ∀ row ∈ rows, ∃ score, HasScore contract row score :=
      forall_left_of_forall₂ (conforms.scores.imp fun row score h => ⟨score, h⟩)
    obtain ⟨numeric, score, hasScore, -, float, finite⟩ := scores row mem
    exact ⟨⟨index, user, item, score, numeric⟩, rfl,
      conforms.rowId numbered integer contiguous at_, hasUser, hasItem, hasScore, float, finite⟩
  obtain ⟨entries, related⟩ := exists_forall₂ each
  have length : entries.length = rows.length := by
    rw [← related.length_eq, List.length_zipIdx]
  refine ⟨entries, ?_, ?_⟩
  · rw [← map_eq_map_of_forall₂ (f := Prod.snd) (related.imp fun _ _ h => h.1.symm), List.zipIdx_map_snd,
      length, List.range_eq_range']
  · have reads := related.imp fun _ _ h => h.2
    rw [← List.zipIdx_map_fst 0 rows, List.forall₂_map_left_iff]
    exact reads

end Conforming

/-! ### Soundness -/

/-- The rows are the frozen population, and the digests are those of the evaluator. -/
structure Sound (sha256 : List UInt8 → String) (contract : OutputContract S) (rowId userId itemId : String)
    (bytes : List UInt8) (rows : List (String → Option (Value S))) (scores : List S) (check : OutputCheck) :
    Prop where
  parsed : ∃ text records, Lines.decode bytes = some text ∧
    Csv.records true text = (contract.header :: records, none) ∧
    List.Forall₂ (fun record row => record.length = contract.columns.length ∧
      ∀ (i : Nat) column, contract.columns[i]? = some column →
        ∃ field value, record[i]? = some field ∧ convertValue column.kind field = some value ∧
          row column.name = some value) (records.filter (· ≠ [])) rows
  count : rows.length = contract.expectedRows.length
  rowIds : columnOf rows rowId = (List.range rows.length).map fun n : Nat => .int n
  identities : List.Forall₂ (fun row official =>
    sameIdentity (identityOf contract row) (identityOf contract official) = true) rows contract.expectedRows
  scored : List.Forall₂ (HasScore contract) rows scores
  distinct : min contract.minimumUniqueScores rows.length ≤ distinctScores scores
  concentration : ∀ score ∈ scores, PythonNumbers.quotient S
    ((scores.map PythonNumbers.value).count (PythonNumbers.value score)) rows.length ≤
      contract.maximumSingleScoreFraction
  rowIdentity : contract.expectedRows ≠ [] →
    orderedRowIdentitySha256 sha256 (columnOf rows rowId) (columnOf rows userId) (columnOf rows itemId) =
      .ok check.orderedRowIdentitySha256
  prediction : contract.expectedRows ≠ [] →
    orderedPredictionSha256 sha256 (columnOf rows rowId) (columnOf rows userId) (columnOf rows itemId)
      (columnOf rows contract.scoreColumn) = .ok check.orderedPredictionSha256

theorem output_gate_sound {rowId userId itemId : String} (numbered : contract.rowIdColumn = some rowId)
    (integer : ⟨rowId, .integer⟩ ∈ contract.columns) (contiguous : contract.requireContiguousRowId = true)
    (identity : contract.identityColumns = [userId, itemId])
    (checked : checkPrediction sha256 contract path found (some bytes) = some check)
    (silent : check.findings = []) :
    ∃ scores, Sound sha256 contract rowId userId itemId bytes (convertedRows contract (some bytes)) scores
      check := by
  obtain ⟨text, records, numeric, decoded, shape, conforms, -⟩ := checkPrediction_conforms checked silent
  obtain ⟨entries, indexed, reads⟩ := conforms.entries numbered integer contiguous identity
  have hashes := checkPrediction_hashes checked
  have ids := columnOf_eq (reads.imp fun _ _ h => h.rowId)
  have users := columnOf_eq (reads.imp fun _ _ h => h.userId)
  have items := columnOf_eq (reads.imp fun _ _ h => h.itemId)
  have scores := columnOf_eq (reads.imp fun _ _ h => h.score)
  have count : (convertedRows contract (some bytes)).length = contract.expectedRows.length :=
    conforms.identities.length_eq
  have some_entries (population : contract.expectedRows ≠ []) : entries ≠ [] := by
    rintro rfl
    rw [reads.length_eq] at count
    exact population (List.length_eq_zero_iff.mp count.symm)
  have scored : ∀ entry ∈ entries, entry.score.toFloat = some entry.numeric ∧
      PythonNumbers.isFinite entry.numeric = true :=
    forall_left_of_forall₂ (List.Forall₂.flip (reads.imp fun _ _ h => ⟨h.float, h.finite⟩))
  refine ⟨numeric, ?_⟩
  refine ⟨⟨text, records, decoded, shape, ?_⟩, count, ?_, conforms.identities, conforms.scores,
    conforms.distinct, ?_, fun population => ?_, fun population => ?_⟩
  · rw [conforms.converted, List.forall₂_map_right_iff, List.forall₂_same]
    intro record mem
    refine ⟨(conforms.length record mem).trans (List.length_map _), fun i column at_ => ?_⟩
    have listed := List.mem_of_getElem? at_
    obtain ⟨value, found⟩ := Option.isSome_iff_exists.mp (conforms.cells record mem column listed)
    obtain ⟨field, read, converted⟩ := Option.bind_eq_some_iff.mp found
    have name : contract.header[i]? = some column.name := by
      rw [OutputContract.header, List.getElem?_map, at_, Option.map_some]
    have cell := (dictRow_get contract.distinct name).symm.trans read
    exact ⟨field, value, cell, converted, (convertRow_column listed).trans found⟩
  · rw [ids, reads.length_eq, ← indexed, List.map_map]
    rfl
  · intro score mem
    have some_scores : numeric ≠ [] := List.ne_nil_of_mem mem
    have most := count_le_mostCommonCount (List.mem_map_of_mem (f := PythonNumbers.value) mem)
    rw [conforms.scores.length_eq]
    exact (PythonNumbers.quotient_mono most).trans (conforms.concentrated some_scores)
  · rw [orderedOutputHashes_entries numbered identity (some_entries population) indexed reads] at hashes
    rw [ids, users, items, orderedRowIdentitySha256_entries sha256 (some_entries population) indexed]
    exact congrArg (fun pair => Except.ok pair.1) hashes.symm
  · rw [orderedOutputHashes_entries numbered identity (some_entries population) indexed reads] at hashes
    rw [ids, users, items, scores, orderedPredictionSha256_entries sha256 (some_entries population) indexed scored]
    exact congrArg (fun pair => Except.ok pair.2) hashes.symm

end Rows

/-! ### Small populations -/

section Runs

/-- The scores 0.5 and 0.25, which floats represent exactly. -/
instance halves : PythonNumbers ℚ where
  digit _ := none
  float text := if text = "0.5" then some (1 / 2) else if text = "0.25" then some (1 / 4) else none
  ofInt n := some n
  truncate q := some (q.num.tdiv q.den)
  isFinite _ := true
  value q := q
  equal p q := p = q
  equalInt q n := q = n
  text q := if q = 1 / 2 then "0.5" else "0.25"
  hex q := if q = 1 / 2 then "0x1.0000000000000p-1" else "0x1.0000000000000p-2"
  quotient m n := m / n
  quotient_mono h := div_le_div_of_nonneg_right (Nat.cast_le.mpr h) (Nat.cast_nonneg _)
  percent q := if q = 1 then "100.00%" else "50.00%"
  sixDigits q := if q = 1 then "1.000000" else "0.500000"

/-- A prediction with the live header. -/
def prediction (rows : String) : List UInt8 :=
  Lines.encode ("row_id,user_id,video_id,score\n" ++ rows).toList

/-- The live contract of rows, of which all may have the same score. -/
def anyScores (rows : List PopulationRow) : OutputContract ℚ := outputContract ℚ rows 1 (by decide +kernel)

/-- A population of two rows. -/
def twoRows : List PopulationRow := [⟨0, "u", "v"⟩, ⟨1, "w", "x"⟩]

theorem output_gate_sound_two_rows : ∃ check scores,
    Sound (fun _ => "digest") (anyScores twoRows) "row_id" "user_id" "video_id"
      (prediction "0,u,v,0.5\n1,w,x,0.25\n")
      (convertedRows (anyScores twoRows) (some (prediction "0,u,v,0.5\n1,w,x,0.25\n"))) scores check := by
  have run : (checkPrediction (fun _ => "digest") (anyScores twoRows) "predictions.csv" []
      (some (prediction "0,u,v,0.5\n1,w,x,0.25\n"))).map OutputCheck.findings = some [] := by
    decide +kernel
  obtain ⟨check, checked, silent⟩ := Option.map_eq_some_iff.mp run
  exact ⟨check, output_gate_sound rfl (List.mem_cons_self ..) rfl rfl checked silent⟩

/-- One row has one distinct score where the contract wants two; of no rows the evaluator has no digests. -/
theorem small_populations_accepted :
    ((checkPrediction (fun _ => "digest") (anyScores [⟨0, "u", "v"⟩]) "predictions.csv" []
          (some (prediction "0,u,v,0.5\n"))).map OutputCheck.findings = some [] ∧
        (numericScores (anyScores [⟨0, "u", "v"⟩])
          (convertedRows (anyScores [⟨0, "u", "v"⟩]) (some (prediction "0,u,v,0.5\n")))).map distinctScores =
            some 1 ∧
        (anyScores [⟨0, "u", "v"⟩]).minimumUniqueScores = 2) ∧
      (checkPrediction (fun _ => "digest") (anyScores []) "predictions.csv" []
          (some (prediction ""))).map OutputCheck.findings = some [] ∧
        (orderedRowIdentitySha256 (fun _ => "digest")
          (columnOf (convertedRows (anyScores []) (some (prediction ""))) "row_id")
          (columnOf (convertedRows (anyScores []) (some (prediction ""))) "user_id")
          (columnOf (convertedRows (anyScores []) (some (prediction ""))) "video_id")).toOption = none := by
  decide +kernel

end Runs
end TacoRank.Safety
