import TacoRank.Lib.Ranking

/-!
# Loops over tied rows

A loop over rows that looks for the last row tied with the current one, treats these rows together and goes
on behind them. It treats the runs of tied rows in their order (`tieLoop_eq`). Over sorted rows it is one
pass over the rows, in which every row is treated once with the number of lower rows and the number of tied
ones (`tieLoop_pass`).
-/

namespace Lib.Ranking
variable {α σ : Type}

section Loop
variable (tied : α → α → Bool) (rows : List α)

/-- The inner loop: the last row from `last` on up to which all rows are tied with the first one. -/
def tieEnd (first : α) (last : Nat) : Nat :=
  if next : last + 1 < rows.length then
    if tied rows[last + 1] first then tieEnd first (last + 1) else last
  else last
termination_by rows.length - last

lemma le_tieEnd (first : α) (last : Nat) : last ≤ tieEnd tied rows first last := by
  fun_induction tieEnd tied rows first last with
  | case1 last next same ih => exact (Nat.le_succ last).trans ih
  | case2 last next differs => exact le_rfl
  | case3 last done => exact le_rfl

/-- The outer loop, from a position on. -/
def tieLoop (assign : σ → Nat → Nat → σ) (index : Nat) (state : σ) : σ :=
  if inside : index < rows.length then
    let last := tieEnd tied rows rows[index] index
    tieLoop assign (last + 1) (assign state index last)
  else state
termination_by rows.length - index
decreasing_by
  have := le_tieEnd tied rows rows[index] index
  omega

end Loop

/-- The loop over the runs of tied rows, with `index` rows before them. -/
def runLoop (assign : σ → Nat → Nat → σ) (index : Nat) (state : σ) : List (List α) → σ
  | [] => state
  | run :: rest => runLoop assign (index + run.length) (assign state index (index + run.length - 1)) rest

section Runs
variable {tied : α → α → Bool} {pre run rest : List α} {first : α}

/-- Inside of a run the inner loop goes to its end. -/
lemma tieEnd_run (same : ∀ a ∈ run, tied a first = true) (apart : ∀ a ∈ rest.head?, tied a first = false)
    {last : Nat} (low : pre.length ≤ last) (high : last < pre.length + run.length) :
    tieEnd tied (pre ++ (run ++ rest)) first last = pre.length + run.length - 1 := by
  obtain ⟨left, total⟩ : ∃ left, last + left + 1 = pre.length + run.length :=
    ⟨pre.length + run.length - last - 1, by omega⟩
  induction left generalizing last with
  | zero =>
    rw [tieEnd]
    split
    next next =>
      have here : rest.head? = some (pre ++ (run ++ rest))[last + 1] := by
        rw [← List.getElem?_eq_getElem, List.getElem?_append_right (by omega), List.getElem?_append_right (by omega),
          List.head?_eq_getElem?]
        congr 1
        omega
      rw [apart _ here, if_neg Bool.false_ne_true]
      omega
    next => omega
  | succ left ih =>
    have next : last + 1 < (pre ++ (run ++ rest)).length := by
      rw [List.length_append, List.length_append]
      omega
    have here : (pre ++ (run ++ rest))[last + 1] ∈ run := by
      rw [List.getElem_append_right (by omega), List.getElem_append_left (by omega)]
      exact List.getElem_mem _
    rw [tieEnd, dif_pos next, if_pos (same _ here)]
    exact ih (by omega) (by omega) (by omega)

/-- Runs of tied rows none of which could be joined to the next one. -/
structure Runs (tied : α → α → Bool) (runs : List (List α)) : Prop where
  filled : [] ∉ runs
  same : ∀ run ∈ runs, ∀ a ∈ run, ∀ b ∈ run, tied a b = true
  apart : runs.IsChain fun run run' => ∀ a ∈ run, ∀ b ∈ run'.head?, tied b a = false

/-- The loop treats the runs in their order. -/
theorem tieLoop_runs {runs : List (List α)} (separated : Runs tied runs) (assign : σ → Nat → Nat → σ) (pre : List α)
    (state : σ) : tieLoop tied (pre ++ runs.flatten) assign pre.length state = runLoop assign pre.length state runs := by
  induction runs generalizing pre state with
  | nil =>
    rw [tieLoop, dif_neg (by simp)]
    rfl
  | cons run rest ih =>
    obtain ⟨filled, same, apart⟩ := separated
    obtain ⟨nonempty, filled'⟩ := not_or.mp fun either => filled (List.mem_cons.mpr either)
    have positive : 0 < run.length := List.length_pos_iff.mpr (Ne.symm nonempty)
    have inside : pre.length < (pre ++ (run ++ rest.flatten)).length := by
      rw [List.length_append, List.length_append]
      omega
    have first : (pre ++ (run ++ rest.flatten))[pre.length] = run[0] := by
      rw [List.getElem_append_right le_rfl, List.getElem_append_left (by omega)]
      congr 1
      omega
    have behind : ∀ a ∈ rest.flatten.head?, tied a run[0] = false := by
      cases rest with
      | nil => simp
      | cons next others =>
        have nonempty' : next ≠ [] := fun empty => filled' (empty ▸ List.mem_cons_self)
        obtain ⟨head, tail, rfl⟩ := List.exists_cons_of_ne_nil nonempty'
        exact (List.isChain_cons_cons.mp apart).1 _ (List.getElem_mem _)
    have tail : Runs tied rest := ⟨filled', fun run mem => same run (List.mem_cons_of_mem _ mem), apart.tail⟩
    rw [List.flatten_cons, tieLoop, dif_pos inside, first]
    dsimp only
    rw [tieEnd_run (fun a mem => same run List.mem_cons_self a mem _ (List.getElem_mem _)) behind le_rfl (by omega),
      runLoop, show pre.length + run.length - 1 + 1 = (pre ++ run).length by rw [List.length_append]; omega,
      ← List.append_assoc, ih tail, List.length_append]

end Runs

section Keys
variable {κ : Type} [LinearOrder κ] {key : α → κ} {run : List α} {rest : List (List α)}

/-- Tiers are runs of tied rows. -/
lemma Tiers.separated {runs : List (List α)} (tiers : Tiers key runs) (filled : [] ∉ runs) :
    Runs (fun a b => key a = key b) runs := by
  refine ⟨filled, fun run mem a left b right => decide_eq_true (tiers.equal run mem a left b right), ?_⟩
  refine tiers.increasing.isChain.imp fun run run' below a left b right => ?_
  exact decide_eq_false (below a left b (List.mem_of_mem_head? right)).ne'

/-- The runs of equal rows of a sorted list are what the loop treats. -/
theorem tieLoop_eq {rows : List α} (sorted : rows.Pairwise fun a b => key a ≤ key b) (assign : σ → Nat → Nat → σ)
    (state : σ) : tieLoop (fun a b => key a = key b) rows assign 0 state =
      runLoop assign 0 state (rows.splitBy fun a b => key a = key b) := by
  have whole := List.flatten_splitBy (fun a b => decide (key a = key b)) rows
  have separated := (tiers_splitBy sorted).separated (List.nil_notMem_splitBy _ rows)
  have looped := tieLoop_runs separated assign [] state
  rwa [whole] at looped

/-- The rows of lower keys. -/
def lower (key : α → κ) (rows : List α) (row : α) : Nat := rows.countP fun other => key other < key row

/-- The rows of the same key. -/
def level (key : α → κ) (rows : List α) (row : α) : Nat := rows.countP fun other => key other = key row

lemma Tiers.tail (tiers : Tiers key (run :: rest)) : Tiers key rest :=
  ⟨fun run' mem => tiers.equal run' (List.mem_cons_of_mem _ mem), (List.pairwise_cons.mp tiers.increasing).2⟩

lemma Tiers.below (tiers : Tiers key (run :: rest)) {a b : α} (left : a ∈ run) (right : b ∈ rest.flatten) :
    key a < key b := by
  obtain ⟨run', listed, inside⟩ := List.mem_flatten.mp right
  exact (List.pairwise_cons.mp tiers.increasing).1 run' listed a left b inside

/-- No row is below the first run. -/
lemma Tiers.lower_head (tiers : Tiers key (run :: rest)) {row : α} (mem : row ∈ run) :
    lower key (run :: rest).flatten row = 0 := by
  refine List.countP_eq_zero.mpr fun other listed => ?_
  rw [List.flatten_cons, List.mem_append] at listed
  rcases listed with here | later
  · simp [tiers.equal run List.mem_cons_self other here row mem]
  · simpa using (tiers.below mem later).le

/-- The first run is a level. -/
lemma Tiers.level_head (tiers : Tiers key (run :: rest)) {row : α} (mem : row ∈ run) :
    level key (run :: rest).flatten row = run.length := by
  have here : run.countP (fun other => key other = key row) = run.length :=
    List.countP_eq_length.mpr fun other listed => by simp [tiers.equal run List.mem_cons_self other listed row mem]
  have later : rest.flatten.countP (fun other => key other = key row) = 0 :=
    List.countP_eq_zero.mpr fun other listed => by simpa using (tiers.below mem listed).ne'
  rw [level, List.flatten_cons, List.countP_append, here, later, Nat.add_zero]

/-- The first run is below the others. -/
lemma Tiers.lower_tail (tiers : Tiers key (run :: rest)) {row : α} (mem : row ∈ rest.flatten) :
    lower key (run :: rest).flatten row = run.length + lower key rest.flatten row := by
  have here : run.countP (fun other => key other < key row) = run.length :=
    List.countP_eq_length.mpr fun other listed => by simpa using tiers.below listed mem
  rw [lower, List.flatten_cons, List.countP_append, here, lower]

lemma Tiers.level_tail (tiers : Tiers key (run :: rest)) {row : α} (mem : row ∈ rest.flatten) :
    level key (run :: rest).flatten row = level key rest.flatten row := by
  have here : run.countP (fun other => key other = key row) = 0 :=
    List.countP_eq_zero.mpr fun other listed => by simpa using (tiers.below listed mem).ne
  rw [level, List.flatten_cons, List.countP_append, here, Nat.zero_add, level]

/-! ### One pass -/

variable {ρ : Type} (key) (average : Nat → Nat → ρ) (write : σ → Nat → ρ → σ)

/-- The rows of one run, one after the other, with what depends on the ends of the run. -/
def eachTied (state : σ) (index last : Nat) : σ :=
  (List.range' index (last + 1 - index)).foldl (fun state position => write state position (average index last)) state

/-- One row, with what depends on the lower rows and on those of its level. -/
def treat (index : Nat) (rows : List α) (state : σ) (row : α × Nat) : σ :=
  let first := index + lower key rows row.1
  write state row.2 (average first (first + level key rows row.1 - 1))

lemma runLoop_pass {runs : List (List α)} (tiers : Tiers key runs) (filled : [] ∉ runs) (index : Nat) (state : σ) :
    runLoop (eachTied average write) index state runs =
      (runs.flatten.zipIdx index).foldl (treat key average write index runs.flatten) state := by
  induction runs generalizing index state with
  | nil => rfl
  | cons run rest ih =>
    obtain ⟨nonempty, filled'⟩ := not_or.mp fun either => filled (List.mem_cons.mpr either)
    have positive : 0 < run.length := List.length_pos_iff.mpr (Ne.symm nonempty)
    have head : eachTied average write state index (index + run.length - 1) =
        (run.zipIdx index).foldl (treat key average write index (run :: rest).flatten) state := by
      rw [eachTied, show index + run.length - 1 + 1 - index = run.length by omega, ← List.zipIdx_map_snd index run,
        List.foldl_map]
      refine List.foldl_ext _ _ _ fun state row listed => ?_
      have mem : row.1 ∈ run := List.fst_mem_of_mem_zipIdx listed
      rw [treat, tiers.lower_head mem, tiers.level_head mem]
      rfl
    rw [runLoop, head, ih tiers.tail filled', List.flatten_cons, List.zipIdx_append, List.foldl_append]
    refine List.foldl_ext _ _ _ fun state row listed => ?_
    have mem : row.1 ∈ rest.flatten := List.fst_mem_of_mem_zipIdx listed
    rw [treat, treat, ← List.flatten_cons, tiers.lower_tail mem, tiers.level_tail mem, Nat.add_assoc]

/-- Over sorted rows the loop is one pass over them. -/
theorem tieLoop_pass {rows : List α} (sorted : rows.Pairwise fun a b => key a ≤ key b) (state : σ) :
    tieLoop (fun a b => key a = key b) rows (eachTied average write) 0 state =
      rows.zipIdx.foldl (treat key average write 0 rows) state := by
  have passed := runLoop_pass key average write (tiers_splitBy sorted) (List.nil_notMem_splitBy _ rows) 0 state
  rw [List.flatten_splitBy] at passed
  rw [tieLoop_eq sorted, passed]

end Keys
end Lib.Ranking
