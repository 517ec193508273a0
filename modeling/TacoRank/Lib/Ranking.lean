import Mathlib.Algebra.BigOperators.Group.List.Basic
import Mathlib.Algebra.Field.Basic
import Mathlib.Data.List.Perm.Basic
import Mathlib.Data.List.ProdSigma
import Mathlib.Data.List.SplitBy
import Mathlib.Data.Nat.Cast.Basic
import Mathlib.Order.Defs.LinearOrder
import Mathlib.Tactic.Ring
import Mathlib.Tactic.FieldSimp
import Mathlib.Algebra.Ring.CharZero
import Mathlib.Tactic.LinearCombination

/-!
# Rank sums

The statistic of Mann and Whitney counts the pairs of a positive and a negative item in which the
positive one is higher, and half of those in which they are tied. It is the rank sum of the positive
items, less the smallest possible one, when tied items share the average of their ranks
(`rankSum_tiers`). `Tiers` are the runs of equal items of a sorted list.
-/

namespace Lib.Ranking
variable {α κ R : Type} [LinearOrder κ]

/-- Pairs in which the first item is higher. -/
def wins (key : α → κ) (ps ns : List α) : Nat := (ps ×ˢ ns).countP fun p => key p.2 < key p.1

/-- Pairs of tied items. -/
def ties (key : α → κ) (ps ns : List α) : Nat := (ps ×ˢ ns).countP fun p => key p.1 = key p.2

/-- The statistic of Mann and Whitney. -/
def mannWhitney [Field R] (key : α → κ) (ps ns : List α) : R :=
  (wins key ps ns : R) + (ties key ps ns : R) / (2 : Nat)

/-- Runs of equal items, in increasing order. -/
structure Tiers (key : α → κ) (runs : List (List α)) : Prop where
  equal : ∀ run ∈ runs, ∀ a ∈ run, ∀ b ∈ run, key a = key b
  increasing : runs.Pairwise fun run run' => ∀ a ∈ run, ∀ b ∈ run', key a < key b

/-- The average of the ranks of a run with `index` items before it. -/
def averageRank [Field R] (index size : Nat) : R :=
  ((index : R) + (index + size - 1 : Nat)) / (2 : Nat) + 1

/-- The rank sum of the selected items of the runs, with `index` items before them. -/
def rankSum [Field R] (p : α → Bool) (index : Nat) : List (List α) → R
  | [] => 0
  | run :: rest => run.countP p * averageRank index run.length + rankSum p (index + run.length) rest

section Pairs
variable {key : α → κ} {ps ps' ns ns' : List α}

/-- Pairs are counted by their first items. -/
lemma countP_product (q : α × α → Bool) (ps ns : List α) :
    (ps ×ˢ ns).countP q = (ps.map fun a => ns.countP fun b => q (a, b)).sum := by
  induction ps with
  | nil => rfl
  | cons a ps ih =>
    rw [List.product_cons, List.countP_append, List.countP_map, ih]
    rfl

lemma countP_product_left (q : α × α → Bool) (ps ps' ns : List α) :
    ((ps ++ ps') ×ˢ ns).countP q = (ps ×ˢ ns).countP q + (ps' ×ˢ ns).countP q := by
  simp only [countP_product, List.map_append, List.sum_append]

lemma countP_product_right (q : α × α → Bool) (ps ns ns' : List α) :
    (ps ×ˢ (ns ++ ns')).countP q = (ps ×ˢ ns).countP q + (ps ×ˢ ns').countP q := by
  simp only [countP_product, List.countP_append]
  induction ps with
  | nil => rfl
  | cons a ps ih =>
    simp only [List.map_cons, List.sum_cons, ih]
    omega

/-- The statistic is the sum over the parts of the two samples. -/
lemma mannWhitney_left [Field R] :
    mannWhitney (R := R) key (ps ++ ps') ns = mannWhitney key ps ns + mannWhitney key ps' ns := by
  simp only [mannWhitney, wins, ties, countP_product_left, Nat.cast_add]
  ring

lemma mannWhitney_right [Field R] :
    mannWhitney (R := R) key ps (ns ++ ns') = mannWhitney key ps ns + mannWhitney key ps ns' := by
  simp only [mannWhitney, wins, ties, countP_product_right, Nat.cast_add]
  ring

/-- The order of the items is irrelevant. -/
lemma mannWhitney_perm [Field R] (positive : ps.Perm ps') (negative : ns.Perm ns') :
    mannWhitney (R := R) key ps ns = mannWhitney key ps' ns' := by
  have pairs : (ps ×ˢ ns).Perm (ps' ×ˢ ns') := positive.product negative
  rw [mannWhitney, mannWhitney, wins, wins, ties, ties, pairs.countP_eq, pairs.countP_eq]

/-- A sample above the other one wins all pairs. -/
lemma mannWhitney_above [Field R] (above : ∀ a ∈ ps, ∀ b ∈ ns, key b < key a) :
    mannWhitney (R := R) key ps ns = ps.length * ns.length := by
  have won : wins key ps ns = (ps ×ˢ ns).length := by
    rw [wins, List.countP_eq_length]
    intro p mem
    obtain ⟨left, right⟩ := List.mem_product.mp mem
    exact decide_eq_true (above _ left _ right)
  have untied : ties key ps ns = 0 := by
    rw [ties, List.countP_eq_zero]
    intro p mem
    obtain ⟨left, right⟩ := List.mem_product.mp mem
    simpa using (above _ left _ right).ne'
  rw [mannWhitney, won, untied, List.length_product]
  push_cast
  ring

/-- A sample below the other one wins no pair. -/
lemma mannWhitney_below [Field R] (below : ∀ a ∈ ps, ∀ b ∈ ns, key a < key b) :
    mannWhitney (R := R) key ps ns = 0 := by
  have lost : wins key ps ns = 0 := by
    rw [wins, List.countP_eq_zero]
    intro p mem
    obtain ⟨left, right⟩ := List.mem_product.mp mem
    simpa using (below _ left _ right).le
  have untied : ties key ps ns = 0 := by
    rw [ties, List.countP_eq_zero]
    intro p mem
    obtain ⟨left, right⟩ := List.mem_product.mp mem
    simpa using (below _ left _ right).ne
  rw [mannWhitney, lost, untied]
  simp

/-- Tied samples share all pairs. -/
lemma mannWhitney_tied [Field R] (tied : ∀ a ∈ ps, ∀ b ∈ ns, key a = key b) :
    mannWhitney (R := R) key ps ns = ps.length * ns.length / 2 := by
  have lost : wins key ps ns = 0 := by
    rw [wins, List.countP_eq_zero]
    intro p mem
    obtain ⟨left, right⟩ := List.mem_product.mp mem
    simpa using (tied _ left _ right).le
  have shared : ties key ps ns = (ps ×ˢ ns).length := by
    rw [ties, List.countP_eq_length]
    intro p mem
    obtain ⟨left, right⟩ := List.mem_product.mp mem
    exact decide_eq_true (tied _ left _ right)
  rw [mannWhitney, lost, shared, List.length_product]
  push_cast
  ring

/-- Samples that come from others. -/
lemma mannWhitney_map [Field R] {β : Type} {f : β → α} {ps ns : List β} :
    mannWhitney (R := R) key (ps.map f) (ns.map f) = mannWhitney (fun b => key (f b)) ps ns := by
  have pairs (q : α × α → Bool) :
      (ps.map f ×ˢ ns.map f).countP q = (ps ×ˢ ns).countP fun p => q (f p.1, f p.2) := by
    simp only [countP_product, List.map_map, List.countP_map]
    rfl
  rw [mannWhitney, mannWhitney, wins, wins, ties, ties, pairs, pairs]

/-- Only the order of the keys counts. -/
lemma mannWhitney_congr [Field R] {κ' : Type} [LinearOrder κ'] {key' : α → κ'}
    (same : ∀ a ∈ ps ++ ns, ∀ b ∈ ps ++ ns, key a < key b ↔ key' a < key' b) :
    mannWhitney (R := R) key ps ns = mannWhitney key' ps ns := by
  have order : ∀ p ∈ ps ×ˢ ns, (key p.2 < key p.1 ↔ key' p.2 < key' p.1) ∧
      (key p.1 = key p.2 ↔ key' p.1 = key' p.2) := by
    intro p mem
    obtain ⟨left, right⟩ := List.mem_product.mp mem
    have first := List.mem_append_left ns left
    have second := List.mem_append_right ps right
    have up := same _ first _ second
    have down := same _ second _ first
    refine ⟨down, ?_⟩
    rw [eq_iff_le_not_lt, eq_iff_le_not_lt, ← not_lt, ← not_lt, up, down]
  have won : wins key ps ns = wins key' ps ns :=
    List.countP_congr fun p mem => by simpa using (order p mem).1
  have tied : ties key ps ns = ties key' ps ns :=
    List.countP_congr fun p mem => by simpa using (order p mem).2
  rw [mannWhitney, mannWhitney, won, tied]

end Pairs

/-! ### Rank sums -/

section RankSum
variable {key : α → κ} {p : α → Bool}

/-- The statistic of the selected items of a list against the others. -/
def statistic [Field R] (key : α → κ) (p : α → Bool) (l : List α) : R :=
  mannWhitney key (l.filter p) (l.filter fun a => !p a)

lemma averageRank_eq [Field R] [CharZero R] {index size : Nat} (positive : 0 < size) :
    averageRank (R := R) index size = index + (size + 1) / 2 := by
  have last : ((index + size - 1 : Nat) : R) + 1 = index + size := by
    rw [← Nat.cast_add_one, Nat.sub_add_cancel (by omega)]
    push_cast
    ring
  have two : (2 : R) ≠ 0 := two_ne_zero
  rw [averageRank, Nat.cast_ofNat]
  field_simp
  linear_combination last

/-- A run in front of higher items. -/
lemma statistic_cons [Field R] {run rest : List α} (tied : ∀ a ∈ run, ∀ b ∈ run, key a = key b)
    (below : ∀ a ∈ run, ∀ b ∈ rest, key a < key b) :
    statistic (R := R) key p (run ++ rest) =
      (run.countP p : R) * (run.countP fun a => !p a : Nat) / 2 +
        (rest.countP p : R) * (run.countP fun a => !p a : Nat) + statistic key p rest := by
  have selected : ∀ {q : α → Bool} {l : List α} {a : α}, a ∈ l.filter q → a ∈ l :=
    fun mem => (List.mem_filter.mp mem).1
  rw [statistic, List.filter_append, List.filter_append, mannWhitney_left, mannWhitney_right,
    mannWhitney_right,
    mannWhitney_tied fun a left b right => tied a (selected left) b (selected right),
    mannWhitney_below fun a left b right => below a (selected left) b (selected right),
    mannWhitney_above fun a left b right => below b (selected right) a (selected left)]
  simp only [statistic, List.countP_eq_length_filter]
  ring

/-- The rank sum of the selected items is the smallest possible one plus the statistic. -/
theorem rankSum_tiers [Field R] [CharZero R] {runs : List (List α)} (tiers : Tiers key runs)
    (filled : [] ∉ runs) (index : Nat) :
    rankSum p index runs = statistic key p runs.flatten +
      (runs.flatten.countP p : R) * ((runs.flatten.countP p : R) + 1) / 2 +
        index * (runs.flatten.countP p : R) := by
  induction runs generalizing index with
  | nil => simp [rankSum, statistic, mannWhitney, wins, ties]
  | cons run rest ih =>
    obtain ⟨front, increasing⟩ := List.pairwise_cons.mp tiers.increasing
    have tail : Tiers key rest :=
      ⟨fun run' mem => tiers.equal run' (List.mem_cons_of_mem _ mem), increasing⟩
    have below : ∀ a ∈ run, ∀ b ∈ rest.flatten, key a < key b := by
      intro a left b right
      obtain ⟨run', mem, inside⟩ := List.mem_flatten.mp right
      exact front run' mem a left b inside
    have positive : 0 < run.length := by
      rw [List.length_pos_iff]
      rintro rfl
      exact filled List.mem_cons_self
    have size : (run.length : R) = run.countP p + (run.countP fun a => !p a : Nat) := by
      rw [← Nat.cast_add, List.length_eq_countP_add_countP p]
      simp
    rw [rankSum, ih tail fun mem => filled (List.mem_cons_of_mem _ mem), averageRank_eq positive,
      List.flatten_cons, statistic_cons (tiers.equal run List.mem_cons_self) below,
      List.countP_append]
    push_cast
    rw [size]
    ring

end RankSum

/-! ### Runs of a sorted list -/

section Runs
variable {key : α → κ}

/-- Sorted runs of equal items are tiers when no run could be joined to the next one. -/
lemma Tiers.of_separated {runs : List (List α)}
    (sorted : runs.Pairwise fun run run' => ∀ a ∈ run, ∀ b ∈ run', key a ≤ key b)
    (equal : ∀ run ∈ runs, ∀ a ∈ run, ∀ b ∈ run, key a = key b)
    (separated : runs.IsChain fun run run' =>
      ∃ left right, key (run.getLast left) ≠ key (run'.head right)) : Tiers key runs := by
  refine ⟨equal, ?_⟩
  induction runs with
  | nil => exact .nil
  | cons run rest ih =>
    obtain ⟨front, sorted'⟩ := List.pairwise_cons.mp sorted
    refine List.pairwise_cons.mpr ⟨fun run' mem a left b right => ?_,
      ih sorted' (fun r mem => equal r (List.mem_cons_of_mem _ mem)) separated.tail⟩
    refine lt_of_le_of_ne (front run' mem a left b right) fun same => ?_
    cases rest with
    | nil => cases mem
    | cons next rest =>
      obtain ⟨left', right', distinct⟩ := (List.isChain_cons_cons.mp separated).1
      have last : key (run.getLast left') = key a :=
        equal run List.mem_cons_self _ (List.getLast_mem left') a left
      have up : key (run.getLast left') ≤ key (next.head right') :=
        front next List.mem_cons_self _ (List.getLast_mem left') _ (List.head_mem right')
      have down : key (next.head right') ≤ key b := by
        rcases List.mem_cons.mp mem with rfl | later
        · exact (equal run' (by simp) _ (List.head_mem right') b right).le
        · exact (List.pairwise_cons.mp sorted').1 run' later _ (List.head_mem right') b right
      exact distinct (le_antisymm up (down.trans (same.symm.trans last.symm).le))

/-- The runs of equal items of a sorted list are its tiers. -/
lemma tiers_splitBy {l : List α} (sorted : l.Pairwise fun a b => key a ≤ key b) :
    Tiers key (l.splitBy fun a b => key a = key b) := by
  have whole := List.flatten_splitBy (fun a b => decide (key a = key b)) l
  rw [← whole, List.pairwise_flatten] at sorted
  refine .of_separated sorted.2 (fun run mem => ?_) ?_
  · have chain := (List.isChain_of_mem_splitBy mem).imp fun a b same => of_decide_eq_true same
    have pairwise : run.Pairwise fun a b => key a = key b := chain.pairwise
    intro a left b right
    have reversed : run.Pairwise (flip fun a b => key a = key b) := pairwise.imp fun same => same.symm
    exact pairwise.forall_of_forall_of_flip (R := fun a b => key a = key b) (fun _ _ => rfl) reversed
      left right
  · refine (List.isChain_getLast_head_splitBy _ l).imp ?_
    rintro run run' ⟨left, right, apart⟩
    exact ⟨left, right, of_decide_eq_false apart⟩

end Runs
end Lib.Ranking
