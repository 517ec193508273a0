import TacoRank.Lib.Dict
import Mathlib.Algebra.BigOperators.Group.List.Basic
import Mathlib.Data.List.Induction
import Mathlib.Data.List.Perm.Subperm

/-!
# Grouping

Items grouped by a key, in the order in which the keys first occur. Every key has its items in their
order (`entries_group`), and the groups together are the items once more (`values_group_perm`), so that a
sum over the items is the sum over the groups of their sums.
-/

namespace Lib.Grouping
variable {κ α : Type} [DecidableEq κ]

/-- One more item under its key. -/
def insert (groups : Dict κ (List α)) (pair : κ × α) : Dict κ (List α) :=
  groups.set pair.1 ((groups.get? pair.1).getD [] ++ [pair.2])

/-- The items by key. -/
def group (pairs : List (κ × α)) : Dict κ (List α) := pairs.foldl insert .empty

/-- The items of a key. -/
def items (pairs : List (κ × α)) (k : κ) : List α := (pairs.filter fun p => p.1 = k).map Prod.snd

/-- The keys in the order in which they first occur. -/
def keys (pairs : List (κ × α)) : List κ := (pairs.map Prod.fst).eraseDups

variable {pairs : List (κ × α)} {p : κ × α} {k : κ}

lemma items_snoc : items (pairs ++ [p]) k = items pairs k ++ if p.1 = k then [p.2] else [] := by
  rw [items, List.filter_append, List.map_append, ← items]
  by_cases same : p.1 = k <;> simp [same]

lemma mem_keys : k ∈ keys pairs ↔ k ∈ pairs.map Prod.fst := List.mem_eraseDups

lemma keys_snoc : keys (pairs ++ [p]) = keys pairs ++ if p.1 ∈ keys pairs then [] else [p.1] := by
  have one : ([p].map Prod.fst).removeAll (pairs.map Prod.fst) =
      if p.1 ∈ keys pairs then [] else [p.1] := by
    by_cases mem : p.1 ∈ keys pairs
    · rw [if_pos mem]
      rw [mem_keys] at mem
      simpa [List.removeAll] using mem
    · rw [if_neg mem]
      rw [mem_keys] at mem
      simpa [List.removeAll] using mem
  rw [keys, List.map_append, List.eraseDups_append, ← keys, one]
  split_ifs <;> rfl

lemma items_eq_nil (absent : k ∉ keys pairs) : items pairs k = [] := by
  rw [items, List.map_eq_nil_iff, List.filter_eq_nil_iff]
  intro p mem same
  exact absent (mem_keys.mpr (List.mem_map.mpr ⟨p, mem, of_decide_eq_true same⟩))

/-- Every key has its items, in their order. -/
theorem entries_group : (group pairs).entries = (keys pairs).map fun k => (k, items pairs k) := by
  induction pairs using List.reverseRecOn with
  | nil => rfl
  | append_singleton pairs p ih =>
    have step : group (pairs ++ [p]) = insert (group pairs) p := List.foldl_append
    have present : (group pairs).entries.map Prod.fst = keys pairs := by
      rw [ih, List.map_map]
      exact List.map_id _
    have found : p.1 ∈ keys pairs → (group pairs).get? p.1 = some (items pairs p.1) := fun mem =>
      Dict.mem_entries.mp (ih ▸ List.mem_map_of_mem mem)
    rw [step, insert, keys_snoc]
    by_cases mem : p.1 ∈ keys pairs
    · rw [if_pos mem, List.append_nil, found mem, Option.getD_some, Dict.set, dif_pos (present ▸ mem)]
      show Dict.replaceEntries _ _ (group pairs).entries = _
      rw [ih, Dict.replaceEntries, List.map_map]
      apply List.map_congr_left
      intro k _
      rw [items_snoc]
      by_cases same : k = p.1
      · subst same
        simp
      · simp [same, Ne.symm same]
    · have absent : (group pairs).get? p.1 = none := by
        cases held : (group pairs).get? p.1 with
        | none => rfl
        | some values =>
          have mem' := List.mem_map_of_mem (f := Prod.fst) (Dict.mem_entries.mpr held)
          exact absurd (present ▸ mem') mem
      rw [if_neg mem, Dict.entries_set_new _ absent, absent, ih, List.map_append, List.map_singleton,
        items_snoc, if_pos rfl, items_eq_nil mem]
      congr 1
      apply List.map_congr_left
      intro k listed
      have differ : p.1 ≠ k := fun same => mem (same ▸ listed)
      rw [items_snoc, if_neg differ, List.append_nil]

lemma nodup_keys : (keys pairs).Nodup := by
  have nodup := (group pairs).nodupKeys
  rw [entries_group, List.map_map] at nodup
  exact (List.map_id (keys pairs)) ▸ nodup

lemma values_group : (group pairs).values = (keys pairs).map (items pairs) := by
  rw [Dict.values, entries_group, List.map_map]
  rfl

/-- No group is empty. -/
lemma items_ne_nil (mem : k ∈ keys pairs) : items pairs k ≠ [] := by
  obtain ⟨p, listed, rfl⟩ := List.mem_map.mp (mem_keys.mp mem)
  refine List.ne_nil_of_mem (a := p.2) (List.mem_map_of_mem (List.mem_filter.mpr ⟨listed, ?_⟩))
  exact decide_eq_true rfl

/-- Distinct keys that cover the items divide them. -/
lemma flatMap_filter_perm {ks : List κ} (nodup : ks.Nodup) {pairs : List (κ × α)}
    (cover : ∀ p ∈ pairs, p.1 ∈ ks) : (ks.flatMap fun k => pairs.filter fun p => p.1 = k).Perm pairs := by
  induction ks generalizing pairs with
  | nil =>
    have empty : pairs = [] := List.eq_nil_iff_forall_not_mem.mpr fun p mem => by simpa using cover p mem
    rw [empty]
    rfl
  | cons k ks ih =>
    obtain ⟨fresh, nodup⟩ := List.nodup_cons.mp nodup
    have others : ∀ p ∈ pairs.filter fun p => !decide (p.1 = k), p.1 ∈ ks := by
      intro p mem
      obtain ⟨listed, differ⟩ := List.mem_filter.mp mem
      have differ : p.1 ≠ k := by simpa using differ
      exact (List.mem_cons.mp (cover p listed)).resolve_left differ
    have rest : (ks.flatMap fun j => pairs.filter fun p => p.1 = j) =
        ks.flatMap fun j => (pairs.filter fun p => !decide (p.1 = k)).filter fun p => p.1 = j := by
      apply List.flatMap_congr
      intro j mem
      rw [List.filter_filter]
      apply List.filter_congr
      intro p _
      by_cases same : p.1 = j
      · have differ : j ≠ k := fun e => fresh (e ▸ mem)
        simp [same, differ]
      · simp [same]
    rw [List.flatMap_cons, rest]
    exact ((ih nodup others).append_left _).trans (List.filter_append_perm _ pairs)

/-- The groups together are the items. -/
theorem values_group_perm : (group pairs).values.flatten.Perm (pairs.map Prod.snd) := by
  have cover : ∀ p ∈ pairs, p.1 ∈ keys pairs := fun p mem => mem_keys.mpr (List.mem_map_of_mem mem)
  have perm := (flatMap_filter_perm nodup_keys cover).map Prod.snd
  rw [List.map_flatMap] at perm
  rw [values_group, ← List.flatMap_def]
  exact perm

/-- A sum over the items, group by group. -/
lemma sum_group {M : Type} [AddCommMonoid M] (f : α → M) :
    ((group pairs).values.map fun values => (values.map f).sum).sum = (pairs.map fun p => f p.2).sum := by
  have perm : (group pairs).values.flatten.Perm (pairs.map Prod.snd) := values_group_perm
  have sums := (perm.map f).sum_eq
  rw [List.map_flatten] at sums
  rw [List.sum_flatten, List.map_map, List.map_map] at sums
  exact sums

/-- The keys do not depend on the items. -/
lemma keys_congr {β : Type} {pairs' : List (κ × β)} (same : pairs.map Prod.fst = pairs'.map Prod.fst) :
    keys pairs = keys pairs' := congrArg List.eraseDups same

/-- Items that come from others. -/
lemma items_map {β : Type} (f : α → β) : items (pairs.map fun p => (p.1, f p.2)) k = (items pairs k).map f := by
  rw [items, List.filter_map, items, List.map_map, List.map_map]
  rfl

/-! ### Choices from the groups -/

section Choices
variable {choose : κ → List α → List α}

/-- Choices from the groups are choices from the items. -/
lemma flatMap_choose_subperm (chosen : ∀ k values, (choose k values).Subperm values) :
    ((group pairs).entries.flatMap fun entry => choose entry.1 entry.2).Subperm (pairs.map Prod.snd) := by
  have each : ∀ entries : List (κ × List α),
      (entries.flatMap fun entry => choose entry.1 entry.2).Subperm (entries.flatMap Prod.snd) := by
    intro entries
    induction entries with
    | nil => exact .refl _
    | cons entry entries ih => exact (chosen entry.1 entry.2).append ih
  have whole : (group pairs).entries.flatMap Prod.snd = (group pairs).values.flatten := rfl
  exact (each _).trans (whole ▸ values_group_perm.subperm)

/-- A selection of one key counts the choices from its group. -/
lemma countP_choose {q : α → Bool} (chosen : ∀ k values, (choose k values).Subperm values)
    (own : ∀ a ∈ items pairs k, q a = true) (others : ∀ j, j ≠ k → ∀ a ∈ items pairs j, q a = false) :
    ((group pairs).entries.flatMap fun entry => choose entry.1 entry.2).countP q =
      (choose k (items pairs k)).length := by
  have inside {j : κ} {a : α} (mem : a ∈ choose j (items pairs j)) : a ∈ items pairs j :=
    (chosen j _).subset mem
  have elsewhere : ∀ j, j ≠ k → j ∈ keys pairs → (choose j (items pairs j)).countP q = 0 := by
    intro j differ _
    rw [List.countP_eq_zero]
    intro a mem
    simp [others j differ a (inside mem)]
  rw [entries_group, List.flatMap_map, List.countP_flatMap]
  refine (List.sum_map_eq_nsmul_single k _ elsewhere).trans ?_
  have all : (choose k (items pairs k)).countP q = (choose k (items pairs k)).length :=
    List.countP_eq_length.mpr fun a mem => own a (inside mem)
  by_cases mem : k ∈ keys pairs
  · rw [List.count_eq_one_of_mem nodup_keys mem, one_nsmul]
    exact all
  · have empty : choose k (items pairs k) = [] :=
      by
      have within := chosen k (items pairs k)
      rw [items_eq_nil mem] at within ⊢
      exact List.subperm_nil.mp within
    rw [List.count_eq_zero_of_not_mem mem, zero_nsmul, empty]
    rfl

end Choices

end Lib.Grouping
