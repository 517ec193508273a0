import Mathlib.Data.List.Nodup

/-!
# Insertion-ordered dictionaries

A dictionary keeps its entries in the order in which their keys were first inserted; writing to a
present key keeps its position. The keys are distinct by construction, so a lookup has at most one
answer and `values` lists every binding exactly once.
-/

namespace Lib

/-- A dictionary with insertion order; the keys are distinct. -/
structure Dict (κ ν : Type) where
  entries : List (κ × ν)
  nodupKeys : (entries.map Prod.fst).Nodup
deriving DecidableEq

namespace Dict
variable {κ ν : Type} [DecidableEq κ]

/-- The dictionary without bindings. -/
def empty : Dict κ ν := ⟨[], List.nodup_nil⟩

/-- The keys in insertion order. -/
def keys (d : Dict κ ν) : List κ := d.entries.map Prod.fst

/-- The values in insertion order of their keys. -/
def values (d : Dict κ ν) : List ν := d.entries.map Prod.snd

/-- The value bound to a key. -/
def get? (d : Dict κ ν) (k : κ) : Option ν := d.entries.lookup k

/-- Replace the value of a key that is present, in place. -/
def replaceEntries (k : κ) (v : ν) (entries : List (κ × ν)) : List (κ × ν) :=
  entries.map fun p => if p.1 = k then (k, v) else p

lemma replaceEntries_keys (k : κ) (v : ν) (entries : List (κ × ν)) :
    (replaceEntries k v entries).map Prod.fst = entries.map Prod.fst := by
  simp only [replaceEntries, List.map_map]
  apply List.map_congr_left
  intro p _
  by_cases h : p.1 = k <;> simp [h]

/-- Bind a key: in place when it is present, at the end otherwise. -/
def set (d : Dict κ ν) (k : κ) (v : ν) : Dict κ ν :=
  if h : k ∈ d.entries.map Prod.fst then
    ⟨replaceEntries k v d.entries, by rw [replaceEntries_keys]; exact d.nodupKeys⟩
  else
    ⟨d.entries ++ [(k, v)], by
      rw [List.map_append, List.nodup_append]
      refine ⟨d.nodupKeys, by simp, ?_⟩
      intro a ha b hb e
      simp at hb
      exact h (hb ▸ e ▸ ha)⟩

@[simp] lemma get?_empty (k : κ) : (empty : Dict κ ν).get? k = none := rfl

lemma lookup_replaceEntries_self {k : κ} {v : ν} {entries : List (κ × ν)}
    (h : k ∈ entries.map Prod.fst) : (replaceEntries k v entries).lookup k = some v := by
  induction entries with
  | nil => simp at h
  | cons p ps ih =>
    obtain ⟨a, b⟩ := p
    by_cases e : a = k
    · simp [replaceEntries, e]
    · have h' : k ∈ ps.map Prod.fst := by
        simp only [List.map_cons, List.mem_cons] at h
        exact h.resolve_left (Ne.symm e)
      have ne : (k == a) = false := by simpa using Ne.symm e
      simp only [replaceEntries, List.map_cons, if_neg e, List.lookup_cons, ne] at ih ⊢
      exact ih h'

lemma lookup_replaceEntries_ne {k j : κ} {v : ν} {entries : List (κ × ν)} (h : j ≠ k) :
    (replaceEntries k v entries).lookup j = entries.lookup j := by
  have jk : (j == k) = false := by simpa using h
  induction entries with
  | nil => rfl
  | cons p ps ih =>
    obtain ⟨a, b⟩ := p
    by_cases e : a = k
    · subst e
      simp only [replaceEntries, List.map_cons, if_true, List.lookup_cons, jk] at ih ⊢
      exact ih
    · simp only [replaceEntries, List.map_cons, if_neg e, List.lookup_cons] at ih ⊢
      rw [ih]

@[simp] lemma get?_set_self (d : Dict κ ν) (k : κ) (v : ν) : (d.set k v).get? k = some v := by
  unfold set
  split
  · rename_i h
    exact lookup_replaceEntries_self h
  · rename_i h
    have none : d.entries.lookup k = none := by
      rw [List.lookup_eq_none_iff]
      intro p hp
      have ne : p.1 ≠ k := fun e => h (e ▸ List.mem_map_of_mem hp)
      simpa using Ne.symm ne
    simp [get?, List.lookup_append, none]

@[simp] lemma get?_set_ne (d : Dict κ ν) {k j : κ} (v : ν) (h : j ≠ k) :
    (d.set k v).get? j = d.get? j := by
  unfold set
  split
  · exact lookup_replaceEntries_ne h
  · have ne : (j == k) = false := by simpa using h
    simp [get?, List.lookup_append, List.lookup_cons, ne]

/-- Writing to one key, seen from every key. -/
lemma get?_set (d : Dict κ ν) (k j : κ) (v : ν) :
    (d.set k v).get? j = if j = k then some v else d.get? j := by
  by_cases h : j = k
  · subst h; simp
  · simp [h]

/-- A present key is found among the entries. -/
lemma mem_entries {d : Dict κ ν} {k : κ} {v : ν} : (k, v) ∈ d.entries ↔ d.get? k = some v := by
  obtain ⟨entries, nodup⟩ := d
  simp only [get?]
  induction entries with
  | nil => simp
  | cons p ps ih =>
    obtain ⟨a, b⟩ := p
    simp only [List.map_cons, List.nodup_cons] at nodup
    by_cases same : k = a
    · subst same
      have absent : (k, v) ∉ ps := fun mem => nodup.1 (List.mem_map_of_mem mem)
      simp [absent, eq_comm]
    · have ne : (k == a) = false := by simpa using same
      simp [List.lookup_cons, ne, same, ih nodup.2]

/-- Every value is bound to a key. -/
lemma mem_values {d : Dict κ ν} {v : ν} : v ∈ d.values ↔ ∃ k, d.get? k = some v := by
  simp only [values, List.mem_map, Prod.exists, exists_eq_right, mem_entries]

/-- A new key is bound at the end. -/
lemma entries_set_new {d : Dict κ ν} {k : κ} (v : ν) (new : d.get? k = none) :
    (d.set k v).entries = d.entries ++ [(k, v)] := by
  have absent : k ∉ d.entries.map Prod.fst := by
    intro mem
    obtain ⟨⟨_, w⟩, held, rfl⟩ := List.mem_map.mp mem
    have found := mem_entries.mp held
    rw [new] at found
    cases found
  rw [set, dif_neg absent]

/-- A write in place keeps every reading of the entries that it does not change. -/
lemma map_set_old {β : Type} {d : Dict κ ν} {k : κ} {v w : ν} {g : ν → β}
    (old : d.get? k = some w) (same : g v = g w) :
    (d.set k v).entries.map (fun p => (p.1, g p.2)) = d.entries.map (fun p => (p.1, g p.2)) := by
  have mem : k ∈ d.entries.map Prod.fst := List.mem_map_of_mem (mem_entries.mpr old)
  rw [set, dif_pos mem]
  simp only [replaceEntries, List.map_map]
  apply List.map_congr_left
  rintro ⟨j, u⟩ held
  by_cases h : j = k
  · have found := mem_entries.mp held
    rw [h, old] at found
    simp [h, same, Option.some.inj found]
  · simp [h]

end Dict
end Lib
