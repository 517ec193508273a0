import TacoRank.Lib.Log
import Mathlib.Data.List.Perm.Basic

/-!
# Interleavings

Several parties write to one log, and every entry belongs to at most one party, its `key`. Two logs
are interleavings of the same histories when they hold the same entries, those of each key in the same
order. A store with one cell for each key cannot tell them apart: `Interleaves.foldl_write`.
-/

namespace Lib.Log
variable {E κ β : Type} [DecidableEq κ] {key : E → Option κ}

/-- The entries of a key, in their order. -/
def lane (key : E → Option κ) (k : κ) (es : List E) : List E := es.filter fun e => key e = some k

@[simp] lemma lane_nil (k : κ) : lane key k [] = [] := rfl

@[simp] lemma lane_append (k : κ) (es es' : List E) :
    lane key k (es ++ es') = lane key k es ++ lane key k es' :=
  List.filter_append ..

lemma lane_cons_of_eq {k : κ} {e : E} (h : key e = some k) (es : List E) :
    lane key k (e :: es) = e :: lane key k es :=
  List.filter_cons_of_pos (by simpa using h)

lemma lane_cons_of_ne {k : κ} {e : E} (h : key e ≠ some k) (es : List E) :
    lane key k (e :: es) = lane key k es :=
  List.filter_cons_of_neg (by simpa using h)

/-- Two logs that hold the same entries, those of each key in the same order. -/
structure Interleaves (key : E → Option κ) (es es' : List E) : Prop where
  perm : es.Perm es'
  lanes : ∀ k, lane key k es = lane key k es'

/-- Neighbours of different keys may change places. -/
lemma Interleaves.swap {pre post : List E} {a b : E} (apart : ∀ k, key a = some k → key b ≠ some k) :
    Interleaves key (pre ++ a :: b :: post) (pre ++ b :: a :: post) where
  perm := (List.Perm.swap b a post).append_left pre
  lanes k := by
    rw [lane_append, lane_append]
    by_cases own : key a = some k
    · have other := apart k own
      rw [lane_cons_of_eq own, lane_cons_of_ne other, lane_cons_of_ne other, lane_cons_of_eq own]
    · by_cases next : key b = some k
      · rw [lane_cons_of_ne own, lane_cons_of_eq next, lane_cons_of_eq next, lane_cons_of_ne own]
      · rw [lane_cons_of_ne own, lane_cons_of_ne next, lane_cons_of_ne next, lane_cons_of_ne own]

/-! ### Stores with a cell for each key -/

/-- An entry writes to the cell of its key. -/
def write (key : E → Option κ) (cell : E → β → β) (store : κ → β) (e : E) (k : κ) : β :=
  if key e = some k then cell e (store k) else store k

/-- A cell is written by the entries of its key alone. -/
lemma foldl_write {cell : E → β → β} {es : List E} {store : κ → β} {k : κ} :
    es.foldl (write key cell) store k = (lane key k es).foldl (fun b e => cell e b) (store k) := by
  induction es generalizing store with
  | nil => rfl
  | cons e es ih =>
    rw [List.foldl_cons, ih]
    by_cases own : key e = some k
    · rw [lane_cons_of_eq own, List.foldl_cons, write, if_pos own]
    · rw [lane_cons_of_ne own, write, if_neg own]

/-- Interleavings of the same histories leave the same store. -/
lemma Interleaves.foldl_write {cell : E → β → β} {es es' : List E} {store : κ → β}
    (h : Interleaves key es es') :
    es.foldl (write key cell) store = es'.foldl (write key cell) store := by
  funext k
  rw [Log.foldl_write, Log.foldl_write, h.lanes k]

/-- Renaming the entries renames the contents of the cells. -/
lemma foldl_write_map {F γ : Type} {key' : F → Option κ} {cell : E → β → β} {cell' : F → γ → γ}
    {f : E → F} {es : List E} (g : β → γ) (store : κ → β) (keys : ∀ e, key' (f e) = key e)
    (cells : ∀ e ∈ es, ∀ b, cell' (f e) (g b) = g (cell e b)) :
    (es.map f).foldl (write key' cell') (fun k => g (store k)) =
      fun k => g (es.foldl (write key cell) store k) := by
  induction es generalizing store with
  | nil => rfl
  | cons e es ih =>
    have first : write key' cell' (fun k => g (store k)) (f e) =
        fun k => g (write key cell store e k) := by
      funext k
      unfold write
      rw [keys, cells e List.mem_cons_self]
      split <;> rfl
    rw [List.map_cons, List.foldl_cons, List.foldl_cons, first]
    exact ih _ fun e' mem => cells e' (List.mem_cons_of_mem _ mem)

/-! ### Checks against the entries before -/

/-- A log of which every entry was accepted stays one when neighbours change places, if the checks of
the two and of all later entries do not see their order. -/
lemma Valid.swap {ok : List E → E → Prop} {pre post : List E} {a b : E}
    (v : Valid ok (pre ++ a :: b :: post)) (first : ok (pre ++ [a]) b → ok pre b)
    (second : ok pre a → ok (pre ++ [b]) a)
    (later : ∀ mid e, ok (pre ++ a :: b :: mid) e → ok (pre ++ b :: a :: mid) e) :
    Valid ok (pre ++ b :: a :: post) := by
  induction post using List.reverseRecOn with
  | nil =>
    have split : pre ++ [b, a] = pre ++ [b] ++ [a] := by simp
    have split' : pre ++ [a, b] = pre ++ [a] ++ [b] := by simp
    rw [split'] at v
    rw [split]
    obtain ⟨before, hb⟩ := v.snoc_inv
    obtain ⟨start, ha⟩ := before.snoc_inv
    exact (start.snoc (first hb)).snoc (second ha)
  | append_singleton post e ih =>
    have split : pre ++ b :: a :: (post ++ [e]) = (pre ++ b :: a :: post) ++ [e] := by simp
    have split' : pre ++ a :: b :: (post ++ [e]) = (pre ++ a :: b :: post) ++ [e] := by simp
    rw [split'] at v
    rw [split]
    obtain ⟨before, he⟩ := v.snoc_inv
    exact (ih before).snoc (later post e he)

/-- A log whose entries are renamed is checked by the renamed checks. -/
lemma Valid.map {F : Type} {ok : List E → E → Prop} {ok' : List F → F → Prop} {f : E → F}
    (keep : ∀ es e, ok es e → ok' (es.map f) (f e)) {es : List E} (v : Valid ok es) :
    Valid ok' (es.map f) := by
  induction v with
  | nil => exact .nil
  | snoc _ h ih =>
    rw [List.map_append]
    exact ih.snoc (keep _ _ h)

end Lib.Log
