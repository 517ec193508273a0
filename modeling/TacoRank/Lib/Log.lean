import Mathlib.Data.List.Induction

/-!
# Append-only logs

Facts about lists that only grow at their end. `lastSome f es` is the most recent non-`none` reading
of `f`; `Valid ok es` says that every entry was accepted by `ok` against the entries before it. The
two induction rules `Valid.rec` and `Valid.extend` carry an invariant over a whole log, resp. over
what follows a given prefix.
-/

namespace Lib.Log
variable {E β : Type}

/-- The most recent reading of `f` on the log, searched from its end. -/
def lastSome (f : E → Option β) (es : List E) : Option β := es.reverse.findSome? f

@[simp] lemma lastSome_nil (f : E → Option β) : lastSome f [] = none := rfl

@[simp] lemma lastSome_snoc (f : E → Option β) (es : List E) (e : E) :
    lastSome f (es ++ [e]) = (f e).or (lastSome f es) := by
  rw [lastSome, List.reverse_concat, List.findSome?_cons]
  cases f e with
  | none => rfl
  | some b => rfl

/-- The most recent reading splits the log at the entry it was taken from. -/
lemma lastSome_split {f : E → Option β} {es : List E} {b : β} (h : lastSome f es = some b) :
    ∃ pre e post, es = pre ++ e :: post ∧ f e = some b ∧ ∀ e' ∈ post, f e' = none := by
  induction es using List.reverseRecOn with
  | nil => cases h
  | append_singleton es e ih =>
    rw [lastSome_snoc] at h
    cases hf : f e with
    | some c =>
      rw [hf] at h
      exact ⟨es, e, [], rfl, by rw [hf]; exact h, by simp⟩
    | none =>
      rw [hf, Option.none_or] at h
      obtain ⟨pre, e0, post, rfl, he0, hpost⟩ := ih h
      refine ⟨pre, e0, post ++ [e], by simp, he0, ?_⟩
      intro e' he'
      rcases List.mem_append.mp he' with h1 | h1
      · exact hpost e' h1
      · rw [List.mem_singleton] at h1
        rw [h1, hf]

/-- A reading past a log whose continuation is silent is the earlier reading. -/
lemma lastSome_append_silent {f : E → Option β} {es post : List E}
    (silent : ∀ e ∈ post, f e = none) : lastSome f (es ++ post) = lastSome f es := by
  induction post using List.reverseRecOn with
  | nil => simp
  | append_singleton post e ih =>
    have he : f e = none := silent e (by simp)
    have ih := ih fun e' h => silent e' (List.mem_append_left _ h)
    rw [← List.append_assoc, lastSome_snoc, he, Option.none_or, ih]

/-- A reading at a split is the entry's own one when nothing after it is read. -/
lemma lastSome_at {f : E → Option β} {pre post : List E} {e : E} {b : β} (he : f e = some b)
    (silent : ∀ e' ∈ post, f e' = none) : lastSome f (pre ++ e :: post) = some b := by
  have split : pre ++ e :: post = (pre ++ [e]) ++ post := by simp
  rw [split, lastSome_append_silent silent, lastSome_snoc, he]
  rfl

lemma lastSome_mem {f : E → Option β} {es : List E} {b : β} (h : lastSome f es = some b) :
    ∃ e ∈ es, f e = some b := by
  obtain ⟨pre, e, post, rfl, he, _⟩ := lastSome_split h
  exact ⟨e, by simp, he⟩

lemma lastSome_eq_none {f : E → Option β} {es : List E} :
    lastSome f es = none ↔ ∀ e ∈ es, f e = none := by
  simp [lastSome, List.findSome?_eq_none_iff]

/-- The entries after the last one that `p` selects; the whole log when there is none. -/
def since (p : E → Bool) (es : List E) : List E := (es.reverse.takeWhile fun e => !p e).reverse

@[simp] lemma since_nil (p : E → Bool) : since p [] = [] := rfl

@[simp] lemma since_snoc (p : E → Bool) (es : List E) (e : E) :
    since p (es ++ [e]) = if p e then [] else since p es ++ [e] := by
  cases h : p e <;> simp [since, h]

/-- Between a selected entry and the end of the log, when nothing in between is selected. -/
lemma since_at {p : E → Bool} {pre mid : List E} {e : E} (he : p e = true)
    (silent : ∀ e' ∈ mid, p e' = false) : since p (pre ++ e :: mid) = mid := by
  induction mid using List.reverseRecOn with
  | nil => simp [he]
  | append_singleton mid e' ih =>
    have h' : p e' = false := silent e' (by simp)
    have ih := ih fun d hd => silent d (List.mem_append_left _ hd)
    have assoc : pre ++ e :: (mid ++ [e']) = (pre ++ e :: mid) ++ [e'] := by simp
    rw [assoc, since_snoc, h', ih]
    rfl

/-- What lies after the last selected entry is a suffix of the log. -/
lemma since_suffix (p : E → Bool) (es : List E) : ∃ pre, es = pre ++ since p es := by
  induction es using List.reverseRecOn with
  | nil => exact ⟨[], rfl⟩
  | append_singleton es e ih =>
    obtain ⟨pre, hpre⟩ := ih
    rw [since_snoc]
    split
    · exact ⟨es ++ [e], by simp⟩
    · refine ⟨pre, ?_⟩
      rw [← List.append_assoc, ← hpre]

/-- Every entry of the log was accepted against the entries before it. -/
inductive Valid (ok : List E → E → Prop) : List E → Prop where
  | nil : Valid ok []
  | snoc {es e} :
    Valid ok es →
    ok es e →
    Valid ok (es ++ [e])

variable {ok : List E → E → Prop}

lemma Valid.snoc_inv {es : List E} {e : E} (v : Valid ok (es ++ [e])) : Valid ok es ∧ ok es e := by
  generalize h : es ++ [e] = l at v
  cases v with
  | nil => simp at h
  | snoc v' hok =>
    obtain ⟨h1, h2⟩ := List.append_inj' h rfl
    cases h2
    subst h1
    exact ⟨v', hok⟩

/-- A prefix of a valid log is valid. -/
lemma Valid.take {pre post : List E} (v : Valid ok (pre ++ post)) : Valid ok pre := by
  induction post using List.reverseRecOn with
  | nil => simpa using v
  | append_singleton post e ih =>
    rw [← List.append_assoc] at v
    exact ih v.snoc_inv.1

/-- An entry of a valid log was accepted against its prefix. -/
lemma Valid.accepted {pre post : List E} {e : E} (v : Valid ok (pre ++ e :: post)) : ok pre e := by
  have split : pre ++ e :: post = (pre ++ [e]) ++ post := by simp
  rw [split] at v
  exact v.take.snoc_inv.2

/-- An invariant that holds at a prefix and is kept by accepted entries holds after the whole log. -/
lemma Valid.extend {I : List E → Prop} {base post : List E} (v : Valid ok (base ++ post))
    (start : I base)
    (keep : ∀ mid e, Valid ok (base ++ mid) → ok (base ++ mid) e → I (base ++ mid) →
      I (base ++ mid ++ [e])) :
    I (base ++ post) := by
  induction post using List.reverseRecOn with
  | nil => simpa using start
  | append_singleton post e ih =>
    rw [← List.append_assoc] at v ⊢
    obtain ⟨v', hok⟩ := v.snoc_inv
    exact keep post e v' hok (ih v')

/-- A property of all splits of a log is a property of all its positions. -/
lemma forall_split {P : List E → E → Prop} {es : List E} :
    (∀ pre e post, es = pre ++ e :: post → P pre e) ↔
      ∀ i : Fin es.length, P (es.take i) (es.get i) := by
  constructor
  · intro h i
    apply h (es.take i) (es.get i) (es.drop (i + 1))
    rw [List.get_eq_getElem, List.getElem_cons_drop, List.take_append_drop]
  · rintro h pre e post rfl
    have at_split := h ⟨pre.length, by simp⟩
    simpa using at_split

/-- A relation between the entries of a log and the later ones. -/
lemma pairwise_iff_split {R : E → E → Prop} {es : List E} :
    es.Pairwise R ↔ ∀ pre a mid b post, es = pre ++ a :: (mid ++ b :: post) → R a b := by
  constructor
  · rintro pairs pre a mid b post rfl
    have later := (List.pairwise_append.mp pairs).2.1
    exact (List.pairwise_cons.mp later).1 b (by simp)
  · intro h
    induction es with
    | nil => exact .nil
    | cons a es ih =>
      refine List.pairwise_cons.mpr ⟨fun b mem => ?_, ih fun pre c mid b post split => ?_⟩
      · obtain ⟨mid, post, rfl⟩ := List.append_of_mem mem
        exact h [] a mid b post rfl
      · exact h (a :: pre) c mid b post (by rw [split]; rfl)

/-- Check the entries of a log one after the other against an accepted prefix. -/
def checkFrom (ok : List E → E → Prop) [∀ es e, Decidable (ok es e)] : List E → List E → Bool
  | _, [] => true
  | pre, e :: rest => decide (ok pre e) && checkFrom ok (pre ++ [e]) rest

/-- A log that passes the check is valid. -/
lemma Valid.of_checkFrom [∀ es e, Decidable (ok es e)] {pre rest : List E} (v : Valid ok pre)
    (h : checkFrom ok pre rest = true) : Valid ok (pre ++ rest) := by
  induction rest generalizing pre with
  | nil => simpa using v
  | cons e rest ih =>
    simp only [checkFrom, Bool.and_eq_true, decide_eq_true_eq] at h
    have next := ih (v.snoc h.1) h.2
    simpa using next

end Lib.Log
