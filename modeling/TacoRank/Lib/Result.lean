import Mathlib.Data.List.Forall2

/-!
# Successful results of fallible programs

What it takes for a program in `Except` to return: a sequence returns when its parts do
(`bind_eq_ok`), a traversal returns when every element does (`mapM_eq_ok`), and a fold over a log
that grows at its end goes on from where it was (`foldlM_snoc`). `Raises E` bounds the errors of a
program instead, with one rule for each way to put programs together.
-/

namespace Lib.Result
variable {ε α β : Type}

lemma bind_eq_ok {x : Except ε α} {f : α → Except ε β} {b : β} :
    (x >>= f) = .ok b ↔ ∃ a, x = .ok a ∧ f a = .ok b := by
  cases x with
  | error e =>
    constructor
    · intro h
      cases h
    · rintro ⟨a, h, _⟩
      cases h
  | ok a =>
    constructor
    · intro h
      exact ⟨a, rfl, h⟩
    · rintro ⟨a', h, hf⟩
      cases h
      exact hf

lemma map_eq_ok {x : Except ε α} {f : α → β} {b : β} : x.map f = .ok b ↔ ∃ a, x = .ok a ∧ f a = b := by
  cases x with
  | error e => simp [Except.map]
  | ok a => simp [Except.map]

lemma ite_eq_ok {c : Prop} [Decidable c] {x y : Except ε α} {a : α} (h : (if c then x else y) = .ok a) :
    (c ∧ x = .ok a) ∨ (¬ c ∧ y = .ok a) := by
  by_cases holds : c
  · rw [if_pos holds] at h
    exact .inl ⟨holds, h⟩
  · rw [if_neg holds] at h
    exact .inr ⟨holds, h⟩

/-- A check before the rest of a program. -/
lemma check_bind_eq_ok {x : Except ε Unit} {f : Unit → Except ε β} {b : β} :
    (x >>= f) = .ok b ↔ x = .ok () ∧ f () = .ok b := by
  rw [bind_eq_ok]
  constructor
  · rintro ⟨⟨⟩, h, hf⟩
    exact ⟨h, hf⟩
  · rintro ⟨h, hf⟩
    exact ⟨(), h, hf⟩

lemma ok_bind {a : α} {f : α → Except ε β} : (.ok a >>= f) = f a := rfl

@[simp] lemma pure_eq_ok {a b : α} : (pure a : Except ε α) = .ok b ↔ a = b := by
  constructor
  · intro h
    cases h
    rfl
  · rintro rfl
    rfl

@[simp] lemma throw_eq_ok {e : ε} {a : α} : ¬ (throw e : Except ε α) = .ok a := nofun

@[simp] lemma mapError_ok {δ : Type} {f : δ → ε} {x : Except δ α} {a : α} :
    x.mapError f = .ok a ↔ x = .ok a := by
  cases x with
  | error e => simp [Except.mapError]
  | ok b => simp [Except.mapError]

/-- A check that raises an error when it fails. -/
def ensure (condition : Prop) [Decidable condition] (error : ε) : Except ε Unit :=
  if condition then .ok () else .error error

@[simp] lemma ensure_eq_ok {condition : Prop} [Decidable condition] {error : ε} {u : Unit} :
    ensure condition error = .ok u ↔ condition := by
  unfold ensure
  by_cases h : condition <;> simp [h]

/-- A traversal returns when every element does. -/
lemma mapM_eq_ok {f : α → Except ε β} {as : List α} {bs : List β} :
    as.mapM f = .ok bs ↔ List.Forall₂ (fun a b => f a = .ok b) as bs := by
  induction as generalizing bs with
  | nil =>
    rw [List.mapM_nil, pure_eq_ok, List.forall₂_nil_left_iff]
    exact eq_comm
  | cons a as ih =>
    simp only [List.mapM_cons, bind_eq_ok, pure_eq_ok]
    constructor
    · rintro ⟨b, hb, bs', hbs, rfl⟩
      exact .cons hb (ih.mp hbs)
    · intro h
      cases h with
      | cons hb hbs => exact ⟨_, hb, _, ih.mpr hbs, rfl⟩

/-- A traversal of an image, of which every step is known. -/
lemma mapM_map_ok {γ : Type} {f : β → Except ε γ} {g : α → β} {h : α → γ} {as : List α}
    (each : ∀ a ∈ as, f (g a) = .ok (h a)) : (as.map g).mapM f = .ok (as.map h) := by
  rw [mapM_eq_ok]
  induction as with
  | nil => exact .nil
  | cons a as ih =>
    exact .cons (each a List.mem_cons_self) (ih fun a' mem => each a' (List.mem_cons_of_mem a mem))

/-- A traversal that collects findings finds nothing when it finds nothing on any element. -/
lemma mapM_collects {f : α → Except ε (List β)} {P : α → Prop} {as : List α}
    (each : ∀ a ∈ as, ∃ found, f a = .ok found ∧ (found = [] ↔ P a)) :
    ∃ found, as.mapM f = .ok found ∧ (found.flatten = [] ↔ ∀ a ∈ as, P a) := by
  induction as with
  | nil => exact ⟨[], rfl, by simp⟩
  | cons a as ih =>
    obtain ⟨first, first_ok, first_nil⟩ := each a List.mem_cons_self
    obtain ⟨rest, rest_ok, rest_nil⟩ := ih fun a' mem => each a' (List.mem_cons_of_mem a mem)
    refine ⟨first :: rest, ?_, ?_⟩
    · rw [List.mapM_cons, first_ok, ok_bind, rest_ok, ok_bind]
      rfl
    · rw [List.flatten_cons, List.append_eq_nil_iff, first_nil, rest_nil, List.forall_mem_cons]

/-! ### Lists related element by element -/

lemma exists_forall₂ {R : α → β → Prop} {as : List α} (h : ∀ a ∈ as, ∃ b, R a b) :
    ∃ bs, List.Forall₂ R as bs := by
  induction as with
  | nil => exact ⟨[], .nil⟩
  | cons a as ih =>
    obtain ⟨b, first⟩ := h a List.mem_cons_self
    obtain ⟨bs, rest⟩ := ih fun a' mem => h a' (List.mem_cons_of_mem a mem)
    exact ⟨b :: bs, .cons first rest⟩

lemma map_eq_map_of_forall₂ {γ : Type} {f : α → γ} {g : β → γ} {as : List α} {bs : List β}
    (h : List.Forall₂ (fun a b => f a = g b) as bs) : as.map f = bs.map g := by
  induction h with
  | nil => rfl
  | cons first _ ih => rw [List.map_cons, List.map_cons, first, ih]

lemma forall₂_trans {γ : Type} {R : α → β → Prop} {Q : β → γ → Prop} {T : α → γ → Prop} {as : List α}
    {bs : List β} {cs : List γ} (first : List.Forall₂ R as bs) (second : List.Forall₂ Q bs cs)
    (h : ∀ a b c, R a b → Q b c → T a c) : List.Forall₂ T as cs := by
  induction first generalizing cs with
  | nil =>
    cases second
    exact .nil
  | cons ab _ ih =>
    cases second with
    | cons bc rest => exact .cons (h _ _ _ ab bc) (ih rest)

/-- A traversal in which every element has a value. -/
lemma mapM_eq_some_of_forall₂ {f : α → Option β} {as : List α} {bs : List β}
    (h : List.Forall₂ (fun a b => f a = some b) as bs) : as.mapM f = some bs := by
  induction h with
  | nil => rfl
  | cons first _ ih =>
    rw [List.mapM_cons, first, ih]
    rfl

lemma forall₂_of_mapM_eq_some {f : α → Option β} {as : List α} {bs : List β} (h : as.mapM f = some bs) :
    List.Forall₂ (fun a b => f a = some b) as bs := by
  induction as generalizing bs with
  | nil =>
    cases h
    exact .nil
  | cons a as ih =>
    rw [List.mapM_cons, Option.bind_eq_bind, Option.bind_eq_some_iff] at h
    obtain ⟨b, first, h⟩ := h
    obtain ⟨rest, later, same⟩ := Option.bind_eq_some_iff.mp h
    cases same
    exact .cons first (ih later)

lemma forall_left_of_forall₂ {P : α → Prop} {as : List α} {bs : List β}
    (h : List.Forall₂ (fun a _ => P a) as bs) : ∀ a ∈ as, P a := by
  induction h with
  | nil => simp
  | cons first _ ih => exact List.forall_mem_cons.mpr ⟨first, ih⟩

/-! ### Checks and folds -/

/-- A list of checks passes when every one does. -/
lemma forM_eq_ok {f : α → Except ε Unit} {as : List α} :
    as.forM f = .ok () ↔ ∀ a ∈ as, f a = .ok () := by
  induction as with
  | nil => simp
  | cons a as ih =>
    rw [List.forall_mem_cons, ← ih]
    exact check_bind_eq_ok

/-- A fold over a longer log goes on from the fold over its prefix. -/
lemma foldlM_snoc {f : β → α → Except ε β} {b : β} {as : List α} {a : α} :
    (as ++ [a]).foldlM f b = as.foldlM f b >>= fun b' => f b' a := by
  rw [List.foldlM_append]
  congr 1
  funext b'
  simp [List.foldlM_cons]

/-- Folds whose steps agree on a list agree. -/
lemma foldlM_congr {f g : β → α → Except ε β} {as : List α} {b : β} (agree : ∀ b, ∀ a ∈ as, f b a = g b a) :
    as.foldlM f b = as.foldlM g b := by
  induction as generalizing b with
  | nil => rfl
  | cons a as ih =>
    rw [List.foldlM_cons, List.foldlM_cons, agree b a List.mem_cons_self]
    exact bind_congr fun next => ih fun b a' mem => agree b a' (List.mem_cons_of_mem a mem)

/-- A fold over lists that are put together. -/
lemma foldlM_flatMap {γ : Type} {f : β → γ → Except ε β} {g : α → List γ} {as : List α} {b : β} :
    (as.flatMap g).foldlM f b = as.foldlM (fun b a => (g a).foldlM f b) b := by
  induction as generalizing b with
  | nil => rfl
  | cons a as ih =>
    rw [List.flatMap_cons, List.foldlM_append, List.foldlM_cons]
    exact bind_congr fun next => ih

/-- A fold keeps what each of its steps keeps. -/
lemma foldlM_keep {I : β → Prop} {f : β → α → Except ε β} {as : List α} {b b' : β} (start : I b)
    (keep : ∀ a ∈ as, ∀ b b', I b → f b a = .ok b' → I b') (h : as.foldlM f b = .ok b') : I b' := by
  induction as generalizing b with
  | nil =>
    cases h
    exact start
  | cons a as ih =>
    obtain ⟨next, step, rest⟩ := bind_eq_ok.mp h
    exact ih (keep a List.mem_cons_self b next start step)
      (fun a' mem => keep a' (List.mem_cons_of_mem a mem)) rest

/-- Every error of the program satisfies `E`. -/
def Raises (E : ε → Prop) (x : Except ε α) : Prop := ∀ err, x = .error err → E err

section Raises
variable {E : ε → Prop}

lemma Raises.pure (a : α) : Raises E (Pure.pure a : Except ε α) := nofun

lemma Raises.ok (a : α) : Raises E (.ok a : Except ε α) := nofun

lemma Raises.error {err : ε} (h : E err) : Raises E (.error err : Except ε α) := by
  rintro _ ⟨⟩
  exact h

/-- The rest of a sequence runs on what its first part returned. -/
lemma Raises.bind {x : Except ε α} {f : α → Except ε β} (first : Raises E x)
    (rest : ∀ a, x = .ok a → Raises E (f a)) : Raises E (x >>= f) := by
  intro err h
  cases hx : x with
  | error err' =>
    rw [hx] at h
    cases h
    exact first err hx
  | ok a =>
    rw [hx] at h
    exact rest a hx err h

lemma Raises.mapM {f : α → Except ε β} {as : List α} (each : ∀ a ∈ as, Raises E (f a)) :
    Raises E (as.mapM f) := by
  induction as with
  | nil => exact .pure []
  | cons a as ih =>
    rw [List.mapM_cons]
    have rest : Raises E (as.mapM f) := ih fun a' mem => each a' (List.mem_cons_of_mem a mem)
    exact (each a List.mem_cons_self).bind fun b _ => rest.bind fun bs _ => .pure (b :: bs)

lemma Raises.forM {f : α → Except ε PUnit} {as : List α} (each : ∀ a ∈ as, Raises E (f a)) :
    Raises E (as.forM f) := by
  induction as with
  | nil => exact .pure PUnit.unit
  | cons a as ih =>
    show Raises E (f a >>= fun _ => as.forM f)
    exact (each a List.mem_cons_self).bind fun _ _ =>
      ih fun a' mem => each a' (List.mem_cons_of_mem a mem)

lemma Raises.foldlM {f : β → α → Except ε β} {as : List α} {b : β}
    (each : ∀ b, ∀ a ∈ as, Raises E (f b a)) : Raises E (as.foldlM f b) := by
  induction as generalizing b with
  | nil => exact .pure b
  | cons a as ih =>
    rw [List.foldlM_cons]
    exact (each b a List.mem_cons_self).bind fun b' _ =>
      ih fun b'' a' mem => each b'' a' (List.mem_cons_of_mem a mem)

lemma Raises.anyM {f : α → Except ε Bool} {as : List α} (each : ∀ a ∈ as, Raises E (f a)) :
    Raises E (as.anyM f) := by
  induction as with
  | nil => exact .pure false
  | cons a as ih =>
    have rest : Raises E (as.anyM f) := ih fun a' mem => each a' (List.mem_cons_of_mem a mem)
    refine (each a List.mem_cons_self).bind fun b _ => ?_
    cases b with
    | true => exact .pure true
    | false => exact rest

end Raises

end Lib.Result
