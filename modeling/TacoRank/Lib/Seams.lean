import TacoRank.Lib.Regex

/-!
# Texts in parts

A text is set together from parts that space separates. A substitution whose matches neither start at a space nor
reach from one part into the next one can be used on each part alone (`applyAll_flatten`). A pattern may go over
space only next to a sign, so it is enough that no part starts or ends with one.
-/

namespace Lib.Rewriting.Substitution
open Lib.Regex

section Scan
variable {sub : Substitution} {a rest : List Char}

lemma behind_append (before : Option Char) (x y : List Char) :
    behind before (x ++ y) = behind (behind before x) y := by
  simp [behind, List.getLast?_append, Option.or_assoc]

/-- The scan goes on behind what a cut consumed, and sees its last character. -/
lemma scan_drop (sub : Substitution) {skip : Nat} {before : Option Char} {text : List Char}
    (inside : skip ≤ text.length) :
    sub.scan skip before text = sub.scan 0 (behind before (text.take skip)) (text.drop skip) := by
  induction text generalizing skip before with
  | nil =>
    obtain rfl := Nat.le_zero.mp inside
    rfl
  | cons c text ih =>
    cases skip with
    | zero => rfl
    | succ skip =>
      rw [scan, ih (Nat.le_of_succ_le_succ inside), List.take_succ_cons, List.drop_succ_cons, ← List.singleton_append,
        behind_append]
      rfl

lemma scan_cut {c : Char} {before : Option Char} {text : List Char} {found : List Piece}
    (here : sub.find before (c :: text) = some found) : sub.scan 0 before (c :: text) =
      found ++ sub.scan 0 (behind before (source found)) ((c :: text).drop (source found).length) := by
  have positive := List.length_pos_of_ne_nil (sub.consumes here)
  have front := sub.front here
  have inside := front.length_le
  have start : (c :: text).take (source found).length = source found := (List.prefix_iff_eq_take.mp front).symm
  obtain ⟨n, size⟩ := Nat.exists_eq_add_of_lt positive
  rw [Nat.zero_add] at size
  rw [size, List.length_cons] at inside
  rw [scan, here]
  change found ++ sub.scan ((source found).length - 1) (some c) text = _
  rw [size, Nat.add_sub_cancel, scan_drop sub (Nat.le_of_succ_le_succ inside), List.drop_succ_cons]
  rw [size, List.take_succ_cons] at start
  rw [← start, ← List.singleton_append, behind_append]
  rfl

/-- What is found in a part does not depend on what follows the part. -/
def Seam (sub : Substitution) (a rest : List Char) : Prop :=
  ∀ front back, a = front ++ back → back ≠ [] → ∀ before, sub.find before (back ++ rest) = sub.find before back

lemma Seam.drop (h : Seam sub a rest) (n : Nat) : Seam sub (a.drop n) rest := by
  intro front back split nonempty
  apply h (a.take n ++ front) back _ nonempty
  rw [List.append_assoc, ← split, List.take_append_drop]

/-- The scan of two parts. -/
lemma Seam.scan (h : Seam sub a rest) (before : Option Char) :
    sub.scan 0 before (a ++ rest) = sub.scan 0 before a ++ sub.scan 0 (behind before a) rest := by
  induction size : a.length using Nat.strong_induction_on generalizing before a with
  | h n ih =>
  cases a with
  | nil => rfl
  | cons c a =>
    have same := h [] (c :: a) rfl (List.cons_ne_nil _ _) before
    rw [List.cons_append] at same ⊢
    cases here : sub.find before (c :: a) with
    | none =>
      rw [here] at same
      have later := ih a.length (by simp [← size]) (h.drop 1) (some c) rfl
      rw [List.drop_succ_cons, List.drop_zero] at later
      have last : behind before (c :: a) = behind (some c) a := behind_append before [c] a
      rw [scan_none same, scan_none here, later, List.cons_append, last]
    | some found =>
      rw [here] at same
      have positive := List.length_pos_of_ne_nil (sub.consumes here)
      have front := sub.front here
      have shorter : ((c :: a).drop (source found).length).length < n := by
        rw [List.length_drop, size]
        have := front.length_le
        omega
      have whole : (c :: a).take (source found).length = source found := (List.prefix_iff_eq_take.mp front).symm
      rw [scan_cut same, scan_cut here, ← List.cons_append, List.drop_append_of_le_length front.length_le,
        ih _ shorter (h.drop _) _ rfl, List.append_assoc, ← behind_append]
      congr 3
      nth_rewrite 1 [← whole]
      rw [List.take_append_drop]

end Scan

section All
variable {subs : List Substitution} {text : List Char}

/-- Substitutions respect what each of them respects. -/
lemma applyAll_comm {f : List Char → List Char} (comm : ∀ sub ∈ subs, ∀ text, sub.apply (f text) = f (sub.apply text)) :
    applyAll subs (f text) = f (applyAll subs text) := by
  induction subs generalizing text with
  | nil => rfl
  | cons sub subs ih =>
    have later : applyAll subs (f (sub.apply text)) = f (applyAll subs (sub.apply text)) :=
      ih fun sub mem => comm sub (List.mem_cons_of_mem _ mem)
    simp only [applyAll, List.foldl_cons, comm sub List.mem_cons_self text] at later ⊢
    exact later

/-- Substitutions leave a text alone that each of them leaves alone. -/
lemma applyAll_fixed (fixed : ∀ sub ∈ subs, sub.apply text = text) : applyAll subs text = text := by
  induction subs with
  | nil => rfl
  | cons sub subs ih =>
    have later := ih fun sub mem => fixed sub (List.mem_cons_of_mem _ mem)
    simp only [applyAll, List.foldl_cons, fixed sub List.mem_cons_self] at later ⊢
    exact later

end All

/-! ### Parts -/

section Parts
variable (space sign : Char → Bool)

/-- A character that is neither a space nor a sign. -/
def Edge (c : Char) : Prop := space c = false ∧ sign c = false

/-- The text starts with a line break, and what follows its spaces, if anything, with an edge. -/
def Begins (text : List Char) : Prop :=
  ∃ blank tail, text = '\n' :: blank ++ tail ∧ (∀ b ∈ blank, space b = true) ∧ ∀ c ∈ tail.head?, Edge space sign c

/-- The text ends with an edge. -/
def Finishes (text : List Char) : Prop := ∃ front c, text = front ++ [c] ∧ Edge space sign c

/-- A substitution that starts at no space, replaces a match by a text between edges, and finds the same in a part
whatever part follows. -/
structure Tidy (sub : Substitution) : Prop where
  quiet : ∀ before c cs, space c = true → sub.find before (c :: cs) = none
  marks : ∀ before text found, sub.find before text = some found →
    ∃ old c new, found = [.replaced old (c :: new)] ∧ Edge space sign c ∧ Finishes space sign (c :: new)
  seam : ∀ a rest, Finishes space sign a → Begins space sign rest → ∀ before,
    sub.find before (a ++ rest) = sub.find before a

variable {space sign} {sub : Substitution} {a b rest : List Char}

lemma Finishes.ne_nil (h : Finishes space sign a) : a ≠ [] := by
  obtain ⟨front, c, rfl, _⟩ := h
  simp

lemma ends_of_last {c : Char} (last : a.getLast? = some c) (edge : Edge space sign c) : Finishes space sign a := by
  obtain ⟨front, rfl⟩ := List.getLast?_eq_some_iff.mp last
  exact ⟨front, c, rfl, edge⟩

lemma Finishes.append (h : Finishes space sign b) : Finishes space sign (a ++ b) := by
  obtain ⟨front, c, rfl, edge⟩ := h
  exact ⟨a ++ front, c, by rw [List.append_assoc], edge⟩

lemma Finishes.suffix (h : Finishes space sign (a ++ b)) (nonempty : b ≠ []) : Finishes space sign b := by
  obtain ⟨front, c, whole, edge⟩ := h
  rw [← List.dropLast_append_getLast nonempty, ← List.append_assoc] at whole
  obtain ⟨_, last⟩ := List.append_inj' whole rfl
  exact ⟨b.dropLast, c, by rw [← last, List.dropLast_append_getLast], edge⟩

lemma Tidy.seams (tidy : Tidy space sign sub) (ends : Finishes space sign a) (begins : Begins space sign rest) :
    Seam sub a rest := by
  intro front back split nonempty before
  rw [split] at ends
  exact tidy.seam back rest (ends.suffix nonempty) begins before

/-- The end of a text stays an edge. -/
lemma Tidy.scan_ends (tidy : Tidy space sign sub) (ends : Finishes space sign a) (before : Option Char) :
    Finishes space sign (output (sub.scan 0 before a)) := by
  induction size : a.length using Nat.strong_induction_on generalizing before a with
  | h n ih =>
  cases a with
  | nil => exact absurd rfl ends.ne_nil
  | cons c a =>
    cases here : sub.find before (c :: a) with
    | none =>
      rw [scan_none here]
      change Finishes space sign ([c] ++ output (sub.scan 0 (some c) a))
      by_cases last : a = []
      · subst last
        exact ends
      · exact (ih a.length (by simp [← size]) (ends.suffix (a := [c]) last) (some c) rfl).append
    | some found =>
      have positive := List.length_pos_of_ne_nil (sub.consumes here)
      have shorter : ((c :: a).drop (source found).length).length < n := by
        rw [List.length_drop, size]
        have := (sub.front here).length_le
        omega
      obtain ⟨old, d, new, pieces, _, inserted⟩ := tidy.marks _ _ _ here
      rw [scan_cut here]
      by_cases last : (c :: a).drop (source found).length = []
      · rw [last, pieces]
        simpa [output, scan] using inserted
      · rw [output, List.flatMap_append, ← output, ← output]
        rw [← List.take_append_drop (source found).length (c :: a)] at ends
        exact (ih _ shorter (ends.suffix last) _ rfl).append

/-- The front of a text stays. -/
lemma Tidy.scan_begins (tidy : Tidy space sign sub) {blank tail : List Char} (blanks : ∀ b ∈ blank, space b = true)
    (edge : ∀ c ∈ tail.head?, Edge space sign c) (before : Option Char) :
    ∃ tail', output (sub.scan 0 before (blank ++ tail)) = blank ++ tail' ∧ ∀ c ∈ tail'.head?, Edge space sign c := by
  induction blank generalizing before with
  | nil =>
    rw [List.nil_append]
    cases tail with
    | nil => exact ⟨[], rfl, edge⟩
    | cons c tail =>
      cases here : sub.find before (c :: tail) with
      | none =>
        rw [scan_none here]
        exact ⟨_, rfl, edge⟩
      | some found =>
        obtain ⟨old, d, new, rfl, inserted, _⟩ := tidy.marks _ _ _ here
        rw [scan_cut here]
        refine ⟨_, rfl, ?_⟩
        rintro _ ⟨⟩
        exact inserted
  | cons b blank ih =>
    have quiet := tidy.quiet before b (blank ++ tail) (blanks b List.mem_cons_self)
    obtain ⟨tail', rest, inner⟩ := ih (fun b mem => blanks b (List.mem_cons_of_mem _ mem)) (some b)
    rw [List.cons_append, scan_none quiet]
    refine ⟨tail', ?_, inner⟩
    rw [output, List.flatMap_cons, ← output, rest]
    rfl

variable (newline : space '\n' = true)
include newline

lemma Tidy.begins (tidy : Tidy space sign sub) (begins : Begins space sign rest) :
    Begins space sign (sub.apply rest) := by
  obtain ⟨blank, tail, rfl, blanks, edge⟩ := begins
  have spaces : ∀ b ∈ '\n' :: blank, space b = true := by simpa [newline] using blanks
  obtain ⟨tail', rest, inner⟩ := tidy.scan_begins spaces edge none
  exact ⟨blank, tail', rest, blanks, inner⟩

/-- A part that begins with a space is scanned in the same way wherever it stands. -/
lemma Tidy.scan_before (tidy : Tidy space sign sub) (begins : Begins space sign rest) (before : Option Char) :
    sub.scan 0 before rest = sub.scan 0 none rest := by
  obtain ⟨blank, tail, rfl, _⟩ := begins
  rw [List.cons_append, scan_none (tidy.quiet before _ _ newline), scan_none (tidy.quiet none _ _ newline)]

lemma Tidy.apply_append (tidy : Tidy space sign sub) (ends : Finishes space sign a) (begins : Begins space sign rest) :
    sub.apply (a ++ rest) = sub.apply a ++ sub.apply rest := by
  rw [apply, (tidy.seams ends begins).scan, tidy.scan_before newline begins, output, List.flatMap_append]
  rfl

/-- Tidy substitutions work on two parts alone. -/
lemma applyAll_append {subs : List Substitution} (tidy : ∀ sub ∈ subs, Tidy space sign sub)
    (ends : Finishes space sign a) (begins : Begins space sign rest) :
    applyAll subs (a ++ rest) = applyAll subs a ++ applyAll subs rest := by
  induction subs generalizing a rest with
  | nil => rfl
  | cons sub subs ih =>
    have first := tidy sub List.mem_cons_self
    have later := ih (fun sub mem => tidy sub (List.mem_cons_of_mem _ mem)) (first.scan_ends ends none)
      (first.begins newline begins)
    simp only [applyAll, List.foldl_cons] at later ⊢
    rw [first.apply_append newline ends begins]
    exact later

omit newline in
/-- A space alone stays. -/
lemma applyAll_space {subs : List Substitution} (tidy : ∀ sub ∈ subs, Tidy space sign sub) {c : Char}
    (spaced : space c = true) : applyAll subs [c] = [c] := by
  refine applyAll_fixed fun sub mem => ?_
  rw [apply, scan_none ((tidy sub mem).quiet none c [] spaced)]
  rfl

/-- Tidy substitutions work on each part alone. -/
theorem applyAll_flatten {subs : List Substitution} (tidy : ∀ sub ∈ subs, Tidy space sign sub)
    {parts : List (List Char)} (ends : Finishes space sign a)
    (walled : ∀ part ∈ parts, Begins space sign part ∧ Finishes space sign part) :
    applyAll subs (a ++ parts.flatten) = applyAll subs a ++ (parts.map (applyAll subs)).flatten := by
  induction parts generalizing a with
  | nil => simp
  | cons part parts ih =>
    obtain ⟨begins, last⟩ := walled part List.mem_cons_self
    rw [List.flatten_cons, ← List.append_assoc,
      ih last.append fun part mem => walled part (List.mem_cons_of_mem _ mem),
      applyAll_append newline tidy ends begins, List.append_assoc]
    rfl

end Parts

/-! ### What is inserted -/

section Inserted
variable {subs : List Substitution} {sub : Substitution} {new text word : List Char} {m : Marked}

/-- Every replacement inserts the text. -/
def Inserts (new : List Char) (sub : Substitution) : Prop :=
  ∀ before text found, sub.find before text = some found → ∀ old new', .replaced old new' ∈ found → new' = new

lemma Inserts.scan (h : Inserts new sub) {skip : Nat} {before : Option Char} {old new' : List Char}
    (mem : .replaced old new' ∈ sub.scan skip before text) : new' = new := by
  induction text generalizing skip before with
  | nil =>
    cases skip <;> cases mem
  | cons c text ih =>
    cases skip with
    | succ skip => exact ih mem
    | zero =>
      rw [Substitution.scan] at mem
      split at mem
      next found here =>
        rcases List.mem_append.mp mem with first | later
        · exact h _ _ _ here old new' first
        · exact ih later
      next =>
        rcases List.mem_cons.mp mem with first | later
        · cases first
        · exact ih later

lemma mem_rewrite {pieces : List Piece} {p : Char × Bool} (mem : p ∈ rewrite pieces m) :
    p ∈ m ∨ ∃ old new, .replaced old new ∈ pieces ∧ p ∈ mark true new := by
  induction pieces generalizing m with
  | nil => cases mem
  | cons piece pieces ih =>
    have later {rest : Marked} (part : ∀ q ∈ rest, q ∈ m) (inner : p ∈ rewrite pieces rest) :
        p ∈ m ∨ ∃ old new, .replaced old new ∈ piece :: pieces ∧ p ∈ mark true new := by
      rcases ih inner with kept | ⟨old, new, listed, inserted⟩
      · exact .inl (part p kept)
      · exact .inr ⟨old, new, List.mem_cons_of_mem _ listed, inserted⟩
    cases piece with
    | kept text =>
      rcases List.mem_append.mp mem with first | inner
      · exact .inl (List.mem_of_mem_take first)
      · exact later (fun q => List.mem_of_mem_drop) inner
    | replaced old new =>
      rcases List.mem_append.mp mem with first | inner
      · exact .inr ⟨old, new, List.mem_cons_self, first⟩
      · exact later (fun q => List.mem_of_mem_drop) inner

/-- What substitutions put into a text is what they insert. -/
lemma mem_applyAllMarked (inserts : ∀ sub ∈ subs, Inserts new sub) {p : Char × Bool}
    (mem : p ∈ applyAllMarked subs m) : p ∈ m ∨ p ∈ mark true new := by
  induction subs generalizing m with
  | nil => exact .inl mem
  | cons sub subs ih =>
    rcases ih (fun sub mem => inserts sub (List.mem_cons_of_mem _ mem)) (m := sub.applyMarked m) mem with before | after
    · rcases mem_rewrite before with kept | ⟨old, new', listed, inserted⟩
      · exact .inl kept
      · rw [(inserts sub List.mem_cons_self).scan listed] at inserted
        exact .inr inserted
    · exact .inr after

lemma applyAll_eq_plain : applyAll subs text = plain (applyAllMarked subs (mark false text)) := by
  rw [plain_applyAllMarked, plain_mark]

/-- A character of the result stood in the text or is inserted. -/
lemma mem_applyAll (inserts : ∀ sub ∈ subs, Inserts new sub) {c : Char} (mem : c ∈ applyAll subs text) :
    c ∈ text ∨ c ∈ new := by
  rw [applyAll_eq_plain] at mem
  obtain ⟨p, listed, rfl⟩ := List.mem_map.mp mem
  rcases mem_applyAllMarked inserts listed with kept | inserted
  · exact .inl (mem_mark kept).1
  · exact .inr (mem_mark inserted).1

/-- A word of other characters than the inserted ones stands in the result only if it stood in the text. -/
lemma infix_applyAll (inserts : ∀ sub ∈ subs, Inserts new sub) (other : ∀ c ∈ word, c ∉ new)
    (inside : word <:+: applyAll subs text) : word <:+: text := by
  rw [applyAll_eq_plain, plain, List.infix_map_iff] at inside
  obtain ⟨l, inside, rfl⟩ := inside
  have unmarked : ∀ p ∈ l, p.2 = false := by
    intro p mem
    rcases mem_applyAllMarked inserts (inside.subset mem) with kept | inserted
    · exact (mem_mark kept).2
    · exact absurd (mem_mark inserted).1 (other p.1 (List.mem_map_of_mem mem))
  have stood := (applyAllMarked_inside unmarked inside).map Prod.fst
  rwa [show (mark false text).map Prod.fst = text from plain_mark false text] at stood

end Inserted
end Lib.Rewriting.Substitution

namespace Lib.Regex
open Rewriting Substitution

/-! ### Patterns between parts -/

/-- No class of the pattern has the character. -/
def avoids (c : Char) : Regex → Bool
  | .empty => true
  | .one p => !p c
  | .boundary => true
  | .seq r s => avoids c r && avoids c s
  | .alt r s => avoids c r && avoids c s
  | .many _ p => !p c

/-- No match starts at the character. -/
def rejects (c : Char) : Regex → Bool
  | .empty => false
  | .one p => !p c
  | .boundary => false
  | .seq .boundary s => rejects c s
  | .seq r _ => rejects c r
  | .alt r s => rejects c r && rejects c s
  | .many _ _ => false

section Runs
variable {word space : Char → Bool} {r s : Regex} {c : Char}

lemma run_rejects (h : rejects c r = true) (before : Option Char) (cs : List Char) :
    run word r before (c :: cs) = [] := by
  fun_induction rejects c r generalizing before with
  | case1 | case3 | case7 => cases h
  | case2 p => simpa [run] using h
  | case4 s ih =>
    simp only [run, List.flatMap_eq_nil_iff]
    intro p mem
    split at mem
    · rw [List.mem_singleton] at mem
      rw [mem, ih h, List.map_nil]
    · cases mem
  | case5 r s _ ih => simp [run, ih h]
  | case6 r s ihr ihs =>
    obtain ⟨left, right⟩ := Bool.and_eq_true_iff.mp h
    simp [run, ihr left, ihs right]

/-- What follows a match, with a text behind it. -/
def followed (rest : List Char) (p : List Char × List Char) : List Char × List Char := (p.1, p.2 ++ rest)

/-- A pattern that avoids a character does not see what follows it. -/
lemma run_avoids {rest : List Char} (inside : word c = false) (h : avoids c r = true) (before : Option Char)
    (a : List Char) : run word r before (a ++ c :: rest) = (run word r before a).map (followed (c :: rest)) := by
  induction r generalizing before a with
  | empty => rfl
  | one p =>
    cases a with
    | nil => simpa [run, avoids] using h
    | cons d a =>
      simp only [run, List.cons_append]
      split <;> rfl
  | boundary =>
    have same : (a ++ c :: rest).head?.any word = a.head?.any word := by
      cases a with
      | nil => exact inside
      | cons => rfl
    simp only [run, same]
    split <;> rfl
  | seq r s ihr ihs =>
    obtain ⟨left, right⟩ := Bool.and_eq_true_iff.mp h
    simp only [run, ihr left, List.flatMap_map, List.map_flatMap]
    congr 1
    funext p
    simp only [followed, ihs right, List.map_map]
    rfl
  | alt r s ihr ihs =>
    obtain ⟨left, right⟩ := Bool.and_eq_true_iff.mp h
    simp only [run, ihr left, ihs right, List.map_append]
  | many greedy p =>
    have outside : p c = false := by simpa [avoids] using h
    have stop : repeats greedy p (c :: rest) = [([], c :: rest)] := by
      rw [repeats, outside]
      rfl
    induction a with
    | nil => exact stop
    | cons d a ih =>
      change repeats greedy p (d :: (a ++ c :: rest)) = (repeats greedy p (d :: a)).map (followed (c :: rest))
      have later : repeats greedy p (a ++ c :: rest) = (repeats greedy p a).map (followed (c :: rest)) := ih
      unfold repeats
      split
      · split <;> simp [later, followed, Function.comp_def]
      · rfl

/-- Before a pattern that starts at no space, space is matched as a whole. -/
lemma run_spaces {blank cs : List Char} (blanks : ∀ b ∈ blank, space b = true)
    (next : ∀ d, space d = true → rejects d s = true) (stop : ∀ d ∈ cs.head?, space d = false)
    (before : Option Char) : run word (.seq (.many true space) s) before (blank ++ cs) =
      (run word s (behind before blank) cs).map fun (y, e) => (blank ++ y, e) := by
  induction blank generalizing before with
  | nil =>
    have whole : repeats true space cs = [([], cs)] := by
      cases cs with
      | nil => rfl
      | cons d cs =>
        rw [repeats, stop d rfl]
        rfl
    simp [run, whole, behind]
  | cons b blank ih =>
    have later := ih (fun b mem => blanks b (List.mem_cons_of_mem _ mem)) (some b)
    have here : run word s before (b :: (blank ++ cs)) = [] :=
      run_rejects (next b (blanks b List.mem_cons_self)) before (blank ++ cs)
    have last : behind before (b :: blank) = behind (some b) blank := behind_append before [b] blank
    simp only [run] at later here ⊢
    rw [List.cons_append, repeats, blanks b List.mem_cons_self, last]
    simp only [if_true, List.flatMap_append, List.flatMap_map, List.flatMap_singleton]
    have nothing : behind before [] = before := by simp [behind]
    rw [nothing, here, List.map_nil, List.append_nil]
    have step : ∀ x : List Char, behind before (b :: x) = behind (some b) x := behind_append before [b]
    have longer := congrArg (List.map fun p => (b :: p.1, p.2)) later
    simpa only [step, List.cons_append, List.map_flatMap, List.map_map, Function.comp_def] using longer

end Runs

section Assignments
variable {word space sign : Char → Bool} {r s value : Regex}

/-- In a part that ends with an edge, or behind the last one, the pattern does not see the part that follows. -/
def Closed (word space sign : Char → Bool) (r : Regex) : Prop :=
  ∀ a rest, (a ≠ [] → Finishes space sign a) → Begins space sign rest → ∀ before,
    run word r before (a ++ rest) = (run word r before a).map (followed rest)

lemma closed_of_avoids (inside : word '\n' = false) (h : avoids '\n' r = true) : Closed word space sign r := by
  rintro a rest _ ⟨blank, tail, rfl, _⟩ before
  exact run_avoids inside h before a

lemma Closed.seq (hr : Closed word space sign r) (hs : Closed word space sign s) :
    Closed word space sign (.seq r s) := by
  intro a rest ends begins before
  simp only [run, hr a rest ends begins before, List.flatMap_map, List.map_flatMap]
  apply List.flatMap_congr
  rintro ⟨x, e⟩ mem
  have whole := run_split mem
  have tail : e ≠ [] → Finishes space sign e := by
    intro nonempty
    refine Finishes.suffix (a := x) ?_ nonempty
    rw [whole]
    apply ends
    rintro rfl
    exact nonempty (List.append_eq_nil_iff.mp whole).2
  simp only [followed, hs e rest tail begins, List.map_map, Function.comp_def]

/-- The spaces at the start of a text that ends with an edge. -/
lemma Finishes.blank {a : List Char} (ends : Finishes space sign a) :
    ∃ blank c tail, a = blank ++ c :: tail ∧ (∀ b ∈ blank, space b = true) ∧ space c = false := by
  obtain ⟨front, last, rfl, edge⟩ := ends
  induction front with
  | nil => exact ⟨[], last, [], rfl, by simp, edge.1⟩
  | cons b front ih =>
    by_cases spaced : space b = true
    · obtain ⟨blank, c, tail, whole, blanks, stop⟩ := ih
      exact ⟨b :: blank, c, tail, by rw [List.cons_append, whole]; rfl, by simpa [spaced] using blanks, stop⟩
    · exact ⟨[], b, front ++ [last], rfl, by simp, by simpa using spaced⟩

/-- In a part that ends with an edge, space ends as well. -/
lemma run_spaces_ends {a rest : List Char} (next : ∀ d, space d = true → rejects d s = true)
    (ends : Finishes space sign a)
    (later : ∀ blank c tail, a = blank ++ c :: tail → ∀ before,
      run word s before (c :: tail ++ rest) = (run word s before (c :: tail)).map (followed rest))
    (before : Option Char) : run word (.seq (.many true space) s) before (a ++ rest) =
      (run word (.seq (.many true space) s) before a).map (followed rest) := by
  obtain ⟨blank, c, tail, rfl, blanks, stop⟩ := Finishes.blank ends
  rw [List.append_assoc, run_spaces blanks next (by rintro d ⟨⟩; exact stop),
    run_spaces blanks next (by rintro d ⟨⟩; exact stop), later blank c tail rfl]
  simp only [List.map_map, Function.comp_def, followed]

/-- A sign and a value with space around the sign: the sign is in the part, so the value is. -/
lemma closed_assignment (newline : space '\n' = true) (inside : word '\n' = false)
    (signs : ∀ d, space d = true → sign d = false) (fresh : avoids '\n' value = true)
    (next : ∀ d, space d = true → rejects d value = true) :
    Closed word space sign (.seq (.many true space) (.seq (.one sign) (.seq (.many true space) value))) := by
  have unsigned : ∀ d, space d = true →
      rejects d (.seq (.one sign) (.seq (.many true space) value)) = true := by
    intro d spaced
    simp [rejects, signs d spaced]
  intro a rest ends begins before
  by_cases empty : a = []
  · subst empty
    obtain ⟨blank, tail, rfl, blanks, edge⟩ := begins
    let spaced : Regex := .seq (.many true space) (.seq (.one sign) (.seq (.many true space) value))
    let bare : Regex := .seq (.one sign) (.seq (.many true space) value)
    have front : run word spaced before ('\n' :: blank ++ tail) =
        (run word bare (behind before ('\n' :: blank)) tail).map fun (y, e) => ('\n' :: blank ++ y, e) :=
      run_spaces (by simpa [newline] using blanks) unsigned (fun d first => (edge d first).1) before
    have here : run word spaced before ([] ++ []) =
        (run word bare (behind before []) []).map fun (y, e) => ([] ++ y, e) :=
      run_spaces (by simp) unsigned (by simp) before
    have none : ∀ before, run word (.seq (.one sign) (.seq (.many true space) value)) before tail = [] := by
      intro before
      cases tail with
      | nil => rfl
      | cons c tail => exact run_rejects (by simp [rejects, (edge c rfl).2]) before tail
    rw [List.nil_append] at here
    rw [List.nil_append, front, none, here]
    rfl
  · refine run_spaces_ends unsigned (ends empty) ?_ before
    rintro blank c tail rfl before
    by_cases signed : sign c = true
    · have inner : Finishes space sign tail := by
        have last := (ends empty).suffix (List.cons_ne_nil c tail)
        refine last.suffix (a := [c]) ?_
        rintro rfl
        -- the last character is no sign
        obtain ⟨front, d, whole, edge⟩ := last
        have same := congrArg List.getLast? whole
        rw [List.getLast?_singleton, List.getLast?_concat] at same
        obtain rfl := Option.some.inj same
        rw [edge.2] at signed
        cases signed
      have value : run word (.seq (.many true space) value) (some c) (tail ++ rest) =
          (run word (.seq (.many true space) value) (some c) tail).map (followed rest) := run_spaces_ends next inner (by
        obtain ⟨blank, text, rfl, _⟩ := begins
        intro _ c tail _ before
        exact run_avoids inside fresh before (c :: tail)) (some c)
      have first : behind before [c] = some c := rfl
      rw [run, run, List.cons_append, run, run, if_pos signed, if_pos signed]
      simp only [List.flatMap_singleton, first, value, List.map_map]
      rfl
    · have unsigned : rejects c (.seq (.one sign) (.seq (.many true space) value)) = true := by
        simpa [rejects] using signed
      rw [List.cons_append, run_rejects unsigned, run_rejects unsigned]
      rfl

/-- A substitution of matches as a whole. -/
lemma tidy_sub {new : List Char} {something : new ≠ []} (quiet : ∀ d, space d = true → rejects d r = true)
    (closed : Closed word space sign r) (begins : ∃ c tail, new = c :: tail ∧ Edge space sign c)
    (ends : Finishes space sign new) : Tidy space sign (sub word [.put r new something]) := by
  have found : ∀ before cs, (sub word [.put r new something]).find before cs =
      ((run word r before cs).head?.map fun p => [Piece.replaced p.1 new]).filter fun found => source found != [] := by
    intro before cs
    change firstCut word [.put r new something] before cs = _
    simp [firstCut, cuts, Part.put, Part.piece, List.head?_map, ← List.map_eq_flatMap]
  constructor
  · intro before c cs spaced
    rw [found, run_rejects (quiet c spaced)]
    rfl
  · intro before text pieces here
    rw [found] at here
    obtain ⟨same, _⟩ := Option.filter_eq_some_iff.mp here
    obtain ⟨p, _, rfl⟩ := Option.map_eq_some_iff.mp same
    obtain ⟨c, tail, rfl, edge⟩ := begins
    exact ⟨p.1, c, tail, rfl, edge, ends⟩
  · intro a rest last first before
    rw [found, found, closed a rest (fun _ => last) first before, List.head?_map, Option.map_map]
    rfl

/-- The substitution inserts its text. -/
lemma inserts_sub {new : List Char} {something : new ≠ []} : Inserts new (sub word [.put r new something]) := by
  intro before text found here old new' mem
  have listed := (firstCut_spec here).1
  simp only [cuts, List.mem_flatMap, List.mem_map] at listed
  obtain ⟨p, _, pieces, last, rfl⟩ := listed
  rw [List.mem_singleton.mp last, List.mem_singleton] at mem
  cases mem
  rfl

/-- A match depends on the character before it only as far as it is one of a word. -/
lemma run_before {before before' : Option Char} (same : before.any word = before'.any word) (cs : List Char) :
    run word r before cs = run word r before' cs := by
  induction r generalizing before before' cs with
  | empty | one | many => cases cs <;> rfl
  | boundary => simp only [run, same]
  | seq r s ihr ihs =>
    simp only [run, ihr same]
    apply List.flatMap_congr
    rintro ⟨x, e⟩ _
    have last : (behind before x).any word = (behind before' x).any word := by
      unfold behind
      cases x.getLast? with
      | none => exact same
      | some c => rfl
    rw [ihs last]
  | alt r s ihr ihs => simp only [run, ihr same, ihs same]

end Assignments

section Search
variable {word word' : Char → Bool} {r : Regex} {before : Option Char} {cs : List Char}

/-- A match depends on the characters of the text alone. -/
lemma run_congr (last : ∀ c ∈ before, word c = word' c) (same : ∀ c ∈ cs, word c = word' c) :
    run word r before cs = run word' r before cs := by
  induction r generalizing before cs with
  | empty | one | many => cases cs <;> rfl
  | boundary =>
    have first : before.any word = before.any word' := by
      cases before with
      | none => rfl
      | some c => exact last c rfl
    have next : cs.head?.any word = cs.head?.any word' := by
      cases cs with
      | nil => rfl
      | cons c cs => exact same c List.mem_cons_self
    simp only [run, first, next]
  | seq r s ihr ihs =>
    simp only [run, ihr last same]
    apply List.flatMap_congr
    rintro ⟨x, e⟩ mem
    have whole := run_split mem
    rw [ihs]
    · intro c inside
      rcases Option.or_eq_some_iff.mp inside with matched | ⟨_, first⟩
      · apply same
        rw [← whole]
        exact List.mem_append_left _ (List.mem_of_getLast? matched)
      · exact last c first
    · intro c inside
      apply same
      rw [← whole]
      exact List.mem_append_right _ inside
  | alt r s ihr ihs => simp only [run, ihr last same, ihs last same]

lemma search_congr (last : ∀ c ∈ before, word c = word' c) (same : ∀ c ∈ cs, word c = word' c) :
    search word r before cs = search word' r before cs := by
  induction cs generalizing before with
  | nil => rw [search, search, run_congr last same]
  | cons c cs ih =>
    have first : ∀ d ∈ some c, word d = word' d := by
      rintro _ ⟨⟩
      exact same c List.mem_cons_self
    have later := ih first fun d mem => same d (List.mem_cons_of_mem _ mem)
    rw [search, search, run_congr last same, later]

/-- A text without a match stays. -/
lemma apply_of_search {new : List Char} {something : new ≠ []} (none : search word r none cs = false) :
    (sub word [.put r new something]).apply cs = cs := by
  have scan : ∀ before, search word r before cs = false →
      output ((sub word [.put r new something]).scan 0 before cs) = cs := by
    clear none
    induction cs with
    | nil => intros; rfl
    | cons c cs ih =>
      intro before nothing
      rw [search, Bool.or_eq_false_iff] at nothing
      have nowhere : run word r before (c :: cs) = [] := by simpa using nothing.1
      have here : (sub word [.put r new something]).find before (c :: cs) = Option.none := by
        change firstCut word _ _ _ = Option.none
        simp only [firstCut, cuts, Part.put, nowhere]
        rfl
      rw [scan_none here]
      exact congrArg (c :: ·) (ih (some c) nothing.2)
  exact scan Option.none none

end Search
end Lib.Regex
