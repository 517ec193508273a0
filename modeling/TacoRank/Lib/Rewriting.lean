import Mathlib.Data.List.Infix

/-!
# Rewriting passes over a text

A pass cuts a text into pieces, each kept or replaced. Over a text whose characters are marked as inserted or not,
the pass marks what it inserts. When every replacement leaves something behind, a pass joins no two parts of the
text: what stands in its output without a mark stood in its input without a mark (`rewrite_inside`).
-/

namespace Lib.Rewriting

/-- A part of a text: kept, or replaced by another text. -/
inductive Piece where
  | kept (text : List Char)
  | replaced (old new : List Char)

/-- The text that the pieces were cut from. -/
def source (pieces : List Piece) : List Char :=
  pieces.flatMap fun
    | .kept text => text
    | .replaced old _ => old

/-- The text after the pass. -/
def output (pieces : List Piece) : List Char :=
  pieces.flatMap fun
    | .kept text => text
    | .replaced _ new => new

/-- Every replacement leaves something behind. -/
def Proper (pieces : List Piece) : Prop := ∀ old new, .replaced old new ∈ pieces → new ≠ []

/-- A text with a mark on the characters that were inserted. -/
abbrev Marked := List (Char × Bool)

/-- A text with one mark. -/
def mark (inserted : Bool) (text : List Char) : Marked := text.map (·, inserted)

/-- The text without its marks. -/
def plain (m : Marked) : List Char := m.map Prod.fst

/-- The pass over a marked text. -/
def rewrite : List Piece → Marked → Marked
  | [], _ => []
  | .kept text :: pieces, m => m.take text.length ++ rewrite pieces (m.drop text.length)
  | .replaced old new :: pieces, m => mark true new ++ rewrite pieces (m.drop old.length)

section Marks
variable {text : List Char} {m l : Marked} {pieces : List Piece}

@[simp] lemma plain_mark (inserted : Bool) (text : List Char) : plain (mark inserted text) = text := by
  simp [plain, mark, Function.comp_def]

@[simp] lemma plain_append (a b : Marked) : plain (a ++ b) = plain a ++ plain b := List.map_append

lemma mem_mark {inserted : Bool} {p : Char × Bool} (mem : p ∈ mark inserted text) : p.1 ∈ text ∧ p.2 = inserted := by
  obtain ⟨c, member, rfl⟩ := List.mem_map.mp mem
  exact ⟨member, rfl⟩

/-! ### Lists -/

/-- A front of two lists ends in the first one or reaches into the second one. -/
lemma prefix_append_cases {α : Type} {l a b : List α} (front : l <+: a ++ b) :
    l <+: a ∨ ∃ y, l = a ++ y ∧ y <+: b := by
  obtain ⟨rest, whole⟩ := front
  rcases List.append_eq_append_iff.mp whole with ⟨y, rfl, _⟩ | ⟨y, rfl, tail⟩
  · exact .inl ⟨y, rfl⟩
  · exact .inr ⟨y, rfl, ⟨rest, tail.symm⟩⟩

/-- A part of two lists stands in one of them or crosses the border. -/
lemma infix_append_cases {α : Type} {l a b : List α} (inside : l <:+: a ++ b) :
    l <:+: a ∨ l <:+: b ∨ ∃ x y, l = x ++ y ∧ x <:+ a ∧ y <+: b := by
  induction a with
  | nil => exact .inr (.inl inside)
  | cons c a ih =>
    rcases List.infix_cons_iff.mp inside with front | later
    · rcases prefix_append_cases (a := c :: a) front with front | ⟨y, rfl, tail⟩
      · exact .inl front.isInfix
      · exact .inr (.inr ⟨c :: a, y, rfl, List.suffix_rfl, tail⟩)
    · rcases ih later with left | right | ⟨x, y, split, left, right⟩
      · exact .inl (List.infix_cons left)
      · exact .inr (.inl right)
      · exact .inr (.inr ⟨x, y, split, left.trans (List.suffix_cons c a), right⟩)

/-- Nothing unmarked stands in what was inserted. -/
lemma unmarked_nil (unmarked : ∀ p ∈ l, p.2 = false) (inside : ∀ p ∈ l, p ∈ mark true text) : l = [] := by
  cases l with
  | nil => rfl
  | cons p l =>
    have inserted := (mem_mark (inside p List.mem_cons_self)).2
    rw [unmarked p List.mem_cons_self] at inserted
    cases inserted

/-! ### One pass -/

/-- Without marks the pass is the replacement of the pieces. -/
lemma plain_rewrite (cut : source pieces = plain m) : plain (rewrite pieces m) = output pieces := by
  induction pieces generalizing m with
  | nil => rfl
  | cons piece pieces ih =>
    have rest (text : List Char) (whole : text ++ source pieces = plain m) :
        plain (m.take text.length) = text ∧ source pieces = plain (m.drop text.length) := by
      unfold plain at whole ⊢
      rw [List.map_take, List.map_drop, ← whole, List.take_left, List.drop_left]
      exact ⟨rfl, rfl⟩
    cases piece with
    | kept text =>
      obtain ⟨front, back⟩ := rest text cut
      rw [rewrite, plain_append, front, ih back]
      rfl
    | replaced old new =>
      rw [rewrite, plain_append, plain_mark, ih (rest old cut).2]
      rfl

lemma Proper.tail {piece : Piece} (proper : Proper (piece :: pieces)) : Proper pieces :=
  fun old new mem => proper old new (List.mem_cons_of_mem _ mem)

/-- An unmarked front of the output is a front of the input. -/
lemma rewrite_front (proper : Proper pieces) (unmarked : ∀ p ∈ l, p.2 = false) (front : l <+: rewrite pieces m) :
    l <+: m := by
  induction pieces generalizing l m with
  | nil =>
    rw [List.prefix_nil.mp front]
    exact List.nil_prefix
  | cons piece pieces ih =>
    cases piece with
    | kept text =>
      rcases prefix_append_cases front with front | ⟨y, rfl, tail⟩
      · exact front.trans (List.take_prefix _ _)
      · have back := ih proper.tail (fun p mem => unmarked p (List.mem_append_right _ mem)) tail
        have whole := List.prefix_append_right_inj (m.take text.length) |>.mpr back
        rwa [List.take_append_drop] at whole
    | replaced old new =>
      have nothing : l = [] := by
        cases l with
        | nil => rfl
        | cons p l =>
          cases new with
          | nil => exact absurd rfl (proper old [] List.mem_cons_self)
          | cons c new =>
            have first : p = (c, true) := (List.cons_prefix_cons.mp front).1
            have inserted := unmarked p List.mem_cons_self
            rw [first] at inserted
            cases inserted
      rw [nothing]
      exact List.nil_prefix

/-- What is unmarked in the output stood in the input. -/
theorem rewrite_inside (proper : Proper pieces) (unmarked : ∀ p ∈ l, p.2 = false) (inside : l <:+: rewrite pieces m) :
    l <:+: m := by
  induction pieces generalizing l m with
  | nil =>
    rw [List.infix_nil.mp inside]
    exact List.nil_infix
  | cons piece pieces ih =>
    cases piece with
    | kept text =>
      rcases infix_append_cases inside with left | right | ⟨x, y, rfl, left, right⟩
      · exact left.trans (List.take_prefix _ _).isInfix
      · exact (ih proper.tail unmarked right).trans (List.drop_suffix _ _).isInfix
      · have back := rewrite_front proper.tail (fun p mem => unmarked p (List.mem_append_right _ mem)) right
        obtain ⟨before, left⟩ := left
        obtain ⟨after, back⟩ := back
        refine ⟨before, after, ?_⟩
        rw [← List.take_append_drop text.length m, ← left, ← back]
        simp
    | replaced old new =>
      have later {l : Marked} (unmarked : ∀ p ∈ l, p.2 = false) (right : l <:+: rewrite pieces (m.drop old.length)) :
          l <:+: m := (ih proper.tail unmarked right).trans (List.drop_suffix _ _).isInfix
      rcases infix_append_cases inside with left | right | ⟨x, y, rfl, left, right⟩
      · rw [unmarked_nil unmarked fun p mem => left.subset mem]
        exact List.nil_infix
      · exact later unmarked right
      · have nothing : x = [] :=
          unmarked_nil (fun p mem => unmarked p (List.mem_append_left _ mem)) fun p mem => left.subset mem
        rw [nothing, List.nil_append] at unmarked ⊢
        exact later unmarked right.isInfix

end Marks

/-! ### Substitutions -/

/-- A substitution: at a place, behind a character and before a text, it may cut the front of the text into
pieces. It consumes something, and every replacement leaves something behind. -/
structure Substitution where
  find : Option Char → List Char → Option (List Piece)
  consumes : ∀ {before text found}, find before text = some found → source found ≠ []
  front : ∀ {before text found}, find before text = some found → source found <+: text
  proper : ∀ {before text found}, find before text = some found → Proper found

namespace Substitution

/-- The cut of a text from left to right, each place outside the last cut; `skip` characters belong to it. -/
def scan (sub : Substitution) : Nat → Option Char → List Char → List Piece
  | _, _, [] => []
  | 0, before, c :: cs =>
    match sub.find before (c :: cs) with
    | some found => found ++ sub.scan ((source found).length - 1) (some c) cs
    | none => .kept [c] :: sub.scan 0 (some c) cs
  | skip + 1, _, c :: cs => sub.scan skip (some c) cs

/-- The text after the substitution was used wherever it can be. -/
def apply (sub : Substitution) (text : List Char) : List Char := output (sub.scan 0 none text)

/-- The substitution on a marked text. -/
def applyMarked (sub : Substitution) (m : Marked) : Marked := rewrite (sub.scan 0 none (plain m)) m

/-- Every occurrence of a word, from left to right, is replaced. -/
def word (old new : List Char) (something : old ≠ []) (behind : new ≠ []) : Substitution where
  find _ text := if old <+: text then some [.replaced old new] else none
  consumes found := by
    obtain ⟨_, same⟩ := Option.ite_none_right_eq_some.mp found
    cases same
    rwa [show source [.replaced old new] = old from List.append_nil old]
  front found := by
    obtain ⟨here, same⟩ := Option.ite_none_right_eq_some.mp found
    cases same
    rwa [show source [.replaced old new] = old from List.append_nil old]
  proper found := by
    obtain ⟨_, same⟩ := Option.ite_none_right_eq_some.mp found
    cases same
    intro _ _ mem
    cases List.mem_singleton.mp mem
    exact behind

section Scan
variable {sub : Substitution} {before : Option Char} {text : List Char} {found : List Piece}

/-- The scan goes on behind what a cut consumed. -/
lemma scan_skip (sub : Substitution) (skip : Nat) (before : Option Char) (text : List Char) :
    ∃ before', sub.scan skip before text = sub.scan 0 before' (text.drop skip) := by
  induction text generalizing skip before with
  | nil => exact ⟨before, by rw [List.drop_nil]; cases skip <;> rfl⟩
  | cons c text ih =>
    cases skip with
    | zero => exact ⟨before, rfl⟩
    | succ skip => exact ih skip (some c)

lemma scan_found {c : Char} (here : sub.find before (c :: text) = some found) : ∃ before',
    sub.scan 0 before (c :: text) = found ++ sub.scan 0 before' ((c :: text).drop (source found).length) := by
  obtain ⟨before', later⟩ := scan_skip sub ((source found).length - 1) (some c) text
  refine ⟨before', ?_⟩
  have positive := List.length_pos_of_ne_nil (sub.consumes here)
  obtain ⟨n, size⟩ := Nat.exists_eq_add_of_lt positive
  rw [Nat.zero_add] at size
  rw [size, Nat.add_sub_cancel] at later
  rw [scan, here, size, List.drop_succ_cons]
  change found ++ sub.scan ((source found).length - 1) (some c) text = _
  rw [size, Nat.add_sub_cancel, later]

lemma scan_none {c : Char} (nothing : sub.find before (c :: text) = none) :
    sub.scan 0 before (c :: text) = .kept [c] :: sub.scan 0 (some c) text := by
  rw [scan, nothing]

/-- The pieces are a cut of the text, and proper. -/
theorem scan_spec (sub : Substitution) (before : Option Char) (text : List Char) :
    source (sub.scan 0 before text) = text ∧ Proper (sub.scan 0 before text) := by
  induction size : text.length using Nat.strong_induction_on generalizing before text with
  | h n ih =>
  cases text with
  | nil => exact ⟨rfl, fun _ _ mem => by cases mem⟩
  | cons c text =>
    cases here : sub.find before (c :: text) with
    | none =>
      obtain ⟨cut, proper⟩ := ih text.length (by rw [← size]; exact Nat.lt_succ_self _) (some c) text rfl
      rw [scan_none here]
      constructor
      · rw [source, List.flatMap_cons, ← source, cut]
        rfl
      · intro old new mem
        rcases List.mem_cons.mp mem with same | mem
        · cases same
        · exact proper old new mem
    | some found =>
      obtain ⟨before', whole⟩ := scan_found here
      have positive := List.length_pos_of_ne_nil (sub.consumes here)
      obtain ⟨cut, proper⟩ := ih ((c :: text).drop (source found).length).length
        (by rw [List.length_drop, ← size]; exact Nat.sub_lt (Nat.succ_pos _) positive) before' _ rfl
      rw [whole]
      constructor
      · rw [source, List.flatMap_append, ← source, ← source, cut]
        obtain ⟨rest, split⟩ := sub.front here
        rw [← split, List.drop_left]
      · intro old new mem
        rcases List.mem_append.mp mem with mem | mem
        · exact sub.proper here old new mem
        · exact proper old new mem

end Scan

section Marks
variable {sub : Substitution} {m l : Marked}

/-- Without marks it is the substitution. -/
@[simp] lemma plain_applyMarked (sub : Substitution) (m : Marked) : plain (sub.applyMarked m) = sub.apply (plain m) :=
  plain_rewrite (scan_spec sub none (plain m)).1

/-- A substitution joins no two parts of a text. -/
theorem applyMarked_inside (unmarked : ∀ p ∈ l, p.2 = false) (inside : l <:+: sub.applyMarked m) : l <:+: m :=
  rewrite_inside (scan_spec sub none (plain m)).2 unmarked inside

/-- The scan for a word leaves no occurrence of it outside of what it inserts. -/
lemma scan_word {old new : List Char} {something : old ≠ []} {behind : new ≠ []} (before : Option Char) (m : Marked)
    (unmarked : ∀ p ∈ l, p.2 = false) (same : plain l = old) :
    ¬ l <:+: rewrite ((word old new something behind).scan 0 before (plain m)) m := by
  induction size : m.length using Nat.strong_induction_on generalizing before m with
  | h n ih =>
  intro inside
  have empty : l ≠ [] := by
    rintro rfl
    exact something same.symm
  cases m with
  | nil => exact empty (List.infix_nil.mp inside)
  | cons p m =>
    rw [show plain (p :: m) = p.1 :: plain m from rfl] at inside
    have proper := (scan_spec (word old new something behind) before (p.1 :: plain m)).2
    by_cases here : old <+: p.1 :: plain m
    · have cut : (word old new something behind).find before (p.1 :: plain m) = some [.replaced old new] := if_pos here
      obtain ⟨before', whole⟩ := scan_found cut
      rw [whole, show source [.replaced old new] = old from List.append_nil old, List.singleton_append,
        rewrite] at inside
      have later : ¬ l <:+: rewrite ((word old new something behind).scan 0 before'
          ((p.1 :: plain m).drop old.length)) ((p :: m).drop old.length) := by
        have shorter := ih ((p :: m).drop old.length).length (by
          rw [List.length_drop, ← size]
          exact Nat.sub_lt (Nat.succ_pos _) (List.length_pos_of_ne_nil something)) before' _ rfl
        rwa [show plain ((p :: m).drop old.length) = (p.1 :: plain m).drop old.length from List.map_drop] at shorter
      rcases infix_append_cases inside with left | right | ⟨x, y, rfl, left, right⟩
      · exact empty (unmarked_nil unmarked fun q mem => left.subset mem)
      · exact later right
      · have nothing : x = [] :=
          unmarked_nil (fun q mem => unmarked q (List.mem_append_left _ mem)) fun q mem => left.subset mem
        rw [nothing, List.nil_append] at later
        exact later right.isInfix
    · have nowhere : (word old new something behind).find before (p.1 :: plain m) = none := if_neg here
      have step : rewrite ((word old new something behind).scan 0 before (p.1 :: plain m)) (p :: m) =
          p :: rewrite ((word old new something behind).scan 0 (some p.1) (plain m)) m := by
        rw [scan_none nowhere]
        rfl
      have found := inside
      rw [step] at found
      rcases List.infix_cons_iff.mp found with front | later
      · rw [← step] at front
        have stood := (rewrite_front proper unmarked front).map Prod.fst
        rw [show l.map Prod.fst = old from same] at stood
        exact here stood
      · exact ih m.length (by rw [← size]; exact Nat.lt_succ_self _) (some p.1) m rfl later

/-- A word that is replaced occurs only where something was inserted. -/
theorem word_clears {old new : List Char} {something : old ≠ []} {behind : new ≠ []} (unmarked : ∀ p ∈ l, p.2 = false)
    (same : plain l = old) : ¬ l <:+: (word old new something behind).applyMarked m :=
  scan_word none m unmarked same

end Marks

/-! ### Several substitutions -/

/-- One substitution after the other. -/
def applyAll (subs : List Substitution) (text : List Char) : List Char :=
  subs.foldl (fun text sub => sub.apply text) text

/-- One substitution after the other on a marked text. -/
def applyAllMarked (subs : List Substitution) (m : Marked) : Marked := subs.foldl (fun m sub => sub.applyMarked m) m

section All
variable {subs : List Substitution} {m l : Marked}

lemma plain_applyAllMarked (subs : List Substitution) (m : Marked) :
    plain (applyAllMarked subs m) = applyAll subs (plain m) := by
  induction subs generalizing m with
  | nil => rfl
  | cons sub subs ih => exact (ih (sub.applyMarked m)).trans (by rw [plain_applyMarked]; rfl)

lemma applyAllMarked_inside (unmarked : ∀ p ∈ l, p.2 = false) (inside : l <:+: applyAllMarked subs m) : l <:+: m := by
  induction subs generalizing m with
  | nil => exact inside
  | cons sub subs ih => exact applyMarked_inside unmarked (ih inside)

/-- A word that one of the substitutions replaces occurs only where something was inserted. -/
theorem applyAll_clears {old new : List Char} {something : old ≠ []} {behind : new ≠ []}
    (one : word old new something behind ∈ subs) (unmarked : ∀ p ∈ l, p.2 = false) (same : plain l = old) :
    ¬ l <:+: applyAllMarked subs m := by
  intro inside
  obtain ⟨earlier, later, rfl⟩ := List.append_of_mem one
  rw [applyAllMarked, List.foldl_append] at inside
  exact word_clears unmarked same (applyAllMarked_inside unmarked inside)

end All
end Substitution
end Lib.Rewriting
