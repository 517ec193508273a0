import TacoRank.Lib.Rewriting

/-!
# Regular expressions

The fragment of a backtracking matcher in which only a class of characters is repeated. `run` lists the ways to match at
a place in the order in which the matcher tries them, so that the first one is the match; a pattern in parts keeps some
of what it matched and replaces the rest (`sub`).
-/

namespace Lib
open Rewriting

/-- A pattern. `many` repeats a class of characters: as often as possible first, or as rarely as possible first. -/
inductive Regex where
  | empty
  | one (p : Char → Bool)
  | boundary
  | seq (r s : Regex)
  | alt (r s : Regex)
  | many (greedy : Bool) (p : Char → Bool)

namespace Regex

/-- The fronts of a text that a repeated class matches, each with what follows. -/
def repeats (greedy : Bool) (p : Char → Bool) : List Char → List (List Char × List Char)
  | [] => [([], [])]
  | c :: cs =>
    if p c then
      if greedy then (repeats greedy p cs).map (fun (x, rest) => (c :: x, rest)) ++ [([], c :: cs)]
      else ([], c :: cs) :: (repeats greedy p cs).map (fun (x, rest) => (c :: x, rest))
    else [([], c :: cs)]

/-- The character before what follows a match. -/
def behind (before : Option Char) (matched : List Char) : Option Char := matched.getLast?.or before

/-- The matches behind a character and at the front of a text, each with what follows, in the order of the matcher. A
boundary lies between a character of a word and another one or an end of the text. -/
def run (word : Char → Bool) : Regex → Option Char → List Char → List (List Char × List Char)
  | .empty, _, cs => [([], cs)]
  | .one _, _, [] => []
  | .one p, _, c :: cs => if p c then [([c], cs)] else []
  | .boundary, before, cs => if before.any word != cs.head?.any word then [([], cs)] else []
  | .seq r s, before, cs => (run word r before cs).flatMap fun (x, rest) =>
      (run word s (behind before x) rest).map fun (y, rest) => (x ++ y, rest)
  | .alt r s, before, cs => run word r before cs ++ run word s before cs
  | .many greedy p, _, cs => repeats greedy p cs

/-- A pattern matches somewhere in a text. -/
def search (word : Char → Bool) (r : Regex) : Option Char → List Char → Bool
  | before, [] => (run word r before []) != []
  | before, c :: cs => (run word r before (c :: cs)) != [] || search word r (some c) cs

/-! ### Patterns -/

/-- A text as a pattern, under an equality of characters. -/
def text (same : Char → Char → Bool) (cs : List Char) : Regex := cs.foldr (fun c r => .seq (.one (same c)) r) .empty

/-- One pattern after the other. -/
def all (rs : List Regex) : Regex := rs.foldr .seq .empty

/-- The first one of several patterns that matches. -/
def any : List Regex → Regex
  | [] => .empty
  | [r] => r
  | r :: rs => .alt r (any rs)

/-- A pattern or nothing. -/
def optional (r : Regex) : Regex := .alt r .empty

/-- A class, a number of times. -/
def times (n : Nat) (p : Char → Bool) : Regex := all (List.replicate n (.one p))

/-- A class, a number of times or more often. -/
def atLeast (n : Nat) (p : Char → Bool) : Regex := .seq (times n p) (.many true p)

/-! ### What a match is -/

section Run
variable {word : Char → Bool}

lemma repeats_split {greedy : Bool} {p : Char → Bool} {cs x rest : List Char} (mem : (x, rest) ∈ repeats greedy p cs) :
    x ++ rest = cs := by
  induction cs generalizing x with
  | nil =>
    cases List.mem_singleton.mp mem
    rfl
  | cons c cs ih =>
    have longer (later : (x, rest) ∈ (repeats greedy p cs).map fun (x, rest) => (c :: x, rest)) :
        x ++ rest = c :: cs := by
      obtain ⟨⟨y, rest'⟩, inner, same⟩ := List.mem_map.mp later
      cases same
      rw [List.cons_append, ih inner]
    have nothing (same : (x, rest) = ([], c :: cs)) : x ++ rest = c :: cs := by
      cases same
      rfl
    unfold repeats at mem
    split at mem
    · split at mem
      · rcases List.mem_append.mp mem with later | stop
        · exact longer later
        · exact nothing (List.mem_singleton.mp stop)
      · rcases List.mem_cons.mp mem with stop | later
        · exact nothing stop
        · exact longer later
    · exact nothing (List.mem_singleton.mp mem)

/-- A match is a front of the text. -/
lemma run_split {r : Regex} {before : Option Char} {cs x rest : List Char} (mem : (x, rest) ∈ run word r before cs) :
    x ++ rest = cs := by
  induction r generalizing before cs x rest with
  | empty =>
    cases List.mem_singleton.mp mem
    rfl
  | one p =>
    cases cs with
    | nil => cases mem
    | cons c cs =>
      unfold run at mem
      split at mem
      · cases List.mem_singleton.mp mem
        rfl
      · cases mem
  | boundary =>
    unfold run at mem
    split at mem
    · cases List.mem_singleton.mp mem
      rfl
    · cases mem
  | seq r s ihr ihs =>
    obtain ⟨⟨y, middle⟩, first, second⟩ := List.mem_flatMap.mp mem
    obtain ⟨⟨z, end'⟩, second, same⟩ := List.mem_map.mp second
    cases same
    rw [List.append_assoc, ihs second, ihr first]
  | alt r s ihr ihs =>
    rcases List.mem_append.mp mem with left | right
    · exact ihr left
    · exact ihs right
  | many greedy p => exact repeats_split mem

end Run

/-! ### Substitution -/

/-- A part of a pattern: it is kept, or replaced by a text that is not empty. -/
structure Part where
  regex : Regex
  new : Option (List Char)
  proper : new ≠ some []

/-- A part that is kept. -/
def Part.keep (r : Regex) : Part := ⟨r, none, (Option.some_ne_none _).symm⟩

/-- A part that is replaced. -/
def Part.put (r : Regex) (new : List Char) (something : new ≠ []) : Part :=
  ⟨r, some new, fun same => something (Option.some.inj same)⟩

/-- What becomes of the text that a part matched. -/
def Part.piece (part : Part) (matched : List Char) : Piece :=
  match part.new with
  | none => .kept matched
  | some new => .replaced matched new

/-- The matches of the parts, one after the other, in the order of the matcher. -/
def cuts (word : Char → Bool) : List Part → Option Char → List Char → List (List Piece)
  | [], _, _ => [[]]
  | part :: parts, before, cs => (run word part.regex before cs).flatMap fun (x, rest) =>
      (cuts word parts (behind before x) rest).map (part.piece x :: ·)

/-- The first match, if it consumes something. -/
def firstCut (word : Char → Bool) (parts : List Part) (before : Option Char) (cs : List Char) : Option (List Piece) :=
  (cuts word parts before cs).head?.filter fun found => source found != []

section Cuts
variable {word : Char → Bool} {parts : List Part} {before : Option Char} {cs : List Char} {found : List Piece}

@[simp] lemma source_piece (part : Part) (matched : List Char) : source [part.piece matched] = matched := by
  unfold Part.piece
  split <;> exact List.append_nil matched

lemma cuts_spec (mem : found ∈ cuts word parts before cs) : source found <+: cs ∧ Proper found := by
  induction parts generalizing before cs found with
  | nil =>
    cases List.mem_singleton.mp mem
    exact ⟨List.nil_prefix, fun _ _ mem => by cases mem⟩
  | cons part parts ih =>
    obtain ⟨⟨x, rest⟩, first, later⟩ := List.mem_flatMap.mp mem
    obtain ⟨found, inner, rfl⟩ := List.mem_map.mp later
    obtain ⟨front, proper⟩ := ih inner
    constructor
    · have whole : source (part.piece x :: found) = x ++ source found := by
        rw [← List.singleton_append, source, List.flatMap_append, ← source, ← source, source_piece]
      rw [whole, ← run_split first]
      exact (List.prefix_append_right_inj x).mpr front
    · intro old new mem
      rcases List.mem_cons.mp mem with same | mem
      · have kept := part.proper
        unfold Part.piece at same
        split at same
        · cases same
        · rename_i text defined
          cases same
          rintro rfl
          exact kept defined
      · exact proper old new mem

lemma firstCut_spec (found' : firstCut word parts before cs = some found) :
    found ∈ cuts word parts before cs ∧ source found ≠ [] := by
  obtain ⟨first, something⟩ := Option.filter_eq_some_iff.mp found'
  exact ⟨List.mem_of_mem_head? first, bne_iff_ne.mp something⟩

end Cuts

/-- The substitution of a pattern, for patterns that match no empty text. -/
def sub (word : Char → Bool) (ps : List Part) : Substitution where
  find := firstCut word ps
  consumes found := (firstCut_spec found).2
  front found := (cuts_spec (firstCut_spec found).1).1
  proper found := (cuts_spec (firstCut_spec found).1).2

end Regex
end Lib
