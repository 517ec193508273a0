import TacoRank.Lib.Result

/-!
# Words of a shell command

`split` cuts a line into words the way a POSIX shell does: at white space outside quotes, with
backslashes that take the next character as it is. A line of plain words that single spaces separate
is cut into these words: `split_plain`.
-/

namespace Lib.Shell

/-- What `split` raises. -/
inductive SplitError where
  | noClosingQuotation
  | noEscapedCharacter
deriving DecidableEq, Repr

/-- Where in a word the next character stands. -/
inductive Mode where
  | blank
  | word
  | quoted (quote : Char)
  /-- After a backslash, inside or outside of quotes. -/
  | escaped (within : Option Char)
deriving DecidableEq, Repr

def isBlank (c : Char) : Bool := c = ' ' || c = '\t' || c = '\r' || c = '\n'

def isQuote (c : Char) : Bool := c = '\'' || c = '"'

/-- Characters that stand for themselves. -/
def isPlain (c : Char) : Bool := !isBlank c && !isQuote c && c ≠ '\\'

/-- A word ends; an empty one counts when it was quoted. -/
def emit (quoted : Bool) (word : List Char) : List (List Char) :=
  if word ≠ [] ∨ quoted then [word] else []

/-- Cut the rest of a line, inside of a word that has been read so far. -/
def splitFrom : Mode → Bool → List Char → List Char → Except SplitError (List (List Char))
  | .blank, quoted, word, [] => .ok (emit quoted word)
  | .word, quoted, word, [] => .ok (emit quoted word)
  | .quoted _, _, _, [] => .error .noClosingQuotation
  | .escaped _, _, _, [] => .error .noEscapedCharacter
  | .blank, quoted, word, c :: cs =>
    if isBlank c then (splitFrom .blank false [] cs).map (emit quoted word ++ ·)
    else if c = '\\' then splitFrom (.escaped none) quoted word cs
    else if isQuote c then splitFrom (.quoted c) quoted word cs
    else splitFrom .word quoted [c] cs
  | .word, quoted, word, c :: cs =>
    if isBlank c then (splitFrom .blank false [] cs).map (emit quoted word ++ ·)
    else if isQuote c then splitFrom (.quoted c) quoted word cs
    else if c = '\\' then splitFrom (.escaped none) quoted word cs
    else splitFrom .word quoted (word ++ [c]) cs
  | .quoted quote, _, word, c :: cs =>
    if c = quote then splitFrom .word true word cs
    else if c = '\\' ∧ quote = '"' then splitFrom (.escaped (some quote)) true word cs
    else splitFrom (.quoted quote) true (word ++ [c]) cs
  | .escaped none, quoted, word, c :: cs => splitFrom .word quoted (word ++ [c]) cs
  | .escaped (some quote), quoted, word, c :: cs =>
    -- inside of quotes a backslash escapes only itself and the quote
    splitFrom (.quoted quote) quoted (word ++ (if c = '\\' ∨ c = quote then [c] else ['\\', c])) cs

/-- The words of a line. -/
def split (line : List Char) : Except SplitError (List (List Char)) := splitFrom .blank false [] line

section Plain
variable {word cs : List Char} {c : Char}

lemma isPlain_iff : isPlain c = true ↔ isBlank c = false ∧ isQuote c = false ∧ c ≠ '\\' := by
  simp [isPlain, and_assoc]

/-- Plain characters are read into the word. -/
lemma splitFrom_plain {read : List Char} (plain : ∀ c ∈ word, isPlain c = true) :
    splitFrom .word false read (word ++ cs) = splitFrom .word false (read ++ word) cs := by
  induction word generalizing read with
  | nil => rw [List.nil_append, List.append_nil]
  | cons c word ih =>
    obtain ⟨blank, quote, escape⟩ := isPlain_iff.mp (plain c List.mem_cons_self)
    rw [List.cons_append, splitFrom, blank, quote, if_neg (by simp), if_neg (by simp), if_neg escape,
      ih fun d mem => plain d (List.mem_cons_of_mem c mem), List.append_assoc]
    rfl

/-- A line that starts with a plain word. -/
lemma split_word (nonempty : word ≠ []) (plain : ∀ c ∈ word, isPlain c = true) :
    split (word ++ cs) = splitFrom .word false word cs := by
  cases word with
  | nil => exact absurd rfl nonempty
  | cons c word =>
    obtain ⟨blank, quote, escape⟩ := isPlain_iff.mp (plain c List.mem_cons_self)
    rw [split, List.cons_append, splitFrom, blank, quote, if_neg (by simp), if_neg escape, if_neg (by simp),
      splitFrom_plain fun d mem => plain d (List.mem_cons_of_mem c mem)]
    rfl

/-- A line of plain words. -/
lemma split_plain {words : List (List Char)} (nonempty : ∀ word ∈ words, word ≠ [])
    (plain : ∀ word ∈ words, ∀ c ∈ word, isPlain c = true) :
    split ([' '].intercalate words) = .ok words := by
  induction words with
  | nil => rfl
  | cons word words ih =>
    have some_word : word ≠ [] := nonempty word List.mem_cons_self
    have ended : emit false word = [word] := if_pos (.inl some_word)
    cases words with
    | nil =>
      have alone : [' '].intercalate [word] = word ++ [] := by simp [List.intercalate]
      rw [alone, split_word some_word (plain word List.mem_cons_self), splitFrom, ended]
    | cons next words =>
      have first : [' '].intercalate (word :: next :: words) =
          word ++ ' ' :: [' '].intercalate (next :: words) := by simp [List.intercalate]
      have rest := ih (fun w mem => nonempty w (List.mem_cons_of_mem word mem))
        fun w mem => plain w (List.mem_cons_of_mem word mem)
      rw [split] at rest
      rw [first, split_word some_word (plain word List.mem_cons_self), splitFrom, if_pos (by decide), rest, ended]
      rfl

end Plain
end Lib.Shell
