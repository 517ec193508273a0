import TacoRank.Coding.Redaction
import TacoRank.Lib.Seams

/-!
# Redaction of contexts

`context/redaction.py`. A pattern may go over a line break only at the sign of an assignment. A text in parts that
neither start nor end with such a sign is therefore redacted part by part (`redact_parts`).
-/

namespace TacoRank.Context
open Lib Lib.Regex Lib.Rewriting Lib.Rewriting.Substitution TacoRank.Coding

section Patterns
variable (unicode : Char → Bool)

/-- `[:=]`. -/
def isSign (c : Char) : Bool := c == ':' || c == '='

/-- `\bsk-[A-Za-z0-9_-]{16,}\b`. -/
def secretKeyRe : Regex := .all [.boundary, exactly "sk-", .atLeast 16 tokenChar, .boundary]

/-- `\bgh[pousr]_[A-Za-z0-9]{20,}\b`. -/
def githubTokenRe : Regex :=
  .all [.boundary, exactly "gh", .one fun c => "pousr".toList.contains c, exactly "_", .atLeast 20 Char.isAlphanum,
    .boundary]

/-- `\bAKIA[0-9A-Z]{16}\b`. -/
def accessKeyRe : Regex := .all [.boundary, exactly "AKIA", .times 16 fun c => c.isDigit || c.isUpper, .boundary]

/-- The words before the sign. -/
def assignedName : Regex :=
  .any [compound "api" "key", compound "access" "token", caseless "secret", caseless "password"]

/-- `[^\s,;]+`. -/
def assignedValue : Regex := .atLeast 1 fun c => !(isPythonSpace c || c == ',' || c == ';')

/-- `(?im)\b(?:api[_-]?key|access[_-]?token|secret|password)\s*[:=]\s*([^\s,;]+)`. -/
def assignedRe : Regex :=
  .all [.boundary, assignedName, .many true isPythonSpace, .one isSign, .many true isPythonSpace, assignedValue]

/-- `_PATTERNS`. -/
def patterns : List Regex := [secretKeyRe, githubTokenRe, accessKeyRe, assignedRe]

/-- `pattern.subn("[REDACTED]", text)`, as a substitution. -/
def redaction (pattern : Regex) : Substitution := Regex.sub (isWord unicode) [.put pattern redacted redacted_ne_nil]

/-- The number of replacements. -/
def replacements (pieces : List Piece) : Nat :=
  pieces.countP fun
    | .replaced _ _ => true
    | .kept _ => false

/-- `redact`. -/
def redact (text : List Char) : List Char × Nat :=
  patterns.foldl (fun (redacted, total) pattern =>
    let pieces := (redaction unicode pattern).scan 0 none redacted
    (output pieces, total + replacements pieces)) (text, 0)

/-- The text after redaction. -/
def redactedText (text : List Char) : List Char := applyAll (patterns.map (redaction unicode)) text

@[simp] lemma redact_text (text : List Char) : (redact unicode text).1 = redactedText unicode text := by
  have step : ∀ (patterns : List Regex) (text : List Char) (total : Nat),
      (patterns.foldl (fun (redacted, total) pattern =>
        let pieces := (redaction unicode pattern).scan 0 none redacted
        (output pieces, total + replacements pieces)) (text, total)).1 =
        applyAll (patterns.map (redaction unicode)) text := by
    intro patterns
    induction patterns with
    | nil => intros; rfl
    | cons pattern patterns ih =>
      intro text total
      rw [List.foldl_cons, ih]
      rfl
  exact step patterns text 0

end Patterns

/-! ### Parts -/

section Parts
variable {unicode : Char → Bool}

/-- A space is no letter, whatever its case. -/
lemma foldCase_space {d : Char} (spaced : isPythonSpace d = true) : foldCase d = d := by
  have small : d.toNat < 65 ∨ d.toNat = 0x85 ∨ d.toNat = 0xA0 ∨ d.toNat = 0x1680 ∨
      (0x2000 ≤ d.toNat ∧ d.toNat ≤ 0x205F) ∨ d.toNat = 0x3000 := by
    simp only [isPythonSpace, isWhitespace, Bool.or_eq_true, Bool.and_eq_true, decide_eq_true_eq, beq_iff_eq] at spaced
    omega
  have other (c : Char) (n : Nat) (number : c.toNat = n) (apart : d.toNat ≠ n) : d ≠ c := by
    rintro rfl
    exact apart number
  have kept : d.toLower = d := by
    unfold Char.toLower
    rw [dif_neg]
    rintro ⟨low, high⟩
    have low : 65 ≤ d.toNat := low
    have high : d.toNat ≤ 90 := high
    omega
  rw [foldCase, if_neg (other _ 0x17f rfl (by omega)), if_neg, if_neg (other _ 0x212a rfl (by omega)), kept]
  rintro (dotless | dotted)
  · exact other _ 0x131 rfl (by omega) dotless
  · exact other _ 0x130 rfl (by omega) dotted

lemma space_ne {c d : Char} (spaced : isPythonSpace d = true) (visible : isPythonSpace c = false) : (c == d) = false := by
  apply beq_false_of_ne
  rintro rfl
  rw [visible] at spaced
  cases spaced

/-- No pattern starts at a space. -/
lemma patterns_quiet {d : Char} (spaced : isPythonSpace d = true) : ∀ pattern ∈ patterns, rejects d pattern = true := by
  have fold := foldCase_space spaced
  have letter (c : Char) (visible : isPythonSpace c = false) : (c == d) = false := space_ne spaced visible
  intro pattern mem
  simp only [patterns, List.mem_cons, List.not_mem_nil, or_false] at mem
  rcases mem with rfl | rfl | rfl | rfl
  · change (!('s' == d)) = true
    rw [letter _ (by decide)]
    rfl
  · change (!('g' == d)) = true
    rw [letter _ (by decide)]
    rfl
  · change (!('A' == d)) = true
    rw [letter _ (by decide)]
    rfl
  · change (!('a' == foldCase d) && (!('a' == foldCase d) && (!('s' == foldCase d) && !('p' == foldCase d)))) = true
    rw [fold, letter _ (by decide), letter _ (by decide), letter _ (by decide)]
    rfl

lemma isWord_newline : isWord unicode '\n' = false := rfl

/-- No pattern reaches into the next part. -/
lemma patterns_closed : ∀ pattern ∈ patterns, Closed (isWord unicode) isPythonSpace isSign pattern := by
  intro pattern mem
  simp only [patterns, List.mem_cons, List.not_mem_nil, or_false] at mem
  rcases mem with rfl | rfl | rfl | rfl
  · exact closed_of_avoids isWord_newline (by decide)
  · exact closed_of_avoids isWord_newline (by decide)
  · exact closed_of_avoids isWord_newline (by decide)
  · refine (closed_of_avoids isWord_newline rfl).seq ((closed_of_avoids isWord_newline (by decide)).seq ?_)
    refine closed_assignment (by decide) isWord_newline ?_ (by decide) ?_
    · intro d spaced
      have sign (c : Char) (visible : isPythonSpace c = false) : (d == c) = false := by
        rw [Bool.beq_comm]
        exact space_ne spaced visible
      rw [isSign, sign _ (by decide), sign _ (by decide)]
      rfl
    · intro d spaced
      change (!(!(isPythonSpace d || d == ',' || d == ';'))) = true
      rw [spaced]
      rfl

/-- The replacements of the patterns keep the parts apart. -/
lemma patterns_tidy : ∀ sub ∈ patterns.map (redaction unicode), Tidy isPythonSpace isSign sub := by
  intro sub mem
  obtain ⟨pattern, listed, rfl⟩ := List.mem_map.mp mem
  exact tidy_sub (fun d spaced => patterns_quiet spaced pattern listed) (patterns_closed pattern listed)
    ⟨'[', _, rfl, by decide, by decide⟩ ⟨"[REDACTED".toList, ']', rfl, by decide, by decide⟩

/-- A text in parts is redacted part by part, and a last line break stays. -/
lemma redact_parts {a : List Char} {parts : List (List Char)} (ends : Finishes isPythonSpace isSign a)
    (walled : ∀ part ∈ parts, Begins isPythonSpace isSign part ∧ Finishes isPythonSpace isSign part) :
    redactedText unicode (a ++ parts.flatten ++ ['\n']) =
      redactedText unicode a ++ (parts.map (redactedText unicode)).flatten ++ ['\n'] := by
  have newline : isPythonSpace '\n' = true := by decide
  have whole : Finishes isPythonSpace isSign (a ++ parts.flatten) := by
    rcases List.eq_nil_or_concat parts with rfl | ⟨front, last, rfl⟩
    · simpa using ends
    · rw [List.concat_eq_append, List.flatten_concat, ← List.append_assoc]
      exact (walled last (by simp)).2.append
  have last : Begins isPythonSpace isSign ['\n'] := ⟨[], [], rfl, by simp, by simp⟩
  rw [redactedText, applyAll_append newline patterns_tidy whole last,
    applyAll_flatten newline patterns_tidy ends walled, applyAll_space patterns_tidy newline]
  rfl

/-- A line break before a text stays, and changes nothing behind it. -/
lemma redacted_newline (text : List Char) : redactedText unicode ('\n' :: text) = '\n' :: redactedText unicode text := by
  refine applyAll_comm fun sub mem text => ?_
  have quiet := (patterns_tidy sub mem).quiet none '\n' text (by decide)
  obtain ⟨pattern, _, rfl⟩ := List.mem_map.mp mem
  have find : (redaction unicode pattern).find (some '\n') text = (redaction unicode pattern).find none text := by
    have outside : (some '\n').any (isWord unicode) = none.any (isWord unicode) := rfl
    have same := run_before (r := pattern) outside text
    change firstCut _ _ _ _ = firstCut _ _ _ _
    simp only [firstCut, cuts, Part.put, same]
  have scan : (redaction unicode pattern).scan 0 (some '\n') text = (redaction unicode pattern).scan 0 none text := by
    cases text with
    | nil => rfl
    | cons c text => simp only [Substitution.scan, find]
  rw [Substitution.apply, scan_none quiet, scan]
  rfl

lemma patterns_insert : ∀ sub ∈ patterns.map (redaction unicode), Inserts redacted sub := by
  intro sub mem
  obtain ⟨pattern, _, rfl⟩ := List.mem_map.mp mem
  exact inserts_sub

end Parts
end TacoRank.Context
