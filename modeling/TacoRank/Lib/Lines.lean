import Mathlib.Data.List.DropRight
import Mathlib.Data.List.Induction

/-!
# Files of lines

A file is a list of bytes in which every line ends with a separator. A write that stops early leaves
a tail without separator, which `repair` cuts off: `repair_torn`. `lines_append` is what the lines
are after a whole one was appended. The lines of a text, in contrast, end at any of the characters at
which `splitLines` breaks.
-/

namespace Lib.Lines
section Separator
variable {α : Type} [DecidableEq α] {sep : α} {data line : List α}

/-- The last line is complete. -/
def Complete (sep : α) (data : List α) : Prop := ∀ last ∈ data.getLast?, last = sep

instance : Decidable (Complete sep data) := inferInstanceAs (Decidable (∀ last ∈ _, _))

/-- Cut off what follows the last separator. -/
def repair (sep : α) (data : List α) : List α := data.rdropWhile (· ≠ sep)

/-- The lines of a file whose last line is complete. -/
def lines (sep : α) (data : List α) : List (List α) :=
  if data = [] then [] else data.dropLast.splitOn sep

omit [DecidableEq α] in
lemma Complete.cases (h : Complete sep data) : data = [] ∨ ∃ front, data = front ++ [sep] := by
  cases data using List.reverseRecOn with
  | nil => exact .inl rfl
  | append_singleton front last =>
    have same : last = sep := h last (by simp)
    exact .inr ⟨front, by rw [same]⟩

omit [DecidableEq α] in
lemma complete_append : Complete sep (data ++ (line ++ [sep])) := by
  simp [Complete]

lemma repair_complete (h : Complete sep data) : repair sep data = data := by
  rcases h.cases with rfl | ⟨front, rfl⟩
  · rfl
  · exact List.rdropWhile_concat_neg _ _ _ (by simp)

/-- A torn line is cut off. -/
lemma repair_torn (h : Complete sep data) (torn : sep ∉ line) :
    repair sep (data ++ line) = data := by
  induction line using List.reverseRecOn with
  | nil => rw [List.append_nil, repair_complete h]
  | append_singleton front last ih =>
    have other : last ≠ sep := fun same => torn (by simp [same])
    have rest := ih fun mem => torn (List.mem_append_left _ mem)
    rw [← List.append_assoc, repair, List.rdropWhile_concat_pos _ _ _ (by simpa using other)]
    exact rest

/-- A whole line is one more line. -/
lemma lines_append (h : Complete sep data) (whole : sep ∉ line) :
    lines sep (data ++ (line ++ [sep])) = lines sep data ++ [line] := by
  have new : line.splitOn sep = [line] := List.splitOn_eq_singleton whole
  rcases h.cases with rfl | ⟨front, rfl⟩
  · simp [lines, new]
  · have text : front ++ [sep] ++ (line ++ [sep]) = front ++ sep :: line ++ [sep] := by simp
    rw [text, lines, lines, if_neg (by simp), if_neg (by simp), List.dropLast_concat,
      List.dropLast_concat, List.splitOn_append_cons_self, new]

/-- A complete file is determined by its lines. -/
lemma lines_inj {data' : List α} (h : Complete sep data) (h' : Complete sep data')
    (same : lines sep data = lines sep data') : data = data' := by
  have some_line : ∀ xs : List α, lines sep (xs ++ [sep]) ≠ [] := by
    intro xs
    simp [lines]
  have front : ∀ xs ys : List α, xs.splitOn sep = ys.splitOn sep → xs = ys := by
    intro xs ys split
    calc xs = [sep].intercalate (xs.splitOn sep) := (List.intercalate_splitOn sep).symm
      _ = [sep].intercalate (ys.splitOn sep) := by rw [split]
      _ = ys := List.intercalate_splitOn sep
  rcases h.cases with rfl | ⟨xs, rfl⟩
  · rcases h'.cases with rfl | ⟨ys, rfl⟩
    · rfl
    · exact absurd same.symm (some_line ys)
  · rcases h'.cases with rfl | ⟨ys, rfl⟩
    · exact absurd same (some_line xs)
    · simp only [lines, List.append_eq_nil_iff, List.cons_ne_nil, and_false, if_false,
        List.dropLast_concat] at same
      rw [front xs ys same]

end Separator

/-! ### Characters -/

/-- The bytes of a text in UTF-8. -/
def encode (cs : List Char) : List UInt8 := cs.flatMap String.utf8EncodeChar

/-- The text of bytes in UTF-8. -/
def decode (bytes : List UInt8) : Option (List Char) :=
  bytes.toByteArray.utf8Decode?.map Array.toList

lemma decode_encode {cs : List Char} : decode (encode cs) = some cs := by
  have text : (encode cs).toByteArray = cs.utf8Encode := rfl
  simp [decode, text]

lemma encode_inj {cs ds : List Char} (same : encode cs = encode ds) : cs = ds := by
  have read : decode (encode cs) = some cs := decode_encode
  rw [same, decode_encode] at read
  exact (Option.some.inj read).symm

lemma mem_encodeChar {c : Char} {b : UInt8} (small : b.toNat < 128)
    (mem : b ∈ String.utf8EncodeChar c) : c.toNat = b.toNat := by
  have value : c.val.toNat = c.toNat := rfl
  unfold String.utf8EncodeChar at mem
  simp only [value] at mem
  split_ifs at mem with one two three
  all_goals simp only [List.mem_cons, List.not_mem_nil, or_false] at mem
  · rw [mem, UInt8.toNat_ofNat']
    omega
  · rcases mem with mem | mem <;> (rw [mem, UInt8.toNat_ofNat'] at small; omega)
  · rcases mem with mem | mem | mem <;> (rw [mem, UInt8.toNat_ofNat'] at small; omega)
  · rcases mem with mem | mem | mem | mem <;> (rw [mem, UInt8.toNat_ofNat'] at small; omega)

/-- A byte below 128 stands for itself. -/
lemma mem_encode {cs : List Char} {b : UInt8} (small : b.toNat < 128) (mem : b ∈ encode cs) :
    ∃ c ∈ cs, c.toNat = b.toNat := by
  obtain ⟨c, found, byte⟩ := List.mem_flatMap.mp mem
  exact ⟨c, found, mem_encodeChar small byte⟩

/-- A digit lies between `0` and `9`. -/
lemma range_of_digit {c : Char} (digit : c.isDigit = true) : 0x30 ≤ c.toNat ∧ c.toNat ≤ 0x39 := by
  simp only [Char.isDigit, Bool.and_eq_true, decide_eq_true_eq] at digit
  exact ⟨digit.1, digit.2⟩

/-- A letter or digit lies in one of three ranges. -/
lemma range_of_alphanum {c : Char} (h : c.isAlphanum = true) :
    (0x30 ≤ c.toNat ∧ c.toNat ≤ 0x39) ∨ (0x41 ≤ c.toNat ∧ c.toNat ≤ 0x5A) ∨
      (0x61 ≤ c.toNat ∧ c.toNat ≤ 0x7A) := by
  have kinds : ((c.isUpper || c.isLower) || c.isDigit) = true := h
  simp only [Bool.or_eq_true] at kinds
  rcases kinds with (upper | lower) | digit
  · have bounds : c.val ≥ 'A'.val ∧ c.val ≤ 'Z'.val := of_decide_eq_true upper
    exact .inr (.inl bounds)
  · have bounds : (decide (c.val ≥ 'a'.val) && decide (c.val ≤ 'z'.val)) = true := lower
    simp only [Bool.and_eq_true, decide_eq_true_eq] at bounds
    exact .inr (.inr bounds)
  · exact .inl (range_of_digit digit)

/-! ### The lines of a text -/

/-- The characters that end a line of a text. -/
def isLineBreak (c : Char) : Bool :=
  let n := c.toNat
  (10 ≤ n && n ≤ 13) || (0x1C ≤ n && n ≤ 0x1E) || n == 0x85 || n == 0x2028 || n == 0x2029

/-- The lines of a text, without the breaks that end them; the last line may have none. -/
def splitLines : List Char → List (List Char)
  | [] => []
  | c :: cs =>
    -- a return and a feed are one break, the feed
    if c = '\r' ∧ cs.head? = some '\n' then splitLines cs
    else if isLineBreak c then [] :: splitLines cs
    else match splitLines cs with
      | [] => [[c]]
      | line :: lines => (c :: line) :: lines

section Text
variable {cs ds : List Char}

lemma splitLines_cons {c : Char} (inside : isLineBreak c = false) {line : List Char} {lines : List (List Char)}
    (rest : splitLines cs = line :: lines) : splitLines (c :: cs) = (c :: line) :: lines := by
  have other : c ≠ '\r' := by
    rintro rfl
    cases inside
  rw [splitLines, if_neg fun both => other both.1, inside, rest]
  rfl

lemma splitLines_feed : splitLines ('\n' :: cs) = [] :: splitLines cs := by
  rw [splitLines, if_neg fun both => absurd both.1 (by decide), if_pos (by decide)]

/-- A text with a character has a line. -/
lemma splitLines_ne_nil (nonempty : cs ≠ []) : splitLines cs ≠ [] := by
  induction cs with
  | nil => exact absurd rfl nonempty
  | cons c cs ih =>
    rw [splitLines]
    split
    · have next : cs ≠ [] := by
        rintro rfl
        simp_all
      exact ih next
    · split
      · exact List.cons_ne_nil _ _
      · split <;> exact List.cons_ne_nil _ _

/-- After a feed a new line starts. -/
lemma splitLines_append : splitLines (cs ++ '\n' :: ds) = splitLines (cs ++ ['\n']) ++ splitLines ds := by
  induction cs with
  | nil => rw [List.nil_append, List.nil_append, splitLines_feed, splitLines_feed]; rfl
  | cons c cs ih =>
    have head : (cs ++ '\n' :: ds).head? = (cs ++ ['\n']).head? := by cases cs <;> rfl
    have nonempty : splitLines (cs ++ ['\n']) ≠ [] := splitLines_ne_nil (by simp)
    rw [List.cons_append, List.cons_append, splitLines, splitLines, head, ih]
    split
    · rfl
    · split
      · rfl
      · cases lines : splitLines (cs ++ ['\n']) with
        | nil => exact absurd lines nonempty
        | cons line rest => rfl

/-- The first line of a text starts as the text does, up to a break. -/
lemma splitLines_starts (inside : ∀ c ∈ cs, isLineBreak c = false) (nonempty : ds ≠ []) :
    ∃ line lines, splitLines (cs ++ ds) = (cs ++ line) :: lines := by
  induction cs with
  | nil =>
    obtain ⟨line, lines, split⟩ := List.exists_cons_of_ne_nil (splitLines_ne_nil nonempty)
    exact ⟨line, lines, split⟩
  | cons c cs ih =>
    obtain ⟨line, lines, split⟩ := ih fun d mem => inside d (List.mem_cons_of_mem c mem)
    exact ⟨line, lines, splitLines_cons (inside c List.mem_cons_self) split⟩

/-- A text without breaks is one line. -/
lemma splitLines_line (inside : ∀ c ∈ cs, isLineBreak c = false) : splitLines (cs ++ ['\n']) = [cs] := by
  induction cs with
  | nil => rfl
  | cons c cs ih =>
    exact splitLines_cons (inside c List.mem_cons_self)
      (ih fun d mem => inside d (List.mem_cons_of_mem c mem))

/-- The lines of texts that each end with a feed are those of the texts. -/
lemma splitLines_flatMap {texts : List (List Char)} :
    splitLines (texts.flatMap fun text => text ++ ['\n']) =
      texts.flatMap fun text => splitLines (text ++ ['\n']) := by
  induction texts with
  | nil => rfl
  | cons text texts ih =>
    rw [List.flatMap_cons, List.flatMap_cons, ← ih, List.append_assoc]
    exact splitLines_append

end Text
end Lib.Lines
