import TacoRank.Schemas
import Mathlib.Data.List.DropRight
import Mathlib.Data.List.TakeWhile

/-!
# Texts

The schema strips surrounding whitespace from its texts (`str_strip_whitespace`, `NonEmptyStr`) and
rejects a text that is empty afterwards.
-/

namespace TacoRank

/-- The Unicode property `White_Space`, which the schema strips. -/
def isWhitespace (c : Char) : Bool :=
  let n := c.toNat
  (9 ≤ n && n ≤ 13) || n == 0x20 || n == 0x85 || n == 0xA0 || n == 0x1680 ||
    (0x2000 ≤ n && n ≤ 0x200A) || n == 0x2028 || n == 0x2029 || n == 0x202F || n == 0x205F ||
    n == 0x3000

/-- The characters that `str.strip` removes: the separators `FS` to `US` as well. -/
def isPythonSpace (c : Char) : Bool :=
  isWhitespace c || (0x1C ≤ c.toNat && c.toNat ≤ 0x1F)

/-- Drop the characters of a class at both ends. -/
def stripChars (space : Char → Bool) (cs : List Char) : List Char :=
  ((cs.dropWhile space).reverse.dropWhile space).reverse

/-- The text that the schema stores. -/
def strip (s : String) : String := String.ofList (stripChars isWhitespace s.toList)

/-- `NonEmptyStr`: something is left after stripping. -/
def NonEmpty (s : String) : Prop := strip s ≠ ""

instance (s : String) : Decidable (NonEmpty s) := inferInstanceAs (Decidable (_ ≠ _))

lemma stripChars_eq_nil {space : Char → Bool} {cs : List Char} :
    stripChars space cs = [] ↔ ∀ c ∈ cs, space c = true := by
  unfold stripChars
  rw [List.reverse_eq_nil_iff, List.dropWhile_eq_nil_iff]
  simp only [List.mem_reverse]
  constructor
  · intro h c mem
    rw [← List.takeWhile_append_dropWhile (p := space) (l := cs), List.mem_append] at mem
    rcases mem with front | back
    · exact List.mem_takeWhile_imp front
    · exact h c back
  · intro h c mem
    exact h c ((List.dropWhile_sublist space).subset mem)

/-- A character that is not stripped stays. -/
lemma mem_stripChars {space : Char → Bool} {c : Char} {cs : List Char} (mem : c ∈ cs)
    (visible : space c = false) : c ∈ stripChars space cs := by
  have kept : ∀ ds : List Char, c ∈ ds → c ∈ ds.dropWhile space := by
    intro ds mem
    rw [← List.takeWhile_append_dropWhile (p := space) (l := ds), List.mem_append] at mem
    rcases mem with front | back
    · rw [List.mem_takeWhile_imp front] at visible
      cases visible
    · exact back
  unfold stripChars
  rw [List.mem_reverse]
  exact kept _ (List.mem_reverse.mpr (kept _ mem))

/-- A text is empty when all of its characters are stripped. -/
lemma nonEmpty_iff {s : String} : NonEmpty s ↔ ∃ c ∈ s.toList, isWhitespace c = false := by
  have chars : strip s = "" ↔ stripChars isWhitespace s.toList = [] := by
    unfold strip
    constructor
    · intro empty
      have back : (String.ofList (stripChars isWhitespace s.toList)).toList = _ :=
        String.toList_ofList
      rw [← back, empty]
      rfl
    · intro empty
      rw [empty]
  rw [NonEmpty, ne_eq, chars, stripChars_eq_nil]
  simp

/-- A text that is written out and starts with a visible character. -/
lemma NonEmpty.of_chars {c : Char} {cs : List Char} (visible : isWhitespace c = false) :
    NonEmpty (String.ofList (c :: cs)) := by
  apply nonEmpty_iff.mpr
  rw [String.toList_ofList]
  exact ⟨c, List.mem_cons_self, visible⟩

/-- A text that starts with a visible one. -/
lemma NonEmpty.append {s t : String} (h : NonEmpty s) : NonEmpty (s ++ t) := by
  obtain ⟨c, mem, visible⟩ := nonEmpty_iff.mp h
  apply nonEmpty_iff.mpr
  exact ⟨c, by simp [mem], visible⟩

/-- A text that ends in a visible one. -/
lemma NonEmpty.prepend {s t : String} (h : NonEmpty t) : NonEmpty (s ++ t) := by
  obtain ⟨c, mem, visible⟩ := nonEmpty_iff.mp h
  apply nonEmpty_iff.mpr
  exact ⟨c, by simp [mem], visible⟩

/-! ### Texts that stripping leaves as they are -/

lemma stripChars_eq_rdropWhile {space : Char → Bool} {cs : List Char} :
    stripChars space cs = (cs.dropWhile space).rdropWhile space := rfl

/-- What is left after stripping starts and ends with other characters. -/
lemma stripChars_idem {space : Char → Bool} {cs : List Char} :
    stripChars space (stripChars space cs) = stripChars space cs := by
  have front : ((cs.dropWhile space).rdropWhile space).dropWhile space =
      (cs.dropWhile space).rdropWhile space := by
    apply List.dropWhile_eq_self_iff.mpr
    intro nonempty
    have part := List.rdropWhile_prefix (p := space) (l := cs.dropWhile space)
    have long : 0 < (cs.dropWhile space).length := lt_of_lt_of_le nonempty part.length_le
    rw [part.getElem nonempty]
    exact List.dropWhile_get_zero_not space cs long
  rw [stripChars_eq_rdropWhile, stripChars_eq_rdropWhile, front, List.rdropWhile_idempotent]

lemma strip_idem {s : String} : strip (strip s) = strip s := by
  rw [strip, strip, String.toList_ofList, stripChars_idem]

/-- A text without white space. -/
lemma strip_visible {s : String} (visible : ∀ c ∈ s.toList, isWhitespace c = false) :
    strip s = s := by
  have front : s.toList.dropWhile isWhitespace = s.toList := by
    cases chars : s.toList with
    | nil => rfl
    | cons c cs =>
      have first := visible c (by simp [chars])
      simp [first]
  have back : s.toList.reverse.dropWhile isWhitespace = s.toList.reverse := by
    cases chars : s.toList.reverse with
    | nil => rfl
    | cons c cs =>
      have last := visible c (by rw [← List.mem_reverse, chars]; exact List.mem_cons_self)
      simp [last]
  rw [strip, stripChars, front, back, List.reverse_reverse, String.ofList_toList]

/-- The characters that stripping removes at both ends. -/
def padding (s : String) : List Char × List Char :=
  (s.toList.takeWhile isWhitespace, (s.toList.dropWhile isWhitespace).rtakeWhile isWhitespace)

/-- A text is what stripping leaves of it between what it removes. -/
lemma padding_strip (s : String) :
    s.toList = (padding s).1 ++ ((strip s).toList ++ (padding s).2) := by
  rw [strip, String.toList_ofList, stripChars_eq_rdropWhile, padding,
    List.rdropWhile_append_rtakeWhile, List.takeWhile_append_dropWhile]

lemma eq_of_padding {s t : String} (stripped : strip s = strip t) (around : padding s = padding t) :
    s = t := by
  apply String.toList_inj.mp
  rw [padding_strip s, padding_strip t, stripped, around]

end TacoRank
