import TacoRank.Lib.Json

/-!
# JSON texts in ASCII

The writer of JSON values that escapes every character beyond the tilde by its UTF-16 code units. `loads` reads
these texts back as it does those of `dumps` (`loads_dumpsAscii`). `lookup_members` finds the members of an object
that was built from distinct keys.
-/

namespace Lib
namespace Json
section Ascii
set_option linter.unusedSectionVars false
variable {F : Type} [Floats F]

/-! ### Writing -/

/-- The escape of a code unit. -/
def unitEscape (n : Nat) : List Char :=
  ['\\', 'u', Nat.digitChar (n / 4096), Nat.digitChar (n / 256 % 16), Nat.digitChar (n / 16 % 16),
    Nat.digitChar (n % 16)]

/-- A character inside quotes: beyond the basic plane, a pair of surrogates. -/
def escapeAscii (c : Char) : List Char :=
  if c.toNat < 0x7F then escape c
  else if c.toNat < 0x10000 then unitEscape c.toNat
  else
    unitEscape (0xD800 + (c.toNat - 0x10000) / 0x400) ++ unitEscape (0xDC00 + (c.toNat - 0x10000) % 0x400)

/-- A string with its quotes. -/
def quotedAscii (s : String) : List Char := '"' :: (s.toList.flatMap escapeAscii ++ ['"'])

mutual

/-- The text of a value in ASCII. -/
def dumpsAscii : Json F → List Char
  | .null => ['n', 'u', 'l', 'l']
  | .bool true => ['t', 'r', 'u', 'e']
  | .bool false => ['f', 'a', 'l', 's', 'e']
  | .int n => decimal n
  | .float x => Floats.repr x
  | .str s => quotedAscii s
  | .arr items => '[' :: asciiItems true items
  | .obj members => '{' :: asciiMembers true members

/-- The elements of an array up to its bracket. -/
def asciiItems (first : Bool) : List (Json F) → List Char
  | [] => [']']
  | x :: xs => comma first ++ (dumpsAscii x ++ asciiItems false xs)

/-- The members of an object up to its brace. -/
def asciiMembers (first : Bool) : List (String × Json F) → List Char
  | [] => ['}']
  | (k, x) :: rest => comma first ++ (quotedAscii k ++ ':' :: (dumpsAscii x ++ asciiMembers false rest))

end

/-! ### Strings -/

lemma codeUnit_unitEscape {n : Nat} (small : n < 0x10000) :
    codeUnit (Nat.digitChar (n / 4096)) (Nat.digitChar (n / 256 % 16)) (Nat.digitChar (n / 16 % 16))
      (Nat.digitChar (n % 16)) = some n := by
  simp only [codeUnit, hexValue_digitChar (n / 4096) (by omega), hexValue_digitChar (n / 256 % 16) (by omega),
    hexValue_digitChar (n / 16 % 16) (by omega), hexValue_digitChar (n % 16) (by omega), Option.bind_eq_bind,
    Option.bind_some, Option.pure_def, Option.some.injEq]
  omega

/-- No character is a surrogate. -/
lemma toNat_scalar (c : Char) : c.toNat < 0xD800 ∨ (0xE000 ≤ c.toNat ∧ c.toNat < 0x110000) := by
  have valid := c.valid
  change Nat.isValidChar c.val.toNat at valid
  have value : c.val.toNat = c.toNat := rfl
  rw [Nat.isValidChar, value] at valid
  omega

lemma stringBody_unit {c : Char} {r : List Char} (plane : c.toNat < 0x10000) :
    stringBody (unitEscape c.toNat ++ r) = (stringBody r).map fun p => (c :: p.1, p.2) := by
  have scalar := toNat_scalar c
  change stringBody ('\\' :: 'u' :: _ :: _ :: _ :: _ :: r) = _
  rw [stringBody, codeUnit_unitEscape plane]
  dsimp only
  rw [if_pos (by omega), Char.ofNat_toNat]

lemma stringBody_units {high low : Nat} {r : List Char} (first : 0xD800 ≤ high ∧ high < 0xDC00)
    (second : 0xDC00 ≤ low ∧ low < 0xE000) : stringBody (unitEscape high ++ (unitEscape low ++ r)) =
      (stringBody r).map fun p =>
        (Char.ofNat (0x10000 + (high - 0xD800) * 0x400 + (low - 0xDC00)) :: p.1, p.2) := by
  change stringBody ('\\' :: 'u' :: _ :: _ :: _ :: _ :: '\\' :: 'u' :: _ :: _ :: _ :: _ :: r) = _
  rw [stringBody, codeUnit_unitEscape (by omega)]
  dsimp only
  rw [if_neg (by omega)]
  simp only [codeUnit_unitEscape (show low < 0x10000 by omega)]
  rw [if_pos ⟨first.2, second⟩]

lemma stringBody_pair {c : Char} {r : List Char} (beyond : ¬ c.toNat < 0x10000) :
    stringBody (unitEscape (0xD800 + (c.toNat - 0x10000) / 0x400) ++
        (unitEscape (0xDC00 + (c.toNat - 0x10000) % 0x400) ++ r)) =
      (stringBody r).map fun p => (c :: p.1, p.2) := by
  have scalar := toNat_scalar c
  have value : 0x10000 + (0xD800 + (c.toNat - 0x10000) / 0x400 - 0xD800) * 0x400 +
      (0xDC00 + (c.toNat - 0x10000) % 0x400 - 0xDC00) = c.toNat := by omega
  rw [stringBody_units (by omega) (by omega), value, Char.ofNat_toNat]

/-- The reader of strings undoes the escape of a character. -/
lemma stringBody_escapeAscii {c : Char} {r : List Char} :
    stringBody (escapeAscii c ++ r) = (stringBody r).map fun p => (c :: p.1, p.2) := by
  unfold escapeAscii
  split_ifs with ascii plane
  · exact stringBody_escape
  · exact stringBody_unit plane
  · rw [List.append_assoc]
    exact stringBody_pair plane

lemma stringBody_quotedAscii {cs r : List Char} :
    stringBody (cs.flatMap escapeAscii ++ '"' :: r) = some (cs, r) := by
  induction cs with
  | nil => rfl
  | cons c cs ih =>
    rw [List.flatMap_cons, List.append_assoc, stringBody_escapeAscii, ih]
    rfl

/-! ### Values -/

lemma asciiItems_single {x : Json F} : asciiItems true [x] = dumpsAscii x ++ [']'] := rfl

lemma asciiItems_cons {x y : Json F} {ys : List (Json F)} :
    asciiItems true (x :: y :: ys) = dumpsAscii x ++ ',' :: asciiItems true (y :: ys) := rfl

lemma asciiMembers_single {k : String} {x : Json F} :
    asciiMembers true [(k, x)] = quotedAscii k ++ ':' :: (dumpsAscii x ++ ['}']) := rfl

lemma asciiMembers_cons {k l : String} {x y : Json F} {ms : List (String × Json F)} :
    asciiMembers true ((k, x) :: (l, y) :: ms) =
      quotedAscii k ++ ':' :: (dumpsAscii x ++ ',' :: asciiMembers true ((l, y) :: ms)) := rfl

variable [LawfulFloats F]

/-- A value starts neither with white space nor with a closing bracket. -/
lemma dumpsAscii_head (v : Json F) :
    ∃ c cs, dumpsAscii v = c :: cs ∧ isSpace c = false ∧ c ≠ ']' := by
  cases v with
  | str s => exact ⟨_, _, rfl, rfl, by decide⟩
  | arr items => exact ⟨_, _, rfl, rfl, by decide⟩
  | obj members => exact ⟨_, _, rfl, rfl, by decide⟩
  | bool b => cases b <;> exact ⟨_, _, rfl, rfl, by decide⟩
  | null => exact dumps_head (F := F) .null
  | int n => exact dumps_head (F := F) (.int n)
  | float x => exact dumps_head (.float x)

mutual

/-- The reader of values undoes the writer. -/
theorem value_dumpsAscii : ∀ (v : Json F) (fuel : Nat) (r : List Char), Canonical v →
    2 * (dumpsAscii v).length ≤ fuel → Ends r → value fuel (dumpsAscii v ++ r) = some (v, r)
  | .null, fuel + 1, r, _, _, _ => rfl
  | .bool true, fuel + 1, r, _, _, _ => rfl
  | .bool false, fuel + 1, r, _, _, _ => rfl
  | .int n, fuel + 1, r, _, _, ends => value_number (number_decimal ends)
  | .float x, fuel + 1, r, _, _, ends => value_number (LawfulFloats.number_repr x r ends)
  | .str s, fuel + 1, r, _, _, _ => by
    simp [dumpsAscii, quotedAscii, value, skip_cons (show isSpace '"' = false from rfl), stringBody_quotedAscii]
  | .arr [], fuel + 1, r, _, _, _ => by
    simp [dumpsAscii, asciiItems, value, skip, isSpace]
  | .arr (x :: xs), fuel + 1, r, canonical, bound, ends => by
    have rest := items_dumpsAscii (x :: xs) fuel r (by simp) canonical (by
      simp only [dumpsAscii, List.length_cons] at bound
      omega)
    obtain ⟨c, cs, head, visible, other⟩ := dumpsAscii_head x
    have text : asciiItems true (x :: xs) ++ r = c :: (cs ++ (asciiItems false xs ++ r)) := by
      simp [asciiItems, comma, head]
    rw [text] at rest
    simp only [dumpsAscii, List.cons_append, text, value, skip_cons (show isSpace '[' = false from rfl),
      skip_cons visible]
    simp [other, rest]
  | .obj [], fuel + 1, r, _, _, _ => by
    simp [dumpsAscii, asciiMembers, value, skip, isSpace]
  | .obj ((k, x) :: ms), fuel + 1, r, canonical, bound, ends => by
    have rest := members_dumpsAscii ((k, x) :: ms) fuel r (by simp) canonical.2 (by
      simp only [dumpsAscii, List.length_cons] at bound
      omega)
    have sorted := object_sorted canonical.1
    obtain ⟨cs, text⟩ : ∃ cs, asciiMembers true ((k, x) :: ms) ++ r = '"' :: cs := ⟨_, rfl⟩
    rw [text] at rest
    simp only [dumpsAscii, List.cons_append, text, value, skip_cons (show isSpace '{' = false from rfl),
      skip_cons (show isSpace '"' = false from rfl)]
    simp [rest, sorted]
  | v, 0, r, _, bound, _ => by
    obtain ⟨c, cs, head, _⟩ := dumpsAscii_head v
    simp [head] at bound

theorem items_dumpsAscii : ∀ (xs : List (Json F)) (fuel : Nat) (r : List Char), xs ≠ [] →
    CanonicalItems xs → 2 * (asciiItems true xs).length ≤ fuel →
    items fuel (asciiItems true xs ++ r) = some (xs, r)
  | [], _, _, nonempty, _, _ => absurd rfl nonempty
  | x :: xs, 0, r, _, _, bound => by
    obtain ⟨c, cs, head, _⟩ := dumpsAscii_head x
    simp [asciiItems, head] at bound
  | x :: xs, fuel + 1, r, _, canonical, bound => by
    have tail := items_dumpsAscii xs fuel r
    cases xs with
    | nil =>
      rw [asciiItems_single] at bound ⊢
      simp only [List.length_append, List.length_cons] at bound
      have read := value_dumpsAscii x fuel (']' :: r) canonical.1 (by omega) (Ends.cons (by decide))
      simp [items, read, skip, isSpace]
    | cons y ys =>
      rw [asciiItems_cons] at bound ⊢
      simp only [List.length_append, List.length_cons] at bound
      have read := value_dumpsAscii x fuel (',' :: (asciiItems true (y :: ys) ++ r)) canonical.1
        (by omega) (Ends.cons (by decide))
      have rest := tail (by simp) canonical.2 (by omega)
      simp [items, read, skip, isSpace, rest]

theorem members_dumpsAscii : ∀ (ms : List (String × Json F)) (fuel : Nat) (r : List Char), ms ≠ [] →
    CanonicalMembers ms → 2 * (asciiMembers true ms).length ≤ fuel →
    members fuel (asciiMembers true ms ++ r) = some (ms, r)
  | [], _, _, nonempty, _, _ => absurd rfl nonempty
  | (k, x) :: ms, 0, r, _, _, bound => by
    simp [asciiMembers, quotedAscii] at bound
  | (k, x) :: ms, fuel + 1, r, _, canonical, bound => by
    have tail := members_dumpsAscii ms fuel r
    cases ms with
    | nil =>
      rw [asciiMembers_single] at bound ⊢
      simp only [List.length_append, List.length_cons] at bound
      have read := value_dumpsAscii x fuel ('}' :: r) canonical.1 (by omega) (Ends.cons (by decide))
      simp [quotedAscii, members, stringBody_quotedAscii, read, skip, isSpace]
    | cons m ms =>
      obtain ⟨l, y⟩ := m
      rw [asciiMembers_cons] at bound ⊢
      simp only [List.length_append, List.length_cons] at bound
      have read := value_dumpsAscii x fuel (',' :: (asciiMembers true ((l, y) :: ms) ++ r)) canonical.1
        (by omega) (Ends.cons (by decide))
      have rest := tail (by simp) canonical.2 (by omega)
      simp [quotedAscii, members, stringBody_quotedAscii, read, skip, isSpace, rest]

end

/-- Canonical values are read back from their texts, also before a line feed. -/
theorem loads_dumpsAscii {v : Json F} (canonical : Canonical v) :
    loads (dumpsAscii v) = some v ∧ loads (dumpsAscii v ++ ['\n']) = some v := by
  have read (r : List Char) (ends : Ends r) (blank : skip r = []) : loads (dumpsAscii v ++ r) = some v := by
    have found := value_dumpsAscii v (2 * (dumpsAscii v ++ r).length + 1) r canonical
      (by rw [List.length_append]; omega) ends
    rw [loads, found]
    exact if_pos blank
  refine ⟨?_, read ['\n'] (Ends.cons (by decide)) rfl⟩
  have whole := read [] Ends.nil rfl
  rwa [List.append_nil] at whole

end Ascii

/-! ### Members of an object -/

section Members
variable {F : Type} {k key : String} {x y : Json F} {ms members : List (String × Json F)}

lemma lookup_setMember_self : (setMember key x ms).lookup key = some x := by
  induction ms with
  | nil => simp [setMember]
  | cons m ms ih =>
    obtain ⟨k, y⟩ := m
    rw [setMember]
    split_ifs with before same
    · simp
    · simp [same]
    · rw [List.lookup_cons, beq_false_of_ne same]
      exact ih

lemma lookup_setMember_ne (other : k ≠ key) : (setMember key x ms).lookup k = ms.lookup k := by
  have skip (rest : List (String × Json F)) : ((key, x) :: rest).lookup k = rest.lookup k := by
    rw [List.lookup_cons, beq_false_of_ne other]
  induction ms with
  | nil => exact skip []
  | cons m ms ih =>
    obtain ⟨j, y⟩ := m
    rw [setMember]
    split_ifs with before same
    · exact skip _
    · subst same
      rw [skip, List.lookup_cons, beq_false_of_ne other]
    · rw [List.lookup_cons, List.lookup_cons, ih]

/-- Keys that are not set keep their members. -/
lemma lookup_members_of_notMem (absent : k ∉ members.map Prod.fst) :
    (members.foldl (fun found member => setMember member.1 member.2 found) ms).lookup k = ms.lookup k := by
  induction members generalizing ms with
  | nil => rfl
  | cons m members ih =>
    rw [List.map_cons, List.mem_cons, not_or] at absent
    rw [List.foldl_cons, ih absent.2, lookup_setMember_ne absent.1]

/-- Distinct keys are all found. -/
lemma lookup_members (distinct : (members.map Prod.fst).Nodup) (mem : (k, x) ∈ members) :
    (members.foldl (fun found member => setMember member.1 member.2 found) ms).lookup k = some x := by
  induction members generalizing ms with
  | nil => cases mem
  | cons m members ih =>
    obtain ⟨first, rest⟩ := List.nodup_cons.mp distinct
    rw [List.foldl_cons]
    rcases List.mem_cons.mp mem with same | later
    · subst same
      rw [lookup_members_of_notMem first, lookup_setMember_self]
    · exact ih rest later

end Members
end Json
end Lib
