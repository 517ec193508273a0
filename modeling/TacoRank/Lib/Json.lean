import Mathlib.Data.List.TakeWhile
import Mathlib.Data.String.Basic

/-!
# JSON texts

JSON values with their canonical text and a reader for arbitrary texts. `dumps` writes no blanks,
escapes what a string must escape and nothing else, and writes the members of an object in their
order; `loads` accepts the grammar of RFC 8259, and an object keeps the last member of a key, sorted
by key. `loads_dumps` is the round trip on canonical values, whose objects are sorted; `dumps_inj`
and `dumps_visible` are what a file of one text per line needs.

Numbers with a fraction or an exponent are a parameter, `Floats`, with the laws of `LawfulFloats`.
-/

namespace Lib

/-- The numbers with a fraction or an exponent: the text of each, and the number of a literal. -/
class Floats (F : Type) where
  repr : F → List Char
  parse : List Char → Option F

/-- A JSON value; the members of an object are in the order in which they are written. -/
inductive Json (F : Type) where
  | null
  | bool (b : Bool)
  | int (n : Int)
  | float (x : F)
  | str (s : String)
  | arr (items : List (Json F))
  | obj (members : List (String × Json F))

namespace Json
section Text
set_option linter.unusedSectionVars false
variable {F : Type} [Floats F]

/-! ### Writing -/

/-- A character inside quotes. -/
def escape (c : Char) : List Char :=
  if c = '"' then ['\\', '"']
  else if c = '\\' then ['\\', '\\']
  else if c = '\n' then ['\\', 'n']
  else if c = '\r' then ['\\', 'r']
  else if c = '\t' then ['\\', 't']
  else if c = '\x08' then ['\\', 'b']
  else if c = '\x0c' then ['\\', 'f']
  else if c.toNat < 0x20 then
    ['\\', 'u', '0', '0', Nat.digitChar (c.toNat / 16), Nat.digitChar (c.toNat % 16)]
  else [c]

/-- A string with its quotes. -/
def quoted (s : String) : List Char := '"' :: (s.toList.flatMap escape ++ ['"'])

/-- The decimal text of an integer. -/
def decimal (n : Int) : List Char :=
  (if n < 0 then ['-'] else []) ++ Nat.toDigits 10 n.natAbs

/-- The separator before an element that is not the first one. -/
def comma (first : Bool) : List Char := if first then [] else [',']

mutual

/-- The canonical text of a value. -/
def dumps : Json F → List Char
  | .null => ['n', 'u', 'l', 'l']
  | .bool true => ['t', 'r', 'u', 'e']
  | .bool false => ['f', 'a', 'l', 's', 'e']
  | .int n => decimal n
  | .float x => Floats.repr x
  | .str s => quoted s
  | .arr items => '[' :: dumpItems true items
  | .obj members => '{' :: dumpMembers true members

/-- The elements of an array up to its bracket. -/
def dumpItems (first : Bool) : List (Json F) → List Char
  | [] => [']']
  | x :: xs => comma first ++ (dumps x ++ dumpItems false xs)

/-- The members of an object up to its brace. -/
def dumpMembers (first : Bool) : List (String × Json F) → List Char
  | [] => ['}']
  | (k, x) :: rest => comma first ++ (quoted k ++ ':' :: (dumps x ++ dumpMembers false rest))

end

/-! ### Reading -/

/-- The white space between tokens. -/
def isSpace (c : Char) : Bool := c = ' ' || c = '\t' || c = '\n' || c = '\r'

/-- Skip white space. -/
def skip (cs : List Char) : List Char := cs.dropWhile isSpace

/-- The value of a hexadecimal digit. -/
def hexValue (c : Char) : Option Nat :=
  if c.isDigit then some (c.toNat - '0'.toNat)
  else if 'a' ≤ c ∧ c ≤ 'f' then some (c.toNat - 'a'.toNat + 10)
  else if 'A' ≤ c ∧ c ≤ 'F' then some (c.toNat - 'A'.toNat + 10)
  else none

/-- The code unit of a `\u` escape. -/
def codeUnit (a b c d : Char) : Option Nat := do
  return (((← hexValue a) * 16 + (← hexValue b)) * 16 + (← hexValue c)) * 16 + (← hexValue d)

/-- The character of an escape other than `\u`. -/
def unescape (c : Char) : Option Char :=
  if c = '"' ∨ c = '\\' ∨ c = '/' then some c
  else if c = 'n' then some '\n'
  else if c = 'r' then some '\r'
  else if c = 't' then some '\t'
  else if c = 'b' then some '\x08'
  else if c = 'f' then some '\x0c'
  else none

/-- The characters of a string up to its closing quote, and what follows it. A surrogate must be the
first of a pair: a string that ends in half a pair has no encoding. -/
def stringBody : List Char → Option (List Char × List Char)
  | '"' :: r => some ([], r)
  | '\\' :: 'u' :: a :: b :: c :: d :: r =>
    match codeUnit a b c d with
    | none => none
    | some high =>
      if high < 0xD800 ∨ 0xE000 ≤ high then
        (stringBody r).map fun (cs, r) => (Char.ofNat high :: cs, r)
      else
        match r with
        | '\\' :: 'u' :: a :: b :: c :: d :: r =>
          match codeUnit a b c d with
          | none => none
          | some low =>
            if high < 0xDC00 ∧ 0xDC00 ≤ low ∧ low < 0xE000 then
              (stringBody r).map fun (cs, r) =>
                (Char.ofNat (0x10000 + (high - 0xD800) * 0x400 + (low - 0xDC00)) :: cs, r)
            else none
        | _ => none
  | '\\' :: c :: r =>
    match unescape c with
    | none => none
    | some c => (stringBody r).map fun (cs, r) => (c :: cs, r)
  | c :: r => if c.toNat < 0x20 then none else (stringBody r).map fun (cs, r) => (c :: cs, r)
  | [] => none

/-- The digits before a point: no leading zeros. -/
def natural : List Char → Option (List Char × List Char)
  | '0' :: r => some (['0'], r)
  | c :: r =>
    if c.isDigit then some (c :: r.takeWhile Char.isDigit, r.dropWhile Char.isDigit) else none
  | [] => none

/-- The part of a number that starts with a character and a sign, if digits follow. -/
def optional (mark sign : List Char) (digits all : List Char) : List Char × List Char :=
  if digits.takeWhile Char.isDigit = [] then ([], all)
  else (mark ++ sign ++ digits.takeWhile Char.isDigit, digits.dropWhile Char.isDigit)

/-- The fraction of a number, if it has one. -/
def fraction : List Char → List Char × List Char
  | '.' :: r => optional ['.'] [] r ('.' :: r)
  | cs => ([], cs)

/-- The exponent of a number, if it has one. -/
def exponent : List Char → List Char × List Char
  | c :: r =>
    if c = 'e' ∨ c = 'E' then
      match r with
      | '+' :: r' => optional [c] ['+'] r' (c :: r)
      | '-' :: r' => optional [c] ['-'] r' (c :: r)
      | _ => optional [c] [] r (c :: r)
    else ([], c :: r)
  | [] => ([], [])

/-- A number behind its sign. -/
def unsigned (negative : Bool) (cs : List Char) : Option (Json F × List Char) :=
  match natural cs with
  | none => none
  | some (whole, r) =>
    let (frac, r) := fraction r
    let (exp, r) := exponent r
    if frac ++ exp = [] then
      let n : Int := Nat.ofDigitChars 10 whole 0
      some (.int (if negative then -n else n), r)
    else
      (Floats.parse ((if negative then ['-'] else []) ++ whole ++ frac ++ exp)).map
        fun x => (.float x, r)

/-- A number. -/
def number : List Char → Option (Json F × List Char)
  | '-' :: r => unsigned true r
  | cs => unsigned false cs

/-- A value that is neither a string nor a container. -/
def scalar : List Char → Option (Json F × List Char)
  | 'n' :: 'u' :: 'l' :: 'l' :: r => some (.null, r)
  | 't' :: 'r' :: 'u' :: 'e' :: r => some (.bool true, r)
  | 'f' :: 'a' :: 'l' :: 's' :: 'e' :: r => some (.bool false, r)
  | cs => number cs

/-- Set a member: the last one of a key counts, and keys are sorted. -/
def setMember (key : String) (x : Json F) : List (String × Json F) → List (String × Json F)
  | [] => [(key, x)]
  | (k, y) :: rest =>
    if key.toList < k.toList then (key, x) :: (k, y) :: rest
    else if key = k then (k, x) :: rest
    else (k, y) :: setMember key x rest

/-- The object with the given members. -/
def object (members : List (String × Json F)) : Json F :=
  .obj (members.foldl (fun found member => setMember member.1 member.2 found) [])

mutual

/-- Read a value; `fuel` bounds the depth of the calls. -/
def value : Nat → List Char → Option (Json F × List Char)
  | 0, _ => none
  | fuel + 1, cs =>
    match skip cs with
    | [] => none
    | c :: r =>
      if c = '"' then (stringBody r).map fun (s, r) => (.str (String.ofList s), r)
      else if c = '[' then
        match skip r with
        | ']' :: r => some (.arr [], r)
        | r => (items fuel r).map fun (xs, r) => (.arr xs, r)
      else if c = '{' then
        match skip r with
        | '}' :: r => some (.obj [], r)
        | r => (members fuel r).map fun (found, r) => (object found, r)
      else scalar (c :: r)

/-- Read the elements of an array up to its bracket. -/
def items : Nat → List Char → Option (List (Json F) × List Char)
  | 0, _ => none
  | fuel + 1, cs =>
    match value fuel cs with
    | none => none
    | some (x, r) =>
      match skip r with
      | ',' :: r => (items fuel r).map fun (xs, r) => (x :: xs, r)
      | ']' :: r => some ([x], r)
      | _ => none

/-- Read the members of an object up to its brace. -/
def members : Nat → List Char → Option (List (String × Json F) × List Char)
  | 0, _ => none
  | fuel + 1, cs =>
    match skip cs with
    | '"' :: r =>
      match stringBody r with
      | none => none
      | some (key, r) =>
        match skip r with
        | ':' :: r =>
          match value fuel r with
          | none => none
          | some (x, r) =>
            match skip r with
            | ',' :: r => (members fuel r).map fun (rest, r) => ((String.ofList key, x) :: rest, r)
            | '}' :: r => some ([(String.ofList key, x)], r)
            | _ => none
        | _ => none
    | _ => none

end

/-- Read a text that holds one value. -/
def loads (cs : List Char) : Option (Json F) :=
  match value (2 * cs.length + 1) cs with
  | some (x, r) => if skip r = [] then some x else none
  | none => none

/-! ### Numbers -/

/-- What may follow a number. -/
def Ends (r : List Char) : Prop :=
  ∀ c ∈ r.head?, c.isDigit = false ∧ c ≠ '.' ∧ c ≠ 'e' ∧ c ≠ 'E'

lemma Ends.nil : Ends [] := by simp [Ends]

lemma Ends.cons {c : Char} {r : List Char}
    (h : c.isDigit = false ∧ c ≠ '.' ∧ c ≠ 'e' ∧ c ≠ 'E') : Ends (c :: r) := by
  simpa [Ends] using h

/-- The digits of a number end where the number ends. -/
lemma takeWhile_digits {ds r : List Char} (digits : ∀ c ∈ ds, c.isDigit = true) (ends : Ends r) :
    (ds ++ r).takeWhile Char.isDigit = ds ∧ (ds ++ r).dropWhile Char.isDigit = r := by
  have stop : r.takeWhile Char.isDigit = [] ∧ r.dropWhile Char.isDigit = r := by
    cases r with
    | nil => exact ⟨rfl, rfl⟩
    | cons c r =>
      have other := (ends c rfl).1
      simp [other]
  rw [List.takeWhile_append_of_pos digits, List.dropWhile_append_of_pos digits, stop.1, stop.2]
  simp

/-- A positive number has no leading zero. -/
lemma toDigits_head {n : Nat} (pos : 0 < n) :
    ∃ c cs, Nat.toDigits 10 n = c :: cs ∧ c ≠ '0' ∧ ∀ d ∈ c :: cs, d.isDigit = true := by
  have digits : ∀ d ∈ Nat.toDigits 10 n, d.isDigit = true :=
    fun d mem => Nat.isDigit_of_mem_toDigits (by omega) (by omega) mem
  suffices head : ∃ c cs, Nat.toDigits 10 n = c :: cs ∧ c ≠ '0' by
    obtain ⟨c, cs, eq, nonzero⟩ := head
    exact ⟨c, cs, eq, nonzero, eq ▸ digits⟩
  clear digits
  induction n using Nat.strong_induction_on with
  | _ n ih =>
    by_cases small : n < 10
    · rw [Nat.toDigits_of_lt_base small]
      have nonzero : ∀ d < 10, 0 < d → Nat.digitChar d ≠ '0' := by decide
      exact ⟨_, _, rfl, nonzero n small pos⟩
    · obtain ⟨c, cs, eq, nonzero⟩ := ih (n / 10) (by omega) (by omega)
      rw [Nat.toDigits_of_base_le (by omega) (by omega), eq]
      exact ⟨c, _, rfl, nonzero⟩

lemma natural_toDigits {n : Nat} {r : List Char} (ends : Ends r) :
    natural (Nat.toDigits 10 n ++ r) = some (Nat.toDigits 10 n, r) := by
  cases n with
  | zero => rfl
  | succ n =>
    obtain ⟨c, cs, eq, nonzero, digits⟩ := toDigits_head (Nat.succ_pos n)
    rw [eq]
    have rest := takeWhile_digits (fun d mem => digits d (List.mem_cons_of_mem c mem)) ends
    have first : c.isDigit = true := digits c List.mem_cons_self
    unfold natural
    split
    · rename_i same
      simp only [List.cons_append, List.cons.injEq] at same
      exact absurd same.1 nonzero
    · rename_i same
      simp only [List.cons_append, List.cons.injEq] at same
      obtain ⟨rfl, rfl⟩ := same
      simp [first, rest.1, rest.2]
    · rename_i same
      simp at same

lemma unsigned_toDigits {negative : Bool} {n : Nat} {r : List Char} (ends : Ends r) :
    unsigned (F := F) negative (Nat.toDigits 10 n ++ r) =
      some (.int (if negative then -(n : Int) else n), r) := by
  have frac : fraction r = ([], r) := by
    cases r with
    | nil => rfl
    | cons c r =>
      have other := (ends c rfl).2.1
      unfold fraction
      split
      · simp_all
      · rfl
  have exp : exponent r = ([], r) := by
    cases r with
    | nil => rfl
    | cons c r =>
      have other := (ends c rfl).2.2
      simp [exponent, other]
  unfold unsigned
  rw [natural_toDigits ends]
  simp [frac, exp, Nat.ofDigitChars_ten_toDigits]

lemma number_decimal {n : Int} {r : List Char} (ends : Ends r) :
    number (F := F) (decimal n ++ r) = some (.int n, r) := by
  by_cases negative : n < 0
  · have value : -(n.natAbs : Int) = n := by omega
    simp only [decimal, if_pos negative, List.cons_append, List.nil_append, number,
      unsigned_toDigits ends, if_true, value]
  · have value : (n.natAbs : Int) = n := by omega
    have plain : number (F := F) (Nat.toDigits 10 n.natAbs ++ r) =
        unsigned false (Nat.toDigits 10 n.natAbs ++ r) := by
      unfold number
      split
      · rename_i same
        have mem : '-' ∈ Nat.toDigits 10 n.natAbs := by
          cases eq : Nat.toDigits 10 n.natAbs with
          | nil => exact absurd eq Nat.toDigits_ne_nil
          | cons c cs =>
            rw [eq] at same
            simp only [List.cons_append, List.cons.injEq] at same
            simp [same.1]
        have digit := Nat.isDigit_of_mem_toDigits (by omega) (by omega) mem
        simp at digit
      · rfl
    simp [decimal, negative, plain, unsigned_toDigits ends, value]

/-! ### Strings -/

lemma hexValue_digitChar : ∀ n < 16, hexValue (Nat.digitChar n) = some n := by decide

lemma codeUnit_control {c : Char} (control : c.toNat < 0x20) :
    codeUnit '0' '0' (Nat.digitChar (c.toNat / 16)) (Nat.digitChar (c.toNat % 16)) =
      some c.toNat := by
  have zero : hexValue '0' = some 0 := rfl
  simp only [codeUnit, zero, hexValue_digitChar (c.toNat / 16) (by omega),
    hexValue_digitChar (c.toNat % 16) (by omega), Option.bind_eq_bind, Option.bind_some,
    Option.pure_def, Option.some.injEq]
  omega

/-- A character that stands for itself inside quotes. -/
lemma stringBody_plain {c : Char} {r : List Char} (quote : c ≠ '"') (backslash : c ≠ '\\')
    (visible : ¬ c.toNat < 0x20) :
    stringBody (c :: r) = (stringBody r).map fun p => (c :: p.1, p.2) := by
  rw [stringBody.eq_def]
  split
  · simp_all
  · simp_all
  · simp_all
  · rename_i same
    simp only [List.cons.injEq] at same
    obtain ⟨rfl, rfl⟩ := same
    rw [if_neg visible]
  · simp_all

/-- The reader of strings undoes the escape of a character. -/
lemma stringBody_escape {c : Char} {r : List Char} :
    stringBody (escape c ++ r) = (stringBody r).map fun p => (c :: p.1, p.2) := by
  by_cases quote : c = '"'
  · subst c; rfl
  by_cases backslash : c = '\\'
  · subst c; rfl
  by_cases newline : c = '\n'
  · subst c; rfl
  by_cases ret : c = '\r'
  · subst c; rfl
  by_cases tab : c = '\t'
  · subst c; rfl
  by_cases back : c = '\x08'
  · subst c; rfl
  by_cases feed : c = '\x0c'
  · subst c; rfl
  simp only [escape, quote, backslash, newline, ret, tab, back, feed, if_false]
  by_cases control : c.toNat < 0x20
  · rw [if_pos control]
    show stringBody ('\\' :: 'u' :: '0' :: '0' :: _ :: _ :: r) = _
    rw [stringBody, codeUnit_control control]
    dsimp only
    rw [if_pos (.inl (by omega)), Char.ofNat_toNat]
  · rw [if_neg control]
    exact stringBody_plain quote backslash control

lemma stringBody_quoted {cs r : List Char} :
    stringBody (cs.flatMap escape ++ '"' :: r) = some (cs, r) := by
  induction cs with
  | nil => rfl
  | cons c cs ih =>
    rw [List.flatMap_cons, List.append_assoc, stringBody_escape, ih]
    rfl


/-! ### Values -/

variable (F) in
/-- The texts of numbers are read back as these numbers, and hold no control character. -/
class LawfulFloats : Prop where
  number_repr : ∀ (x : F) (r : List Char), Ends r → number (Floats.repr x ++ r) = some (.float x, r)
  visible : ∀ (x : F), ∀ c ∈ Floats.repr x, 0x20 ≤ c.toNat

mutual

/-- The members of every object are sorted by their keys, which are distinct. -/
def Canonical : Json F → Prop
  | .arr items => CanonicalItems items
  | .obj members => members.Pairwise (fun m n => m.1.toList < n.1.toList) ∧ CanonicalMembers members
  | _ => True

def CanonicalItems : List (Json F) → Prop
  | [] => True
  | x :: xs => Canonical x ∧ CanonicalItems xs

def CanonicalMembers : List (String × Json F) → Prop
  | [] => True
  | (_, x) :: rest => Canonical x ∧ CanonicalMembers rest

end

/-- The first character of a number. -/
def Leads (c : Char) : Prop := c = '-' ∨ c.isDigit = true

lemma Leads.not {c d : Char} (h : Leads c) (other : d ≠ '-' ∧ d.isDigit = false) : c ≠ d := by
  rintro rfl
  cases h with
  | inl minus => exact other.1 minus
  | inr digit => simp [digit] at other

lemma number_leads {cs r : List Char} {x : Json F} (h : number cs = some (x, r)) :
    ∃ c cs', cs = c :: cs' ∧ Leads c := by
  cases cs with
  | nil => simp [number, unsigned, natural] at h
  | cons c cs =>
    refine ⟨c, cs, rfl, ?_⟩
    by_cases minus : c = '-'
    · exact .inl minus
    · have plain : number (F := F) (c :: cs) = unsigned false (c :: cs) := by
        unfold number
        split
        · simp_all
        · rfl
      rw [plain, unsigned] at h
      cases digits : natural (c :: cs) with
      | none => simp [digits] at h
      | some p =>
        unfold natural at digits
        split at digits
        · rename_i same
          simp only [List.cons.injEq] at same
          exact .inr (by rw [same.1]; rfl)
        · rename_i same
          simp only [List.cons.injEq] at same
          obtain ⟨rfl, rfl⟩ := same
          split at digits
          · exact .inr ‹_›
          · simp at digits
        · simp at digits

lemma scalar_number {cs r : List Char} {x : Json F} (h : number cs = some (x, r)) :
    scalar cs = some (x, r) := by
  obtain ⟨c, cs, rfl, leads⟩ := number_leads h
  have n := leads.not (d := 'n') (by decide)
  have t := leads.not (d := 't') (by decide)
  have f := leads.not (d := 'f') (by decide)
  unfold scalar
  split <;> simp_all

lemma skip_cons {c : Char} {cs : List Char} (h : isSpace c = false) : skip (c :: cs) = c :: cs := by
  simp [skip, h]

lemma Leads.isSpace {c : Char} (h : Leads c) : isSpace c = false := by
  have space := h.not (d := ' ') (by decide)
  have tab := h.not (d := '\t') (by decide)
  have newline := h.not (d := '\n') (by decide)
  have ret := h.not (d := '\r') (by decide)
  simp [Json.isSpace, space, tab, newline, ret]

/-- Numbers are read as such. -/
lemma value_number {cs r : List Char} {x : Json F} {fuel : Nat} (h : number cs = some (x, r)) :
    value (fuel + 1) cs = some (x, r) := by
  have read := scalar_number h
  obtain ⟨c, cs, rfl, leads⟩ := number_leads h
  have quote := leads.not (d := '"') (by decide)
  have bracket := leads.not (d := '[') (by decide)
  have brace := leads.not (d := '{') (by decide)
  simp [value, skip_cons leads.isSpace, quote, bracket, brace, read]

lemma setMember_nil {key : String} {x : Json F} : setMember key x [] = [(key, x)] := rfl

lemma setMember_before {key k : String} {x y : Json F} {rest : List (String × Json F)}
    (h : key.toList < k.toList) : setMember key x ((k, y) :: rest) = (key, x) :: (k, y) :: rest :=
  if_pos h

lemma setMember_after {key k : String} {x y : Json F} {rest : List (String × Json F)}
    (h : k.toList < key.toList) : setMember key x ((k, y) :: rest) = (k, y) :: setMember key x rest := by
  have other : key ≠ k := fun same => lt_irrefl _ (same ▸ h)
  simp only [setMember, not_lt_of_gt h, other, if_false]

/-- Setting the members of a sorted list one after the other gives the list. -/
lemma setMember_append {key : String} {x : Json F} {ms : List (String × Json F)}
    (h : ∀ m ∈ ms, m.1.toList < key.toList) : setMember key x ms = ms ++ [(key, x)] := by
  induction ms with
  | nil => rfl
  | cons m ms ih =>
    obtain ⟨k, y⟩ := m
    have rest := ih fun m mem => h m (List.mem_cons_of_mem _ mem)
    rw [setMember_after (h (k, y) List.mem_cons_self), rest, List.cons_append]

lemma object_sorted {ms : List (String × Json F)} (h : ms.Pairwise fun m n => m.1.toList < n.1.toList) :
    object ms = .obj ms := by
  suffices run : ∀ (front ms : List (String × Json F)),
      (front ++ ms).Pairwise (fun m n => m.1.toList < n.1.toList) →
      ms.foldl (fun found member => setMember member.1 member.2 found) front = front ++ ms by
    simp [object, run [] ms h]
  intro front ms
  induction ms generalizing front with
  | nil => simp
  | cons m ms ih =>
    intro sorted
    have below : ∀ n ∈ front, n.1.toList < m.1.toList := fun n mem =>
      (List.pairwise_append.mp sorted).2.2 n mem m List.mem_cons_self
    rw [List.foldl_cons, setMember_append below, ih _ (by simpa using sorted)]
    simp

lemma mem_setMember {key : String} {x : Json F} {ms : List (String × Json F)} {m : String × Json F}
    (h : m ∈ setMember key x ms) : m = (key, x) ∨ m ∈ ms := by
  induction ms with
  | nil => exact .inl (List.mem_singleton.mp h)
  | cons n ms ih =>
    obtain ⟨k, y⟩ := n
    rw [setMember] at h
    split_ifs at h with before same
    · cases h with
      | head => exact .inl rfl
      | tail _ rest => exact .inr rest
    · cases h with
      | head => exact .inl (by rw [same])
      | tail _ rest => exact .inr (List.mem_cons_of_mem _ rest)
    · cases h with
      | head => exact .inr List.mem_cons_self
      | tail _ rest =>
        cases ih rest with
        | inl new => exact .inl new
        | inr old => exact .inr (List.mem_cons_of_mem _ old)

/-- Setting a member keeps the members sorted. -/
lemma setMember_sorted {key : String} {x : Json F} {ms : List (String × Json F)}
    (sorted : ms.Pairwise fun m n => m.1.toList < n.1.toList) :
    (setMember key x ms).Pairwise fun m n => m.1.toList < n.1.toList := by
  induction ms with
  | nil => exact List.pairwise_singleton _ _
  | cons n ms ih =>
    obtain ⟨k, y⟩ := n
    obtain ⟨above, rest⟩ := List.pairwise_cons.mp sorted
    rw [setMember]
    split_ifs with before same
    · refine List.pairwise_cons.mpr ⟨?_, sorted⟩
      intro m mem
      cases mem with
      | head => exact before
      | tail _ later => exact before.trans (above m later)
    · exact List.pairwise_cons.mpr ⟨above, rest⟩
    · refine List.pairwise_cons.mpr ⟨?_, ih rest⟩
      intro m mem
      cases mem_setMember mem with
      | inl new =>
        have differ : key.toList ≠ k.toList := fun chars => same (String.toList_inj.mp chars)
        rw [new]
        exact lt_of_le_of_ne (not_lt.mp before) differ.symm
      | inr old => exact above m old

lemma canonicalItems_iff {xs : List (Json F)} : CanonicalItems xs ↔ ∀ x ∈ xs, Canonical x := by
  induction xs with
  | nil => simp [CanonicalItems]
  | cons x xs ih => simp [CanonicalItems, ih]

lemma canonicalMembers_iff {ms : List (String × Json F)} :
    CanonicalMembers ms ↔ ∀ m ∈ ms, Canonical m.2 := by
  induction ms with
  | nil => simp [CanonicalMembers]
  | cons m ms ih => simp [CanonicalMembers, ih]

/-- An object of canonical values is canonical. -/
theorem canonical_object {ms : List (String × Json F)} (h : ∀ m ∈ ms, Canonical m.2) :
    Canonical (object ms) := by
  suffices run : ∀ (ms front : List (String × Json F)), (∀ m ∈ ms, Canonical m.2) →
      Canonical (.obj front) →
      Canonical (.obj (ms.foldl (fun found m => setMember m.1 m.2 found) front)) from
    run ms [] h ⟨List.Pairwise.nil, trivial⟩
  intro ms
  induction ms with
  | nil => exact fun front _ canonical => canonical
  | cons m ms ih =>
    intro front values canonical
    refine ih _ (fun n mem => values n (List.mem_cons_of_mem _ mem)) ?_
    refine ⟨setMember_sorted canonical.1, canonicalMembers_iff.mpr fun n mem => ?_⟩
    cases mem_setMember mem with
    | inl new =>
      rw [new]
      exact values m List.mem_cons_self
    | inr old => exact canonicalMembers_iff.mp canonical.2 n old

lemma number_canonical {cs r : List Char} {x : Json F} (h : number cs = some (x, r)) :
    Canonical x := by
  have signed : ∀ negative ds, unsigned (F := F) negative ds = some (x, r) → Canonical x := by
    intro negative ds read
    unfold unsigned at read
    split at read
    · cases read
    · dsimp only at read
      split at read
      · cases read
        trivial
      · obtain ⟨y, _, same⟩ := Option.map_eq_some_iff.mp read
        cases same
        trivial
  unfold number at h
  split at h
  · exact signed true _ h
  · exact signed false _ h

lemma scalar_canonical {cs r : List Char} {x : Json F} (h : scalar cs = some (x, r)) :
    Canonical x := by
  unfold scalar at h
  split at h
  · cases h
    trivial
  · cases h
    trivial
  · cases h
    trivial
  · exact number_canonical h

mutual

/-- Every value that is read is canonical. -/
theorem value_canonical : ∀ (fuel : Nat) (cs r : List Char) (x : Json F),
    value fuel cs = some (x, r) → Canonical x
  | 0, _, _, _, h => by simp [value] at h
  | fuel + 1, cs, r, x, h => by
    unfold value at h
    split at h
    · cases h
    · split_ifs at h with quote bracket brace
      · obtain ⟨s, _, same⟩ := Option.map_eq_some_iff.mp h
        cases same
        trivial
      · split at h
        · cases h
          trivial
        · obtain ⟨⟨xs, rest⟩, read, same⟩ := Option.map_eq_some_iff.mp h
          cases same
          exact canonicalItems_iff.mpr (items_canonical fuel _ _ xs read)
      · split at h
        · cases h
          exact ⟨List.Pairwise.nil, trivial⟩
        · obtain ⟨⟨ms, rest⟩, read, same⟩ := Option.map_eq_some_iff.mp h
          cases same
          exact canonical_object (members_canonical fuel _ _ ms read)
      · exact scalar_canonical h

theorem items_canonical : ∀ (fuel : Nat) (cs r : List Char) (xs : List (Json F)),
    items fuel cs = some (xs, r) → ∀ x ∈ xs, Canonical x
  | 0, _, _, _, h => by simp [items] at h
  | fuel + 1, cs, r, xs, h => by
    unfold items at h
    split at h
    · cases h
    · rename_i x rest read
      have first := value_canonical fuel _ _ x read
      split at h
      · obtain ⟨⟨ys, _⟩, later, same⟩ := Option.map_eq_some_iff.mp h
        cases same
        exact List.forall_mem_cons.mpr ⟨first, items_canonical fuel _ _ ys later⟩
      · cases h
        exact List.forall_mem_singleton.mpr first
      · cases h

theorem members_canonical : ∀ (fuel : Nat) (cs r : List Char) (ms : List (String × Json F)),
    members fuel cs = some (ms, r) → ∀ m ∈ ms, Canonical m.2
  | 0, _, _, _, h => by simp [members] at h
  | fuel + 1, cs, r, ms, h => by
    unfold members at h
    split at h
    · split at h
      · cases h
      · split at h
        · split at h
          · cases h
          · rename_i x rest read
            have first := value_canonical fuel _ _ x read
            split at h
            · obtain ⟨⟨later, _⟩, readLater, same⟩ := Option.map_eq_some_iff.mp h
              cases same
              exact List.forall_mem_cons.mpr ⟨first, members_canonical fuel _ _ later readLater⟩
            · cases h
              exact List.forall_mem_singleton.mpr first
            · cases h
        · cases h
    · cases h

end

/-- What is read from a text is canonical. -/
theorem canonical_loads {cs : List Char} {x : Json F} (h : loads cs = some x) : Canonical x := by
  unfold loads at h
  split at h
  · rename_i read
    split_ifs at h
    cases h
    exact value_canonical _ _ _ _ read
  · cases h

/-- A sorted list is what is left of it without a member, and this member. -/
lemma setMember_filter {key : String} {x : Json F} {ms : List (String × Json F)}
    (sorted : ms.Pairwise fun m n => m.1.toList < n.1.toList) (mem : (key, x) ∈ ms) :
    setMember key x (ms.filter fun m => m.1 ≠ key) = ms := by
  induction ms with
  | nil => cases mem
  | cons m ms ih =>
    obtain ⟨above, rest⟩ := List.pairwise_cons.mp sorted
    cases mem with
    | head =>
      have others : ms.filter (fun m => m.1 ≠ key) = ms := by
        apply List.filter_eq_self.mpr
        intro n mem
        have differ : n.1 ≠ key := fun same => lt_irrefl _ (same ▸ above n mem)
        simpa using differ
      rw [List.filter_cons_of_neg (by simp), others]
      cases ms with
      | nil => rfl
      | cons n ms => exact setMember_before (above n List.mem_cons_self)
    | tail _ later =>
      have before := above _ later
      have differ : m.1 ≠ key := fun same => lt_irrefl _ (same ▸ before)
      rw [List.filter_cons_of_pos (by simpa using differ), setMember_after before, ih rest later]

lemma dumpItems_single {x : Json F} : dumpItems true [x] = dumps x ++ [']'] := rfl

lemma dumpItems_cons {x y : Json F} {ys : List (Json F)} :
    dumpItems true (x :: y :: ys) = dumps x ++ ',' :: dumpItems true (y :: ys) := rfl

lemma dumpMembers_single {k : String} {x : Json F} :
    dumpMembers true [(k, x)] = quoted k ++ ':' :: (dumps x ++ ['}']) := rfl

lemma dumpMembers_cons {k l : String} {x y : Json F} {ms : List (String × Json F)} :
    dumpMembers true ((k, x) :: (l, y) :: ms) =
      quoted k ++ ':' :: (dumps x ++ ',' :: dumpMembers true ((l, y) :: ms)) := rfl

variable [LawfulFloats F]

/-- A value starts neither with white space nor with a closing bracket. -/
lemma dumps_head (v : Json F) :
    ∃ c cs, dumps v = c :: cs ∧ isSpace c = false ∧ c ≠ ']' := by
  have ofNumber : ∀ cs x, number (F := F) (cs ++ []) = some (x, []) →
      ∃ c cs', cs = c :: cs' ∧ isSpace c = false ∧ c ≠ ']' := by
    intro cs x h
    obtain ⟨c, cs', eq, leads⟩ := number_leads h
    exact ⟨c, cs', by simpa using eq, leads.isSpace, leads.not (by decide)⟩
  cases v with
  | null => exact ⟨_, _, rfl, rfl, by decide⟩
  | bool b => cases b <;> exact ⟨_, _, rfl, rfl, by decide⟩
  | int n => exact ofNumber _ _ (number_decimal Ends.nil)
  | float x => exact ofNumber _ _ (LawfulFloats.number_repr x [] Ends.nil)
  | str s => exact ⟨_, _, rfl, rfl, by decide⟩
  | arr items => exact ⟨_, _, rfl, rfl, by decide⟩
  | obj members => exact ⟨_, _, rfl, rfl, by decide⟩

mutual

/-- The reader of values undoes the writer. -/
theorem value_dumps : ∀ (v : Json F) (fuel : Nat) (r : List Char), Canonical v →
    2 * (dumps v).length ≤ fuel → Ends r → value fuel (dumps v ++ r) = some (v, r)
  | .null, fuel + 1, r, _, _, _ => rfl
  | .bool true, fuel + 1, r, _, _, _ => rfl
  | .bool false, fuel + 1, r, _, _, _ => rfl
  | .int n, fuel + 1, r, _, _, ends => value_number (number_decimal ends)
  | .float x, fuel + 1, r, _, _, ends => value_number (LawfulFloats.number_repr x r ends)
  | .str s, fuel + 1, r, _, _, _ => by
    simp [dumps, quoted, value, skip_cons (show isSpace '"' = false from rfl), stringBody_quoted]
  | .arr [], fuel + 1, r, _, _, _ => by
    simp [dumps, dumpItems, value, skip, isSpace]
  | .arr (x :: xs), fuel + 1, r, canonical, bound, ends => by
    have rest := items_dumps (x :: xs) fuel r (by simp) canonical (by
      simp only [dumps, List.length_cons] at bound
      omega)
    obtain ⟨c, cs, head, visible, other⟩ := dumps_head x
    have text : dumpItems true (x :: xs) ++ r = c :: (cs ++ (dumpItems false xs ++ r)) := by
      simp [dumpItems, comma, head]
    rw [text] at rest
    simp only [dumps, List.cons_append, text, value, skip_cons (show isSpace '[' = false from rfl),
      skip_cons visible]
    simp [other, rest]
  | .obj [], fuel + 1, r, _, _, _ => by
    simp [dumps, dumpMembers, value, skip, isSpace]
  | .obj ((k, x) :: ms), fuel + 1, r, canonical, bound, ends => by
    have rest := members_dumps ((k, x) :: ms) fuel r (by simp) canonical.2 (by
      simp only [dumps, List.length_cons] at bound
      omega)
    have sorted := object_sorted canonical.1
    obtain ⟨cs, text⟩ : ∃ cs, dumpMembers true ((k, x) :: ms) ++ r = '"' :: cs := ⟨_, rfl⟩
    rw [text] at rest
    simp only [dumps, List.cons_append, text, value, skip_cons (show isSpace '{' = false from rfl),
      skip_cons (show isSpace '"' = false from rfl)]
    simp [rest, sorted]
  | v, 0, r, _, bound, _ => by
    obtain ⟨c, cs, head, _⟩ := dumps_head v
    simp [head] at bound

theorem items_dumps : ∀ (xs : List (Json F)) (fuel : Nat) (r : List Char), xs ≠ [] →
    CanonicalItems xs → 2 * (dumpItems true xs).length ≤ fuel →
    items fuel (dumpItems true xs ++ r) = some (xs, r)
  | [], _, _, nonempty, _, _ => absurd rfl nonempty
  | x :: xs, 0, r, _, _, bound => by
    obtain ⟨c, cs, head, _⟩ := dumps_head x
    simp [dumpItems, head] at bound
  | x :: xs, fuel + 1, r, _, canonical, bound => by
    have tail := items_dumps xs fuel r
    cases xs with
    | nil =>
      rw [dumpItems_single] at bound ⊢
      simp only [List.length_append, List.length_cons] at bound
      have read := value_dumps x fuel (']' :: r) canonical.1 (by omega) (Ends.cons (by decide))
      simp [items, read, skip, isSpace]
    | cons y ys =>
      rw [dumpItems_cons] at bound ⊢
      simp only [List.length_append, List.length_cons] at bound
      have read := value_dumps x fuel (',' :: (dumpItems true (y :: ys) ++ r)) canonical.1
        (by omega) (Ends.cons (by decide))
      have rest := tail (by simp) canonical.2 (by omega)
      simp [items, read, skip, isSpace, rest]

theorem members_dumps : ∀ (ms : List (String × Json F)) (fuel : Nat) (r : List Char), ms ≠ [] →
    CanonicalMembers ms → 2 * (dumpMembers true ms).length ≤ fuel →
    members fuel (dumpMembers true ms ++ r) = some (ms, r)
  | [], _, _, nonempty, _, _ => absurd rfl nonempty
  | (k, x) :: ms, 0, r, _, _, bound => by
    simp [dumpMembers, quoted] at bound
  | (k, x) :: ms, fuel + 1, r, _, canonical, bound => by
    have tail := members_dumps ms fuel r
    cases ms with
    | nil =>
      rw [dumpMembers_single] at bound ⊢
      simp only [List.length_append, List.length_cons] at bound
      have read := value_dumps x fuel ('}' :: r) canonical.1 (by omega) (Ends.cons (by decide))
      simp [quoted, members, stringBody_quoted, read, skip, isSpace]
    | cons m ms =>
      obtain ⟨l, y⟩ := m
      rw [dumpMembers_cons] at bound ⊢
      simp only [List.length_append, List.length_cons] at bound
      have read := value_dumps x fuel (',' :: (dumpMembers true ((l, y) :: ms) ++ r)) canonical.1
        (by omega) (Ends.cons (by decide))
      have rest := tail (by simp) canonical.2 (by omega)
      simp [quoted, members, stringBody_quoted, read, skip, isSpace, rest]

end

/-- Canonical values are read back from their texts, also before blanks. -/
theorem loads_dumps_append {v : Json F} {r : List Char} (canonical : Canonical v) (blank : skip r = []) :
    loads (dumps v ++ r) = some v := by
  have ends : Ends r := by
    cases r with
    | nil => exact Ends.nil
    | cons c r =>
      have space : isSpace c = true := by
        rw [skip, List.dropWhile_eq_nil_iff] at blank
        exact blank c List.mem_cons_self
      simp only [isSpace, Bool.or_eq_true, decide_eq_true_eq] at space
      apply Ends.cons
      rcases space with ((rfl | rfl) | rfl) | rfl <;> decide
  have read := value_dumps v (2 * (dumps v ++ r).length + 1) r canonical
    (by rw [List.length_append]; omega) ends
  rw [loads, read]
  exact if_pos blank

/-- Canonical values are read back from their texts. -/
theorem loads_dumps {v : Json F} (canonical : Canonical v) : loads (dumps v) = some v := by
  have read := loads_dumps_append canonical (r := []) rfl
  rwa [List.append_nil] at read

/-- A canonical text determines its value. -/
theorem dumps_inj {v w : Json F} (hv : Canonical v) (hw : Canonical w) (same : dumps v = dumps w) :
    v = w := by
  have read := loads_dumps hv
  rw [same, loads_dumps hw] at read
  exact (Option.some.inj read).symm


/-! ### Texts without control characters -/

lemma digitChar_visible : ∀ n < 16, 0x20 ≤ (Nat.digitChar n).toNat := by decide

lemma pair_visible : ∀ e ∈ ['"', '\\', 'n', 'r', 't', 'b', 'f'], ∀ d ∈ ['\\', e], 0x20 ≤ d.toNat := by
  simp

lemma escape_visible {c d : Char} (h : d ∈ escape c) : 0x20 ≤ d.toNat := by
  by_cases control : c.toNat < 0x20
  · have high := digitChar_visible (c.toNat / 16) (by omega)
    have low := digitChar_visible (c.toNat % 16) (by omega)
    have unit : ∀ d ∈ ['\\', 'u', '0', '0', Nat.digitChar (c.toNat / 16),
        Nat.digitChar (c.toNat % 16)], 0x20 ≤ d.toNat := by
      intro d mem
      simp only [List.mem_cons, List.not_mem_nil, or_false] at mem
      rcases mem with h | h | h | h | h | h <;> subst h
      all_goals first | decide | assumption
    unfold escape at h
    split_ifs at h
    all_goals first | exact pair_visible _ (by decide) d h | exact unit d h
  · have plain : ∀ d ∈ [c], 0x20 ≤ d.toNat := fun d mem => by
      rw [List.mem_singleton.mp mem]
      omega
    unfold escape at h
    split_ifs at h
    all_goals first | exact pair_visible _ (by decide) d h | exact plain d h

lemma word_visible : ∀ word ∈ [['n', 'u', 'l', 'l'], ['t', 'r', 'u', 'e'], ['f', 'a', 'l', 's', 'e']],
    ∀ c ∈ word, 0x20 ≤ c.toNat := by
  simp

lemma quoted_visible {s : String} {c : Char} (h : c ∈ quoted s) : 0x20 ≤ c.toNat := by
  simp only [quoted, List.mem_cons, List.mem_append, List.mem_flatMap, List.not_mem_nil,
    or_false] at h
  rcases h with rfl | ⟨d, _, mem⟩ | rfl
  · decide
  · exact escape_visible mem
  · decide

lemma digit_visible {c : Char} (h : c.isDigit = true) : 0x20 ≤ c.toNat := by
  simp only [Char.isDigit, Bool.and_eq_true, decide_eq_true_eq, ge_iff_le] at h
  have first : '0'.toNat ≤ c.toNat := h.1
  exact le_trans (by decide) first

lemma decimal_visible {n : Int} {c : Char} (h : c ∈ decimal n) : 0x20 ≤ c.toNat := by
  rw [decimal, List.mem_append] at h
  cases h with
  | inl sign =>
    split at sign
    · rw [List.mem_singleton.mp sign]
      decide
    · cases sign
  | inr digits => exact digit_visible (Nat.isDigit_of_mem_toDigits (by omega) (by omega) digits)

lemma comma_visible {first : Bool} {c : Char} (h : c ∈ comma first) : 0x20 ≤ c.toNat := by
  cases first with
  | true => cases h
  | false =>
    rw [List.mem_singleton.mp h]
    decide

mutual

/-- No text holds a control character. -/
theorem dumps_visible : ∀ (v : Json F) (c : Char), c ∈ dumps v → 0x20 ≤ c.toNat
  | .null, c, h => word_visible ['n', 'u', 'l', 'l'] (by simp) c h
  | .bool true, c, h => word_visible ['t', 'r', 'u', 'e'] (by simp) c h
  | .bool false, c, h => word_visible ['f', 'a', 'l', 's', 'e'] (by simp) c h
  | .int n, c, h => decimal_visible h
  | .float x, c, h => LawfulFloats.visible x c h
  | .str s, c, h => quoted_visible h
  | .arr items, c, h => by
    cases h with
    | head => decide
    | tail _ rest => exact dumpItems_visible items true c rest
  | .obj members, c, h => by
    cases h with
    | head => decide
    | tail _ rest => exact dumpMembers_visible members true c rest

theorem dumpItems_visible : ∀ (xs : List (Json F)) (first : Bool) (c : Char),
    c ∈ dumpItems first xs → 0x20 ≤ c.toNat
  | [], _, c, h => by
    rw [List.mem_singleton.mp h]
    decide
  | x :: xs, first, c, h => by
    rw [dumpItems, List.mem_append, List.mem_append] at h
    rcases h with separator | item | rest
    · exact comma_visible separator
    · exact dumps_visible x c item
    · exact dumpItems_visible xs false c rest

theorem dumpMembers_visible : ∀ (ms : List (String × Json F)) (first : Bool) (c : Char),
    c ∈ dumpMembers first ms → 0x20 ≤ c.toNat
  | [], _, c, h => by
    rw [List.mem_singleton.mp h]
    decide
  | (k, x) :: ms, first, c, h => by
    rw [dumpMembers, List.mem_append, List.mem_append, List.mem_cons, List.mem_append] at h
    rcases h with separator | key | rfl | item | rest
    · exact comma_visible separator
    · exact quoted_visible key
    · decide
    · exact dumps_visible x c item
    · exact dumpMembers_visible ms false c rest

end

end Text

/-! ### Integers only -/

instance : Floats Empty where
  repr := Empty.elim
  parse _ := none

instance : LawfulFloats Empty where
  number_repr x := x.elim
  visible x := x.elim

end Json
end Lib
