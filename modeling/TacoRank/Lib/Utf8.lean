import Mathlib.Data.List.Infix

/-!
# Texts and their bytes

The bytes of a text whose characters carry tags, each byte with the tag of its character. An occurrence of a text
among the bytes is an occurrence among the characters (`bytes_inside`): no encoded character starts inside another one.
-/

namespace Lib.Utf8

/-- The UTF-8 bytes of a text. -/
def utf8 (text : List Char) : List UInt8 := text.flatMap String.utf8EncodeChar

section Tagged
variable {T : Type} {text : List Char} {m l a : List (Char × T)}

/-- The bytes of a tagged text. -/
def bytes (m : List (Char × T)) : List (UInt8 × T) :=
  m.flatMap fun (c, tag) => (String.utf8EncodeChar c).map (·, tag)

lemma bytes_cons (c : Char) (tag : T) (m : List (Char × T)) :
    bytes ((c, tag) :: m) = (String.utf8EncodeChar c).map (·, tag) ++ bytes m := rfl

lemma bytes_append (a m : List (Char × T)) : bytes (a ++ m) = bytes a ++ bytes m := List.flatMap_append

lemma map_bytes (m : List (Char × T)) : (bytes m).map Prod.fst = utf8 (m.map Prod.fst) := by
  induction m with
  | nil => rfl
  | cons p m ih =>
    obtain ⟨c, tag⟩ := p
    rw [bytes_cons, List.map_append, ih, List.map_map]
    exact congrArg (· ++ utf8 (m.map Prod.fst)) (List.map_id _)

/-- Every byte has the tag of a character. -/
lemma mem_bytes {p : UInt8 × T} (mem : p ∈ bytes m) : ∃ c, (c, p.2) ∈ m := by
  obtain ⟨⟨c, tag⟩, member, inner⟩ := List.mem_flatMap.mp mem
  obtain ⟨byte, _, rfl⟩ := List.mem_map.mp inner
  exact ⟨c, member⟩

/-- Every character has a byte with its tag. -/
lemma bytes_of_mem {c : Char} {tag : T} (mem : (c, tag) ∈ m) : ∃ byte, (byte, tag) ∈ bytes m := by
  obtain ⟨byte, first⟩ := List.exists_mem_of_ne_nil (String.utf8EncodeChar c) (List.ne_nil_of_length_pos
    (by rw [String.length_utf8EncodeChar]; exact c.utf8Size_pos))
  exact ⟨byte, List.mem_flatMap.mpr ⟨_, mem, List.mem_map.mpr ⟨byte, first, rfl⟩⟩⟩

/-- The bytes of a string. -/
lemma toUTF8_toList (s : String) : s.toUTF8.data.toList = utf8 s.toList := by
  have encoded : s.toByteArray = s.toList.utf8Encode := by
    rw [← String.toByteArray_ofList, String.ofList_toList]
  unfold String.toUTF8 utf8
  rw [encoded, List.utf8Encode]
  simp

/-- The text of the bytes of a string. -/
lemma fromUTF8_toUTF8 (s : String) : String.fromUTF8? s.toUTF8 = some s := by
  unfold String.fromUTF8? String.toUTF8
  rw [dif_pos s.isValidUTF8]
  rfl

/-- The bytes of two texts agree in front only where the texts do. -/
lemma utf8_front {s t : List Char} (front : utf8 s <+: utf8 t) : s <+: t := by
  obtain ⟨rest, whole⟩ := front
  refine List.isPrefix_of_utf8Encode_append_eq_utf8Encode rest.toByteArray ?_
  rw [List.utf8Encode, List.utf8Encode, ← List.toByteArray_append]
  exact congrArg List.toByteArray whole

/-- A front of the bytes with the bytes of a text is that text in front. -/
lemma bytes_front {found : List (UInt8 × T)} (front : found <+: bytes m) (same : found.map Prod.fst = utf8 text) :
    ∃ l, l <+: m ∧ l.map Prod.fst = text ∧ found = bytes l := by
  have stood : text <+: m.map Prod.fst := by
    have mapped := front.map Prod.fst
    rw [same, map_bytes] at mapped
    exact utf8_front mapped
  have chars : (m.take text.length).map Prod.fst = text := by
    rw [List.map_take]
    exact (List.prefix_iff_eq_take.mp stood).symm
  refine ⟨m.take text.length, List.take_prefix _ _, chars, ?_⟩
  have inside : bytes (m.take text.length) <+: bytes m := by
    obtain ⟨rest, whole⟩ := List.take_prefix text.length m
    exact ⟨bytes rest, by rw [← bytes_append, whole]⟩
  have size : found.length = (bytes (m.take text.length)).length := by
    have encoded := congrArg utf8 chars
    rw [← map_bytes, ← same] at encoded
    rw [← List.length_map Prod.fst, ← encoded, List.length_map]
  rw [List.prefix_iff_eq_take.mp front, List.prefix_iff_eq_take.mp inside, size]

/-- A byte that starts a character is the first one of its character. -/
lemma start_of_char {c d : Char} {i : Nat} (inside : i < (String.utf8EncodeChar c).length)
    (start : (String.utf8EncodeChar d).head? = some (String.utf8EncodeChar c)[i]) : i = 0 := by
  have first : 0 < (String.utf8EncodeChar d).length := by
    rw [String.length_utf8EncodeChar]
    exact d.utf8Size_pos
  rw [List.head?_eq_getElem?, List.getElem?_eq_getElem first, Option.some.injEq] at start
  apply UInt8.isUTF8FirstByte_getElem_utf8EncodeChar.mp
  rw [← start]
  exact UInt8.isUTF8FirstByte_getElem_utf8EncodeChar.mpr rfl

/-- No text occurs inside the encoding of a character. -/
lemma not_inside {c : Char} {tag : T} {q : UInt8 × T} {front rest behind : List (UInt8 × T)}
    {found back : List (UInt8 × T)} (something : text ≠ []) (same : found.map Prod.fst = utf8 text)
    (cut : (String.utf8EncodeChar c).map (·, tag) = q :: front ++ rest) (whole : found ++ back = rest ++ behind) :
    rest = [] := by
  cases text with
  | nil => exact absurd rfl something
  | cons d text =>
  cases rest with
  | nil => rfl
  | cons z rest =>
    have starts : (String.utf8EncodeChar d).head? = some z.1 := by
      have head := congrArg List.head? (congrArg (List.map Prod.fst) whole)
      have byte : String.utf8EncodeChar d ≠ [] :=
        List.ne_nil_of_length_pos (by rw [String.length_utf8EncodeChar]; exact d.utf8Size_pos)
      obtain ⟨b, bs, encoded⟩ := List.exists_cons_of_ne_nil byte
      rw [List.map_append, same, utf8, List.flatMap_cons, encoded] at head
      rw [encoded]
      exact head
    have chars := congrArg (List.map Prod.fst) cut
    rw [List.map_map, show (Prod.fst ∘ fun b : UInt8 => (b, tag)) = id from rfl, List.map_id, List.map_append] at chars
    have position : (front.map Prod.fst).length + 1 < (String.utf8EncodeChar c).length := by
      rw [chars]
      simp
    have nowhere := start_of_char (c := c) (d := d) position (by
      rw [starts]
      simp [chars])
    exact absurd nowhere (Nat.succ_ne_zero _)

/-- An occurrence of a text among the bytes is one among the characters. -/
theorem bytes_inside {found : List (UInt8 × T)} (something : text ≠ []) (inside : found <:+: bytes m)
    (same : found.map Prod.fst = utf8 text) : ∃ l, l <:+: m ∧ l.map Prod.fst = text ∧ found = bytes l := by
  obtain ⟨front, back, whole⟩ := inside
  induction m generalizing front with
  | nil =>
    have nothing : found = [] := by
      have empty : front ++ found ++ back = [] := whole
      rw [List.append_assoc, List.append_eq_nil_iff, List.append_eq_nil_iff] at empty
      exact empty.2.1
    have front : found <+: bytes ([] : List (Char × T)) := nothing ▸ List.nil_prefix
    obtain ⟨l, stood, chars, rest⟩ := bytes_front front same
    exact ⟨l, stood.isInfix, chars, rest⟩
  | cons p m ih =>
    cases front with
    | nil =>
      obtain ⟨l, stood, chars, rest⟩ := bytes_front ⟨back, whole⟩ same
      exact ⟨l, stood.isInfix, chars, rest⟩
    | cons q front =>
      obtain ⟨c, tag⟩ := p
      rw [bytes_cons, List.append_assoc] at whole
      rcases List.append_eq_append_iff.mp whole with ⟨rest, first, later⟩ | ⟨rest, first, later⟩
      · have stop := not_inside something same first later
        rw [stop, List.nil_append] at later
        obtain ⟨l, stood, chars, rest⟩ := ih [] later
        exact ⟨l, stood.trans (List.suffix_cons _ _).isInfix, chars, rest⟩
      · obtain ⟨l, stood, chars, rest⟩ := ih rest (by rw [List.append_assoc, later])
        exact ⟨l, stood.trans (List.suffix_cons _ _).isInfix, chars, rest⟩

end Tagged
end Lib.Utf8
