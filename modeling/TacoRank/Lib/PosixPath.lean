import Mathlib.Data.List.Infix
import Mathlib.Data.String.Basic

/-!
# Pure POSIX paths

A path is its leading slashes and its components. `parse` reads a text as `PurePosixPath` does: empty
components and single dots are dropped, two leading slashes are kept and more stand for one. `asPosix`
writes a path; the components of a relative path are read back from its text (`parse_join`).
-/

namespace Lib

/-- A pure path. -/
structure PurePosixPath where
  root : String
  parts : List String
deriving DecidableEq

namespace PurePosixPath

/-- The texts between the slashes. -/
def split (s : String) : List String := (s.toList.splitOn '/').map String.ofList

/-- The components with slashes between them. -/
def join (parts : List String) : String := String.ofList (['/'].intercalate (parts.map String.toList))

/-- The slashes that a path keeps of its front. -/
def rootOf (s : String) : String :=
  let slashes := (s.toList.takeWhile (· = '/')).length
  if slashes = 0 then "" else if slashes = 2 then "//" else "/"

/-- The path of a text. -/
def parse (s : String) : PurePosixPath where
  root := rootOf s
  parts := (split s).filter fun part => part ≠ "" ∧ part ≠ "."

/-- The path starts at the root of the file system. -/
def IsAbsolute (p : PurePosixPath) : Prop := p.root ≠ ""

instance (p : PurePosixPath) : Decidable p.IsAbsolute := inferInstanceAs (Decidable (_ ≠ _))

/-- The text of a path. -/
def asPosix (p : PurePosixPath) : String :=
  if p.root = "" ∧ p.parts = [] then "." else p.root ++ join p.parts

/-- `p / "part"`. -/
def child (p : PurePosixPath) (part : String) : PurePosixPath := { p with parts := p.parts ++ [part] }

/-- The path lies below another one or is it: `relative_to` does not raise. -/
def IsRelativeTo (p q : PurePosixPath) : Prop := p.root = q.root ∧ q.parts <+: p.parts

instance (p q : PurePosixPath) : Decidable (p.IsRelativeTo q) := inferInstanceAs (Decidable (_ ∧ _))

/-- The names that a path keeps as its components. -/
structure IsComponent (part : String) : Prop where
  nonempty : part ≠ ""
  moves : part ≠ "."
  single : '/' ∉ part.toList

instance (part : String) : Decidable (IsComponent part) :=
  decidable_of_iff (part ≠ "" ∧ part ≠ "." ∧ '/' ∉ part.toList)
    ⟨fun h => ⟨h.1, h.2.1, h.2.2⟩, fun h => ⟨h.1, h.2, h.3⟩⟩

lemma join_split (s : String) : join (split s) = s := by
  have texts : (split s).map String.toList = s.toList.splitOn '/' := by
    rw [split, List.map_map]
    have inverse : String.toList ∘ String.ofList = id := by
      funext cs
      exact String.toList_ofList
    rw [inverse, List.map_id]
  rw [join, texts, List.intercalate_splitOn, String.ofList_toList]

lemma split_join {parts : List String} (single : ∀ part ∈ parts, '/' ∉ part.toList)
    (nonempty : parts ≠ []) : split (join parts) = parts := by
  rw [split, join, String.toList_ofList, List.splitOn_intercalate]
  · rw [List.map_map]
    have inverse : String.ofList ∘ String.toList = id := by
      funext s
      exact String.ofList_toList
    rw [inverse, List.map_id]
  · intro cs mem
    obtain ⟨part, listed, rfl⟩ := List.mem_map.mp mem
    exact single part listed
  · simpa using nonempty

lemma join_cons_cons {part next : String} {parts : List String} :
    join (part :: next :: parts) = part ++ ("/" ++ join (next :: parts)) := by
  apply String.toList_inj.mp
  simp [join, List.intercalate]

/-- The characters of a joined text. -/
lemma mem_join {c : Char} {parts : List String} (mem : c ∈ (join parts).toList) :
    c = '/' ∨ ∃ part ∈ parts, c ∈ part.toList := by
  induction parts with
  | nil => cases mem
  | cons part parts ih =>
    cases parts with
    | nil =>
      have text : (join [part]).toList = part.toList := by simp [join]
      rw [text] at mem
      exact .inr ⟨part, List.mem_cons_self, mem⟩
    | cons next parts =>
      rw [join_cons_cons, String.toList_append, String.toList_append, List.mem_append, List.mem_append] at mem
      rcases mem with front | slash | back
      · exact .inr ⟨part, List.mem_cons_self, front⟩
      · exact .inl (List.mem_singleton.mp slash)
      · rcases ih back with slash | ⟨other, listed, inside⟩
        · exact .inl slash
        · exact .inr ⟨other, List.mem_cons_of_mem _ listed, inside⟩

lemma rootOf_join {parts : List String} (components : ∀ part ∈ parts, IsComponent part) :
    rootOf (join parts) = "" := by
  cases parts with
  | nil => rfl
  | cons part parts =>
    have first := components part List.mem_cons_self
    -- a relative text starts with the first character of its first component
    have front : ∃ c cs, (join (part :: parts)).toList = c :: cs ∧ c ≠ '/' := by
      cases chars : part.toList with
      | nil =>
        have empty : part = "" := String.toList_inj.mp (by simpa using chars)
        exact absurd empty first.nonempty
      | cons c cs =>
        have other : c ≠ '/' := by
          rintro rfl
          exact first.single (by simp [chars])
        cases parts with
        | nil => exact ⟨c, cs, by simp [join, chars], other⟩
        | cons next parts =>
          rw [join_cons_cons, String.toList_append, chars]
          exact ⟨c, _, rfl, other⟩
    obtain ⟨c, cs, text, other⟩ := front
    simp [rootOf, text, other]

/-- The components of a relative path are read back from its text. -/
theorem parse_join {parts : List String} (components : ∀ part ∈ parts, IsComponent part) :
    parse (join parts) = ⟨"", parts⟩ := by
  have kept : (split (join parts)).filter (fun part => part ≠ "" ∧ part ≠ ".") = parts := by
    cases parts with
    | nil => rfl
    | cons part rest =>
      rw [split_join (fun part mem => (components part mem).single) (List.cons_ne_nil _ _)]
      apply List.filter_eq_self.mpr
      intro part mem
      simpa using ⟨(components part mem).nonempty, (components part mem).moves⟩
  rw [parse, kept, rootOf_join components]

/-- No piece of a split list holds the separator. -/
lemma notMem_of_mem_splitOn {α : Type} [BEq α] [LawfulBEq α] {a : α} {as piece : List α}
    (mem : piece ∈ as.splitOn a) : a ∉ piece := by
  induction as generalizing piece with
  | nil =>
    rw [List.splitOn_nil, List.mem_singleton] at mem
    simp [mem]
  | cons b as ih =>
    rw [List.splitOn, List.splitOnP_cons_eq_if_modifyHead] at mem
    split_ifs at mem with same
    · cases mem with
      | head => exact List.not_mem_nil
      | tail _ later => exact ih later
    · have pieces := List.splitOnP_ne_nil (· == a) as
      cases tail : as.splitOnP (· == a) with
      | nil => exact absurd tail pieces
      | cons first rest =>
        rw [tail, List.modifyHead_cons] at mem
        have split : as.splitOn a = first :: rest := tail
        rw [split] at ih
        cases mem with
        | head =>
          rw [List.mem_cons, not_or]
          refine ⟨?_, ih List.mem_cons_self⟩
          rintro rfl
          simp at same
        | tail _ later => exact ih (List.mem_cons_of_mem _ later)

/-- The pieces of a list are the first pieces of another one when this one starts with it, up to a separator. -/
lemma splitOn_prefix_iff {α : Type} [BEq α] [LawfulBEq α] {a : α} {front as : List α} :
    front.splitOn a <+: as.splitOn a ↔ as = front ∨ front ++ [a] <+: as := by
  have whole (bs : List α) : [a].intercalate (bs.splitOn a) = bs := List.intercalate_splitOn a
  constructor
  · rintro ⟨rest, pieces⟩
    by_cases none : rest = []
    · rw [none, List.append_nil] at pieces
      exact .inl (by rw [← whole as, ← pieces, whole])
    · have tail : ([a].intercalate rest).splitOn a = rest := by
        refine List.splitOn_intercalate a (fun piece mem => ?_) none
        exact notMem_of_mem_splitOn (by rw [← pieces]; exact List.mem_append_right _ mem)
      have same : (front ++ a :: [a].intercalate rest).splitOn a = as.splitOn a := by
        rw [List.splitOn_append_cons_self, tail, pieces]
      refine .inr ⟨[a].intercalate rest, ?_⟩
      rw [List.append_assoc, List.singleton_append, ← whole as, ← same, whole]
  · rintro (rfl | ⟨rest, rfl⟩)
    · exact List.prefix_rfl
    · rw [List.append_assoc, List.singleton_append, List.splitOn_append_cons_self]
      exact List.prefix_append _ _

lemma asPosix_join {parts : List String} (nonempty : parts ≠ []) :
    asPosix ⟨"", parts⟩ = join parts := by
  simp [asPosix, nonempty]

end PurePosixPath
end Lib
