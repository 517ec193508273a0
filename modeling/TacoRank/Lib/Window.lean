import Mathlib.Data.List.DropRight

/-!
# Bounded windows

A window keeps the last items of a stream, at most `capacity` of them. What it holds is a suffix of the stream, and
a question about the last few items has the same answer on both as long as the window holds that many.
-/

namespace Lib

section Suffix
variable {α : Type} {xs ys : List α} {n : Nat}

lemma rtake_suffix (n : Nat) (xs : List α) : xs.rtake n <:+ xs := List.drop_suffix _ _

lemma rtake_of_length_le (short : xs.length ≤ n) : xs.rtake n = xs := by
  rw [List.rtake, Nat.sub_eq_zero_of_le short, List.drop_zero]

lemma length_rtake (n : Nat) (xs : List α) : (xs.rtake n).length = min n xs.length := by
  rw [List.rtake, List.length_drop]
  omega

/-- The last items of a suffix are the last items of the whole. -/
lemma rtake_eq_of_suffix (suffix : xs <:+ ys) (long : n ≤ xs.length) : xs.rtake n = ys.rtake n := by
  obtain ⟨zs, rfl⟩ := suffix
  have skipped : (zs ++ xs).length - n = zs.length + (xs.length - n) := by
    rw [List.length_append]
    omega
  rw [List.rtake, List.rtake, skipped, List.drop_length_add_append]

/-- Without their last items, a suffix is still a suffix of the whole. -/
lemma rdrop_suffix (suffix : xs <:+ ys) (long : n ≤ xs.length) : xs.rdrop n <:+ ys.rdrop n := by
  obtain ⟨zs, rfl⟩ := suffix
  have kept : (zs ++ xs).length - n = zs.length + (xs.length - n) := by
    rw [List.length_append]
    omega
  rw [List.rdrop, List.rdrop, kept, List.take_length_add_append]
  exact List.suffix_append zs _

/-- The last item is the last one of every suffix. -/
lemma getLast?_suffix (suffix : xs <:+ ys) (nonempty : xs ≠ []) : ys.getLast? = xs.getLast? := by
  obtain ⟨zs, rfl⟩ := suffix
  rw [List.getLast?_append, List.getLast?_eq_some_getLast nonempty, Option.some_or]

end Suffix

/-- A window over a stream: at most `capacity` items, the oldest first. -/
structure Window (α : Type) where
  capacity : Nat
  positive : 0 < capacity
  items : List α
  bounded : items.length ≤ capacity

namespace Window
variable {α : Type}

/-- The window without items. -/
def empty (capacity : Nat) (positive : 0 < capacity) : Window α := ⟨capacity, positive, [], Nat.zero_le _⟩

/-- Forget the items. -/
def clear (w : Window α) : Window α := empty w.capacity w.positive

/-- Append an item; when the window is full, the oldest one leaves. -/
def add (w : Window α) (item : α) : Window α where
  capacity := w.capacity
  positive := w.positive
  items := (w.items ++ [item]).rtake w.capacity
  bounded := by
    rw [length_rtake]
    exact Nat.min_le_left _ _

@[simp] lemma capacity_clear (w : Window α) : w.clear.capacity = w.capacity := rfl

@[simp] lemma capacity_add (w : Window α) (item : α) : (w.add item).capacity = w.capacity := rfl

@[simp] lemma items_clear (w : Window α) : w.clear.items = [] := rfl

/-- A window that holds the last items of a stream holds them after the next item too. -/
lemma items_add {w : Window α} {stream : List α} (holds : w.items = stream.rtake w.capacity) (item : α) :
    (w.add item).items = (stream ++ [item]).rtake w.capacity := by
  have appended : (w.add item).items = (w.items ++ [item]).rtake w.capacity := rfl
  rw [appended, holds]
  by_cases short : stream.length ≤ w.capacity
  · rw [rtake_of_length_le short]
  · refine rtake_eq_of_suffix ?_ ?_
    · obtain ⟨front, whole⟩ := rtake_suffix w.capacity stream
      exact ⟨front, by rw [← List.append_assoc, whole]⟩
    · rw [List.length_append, length_rtake]
      omega

/-- A window with one item, right after it was cleared. -/
lemma items_clear_add (w : Window α) (item : α) : (w.clear.add item).items = [item] := by
  have one : [item].length ≤ w.capacity := w.positive
  exact rtake_of_length_le one

end Window
end Lib
