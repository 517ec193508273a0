import Mathlib.Data.List.Sort

/-!
# Selections of the newest items

The newest items of a list are those with the greatest numbers, at most `limit` of them, the newest first.
What is left out is at least as old as everything that is kept (`newest_selects`).
-/

namespace Lib
variable {α : Type} {number : α → Nat} {limit : Nat}

/-- At most `limit` items with the greatest numbers, in decreasing order. -/
def selectNewest (number : α → Nat) (limit : Nat) (items : List α) : List α :=
  (items.insertionSort fun a b => number b ≤ number a).take limit

/-- What a selection of the newest of some items satisfies. -/
structure SelectsNewest (number : α → Nat) (limit : Nat) (Item : α → Prop) (found : List α) : Prop where
  sorted : found.Pairwise fun a b => number b ≤ number a
  bounded : found.length ≤ limit
  sound : ∀ a ∈ found, Item a
  complete : ∀ a, Item a → a ∈ found ∨ (found.length = limit ∧ ∀ b ∈ found, number a ≤ number b)

/-- The same items have the same selections. -/
lemma SelectsNewest.congr {P Q : α → Prop} {found : List α} (h : SelectsNewest number limit P found)
    (same : ∀ a, P a ↔ Q a) : SelectsNewest number limit Q found where
  sorted := h.sorted
  bounded := h.bounded
  sound a mem := (same a).mp (h.sound a mem)
  complete a item := h.complete a ((same a).mpr item)

/-- The front of a list in decreasing order. -/
lemma take_selects {items : List α} (sorted : items.Pairwise fun a b => number b ≤ number a) :
    SelectsNewest number limit (· ∈ items) (items.take limit) := by
  have whole := List.take_append_drop limit items
  constructor
  · exact sorted.sublist (List.take_sublist _ _)
  · exact List.length_take_le _ _
  · intro a mem
    exact List.mem_of_mem_take mem
  · intro a mem
    rw [← whole, List.mem_append] at mem
    rcases mem with kept | dropped
    · exact .inl kept
    · rw [← whole, List.pairwise_append] at sorted
      refine .inr ⟨?_, fun b kept => sorted.2.2 b kept a dropped⟩
      -- something is left over, so the front is full
      have some := List.length_pos_of_mem dropped
      rw [List.length_drop] at some
      rw [List.length_take]
      omega

lemma insertionSort_newest (items : List α) :
    (items.insertionSort fun a b => number b ≤ number a).Pairwise fun a b => number b ≤ number a := by
  have total : Std.Total fun a b : α => number b ≤ number a := ⟨fun a b => Nat.le_total (number b) (number a)⟩
  have trans : IsTrans α fun a b => number b ≤ number a := ⟨fun _ _ _ ab bc => Nat.le_trans bc ab⟩
  exact List.pairwise_insertionSort _ items

/-- The newest items are selected. -/
theorem newest_selects (number : α → Nat) (limit : Nat) (items : List α) :
    SelectsNewest number limit (· ∈ items) (selectNewest number limit items) :=
  (take_selects (insertionSort_newest items)).congr fun _ => List.mem_insertionSort _

/-- The first ones, among all items in order, that pass a check are the newest items that do. -/
theorem newest_filter (number : α → Nat) (limit : Nat) (check : α → Bool) {items : List α} {all : Nat}
    (enough : items.length ≤ all) : SelectsNewest number limit (fun a => a ∈ items ∧ check a = true)
      (((selectNewest number all items).filter check).take limit) := by
  have whole : selectNewest number all items = items.insertionSort fun a b => number b ≤ number a := by
    apply List.take_of_length_le
    rwa [List.length_insertionSort]
  rw [whole]
  refine (take_selects ((insertionSort_newest items).filter check)).congr fun a => ?_
  rw [List.mem_filter, List.mem_insertionSort]

end Lib
