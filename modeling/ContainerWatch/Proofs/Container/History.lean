import ContainerWatch.Container.History
import Mathlib.Data.List.DropRight

/-!
What a bounded history holds after any number of pushes: the newest items, as many as fit.
-/

namespace ContainerWatch.History

variable {α : Type}

/-- The history with the newest of the items that were pushed. -/
def newest (capacity : Nat) (xs : List α) : History α :=
  ⟨capacity, xs.drop (xs.length - capacity)⟩

theorem newest_nil (capacity : Nat) : newest capacity ([] : List α) = empty capacity := by
  simp [newest, empty]

theorem newest_zero (xs : List α) : newest 0 xs = empty 0 := by
  simp [newest, empty]

theorem push_newest (capacity : Nat) (xs : List α) (x : α) :
    (newest capacity xs).push x = newest capacity (xs ++ [x]) := by
  have held : (xs.drop (xs.length - capacity)).length = min capacity xs.length := by
    rw [List.length_drop]
    omega
  by_cases none : capacity = 0
  · rw [none, newest_zero, newest_zero]
    rfl
  · simp only [push, newest, if_neg none, held, List.length_append, List.length_singleton]
    by_cases full : capacity ≤ xs.length
    · have next : xs.length + 1 - capacity = xs.length - capacity + 1 := by omega
      have fits : xs.length - capacity + 1 ≤ xs.length := by omega
      rw [if_pos (by omega), next, List.drop_drop, List.drop_append_of_le_length fits]
    · have all : xs.length - capacity = 0 := by omega
      have still : xs.length + 1 - capacity = 0 := by omega
      rw [if_neg (by omega), all, still]
      rfl

theorem foldl_push_newest (capacity : Nat) (xs ys : List α) :
    ys.foldl push (newest capacity xs) = newest capacity (xs ++ ys) := by
  induction ys generalizing xs with
  | nil => rw [List.append_nil, List.foldl_nil]
  | cons y ys ih => rw [List.foldl_cons, push_newest, ih, List.append_assoc, List.singleton_append]

theorem pushAll_empty (capacity : Nat) (xs : List α) :
    xs.foldl push (empty capacity) = newest capacity xs := by
  rw [← newest_nil, foldl_push_newest, List.nil_append]

theorem items_newest (capacity : Nat) (xs : List α) :
    (newest capacity xs).items = xs.rtake (min xs.length capacity) := by
  have same : xs.length - min xs.length capacity = xs.length - capacity := by omega
  rw [List.rtake, same, newest]

theorem size_newest (capacity : Nat) (xs : List α) :
    (newest capacity xs).size = min xs.length capacity := by
  rw [size, newest, List.length_drop]
  omega

theorem last?_newest (capacity : Nat) (xs : List α) :
    (newest capacity xs).last? = if capacity = 0 then none else xs.getLast? := by
  by_cases none_ : capacity = 0
  · rw [if_pos none_, none_, newest_zero]
    rfl
  · rw [if_neg none_, last?, newest, List.getLast?_drop]
    by_cases pushed : xs = []
    · simp [pushed]
    · have some_ := List.length_pos_of_ne_nil pushed
      rw [if_neg (by omega)]

/-- A new history holds, after each push, the items that were pushed last, in the order of their
pushes: as many as were pushed if they fit, else as many as it may hold. -/
theorem pushed_window (capacity : Nat) (xs : List α) (k : Nat) :
    let pushed := xs.take k
    let h := pushed.foldl push (empty capacity)
    h.items = pushed.rtake (min pushed.length capacity) ∧
      h.size = min pushed.length capacity ∧ h.size ≤ capacity ∧
      h.last? = h.items.getLast? ∧ h.last? = (if capacity = 0 then none else pushed.getLast?) ∧
      (h.isEmpty = true ↔ capacity = 0 ∨ pushed = []) := by
  intro pushed h
  have held : h = newest capacity pushed := pushAll_empty capacity pushed
  have size : h.size = min pushed.length capacity := held ▸ size_newest capacity pushed
  refine ⟨held ▸ items_newest capacity pushed, size, by omega, rfl,
    held ▸ last?_newest capacity pushed, ?_⟩
  rw [isEmpty, List.isEmpty_iff_length_eq_zero, ← List.length_eq_zero_iff (l := pushed)]
  change h.size = 0 ↔ capacity = 0 ∨ pushed.length = 0
  omega

end ContainerWatch.History
