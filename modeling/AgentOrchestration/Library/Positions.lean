import Mathlib.Data.List.Basic
import Mathlib.Algebra.Ring.Nat

/-!
# Positions and numbers in a list

The entries of a list in one position after another, and lists of numbers without gaps.
-/

namespace Positions

set_option autoImplicit false

variable {α : Type}

theorem split_of_getElem? {l : List α} {idx : ℕ} {x : α} (found : l[idx]? = some x) :
    ∃ left right, l = left ++ x :: right ∧ left = l.take idx ∧
      l.eraseIdx idx = left ++ right ∧ ∀ y, l.set idx y = left ++ y :: right := by
  obtain ⟨isIn, eq⟩ := List.getElem?_eq_some_iff.mp found
  refine ⟨l.take idx, l.drop (idx + 1), ?_, rfl, List.eraseIdx_eq_take_drop_succ _ _, fun y => ?_⟩
  · rw [← eq, List.getElem_cons_drop, List.take_append_drop]
  · rw [List.set_eq_take_append_cons_drop, if_pos isIn]

/-! ## Consecutive numbers -/

/-- The largest number, or zero: `coalesce(max(n), 0)`. -/
def top (numbers : List ℕ) : ℕ := numbers.foldr max 0

/-- The numbers from one on, each of them once. -/
def Consecutive (numbers : List ℕ) : Prop := numbers = List.range' 1 numbers.length

theorem top_range' (count : ℕ) : ∀ first,
    top (List.range' (first + 1) (count + 1)) = first + count + 1 := by
  induction count with
  | zero =>
    intro first
    simp [top]
  | succ count ih =>
    intro first
    have rest := ih (first + 1)
    rw [List.range'_succ, top, List.foldr_cons]
    rw [top] at rest
    rw [rest]
    omega

theorem Consecutive.top {numbers : List ℕ} (consecutive : Consecutive numbers) :
    top numbers = numbers.length := by
  rw [Consecutive] at consecutive
  cases size : numbers.length with
  | zero =>
    rw [List.length_eq_zero_iff.mp size]
    rfl
  | succ count =>
    rw [consecutive, size, top_range' count 0]
    omega

theorem Consecutive.append {numbers later : List ℕ} (consecutive : Consecutive numbers)
    (next : later = List.range' (numbers.length + 1) later.length) :
    Consecutive (numbers ++ later) := by
  rw [Consecutive] at consecutive ⊢
  rw [List.length_append, ← List.range'_append_1, ← consecutive, Nat.add_comm 1, ← next]

end Positions
