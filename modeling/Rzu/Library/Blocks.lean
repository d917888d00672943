import Mathlib.Data.List.Basic

/-!
# Blocks of a list

What lies between two offsets of a list that was put together from parts of
known lengths.
-/

namespace Rzu
namespace Library

section Blocks

variable {α β : Type _}

/-- The elements from an offset on, as many as there are up to a count. -/
def block (xs : List α) (offset count : Nat) : List α :=
  (xs.drop offset).take count

theorem block_append {before xs after : List α} {offset count : Nat}
    (hoffset : before.length = offset) (hcount : xs.length = count) :
    block (before ++ (xs ++ after)) offset count = xs := by
  rw [block, List.drop_left' hoffset, List.take_left' hcount]

theorem block_append_right (before xs : List α) (offset count : Nat) :
    block (before ++ xs) (before.length + offset) count =
      block xs offset count := by
  rw [block, ← List.drop_drop, List.drop_left, block]

theorem block_append_left {xs : List α} (after : List α)
    {offset count : Nat} (h : offset + count ≤ xs.length) :
    block (xs ++ after) offset count = block xs offset count := by
  rw [block, block, List.drop_append_of_le_length (by lia),
    List.take_append_of_le_length]
  rw [List.length_drop]
  lia

variable {f : α -> List β} {width : Nat}

theorem length_flatMap_width (h : forall x, (f x).length = width)
    (xs : List α) : (xs.flatMap f).length = width * xs.length := by
  induction xs with
  | nil => rfl
  | cons x xs ih =>
      rw [List.flatMap_cons, List.length_append, h, ih, List.length_cons,
        Nat.mul_succ, Nat.add_comm]

theorem block_flatMap (h : forall x, (f x).length = width) {xs : List α}
    {i : Nat} (hi : i < xs.length) :
    block (xs.flatMap f) (width * i) width = f xs[i] := by
  induction xs generalizing i with
  | nil => cases hi
  | cons x xs ih =>
      rw [List.flatMap_cons]
      cases i with
      | zero =>
          rw [block, Nat.mul_zero, List.drop_zero, List.take_left' (h x)]
          rfl
      | succ i =>
          rw [Nat.mul_succ, Nat.add_comm, ← h x, block_append_right, h x,
            ih (Nat.lt_of_succ_lt_succ hi)]
          rfl

end Blocks

end Library
end Rzu
