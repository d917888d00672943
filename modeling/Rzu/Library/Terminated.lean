import Mathlib.Data.List.TakeWhile

/-!
# Zero-terminated strings

The string that begins at a place in memory ends at the first zero, or after
as many characters as were asked for.
-/

namespace Rzu
namespace Library

theorem takeWhile_range_length {f : Nat -> UInt8} {n k : Nat} (hk : k < n)
    (h : forall i, i < k -> f i ≠ 0) (hend : f k = 0) :
    (((List.range n).map f).takeWhile (· ≠ 0)).length = k := by
  induction n generalizing f k with
  | zero => lia
  | succ n ih =>
      rw [List.range_succ_eq_map, List.map_cons, List.map_map,
        List.takeWhile_cons]
      cases k with
      | zero =>
          rw [hend]
          rfl
      | succ k =>
          rw [if_pos (by simpa using h 0 (Nat.zero_lt_succ k)),
            List.length_cons, ih (Nat.lt_of_succ_lt_succ hk)]
          · intro i hi
            exact h (i + 1) (Nat.succ_lt_succ hi)
          · exact hend

theorem le_takeWhile_range_length {f : Nat -> UInt8} {n k : Nat} (hk : k ≤ n)
    (h : forall i, i < k -> f i ≠ 0) :
    k ≤ (((List.range n).map f).takeWhile (· ≠ 0)).length := by
  induction n generalizing f k with
  | zero => lia
  | succ n ih =>
      cases k with
      | zero => exact Nat.zero_le _
      | succ k =>
          rw [List.range_succ_eq_map, List.map_cons, List.map_map,
            List.takeWhile_cons,
            if_pos (by simpa using h 0 (Nat.zero_lt_succ k)),
            List.length_cons]
          exact Nat.succ_le_succ (ih (Nat.le_of_succ_le_succ hk)
            fun i hi => h (i + 1) (Nat.succ_lt_succ hi))

theorem takeWhile_range_length_le {f : Nat -> UInt8} {n k : Nat} (hk : k < n)
    (hend : f k = 0) :
    (((List.range n).map f).takeWhile (· ≠ 0)).length ≤ k := by
  induction n generalizing f k with
  | zero => lia
  | succ n ih =>
      rw [List.range_succ_eq_map, List.map_cons, List.map_map,
        List.takeWhile_cons]
      split
      · rename_i hfirst
        cases k with
        | zero =>
            rw [hend] at hfirst
            cases hfirst
        | succ k =>
            exact Nat.succ_le_succ
              (ih (f := f ∘ Nat.succ) (Nat.lt_of_succ_lt_succ hk) hend)
      · exact Nat.zero_le _

end Library
end Rzu
