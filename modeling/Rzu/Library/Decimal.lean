import Mathlib.Algebra.Ring.Nat
import Mathlib.Data.Nat.Log

/-!
# Decimal text

How many characters the decimal text of a number has, and which.
-/

namespace Rzu
namespace Library

/-- The number of decimal digits; zero has one. -/
def digitCount (n : Nat) : Nat := Nat.log 10 n + 1

/-- The number of characters with a minus sign. -/
def signedDigitCount (number : Int) : Nat :=
  if number < 0 then digitCount number.natAbs + 1
  else digitCount number.natAbs

theorem digitCount_le_iff {n k : Nat} (hk : 0 < k) :
    digitCount n ≤ k ↔ n < 10 ^ k := by
  rw [digitCount, Nat.add_one_le_iff]
  constructor
  · intro hlog
    exact Nat.lt_pow_of_log_lt (by decide) hlog
  · intro hlt
    exact Nat.log_lt_of_lt_pow' (Nat.ne_of_gt hk) hlt

theorem signedDigitCount_natCast (n : Nat) :
    signedDigitCount (n : Int) = digitCount n := by
  rw [signedDigitCount, if_neg (Int.not_lt.mpr (Int.natCast_nonneg n)),
    Int.natAbs_natCast]

theorem digitCount_pos (n : Nat) : 0 < digitCount n := Nat.succ_pos _

theorem length_toDigits (n : Nat) :
    (Nat.toDigits 10 n).length = digitCount n := by
  have hiff : forall k, 0 < k ->
      ((Nat.toDigits 10 n).length ≤ k ↔ digitCount n ≤ k) := by
    intro k hk
    rw [digitCount_le_iff hk]
    exact Nat.length_toDigits_le_iff (by decide) hk
  apply Nat.le_antisymm
  · exact (hiff _ (digitCount_pos n)).mpr (Nat.le_refl _)
  · exact (hiff _ Nat.length_toDigits_pos).mp (Nat.le_refl _)

theorem length_toString (n : Nat) :
    (toString n).toList.length = digitCount n := by
  rw [Nat.toString_eq_repr, Nat.toList_repr, length_toDigits]

theorem isDigit_of_mem_toString {n : Nat} {c : Char}
    (h : c ∈ (toString n).toList) : c.isDigit = true := by
  rw [Nat.toString_eq_repr, Nat.toList_repr] at h
  exact Nat.isDigit_of_mem_toDigits (by decide) (by decide) h

end Library
end Rzu
