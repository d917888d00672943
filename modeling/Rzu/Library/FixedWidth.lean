import Mathlib.Algebra.Ring.Int.Defs
import Rzu.Library.LittleEndian

/-!
# Integers of a fixed width

Signed and unsigned integers of a whole number of bytes, in two's complement,
least significant byte first.
-/

namespace Rzu
namespace Library

structure IntType where
  /-- In bytes. -/
  size : Nat
  signed : Bool
  positive : 0 < size
deriving DecidableEq

namespace IntType

def modulus (T : IntType) : Int := 256 ^ T.size

def encode (T : IntType) (n : Int) : List UInt8 :=
  leBytes T.size (n % T.modulus).toNat

def decode (T : IntType) (bytes : List UInt8) : Int :=
  if T.signed ∧ T.modulus ≤ 2 * (leNat bytes : Int) then
    (leNat bytes : Int) - T.modulus
  else leNat bytes

def cast (T : IntType) (n : Int) : Int := T.decode (T.encode n)

def max (T : IntType) : Nat :=
  if T.signed then 256 ^ T.size / 2 - 1 else 256 ^ T.size - 1

def Fits (T : IntType) (n : Int) : Prop :=
  if T.signed then -T.modulus ≤ 2 * n ∧ 2 * n < T.modulus
  else 0 ≤ n ∧ n < T.modulus

instance (T : IntType) (n : Int) : Decidable (T.Fits n) :=
  inferInstanceAs (Decidable (if T.signed then _ else _))

@[simp] theorem encode_length (T : IntType) (n : Int) :
    (T.encode n).length = T.size := leBytes_length _ _

theorem modulus_pos (T : IntType) : 0 < T.modulus := by
  have hpos : (0 : Int) < 256 := by decide
  exact Int.pow_pos hpos

theorem leNat_encode (T : IntType) (n : Int) :
    (leNat (T.encode n) : Int) = n % T.modulus := by
  have hpos := T.modulus_pos
  have hnonneg := Int.emod_nonneg n (Int.ne_of_gt hpos)
  have hlt := Int.emod_lt_of_pos n hpos
  have hbound : (n % T.modulus).toNat < 256 ^ T.size := by
    have hcast : ((256 ^ T.size : Nat) : Int) = T.modulus := by
      simp [modulus]
    lia
  rw [encode, leNat_leBytes_of_lt hbound]
  lia

theorem decode_encode {T : IntType} {n : Int} (h : T.Fits n) :
    T.decode (T.encode n) = n := by
  have hpos := T.modulus_pos
  rw [decode, leNat_encode]
  rw [Fits] at h
  split at h
  · rename_i hsigned
    rw [hsigned]
    rcases Int.lt_or_le n 0 with hneg | hnonneg
    · have hmod : n % T.modulus = n + T.modulus := by
        rw [← Int.add_emod_right, Int.emod_eq_of_lt] <;> lia
      rw [if_pos ⟨rfl, by lia⟩]
      lia
    · have hmod : n % T.modulus = n := by
        apply Int.emod_eq_of_lt <;> lia
      rw [if_neg (by lia)]
      exact hmod
  · rename_i hsigned
    rw [if_neg fun hboth => hsigned hboth.left]
    exact Int.emod_eq_of_lt h.left h.right

theorem cast_eq {T : IntType} {n : Int} (h : T.Fits n) : T.cast n = n :=
  decode_encode h

theorem modulus_even (T : IntType) : T.modulus = 2 * (T.modulus / 2) := by
  rcases Nat.exists_eq_succ_of_ne_zero (Nat.ne_of_gt T.positive) with
    ⟨width, hwidth⟩
  have hsplit : T.modulus = 256 ^ width * 256 := by
    rw [modulus, hwidth]
    exact Int.pow_succ 256 width
  lia

theorem fits_of_le_max {T : IntType} {n : Nat} (h : n ≤ T.max) :
    T.Fits n := by
  have hpos := T.modulus_pos
  have heven := T.modulus_even
  have hcast : ((256 ^ T.size : Nat) : Int) = T.modulus := by
    simp [modulus]
  rw [Fits]
  rw [max] at h
  split at h
  · rename_i hsigned
    rw [if_pos hsigned]
    lia
  · rename_i hsigned
    rw [if_neg hsigned]
    lia

theorem fits_cast (T : IntType) (n : Int) : T.Fits (T.cast n) := by
  have hpos := T.modulus_pos
  have hencode := T.leNat_encode n
  have hnonneg := Int.emod_nonneg n (Int.ne_of_gt hpos)
  have hlt := Int.emod_lt_of_pos n hpos
  rw [Fits, cast, decode]
  split
  · rename_i hsigned
    split
    · lia
    · rename_i hsmall
      have hle : ¬T.modulus ≤ 2 * (leNat (T.encode n) : Int) :=
        fun hle => hsmall ⟨hsigned, hle⟩
      lia
  · rename_i hsigned
    rw [if_neg fun hboth => hsigned hboth.left]
    lia

end IntType

end Library
end Rzu
