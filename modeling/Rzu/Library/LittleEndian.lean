import Mathlib.Algebra.Ring.Nat

/-!
# Little-endian byte strings

Fixed-width unsigned integers as byte lists, least significant byte first.
-/

namespace Rzu
namespace Library

def leBytes : Nat -> Nat -> List UInt8
  | 0, _ => []
  | width + 1, n => UInt8.ofNat n :: leBytes width (n / 256)

/-- The number a byte list denotes, least significant byte first. -/
def leNat : List UInt8 -> Nat
  | [] => 0
  | b :: rest => b.toNat + 256 * leNat rest

@[simp] theorem leBytes_length (width n : Nat) :
    (leBytes width n).length = width := by
  induction width generalizing n with
  | zero => rfl
  | succ width ih =>
      simp [leBytes, ih]

theorem leNat_leBytes (width n : Nat) :
    leNat (leBytes width n) = n % 256 ^ width := by
  induction width generalizing n with
  | zero =>
      simp [leBytes, leNat, Nat.mod_one]
  | succ width ih =>
      rw [leBytes, leNat, ih, Nat.pow_succ, Nat.mul_comm (256 ^ width) 256,
        Nat.mod_mul]
      simp

theorem leNat_leBytes_of_lt {width n : Nat} (h : n < 256 ^ width) :
    leNat (leBytes width n) = n := by
  rw [leNat_leBytes, Nat.mod_eq_of_lt h]

theorem leNat_lt (bytes : List UInt8) : leNat bytes < 256 ^ bytes.length := by
  induction bytes with
  | nil => simp [leNat]
  | cons b rest ih =>
      have hb : b.toNat < 256 := b.toNat_lt
      rw [leNat, List.length_cons, Nat.pow_succ]
      lia

theorem leBytes_leNat (bytes : List UInt8) :
    leBytes bytes.length (leNat bytes) = bytes := by
  induction bytes with
  | nil => rfl
  | cons b rest ih =>
      have hb : b.toNat < 256 := b.toNat_lt
      have hdiv : (b.toNat + 256 * leNat rest) / 256 = leNat rest := by lia
      rw [List.length_cons, leBytes, leNat, hdiv, ih]
      congr 1
      apply UInt8.toNat_inj.mp
      rw [UInt8.toNat_ofNat']
      lia

theorem leNat_inj {xs ys : List UInt8} (hlen : xs.length = ys.length)
    (h : leNat xs = leNat ys) : xs = ys := by
  rw [← leBytes_leNat xs, ← leBytes_leNat ys, hlen, h]

theorem leNat_getElem {bytes : List UInt8} {n : Nat}
    (hn : n < bytes.length) :
    leNat bytes / 256 ^ n % 256 = bytes[n].toNat := by
  induction bytes generalizing n with
  | nil => cases hn
  | cons b rest ih =>
      have hb : b.toNat < 256 := b.toNat_lt
      cases n with
      | zero =>
          rw [leNat, Nat.pow_zero, Nat.div_one, List.getElem_cons_zero]
          lia
      | succ n =>
          have hdiv : (b.toNat + 256 * leNat rest) / 256 = leNat rest := by
            lia
          rw [leNat, Nat.pow_succ, Nat.mul_comm (256 ^ n) 256,
            ← Nat.div_div_eq_div_mul,
            hdiv, ih (Nat.lt_of_succ_lt_succ hn), List.getElem_cons_succ]

theorem leNat_set {bytes : List UInt8} {n : Nat} (hn : n < bytes.length)
    (b : UInt8) :
    leNat (bytes.set n b) + 256 ^ n * bytes[n].toNat =
      leNat bytes + 256 ^ n * b.toNat := by
  induction bytes generalizing n with
  | nil => cases hn
  | cons first rest ih =>
      cases n with
      | zero =>
          rw [List.set_cons_zero, leNat, leNat, List.getElem_cons_zero,
            Nat.pow_zero]
          lia
      | succ n =>
          have hrest := ih (Nat.lt_of_succ_lt_succ hn)
          rw [List.set_cons_succ, leNat, leNat, List.getElem_cons_succ,
            Nat.pow_succ, Nat.mul_comm (256 ^ n) 256, Nat.mul_assoc,
            Nat.mul_assoc]
          lia

end Library
end Rzu
