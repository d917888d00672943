import Mathlib.Data.List.Iterate
import Mathlib.Data.List.Perm.Subperm
import Mathlib.Data.List.Nodup
import Mathlib.Data.Nat.ModEq
import Mathlib.Algebra.Ring.Nat

/-!
# Walks round a cycle

A walk that always goes on by the same step, round a cycle of places, comes by
all of them if the step is coprime to their number.
-/

namespace Rzu
namespace Library

/-- As many places as there are, from `start` on, are all of the places. -/
def VisitsOnce (next : Nat -> Nat) (start n : Nat) : Prop :=
  (List.iterate next start n).Perm (List.range n)

section Visits

variable {next : Nat -> Nat} {start n : Nat}

theorem VisitsOnce.nodup (h : VisitsOnce next start n) :
    (List.iterate next start n).Nodup :=
  h.nodup_iff.mpr List.nodup_range

theorem VisitsOnce.lt (h : VisitsOnce next start n) {place : Nat}
    (hplace : place ∈ List.iterate next start n) : place < n :=
  List.mem_range.mp (h.subset hplace)

/-- Places that differ are all places if there are as many. -/
theorem visitsOnce_of_nodup (hnodup : (List.iterate next start n).Nodup)
    (hlt : forall place, place ∈ List.iterate next start n -> place < n) :
    VisitsOnce next start n := by
  have hsub : List.iterate next start n ⊆ List.range n := by
    intro place hplace
    exact List.mem_range.mpr (hlt place hplace)
  apply (hnodup.subperm hsub).perm_of_length_le
  rw [List.length_iterate, List.length_range]

theorem VisitsOnce.start_eq (h : VisitsOnce next start n) {place : Nat}
    (hplace : place < n) (hfirst : forall k, k < n -> next k ≠ place) :
    start = place := by
  have hmem : place ∈ List.iterate next start n :=
    h.symm.subset (List.mem_range.mpr hplace)
  rcases List.mem_iterate.mp hmem with ⟨k, hk, heq⟩
  cases k with
  | zero => exact heq.symm
  | succ k =>
      have hprevious : next^[k] start ∈ List.iterate next start n :=
        List.mem_iterate.mpr ⟨k, Nat.lt_of_succ_lt hk, rfl⟩
      rw [Function.iterate_succ_apply'] at heq
      exact absurd heq.symm (hfirst _ (h.lt hprevious))

end Visits

section Cycle

variable {step start n : Nat}

theorem iterate_add_mod (hstart : start < n) (k : Nat) :
    (fun place => (place + step) % n)^[k] start = (start + k * step) % n := by
  induction k with
  | zero =>
      rw [Nat.zero_mul, Nat.add_zero, Nat.mod_eq_of_lt hstart]
      rfl
  | succ k ih =>
      rw [Function.iterate_succ_apply', ih, Nat.mod_add_mod, Nat.succ_mul,
        Nat.add_assoc]

theorem add_mul_mod_inj (hcoprime : step.Coprime n) {i j : Nat} (hi : i < n)
    (hj : j < n) (h : (start + i * step) % n = (start + j * step) % n) :
    i = j := by
  have hmul : i * step ≡ j * step [MOD n] := Nat.ModEq.add_left_cancel' start h
  have hmod : i ≡ j [MOD n] :=
    Nat.ModEq.cancel_right_of_coprime hcoprime.symm hmul
  rw [Nat.ModEq, Nat.mod_eq_of_lt hi, Nat.mod_eq_of_lt hj] at hmod
  exact hmod

/-- A step that is coprime to the number of places leads to all of them. -/
theorem visitsOnce_of_coprime (hstart : start < n)
    (hcoprime : step.Coprime n) :
    VisitsOnce (fun place => (place + step) % n) start n := by
  have hpos : 0 < n := Nat.zero_lt_of_lt hstart
  apply visitsOnce_of_nodup
  · rw [← List.range_map_iterate]
    apply List.Nodup.map_on _ List.nodup_range
    intro i hi j hj h
    rw [iterate_add_mod hstart, iterate_add_mod hstart] at h
    exact add_mul_mod_inj hcoprime (List.mem_range.mp hi)
      (List.mem_range.mp hj) h
  · intro place hplace
    rcases List.mem_iterate.mp hplace with ⟨k, hk, heq⟩
    rw [heq, iterate_add_mod hstart]
    exact Nat.mod_lt _ hpos

theorem VisitsOnce.congr {next next' : Nat -> Nat}
    (h : VisitsOnce next start n) (hstart : start < n)
    (hlt : forall place, place < n -> next place < n)
    (hnext : forall place, place < n -> next' place = next place) :
    VisitsOnce next' start n := by
  have hiterate : forall k, next^[k] start < n ∧
      next'^[k] start = next^[k] start := by
    intro k
    induction k with
    | zero => exact ⟨hstart, rfl⟩
    | succ k ih =>
        rw [Function.iterate_succ_apply', Function.iterate_succ_apply', ih.2]
        exact ⟨hlt _ ih.1, hnext _ ih.1⟩
  rw [VisitsOnce, ← List.range_map_iterate] at h ⊢
  rw [List.map_congr_left fun k _ => (hiterate k).2]
  exact h

end Cycle

end Library
end Rzu
