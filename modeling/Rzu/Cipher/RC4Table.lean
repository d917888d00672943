import Mathlib.Data.Fintype.EquivFin
import Mathlib.Logic.Equiv.Basic
import Rzu.Cipher.RC4Cipher

/-!
# The table of the cipher

Nothing but exchanges of two entries changes the table.
-/

namespace Rzu
namespace Cipher

open Library

theorem entry_exchange (data : Vector UInt8 256) (a b : UInt8) :
    entry (exchange data a b) = entry data ∘ Equiv.swap a b := by
  funext i
  have hi := i.toNat_lt
  change ((data.set _ _ _).set _ _ _)[i.toNat] = _
  rw [Vector.getElem_set, Vector.getElem_set, Function.comp_apply,
    Equiv.swap_apply_def]
  simp only [UInt8.toNat_inj, @eq_comm _ _ i]
  split
  · rename_i hb
    split
    · rename_i ha
      rw [← ha, hb]
    · rfl
  · split <;> rfl

theorem data_ext {data data' : Vector UInt8 256}
    (h : entry data = entry data') : data = data' := by
  apply Vector.ext
  intro i hi
  have hentry := congrFun h (UInt8.ofNat i)
  have hindex : (UInt8.ofNat i).toNat = i := by
    rw [UInt8.toNat_ofNat']
    lia
  simp only [entry, hindex] at hentry
  exact hentry

theorem exchange_injective {data : Vector UInt8 256}
    (h : Function.Injective (entry data)) (a b : UInt8) :
    Function.Injective (entry (exchange data a b)) := by
  rw [entry_exchange]
  exact h.comp (Equiv.swap a b).injective

theorem setKeyRounds_injective (key : List UInt8) (rounds i : Nat)
    {data : Vector UInt8 256} (h : Function.Injective (entry data))
    (j : UInt8) :
    Function.Injective (entry (setKeyRounds key rounds i data j)) := by
  induction rounds generalizing i data j with
  | zero => exact h
  | succ rounds ih => exact ih (i + 1) (exchange_injective h _ _) _

theorem identityTable_injective :
    Function.Injective (entry identityTable) := by
  have hentry : forall i, entry identityTable i = i := by
    intro i
    have hi := i.toNat_lt
    change (Vector.ofFn _)[i.toNat] = i
    rw [Vector.getElem_ofFn]
    exact UInt8.ofNat_toNat
  intro i i' h
  rw [← hentry i, h, hentry]

theorem advance_permutes (n : Nat) {key : RC4Key}
    (h : Function.Injective (entry key.data)) :
    Function.Injective (entry (rc4.advance key n).data) := by
  induction n generalizing key with
  | zero => exact h
  | succ n ih => exact ih (exchange_injective h _ _)

theorem exchange_exchange (data : Vector UInt8 256) (a b : UInt8) :
    exchange (exchange data a b) a b = data := by
  apply data_ext
  rw [entry_exchange, entry_exchange, Function.comp_assoc,
    ← Equiv.coe_trans, Equiv.swap_swap]
  rfl

/-- No two keys come to be the same. -/
theorem stir_injective : Function.Injective RC4Key.stir := by
  rintro ⟨x, y, data⟩ ⟨x', y', data'⟩ h
  simp only [RC4Key.stir, RC4Key.mk.injEq, UInt8.add_left_inj] at h
  rcases h with ⟨rfl, hy, hdata⟩
  have hsame : data = data' := by
    rw [← exchange_exchange data (x + 1) (entry data (x + 1) + y), hdata, hy,
      exchange_exchange]
  subst hsame
  rw [(UInt8.add_right_inj _).mp hy]

end Cipher
end Rzu
