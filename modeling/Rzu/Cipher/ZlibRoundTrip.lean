import Mathlib.Data.BitVec
import Mathlib.Data.Nat.Prime.Basic
import Mathlib.Tactic.NormNum.Prime
import Rzu.Cipher.ZlibCipher

/-!
# Texts that come back

The step of the walk is coprime to the number of bytes, so the walk comes by
each of them once as long as its sums have 32 bits.  A text then comes back if
its size has 32 bits as well.
-/

namespace Rzu
namespace Cipher

open Library

/--
What zlib promises.  A text is compressed if there is the room that was asked
for, and is given back if there is room for it.
-/
structure ZlibUtility.Keeps (z : ZlibUtility) : Prop where
  compress : forall data, exists compressed,
    z.compress data (z.compressBound data.length) = some compressed ∧
      compressed ≠ []
  uncompress : forall data compressed room,
    z.compress data (z.compressBound data.length) = some compressed ->
      data.length ≤ room -> z.uncompress compressed room = some data
  fits : forall compressed room data,
    z.uncompress compressed room = some data -> data.length ≤ room

namespace ZlibCipher

/-!
## The step is coprime
-/

theorem any_divisors {compressedSize magic : Nat} (hpos : 0 < magic)
    (hlt : magic < compressedSize) :
    (divisors compressedSize).any (fun d => decide (magic % d = 0)) = true ↔
      ¬magic.Coprime compressedSize := by
  rw [List.any_eq_true]
  constructor
  · rintro ⟨d, hd, hmagic⟩ hcoprime
    rw [divisors, List.mem_filter, List.mem_range, decide_eq_true_eq] at hd
    have hone := Nat.eq_one_of_dvd_coprimes hcoprime
      (Nat.dvd_of_mod_eq_zero (of_decide_eq_true hmagic))
      (Nat.dvd_of_mod_eq_zero hd.right.right)
    lia
  · intro hcoprime
    have hleft : magic.gcd compressedSize ∣ magic := Nat.gcd_dvd_left _ _
    have hright : magic.gcd compressedSize ∣ compressedSize :=
      Nat.gcd_dvd_right _ _
    have hle := Nat.le_of_dvd hpos hleft
    have hgcd : 0 < magic.gcd compressedSize := Nat.gcd_pos_of_pos_left _ hpos
    refine ⟨magic.gcd compressedSize, ?_,
      decide_eq_true (Nat.mod_eq_zero_of_dvd hleft)⟩
    rw [divisors, List.mem_filter, List.mem_range, decide_eq_true_eq]
    refine ⟨Nat.lt_of_le_of_lt hle hlt, ?_, Nat.mod_eq_zero_of_dvd hright⟩
    rw [Nat.Coprime] at hcoprime
    lia

section LowerMagic

variable {compressedSize : Nat}

theorem lowerMagic_succ {magic : Nat} (hlt : magic + 1 < compressedSize) :
    lowerMagic (divisors compressedSize) (magic + 1) =
      if (magic + 1).Coprime compressedSize then magic + 1
      else lowerMagic (divisors compressedSize) magic := by
  have hany := any_divisors (Nat.succ_pos magic) hlt
  rw [lowerMagic]
  by_cases hcoprime : (magic + 1).Coprime compressedSize
  · rw [if_pos hcoprime, if_neg fun h => hany.mp h.right hcoprime]
  · have hone : 1 < magic + 1 := by
      by_contra hle
      have hzero : magic = 0 := by lia
      subst hzero
      exact hcoprime (Nat.coprime_one_left compressedSize)
    rw [if_neg hcoprime, if_pos ⟨hone, hany.mpr hcoprime⟩]

theorem lowerMagic_le (divisors : List Nat) (magic : Nat) :
    lowerMagic divisors magic ≤ magic := by
  induction magic with
  | zero => exact Nat.le_refl 0
  | succ magic ih =>
      rw [lowerMagic]
      split
      · exact Nat.le_succ_of_le ih
      · exact Nat.le_refl _

theorem lowerMagic_coprime {magic : Nat} (hlt : magic < compressedSize)
    (hpos : 0 < magic ∨ compressedSize = 1) :
    (lowerMagic (divisors compressedSize) magic).Coprime compressedSize := by
  induction magic with
  | zero =>
      rcases hpos with hpos | hone
      · exact absurd hpos (Nat.lt_irrefl 0)
      · rw [hone]
        exact Nat.coprime_one_right _
  | succ magic ih =>
      rw [lowerMagic_succ hlt]
      split
      · assumption
      · rename_i hcoprime
        apply ih (Nat.lt_of_succ_lt hlt)
        left
        by_contra hzero
        have hmagic : magic = 0 := Nat.eq_zero_of_not_pos hzero
        subst hmagic
        exact hcoprime (Nat.coprime_one_left _)

theorem le_lowerMagic {magic step : Nat} (hlt : magic < compressedSize)
    (hle : step ≤ magic) (hcoprime : step.Coprime compressedSize) :
    step ≤ lowerMagic (divisors compressedSize) magic := by
  induction magic with
  | zero => rwa [lowerMagic]
  | succ magic ih =>
      rw [lowerMagic_succ hlt]
      split
      · exact hle
      · rename_i hnot
        apply ih (Nat.lt_of_succ_lt hlt)
        apply Nat.le_of_lt_succ
        apply Nat.lt_of_le_of_ne hle
        intro heq
        rw [heq] at hcoprime
        exact hnot hcoprime

end LowerMagic

theorem firstMagic_bounds {rest compressedSize : Nat}
    (hrest : rest < compressedSize) :
    firstMagic rest compressedSize < compressedSize ∧
      (0 < firstMagic rest compressedSize ∨ compressedSize = 1) := by
  rw [firstMagic]
  split
  · split
    · lia
    · split
      · lia
      · lia
  · lia

theorem getMagic_coprime {checksum : UInt32} {compressedSize magic : Nat}
    (h : getMagic checksum compressedSize = Except.ok magic) :
    magic.Coprime compressedSize ∧ magic < compressedSize := by
  have hpos : compressedSize ≠ 0 := by
    intro hzero
    rw [getMagic, modulo, if_pos hzero] at h
    cases h
  rw [getMagic_ok hpos] at h
  cases h
  have hbounds := firstMagic_bounds (Nat.mod_lt
    ((checksum &&& 0xFFF0).toNat + 1) (Nat.pos_of_ne_zero hpos))
  exact ⟨lowerMagic_coprime hbounds.left hbounds.right,
    Nat.lt_of_le_of_lt (lowerMagic_le _ _) hbounds.left⟩

theorem advance_eq {magic compressedSize idx : Nat}
    (hfits : compressedSize + magic ≤ 2 ^ 32) (hidx : idx < compressedSize) :
    advance magic compressedSize idx = (idx + magic) % compressedSize := by
  rw [advance, @Nat.mod_eq_of_lt (idx + magic) (2 ^ 32) (by lia)]

theorem visitsOnce_advance {checksum : UInt32} {compressedSize magic : Nat}
    (h : getMagic checksum compressedSize = Except.ok magic)
    (hfits : compressedSize + magic ≤ 2 ^ 32) {start : Nat}
    (hstart : start < compressedSize) :
    VisitsOnce (advance magic compressedSize) start compressedSize := by
  have hpos : 0 < compressedSize := Nat.zero_lt_of_lt hstart
  apply (visitsOnce_of_coprime hstart (getMagic_coprime h).left).congr hstart
  · intro place hplace
    exact Nat.mod_lt _ hpos
  · intro place hplace
    exact advance_eq hfits hplace

/-!
## Sums that overflow
-/

theorem and_le (checksum : UInt32) :
    (checksum &&& 0xFFF0).toNat ≤ checksum.toNat := by
  rw [UInt32.toNat_and]
  exact Nat.and_le_left

theorem mod_le_and (checksum : UInt32) :
    checksum.toNat % 65536 ≤ (checksum &&& 0xFFF0).toNat + 15 := by
  have hshift : (checksum &&& 0xFFF0).toNat / 16 =
      checksum.toNat / 16 % 4096 := by
    rw [UInt32.toNat_and]
    have hdiv := @Nat.shiftRight_and_distrib 4 checksum.toNat 0xFFF0
    rw [Nat.shiftRight_eq_div_pow, Nat.shiftRight_eq_div_pow] at hdiv
    exact hdiv.trans (Nat.and_two_pow_sub_one_eq_mod _ 12)
  lia

theorem coprime_two_mul_add {x r n : Nat} (hn : n = r + 2 * x)
    (hr : x.Coprime r) : x.Coprime n := by
  rw [hn]
  exact (Nat.coprime_add_mul_right_right x r 2).mpr hr

theorem exists_prime_not_dvd {n : Nat} (hpos : 0 < n) (hlt : n < 2 ^ 32) :
    exists p, p.Prime ∧ 2053 ≤ p ∧ p ≤ 2069 ∧ ¬p ∣ n := by
  have h₁ : Nat.Prime 2053 := by norm_num
  have h₂ : Nat.Prime 2063 := by norm_num
  have h₃ : Nat.Prime 2069 := by norm_num
  by_contra hall
  push Not at hall
  have hpair : 2053 * 2063 ∣ n := Nat.Coprime.mul_dvd_of_dvd_of_dvd
    (by decide) (hall 2053 h₁ (by decide) (by decide))
    (hall 2063 h₂ (by decide) (by decide))
  have hmul : 2053 * 2063 * 2069 ∣ n := Nat.Coprime.mul_dvd_of_dvd_of_dvd
    (by decide) hpair (hall 2069 h₃ (by decide) (by decide))
  have hle := Nat.le_of_dvd hpos hmul
  lia

theorem exists_coprime_near_half {n : Nat} (hlarge : 5000 < n)
    (hlt : n < 2 ^ 32) :
    exists x, x ≤ n / 2 - 1 ∧ n ≤ 2069 + 2 * x ∧ x.Coprime n := by
  have htwo (x : Nat) (hodd : x % 2 = 1) : x.Coprime 2 :=
    Nat.coprime_two_right.mpr (Nat.odd_iff.mpr hodd)
  by_cases heven : n % 2 = 0
  · by_cases hfour : n % 4 = 0
    · refine ⟨n / 2 - 1, Nat.le_refl _, by lia, ?_⟩
      exact coprime_two_mul_add (r := 2) (by lia) (htwo _ (by lia))
    · refine ⟨n / 2 - 2, by lia, by lia, ?_⟩
      exact coprime_two_mul_add (r := 4) (by lia)
        (Nat.Coprime.pow_right 2 (htwo _ (by lia)))
  · rcases exists_prime_not_dvd (by lia) hlt with
      ⟨p, hp, hlow, hhigh, hnot⟩
    have hodd : p % 2 = 1 := by
      rcases hp.eq_two_or_odd with htwo | hodd
      · lia
      · exact hodd
    have hn : n = p + 2 * ((n - p) / 2) := by lia
    refine ⟨(n - p) / 2, by lia, by lia, ?_⟩
    apply coprime_two_mul_add hn
    apply Nat.Coprime.symm
    rw [hp.coprime_iff_not_dvd]
    intro hdvd
    apply hnot
    rw [hn]
    exact Nat.dvd_add (Nat.dvd_refl p) (Nat.dvd_mul_left_of_dvd hdvd 2)

theorem advance_ne {magic compressedSize idx d : Nat}
    (hmagic : magic < compressedSize) (hlt : compressedSize + d < 2 ^ 32)
    (hover : 2 ^ 32 + d ≤ compressedSize + magic) (hd : 0 < d)
    (hidx : idx < compressedSize) :
    advance magic compressedSize idx ≠ magic - d := by
  rw [advance]
  by_cases hsum : idx + magic < 2 ^ 32
  · rw [@Nat.mod_eq_of_lt (idx + magic) (2 ^ 32) hsum]
    by_cases hround : idx + magic < compressedSize
    · rw [Nat.mod_eq_of_lt hround]
      lia
    · rw [Nat.mod_eq_sub_mod (Nat.le_of_not_lt hround),
        Nat.mod_eq_of_lt (by lia)]
      lia
  · rw [@Nat.mod_eq_sub_mod (idx + magic) (2 ^ 32) (Nat.le_of_not_lt hsum),
      @Nat.mod_eq_of_lt (idx + magic - 2 ^ 32) (2 ^ 32) (by lia),
      Nat.mod_eq_of_lt (by lia)]
    lia

/--
A walk whose sums overflow does not come by each byte once: the places one and
two before the step could only be the first one, and the step that would have
to stand one behind the first place is none that is chosen.
-/
theorem fits_of_visitsOnce {checksum : UInt32} {compressedSize magic : Nat}
    (hlt : compressedSize + 4 < 2 ^ 32)
    (h : getMagic checksum compressedSize = Except.ok magic)
    (hvisits : VisitsOnce (advance magic compressedSize)
      (checksum.toNat % compressedSize) compressedSize) :
    compressedSize + magic ≤ 2 ^ 32 := by
  by_contra hover
  have hmagic := (getMagic_coprime h).right
  have hpos : compressedSize ≠ 0 := by lia
  have hbits := checksum.toNat_lt
  have hstart : checksum.toNat % compressedSize = magic - 1 :=
    hvisits.start_eq (by lia) fun idx hidx =>
      advance_ne hmagic (by lia) (by lia) (by decide) hidx
  have hsum : compressedSize + magic = 2 ^ 32 + 1 := by
    by_contra hne
    have hstart' : checksum.toNat % compressedSize = magic - 2 :=
      hvisits.start_eq (by lia) fun idx hidx =>
        advance_ne hmagic (by lia) (by lia) (by decide) hidx
    lia
  have hchecksum : checksum.toNat = magic - 1 := by
    by_cases hsmall : checksum.toNat < compressedSize
    · rw [Nat.mod_eq_of_lt hsmall] at hstart
      exact hstart
    · rw [Nat.mod_eq_sub_mod (Nat.le_of_not_lt hsmall),
        Nat.mod_eq_of_lt (by lia)] at hstart
      lia
  have hand := and_le checksum
  have hrest : ((checksum &&& 0xFFF0).toNat + 1) % compressedSize =
      (checksum &&& 0xFFF0).toNat + 1 := Nat.mod_eq_of_lt (by lia)
  rw [getMagic_ok hpos, hrest] at h
  have hlower := lowerMagic_le (divisors compressedSize)
    (firstMagic ((checksum &&& 0xFFF0).toNat + 1) compressedSize)
  have hvalue : lowerMagic (divisors compressedSize)
      (firstMagic ((checksum &&& 0xFFF0).toNat + 1) compressedSize) = magic :=
    Except.ok.inj h
  rw [hvalue] at hlower
  by_cases hfew : (checksum &&& 0xFFF0).toNat + 1 < 8
  · -- the step is close to the half, and such a checksum has other low bits
    have hfirst : firstMagic ((checksum &&& 0xFFF0).toNat + 1)
        compressedSize = compressedSize / 2 - 1 := by
      rw [firstMagic]
      rw [if_pos (by lia), if_pos (by lia)]
    rcases exists_coprime_near_half (n := compressedSize) (by lia) (by lia)
      with ⟨step, hle, hnear, hcoprime⟩
    have hbelow : compressedSize / 2 - 1 < compressedSize := by lia
    have hge := le_lowerMagic hbelow hle hcoprime
    rw [hfirst] at hvalue hlower
    rw [hvalue] at hge
    have hlow := mod_le_and checksum
    lia
  · have hfirst : firstMagic ((checksum &&& 0xFFF0).toNat + 1)
        compressedSize ≤ ((checksum &&& 0xFFF0).toNat + 1) / 2 := by
      rw [firstMagic]
      rw [if_neg (by lia)]
      lia
    lia

/-!
## What is written is read
-/

theorem ofBytes_toBytes (val : UInt32) :
    ofBytes (val >>> 24).toUInt8 (val >>> 16).toUInt8 (val >>> 8).toUInt8
      val.toUInt8 = val := by
  have h24 : (UInt32.toBitVec 24 % 32).toNat = 24 := rfl
  have h16 : (UInt32.toBitVec 16 % 32).toNat = 16 := rfl
  have h8 : (UInt32.toBitVec 8 % 32).toNat = 8 := rfl
  rw [ofBytes]
  apply UInt32.toBitVec_inj.mp
  apply BitVec.eq_of_getLsbD_eq
  intro i hi
  simp only [UInt32.toBitVec_or, UInt32.toBitVec_shiftLeft,
    UInt32.toBitVec_shiftRight, UInt8.toBitVec_toUInt32,
    UInt32.toBitVec_toUInt8, BitVec.shiftLeft_eq', BitVec.ushiftRight_eq',
    h24, h16, h8, BitVec.getLsbD_or, BitVec.getLsbD_shiftLeft,
    BitVec.getLsbD_setWidth, BitVec.getLsbD_ushiftRight, hi]
  -- the bit stands in one of the four bytes
  have hbyte : i < 8 ∨ 8 ≤ i ∧ i < 16 ∨ 16 ≤ i ∧ i < 24 ∨ 24 ≤ i := by lia
  rcases hbyte with h | ⟨h, h'⟩ | ⟨h, h'⟩ | h
  · simp [h, show i < 16 by lia, show i < 24 by lia]
  · simp [h', show ¬i < 8 by lia, show i < 24 by lia,
      show i - 8 < 8 by lia, show i - 8 < 32 by lia, Nat.add_sub_of_le h]
  · simp [h', show ¬i < 8 by lia, show ¬i < 16 by lia,
      show i - 16 < 8 by lia, show i - 16 < 32 by lia,
      show ¬i - 8 < 8 by lia, Nat.add_sub_of_le h]
  · simp [show ¬i < 8 by lia, show ¬i < 16 by lia, show ¬i < 24 by lia,
      show i - 24 < 8 by lia, show i - 24 < 32 by lia,
      show ¬i - 8 < 8 by lia, show ¬i - 16 < 8 by lia,
      Nat.add_sub_of_le h]

/-- A number stands in a vector, with its bytes in order. -/
structure Stands (data : List UInt8) (offset : Nat) (val : UInt32) : Prop where
  first : data[offset]? = some (val >>> 24).toUInt8
  second : data[offset + 1]? = some (val >>> 16).toUInt8
  third : data[offset + 2]? = some (val >>> 8).toUInt8
  fourth : data[offset + 3]? = some val.toUInt8

theorem Stands.congr {data data' : List UInt8} {offset : Nat} {val : UInt32}
    (h : Stands data offset val)
    (heq : forall j, offset ≤ j -> j < offset + 4 -> data'[j]? = data[j]?) :
    Stands data' offset val where
  first := (heq _ (by lia) (by lia)).trans h.first
  second := (heq _ (by lia) (by lia)).trans h.second
  third := (heq _ (by lia) (by lia)).trans h.third
  fourth := (heq _ (by lia) (by lia)).trans h.fourth

theorem Stands.read {data : List UInt8} {offset : Nat} {val : UInt32}
    (h : Stands data offset val) (hlt : offset + 3 < 2 ^ 32) :
    readUInt32 data offset = Except.ok val := by
  rw [readUInt32, Nat.mod_eq_of_lt (by lia : offset < 2 ^ 32),
    Nat.mod_eq_of_lt (by lia : offset + 1 < 2 ^ 32),
    Nat.mod_eq_of_lt (by lia : offset + 2 < 2 ^ 32), Nat.mod_eq_of_lt hlt,
    byteAt, byteAt, byteAt, byteAt, h.first, h.second, h.third, h.fourth]
  change Except.ok (ofBytes _ _ _ _) = _
  rw [ofBytes_toBytes]

theorem writeUInt32_ok (data : List UInt8) (offset : Nat)
    (h : offset + 4 ≤ data.length) (val : UInt32) :
    exists data', writeUInt32 data offset val = Except.ok data' ∧
      data'.length = data.length ∧ Stands data' offset val ∧
      forall j, j < offset -> data'[j]? = data[j]? := by
  let data₁ := data.set offset (val >>> 24).toUInt8
  let data₂ := data₁.set (offset + 1) (val >>> 16).toUInt8
  let data₃ := data₂.set (offset + 2) (val >>> 8).toUInt8
  have h₁ : data₁.length = data.length := List.length_set
  have h₂ : data₂.length = data.length := List.length_set.trans h₁
  have h₃ : data₃.length = data.length := List.length_set.trans h₂
  refine ⟨data₃.set (offset + 3) val.toUInt8, ?_, List.length_set.trans h₃,
    ?_, ?_⟩
  · rw [writeUInt32, setByte_ok (by lia)]
    change (setByte data₁ (offset + 1) _).bind _ = _
    rw [setByte_ok (by lia)]
    change (setByte data₂ (offset + 2) _).bind _ = _
    rw [setByte_ok (by lia)]
    exact setByte_ok (by lia) _
  · constructor
    · rw [List.getElem?_set_ne (by lia), List.getElem?_set_ne (by lia),
        List.getElem?_set_ne (by lia), List.getElem?_set_self (by lia)]
    · rw [List.getElem?_set_ne (by lia), List.getElem?_set_ne (by lia),
        List.getElem?_set_self (by lia)]
    · rw [List.getElem?_set_ne (by lia), List.getElem?_set_self (by lia)]
    · exact List.getElem?_set_self (by lia)
  · intro j hj
    rw [List.getElem?_set_ne (by lia), List.getElem?_set_ne (by lia),
      List.getElem?_set_ne (by lia), List.getElem?_set_ne (by lia)]

section Walk

variable (magic : Nat) {compressedSize : Nat}

/-- What is written on a walk is gathered on it. -/
theorem scatter_ok (hpos : compressedSize ≠ 0) (compressed : List UInt8)
    (lastChar : UInt8) (idx : Nat) (encryptedData : List UInt8)
    (hlt : forall place, place ∈ List.iterate (advance magic compressedSize)
      idx compressed.length -> place < encryptedData.length)
    (hnodup : (List.iterate (advance magic compressedSize) idx
      compressed.length).Nodup) :
    exists out, scatter magic compressedSize compressed lastChar idx
        encryptedData = Except.ok out ∧
      out.length = encryptedData.length ∧
      (forall j, j ∉ List.iterate (advance magic compressedSize) idx
        compressed.length -> out[j]? = encryptedData[j]?) ∧
      forall data : List UInt8,
        (forall place, place ∈ List.iterate (advance magic compressedSize) idx
          compressed.length -> data[place]? = out[place]?) ->
        gather magic compressedSize data compressed.length lastChar idx =
          Except.ok compressed := by
  induction compressed generalizing lastChar idx encryptedData with
  | nil =>
      exact ⟨encryptedData, rfl, rfl, fun j _ => rfl, fun data _ => rfl⟩
  | cons c compressed ih =>
      have hidx : idx < encryptedData.length := hlt idx List.mem_cons_self
      have hsplit := List.nodup_cons.mp hnodup
      rcases ih c (advance magic compressedSize idx)
          (encryptedData.set idx (c - lastChar))
          (fun place hplace => by
            rw [List.length_set]
            exact hlt place (List.mem_cons_of_mem _ hplace))
          hsplit.right with ⟨out, heq, hlength, hkeeps, hgather⟩
      refine ⟨out, ?_, ?_, ?_, ?_⟩
      · rw [scatter, setByte_ok hidx]
        exact heq
      · rw [hlength, List.length_set]
      · intro j hj
        have hne : idx ≠ j := fun h => hj (h ▸ List.mem_cons_self)
        rw [hkeeps j fun h => hj (List.mem_cons_of_mem _ h),
          List.getElem?_set_ne hne]
      · intro data hdata
        have hfirst : data[idx]? = some (c - lastChar) := by
          rw [hdata idx List.mem_cons_self, hkeeps idx hsplit.left,
            List.getElem?_set_self hidx]
        rw [List.length_cons, gather, byteAt, hfirst]
        change (modulo _ _).bind _ = _
        rw [modulo_ok hpos, UInt8.sub_add_cancel]
        change (gather magic compressedSize data compressed.length c
          (advance magic compressedSize idx)).bind _ = _
        rw [hgather data fun place hplace =>
          hdata place (List.mem_cons_of_mem _ hplace)]
        rfl

end Walk

/-!
## Round trip
-/

section RoundTrip

variable {z : ZlibUtility} {checksum : UInt32}
variable {plainData compressed : List UInt8} {magic : Nat}

/-- What is decrypted was compressed, up to the size that is written. -/
theorem decrypt_encryptWith (hne : plainData ≠ [])
    (hcompress : z.compress plainData (z.compressBound plainData.length) =
      some compressed)
    (hlt : compressed.length + 7 < 2 ^ 32)
    (hmagic : getMagic checksum compressed.length = Except.ok magic)
    (hvisits : VisitsOnce (advance magic compressed.length)
      (checksum.toNat % compressed.length) compressed.length) :
    exists encryptedData,
      encryptWith z checksum plainData = Except.ok encryptedData ∧
      decrypt z encryptedData = Except.ok
        ((z.uncompress compressed (plainData.length % 2 ^ 32)).getD []) := by
  let size := compressed.length
  have hpos : size ≠ 0 := by
    intro hzero
    have hpair := getMagic_coprime hmagic
    lia
  rcases scatter_ok magic hpos compressed 0 (checksum.toNat % size)
      (List.replicate (size + 8) 0)
      (fun place hplace => by
        have hplace := hvisits.lt hplace
        rw [List.length_replicate]
        lia) hvisits.nodup with
    ⟨shuffled, hscatter, hshuffled, -, hgather⟩
  rw [List.length_replicate] at hshuffled
  rcases writeUInt32_ok shuffled size (by lia)
      (UInt32.ofNat plainData.length) with
    ⟨sized, hsized, hsizedLength, hsize, hbefore⟩
  rcases xorBytes_ok checksum.toUInt8 (size + 4) 0 sized (by lia) with
    ⟨masked, hmasked, hmaskedLength, hmask⟩
  rcases writeUInt32_ok masked (size + 4) (by lia)
      checksum with
    ⟨encryptedData, hencrypted, hlength, hchecksum, hkeeps⟩
  have hlength8 : encryptedData.length = size + 8 := by lia
  refine ⟨encryptedData, ?_, ?_⟩
  · rw [encryptWith, if_neg (by rwa [List.length_eq_zero_iff]), hcompress]
    dsimp only
    rw [Nat.mod_eq_of_lt (by lia : compressed.length < 2 ^ 32), hmagic]
    change (modulo checksum.toNat size).bind _ = _
    rw [modulo_ok hpos]
    change (countTo size).bind _ = _
    rw [countTo, if_pos (by lia)]
    change (scatter magic size compressed 0 (checksum.toNat % size) _).bind
      _ = _
    rw [hscatter]
    change (writeUInt32 shuffled size _).bind _ = _
    rw [hsized]
    change (countTo (size + 4)).bind _ = _
    rw [countTo, if_pos (by lia)]
    change (xorBytes checksum.toUInt8 (size + 4) 0 sized).bind _ = _
    rw [hmasked]
    exact hencrypted
  · have hpayload : (encryptedData.length - 8) % 2 ^ 32 = size := by
      rw [hlength8, Nat.add_sub_cancel]
      exact Nat.mod_eq_of_lt (by lia)
    rcases xorBytes_ok checksum.toUInt8 (size + 4) 0 encryptedData
        (by lia) with
      ⟨cleared, hcleared, hclearedLength, hclear⟩
    -- masking twice gives back what was masked
    have hback : forall j, j < size + 4 -> cleared[j]? = sized[j]? := by
      intro j hj
      rw [hclear, if_pos ⟨Nat.zero_le j, by lia⟩, hkeeps j hj, hmask,
        if_pos ⟨Nat.zero_le j, by lia⟩, Option.map_map]
      cases sized[j]? with
      | none => rfl
      | some byte =>
          change some ((byte ^^^ checksum.toUInt8) ^^^ checksum.toUInt8) = _
          rw [UInt8.xor_assoc, UInt8.xor_self, UInt8.xor_zero]
    rw [decrypt, if_neg (by lia)]
    dsimp only
    rw [hpayload, hchecksum.read (by lia)]
    change (xorBytes checksum.toUInt8 ((size + 4) % 2 ^ 32) 0
      encryptedData).bind _ = _
    rw [Nat.mod_eq_of_lt (by lia), hcleared]
    change (readUInt32 cleared size).bind _ = _
    rw [(hsize.congr fun j _ hj => hback j hj).read (by lia)]
    change (getMagic checksum size).bind _ = _
    rw [hmagic]
    change (modulo checksum.toNat size).bind _ = _
    rw [modulo_ok hpos]
    change (gather magic size cleared compressed.length 0
      (checksum.toNat % size)).bind _ = _
    rw [hgather cleared fun place hplace => by
      have hplace := hvisits.lt hplace
      rw [hback place (by lia), hbefore place hplace]]
    change Except.ok ((z.uncompress compressed
      (UInt32.ofNat plainData.length).toNat).getD []) = _
    rw [UInt32.toNat_ofNat']

/--
A text is encrypted, on a walk that comes by each byte once, and decrypted to
what it was.
-/
def Restores (z : ZlibUtility) (checksum : UInt32)
    (plainData : List UInt8) : Prop :=
  exists compressed magic encryptedData,
    z.compress plainData (z.compressBound plainData.length) =
      some compressed ∧
    getMagic checksum compressed.length = Except.ok magic ∧
    VisitsOnce (advance magic compressed.length)
      (checksum.toNat % compressed.length) compressed.length ∧
    encryptWith z checksum plainData = Except.ok encryptedData ∧
    decrypt z encryptedData = Except.ok plainData

theorem bind_ok {α β : Type} {x : Except Fault α}
    {f : α -> Except Fault β} {b : β} (h : x.bind f = Except.ok b) :
    exists a, x = Except.ok a ∧ f a = Except.ok b := by
  cases x with
  | error fault => cases h
  | ok a => exact ⟨a, rfl, h⟩

theorem lt_of_countTo {bound count : Nat}
    (h : countTo bound = Except.ok count) : bound < 2 ^ 32 := by
  rw [countTo] at h
  by_contra hge
  rw [if_neg hge] at h
  cases h

theorem lt_of_encryptWith (hne : plainData ≠ [])
    (hcompress : z.compress plainData (z.compressBound plainData.length) =
      some compressed)
    {encryptedData : List UInt8}
    (h : encryptWith z checksum plainData = Except.ok encryptedData) :
    compressed.length + 4 < 2 ^ 32 := by
  rw [encryptWith, if_neg (by rwa [List.length_eq_zero_iff]), hcompress] at h
  rcases bind_ok h with ⟨magic, -, h⟩
  rcases bind_ok h with ⟨idx, -, h⟩
  rcases bind_ok h with ⟨bound, -, h⟩
  rcases bind_ok h with ⟨shuffled, -, h⟩
  rcases bind_ok h with ⟨sized, -, h⟩
  rcases bind_ok h with ⟨count, hcount, -⟩
  exact lt_of_countTo hcount

/--
The size of a text has 32 bits, and so have the sums on the walk and the index
of the last byte that is read.
-/
structure Fits (z : ZlibUtility) (checksum : UInt32)
    (plainData compressed : List UInt8) : Prop where
  size : plainData.length < 2 ^ 32
  last : compressed.length + 7 < 2 ^ 32
  sums : forall magic,
    getMagic checksum compressed.length = Except.ok magic ->
      compressed.length + magic ≤ 2 ^ 32

theorem lt_of_uncompressed (hz : z.Keeps) (hne : plainData ≠ [])
    (h : (z.uncompress compressed (plainData.length % 2 ^ 32)).getD [] =
      plainData) : plainData.length < 2 ^ 32 := by
  cases hback : z.uncompress compressed (plainData.length % 2 ^ 32) with
  | none =>
      rw [hback] at h
      exact absurd h.symm hne
  | some decrypted =>
      rw [hback, Option.getD_some] at h
      have hfits := hz.fits _ _ _ hback
      rw [h] at hfits
      exact Nat.lt_of_le_of_lt hfits (Nat.mod_lt _ (by decide))

/--
A text whose numbers fit in 32 bits comes back.  A text that comes back is one
of these, or the index of the last byte is one of the first numbers that do not
fit: then the checksum is read from the front of the vector in part.
-/
theorem restores_of_fits (hz : z.Keeps) (checksum : UInt32)
    (hne : plainData ≠ [])
    (hcompress : z.compress plainData (z.compressBound plainData.length) =
      some compressed) :
    (Fits z checksum plainData compressed ->
      Restores z checksum plainData) ∧
    (Restores z checksum plainData ->
      Fits z checksum plainData compressed ∨
        compressed.length + 4 < 2 ^ 32 ∧ 2 ^ 32 ≤ compressed.length + 7) := by
  constructor
  · intro hfits
    have hpos : compressed.length ≠ 0 := by
      rcases hz.compress plainData with ⟨compressed', hcompress', hfull⟩
      rw [hcompress] at hcompress'
      cases hcompress'
      rwa [ne_eq, List.length_eq_zero_iff]
    have hmagic := getMagic_ok hpos checksum
    have hvisits := visitsOnce_advance hmagic (hfits.sums _ hmagic)
      (Nat.mod_lt checksum.toNat (Nat.pos_of_ne_zero hpos))
    rcases decrypt_encryptWith hne hcompress hfits.last hmagic hvisits with
      ⟨encryptedData, hencrypt, hdecrypt⟩
    refine ⟨compressed, _, encryptedData, hcompress, hmagic, hvisits,
      hencrypt, ?_⟩
    rw [hdecrypt, Nat.mod_eq_of_lt hfits.size,
      hz.uncompress _ _ _ hcompress (Nat.le_refl _)]
    rfl
  · rintro ⟨compressed', magic, encryptedData, hcompress', hmagic, hvisits,
      hencrypt, hdecrypt⟩
    rw [hcompress] at hcompress'
    cases hcompress'
    have hlt := lt_of_encryptWith hne hcompress hencrypt
    by_cases hlast : compressed.length + 7 < 2 ^ 32
    · left
      rcases decrypt_encryptWith hne hcompress hlast hmagic hvisits with
        ⟨encryptedData', hencrypt', hdecrypt'⟩
      rw [hencrypt] at hencrypt'
      cases hencrypt'
      rw [hdecrypt] at hdecrypt'
      refine ⟨lt_of_uncompressed hz hne (Except.ok.inj hdecrypt').symm, hlast,
        ?_⟩
      intro magic' hmagic'
      rw [hmagic] at hmagic'
      cases hmagic'
      exact fits_of_visitsOnce hlt hmagic hvisits
    · exact Or.inr ⟨hlt, Nat.le_of_not_lt hlast⟩

def zlibOf (text form : List UInt8) : ZlibUtility where
  compressBound n := n + 13
  compress data _ := some (if data = text then form else 0 :: data)
  uncompress compressed room :=
    if compressed = form then
      if text.length ≤ room then some text else none
    else if compressed.length ≤ room + 1 then some compressed.tail
    else none

theorem zlibOf_keeps (text : List UInt8) {form : List UInt8}
    (hfirst : exists c rest, form = c :: rest ∧ c ≠ 0) :
    (zlibOf text form).Keeps where
  compress := by
    intro data
    refine ⟨_, rfl, ?_⟩
    rcases hfirst with ⟨c, rest, hform, -⟩
    split
    · rw [hform]
      exact List.cons_ne_nil _ _
    · exact List.cons_ne_nil _ _
  uncompress := by
    intro data compressed room hcompress hroom
    cases hcompress
    change (if (if data = text then form else 0 :: data) = form then _
      else _) = _
    by_cases hdata : data = text
    · subst hdata
      rw [if_pos rfl, if_pos rfl, if_pos hroom]
    · have hother : ¬0 :: data = form := by
        intro heq
        rcases hfirst with ⟨c, rest, hform, hzero⟩
        rw [hform] at heq
        exact hzero (List.cons.inj heq).left.symm
      rw [if_neg hdata, if_neg hother, List.length_cons,
        if_pos (Nat.succ_le_succ hroom)]
      rfl
  fits := by
    intro compressed room data hdata
    change (if compressed = form then if text.length ≤ room then some text
      else none else _) = some data at hdata
    split at hdata
    · split at hdata
      · cases hdata
        assumption
      · cases hdata
    · split at hdata
      · cases hdata
        rw [List.length_tail]
        lia
      · cases hdata

/-- One character, with the form that it really has. -/
theorem restores_of_fits_short :
    Restores (zlibOf [97] [120, 156, 75, 4, 0, 0, 98, 0, 98])
      (checksumOf [97]) [97] := by
  have hcompress : (zlibOf [97] [120, 156, 75, 4, 0, 0, 98, 0, 98]).compress
      [97] 14 = some [120, 156, 75, 4, 0, 0, 98, 0, 98] := rfl
  refine (restores_of_fits (zlibOf_keeps _ ⟨_, _, rfl, by decide⟩)
    (checksumOf [97]) (List.cons_ne_nil _ _) hcompress).1
    ⟨by decide, by decide, ?_⟩
  intro magic hmagic
  have hlt := (getMagic_coprime hmagic).right
  have hnine : [120, 156, 75, 4, 0, 0, 98, 0, (98 : UInt8)].length = 9 := rfl
  rw [hnine] at hlt ⊢
  lia

/-- The size of this text is written as zero. -/
theorem not_restores_zeros :
    (forall (z : ZlibUtility) (checksum : UInt32) (compressed : List UInt8),
      z.Keeps ->
      z.compress (List.replicate (2 ^ 32) 0)
        (z.compressBound (List.replicate (2 ^ 32) (0 : UInt8)).length) =
          some compressed ->
      compressed.length < 2 ^ 31 ->
        ¬Restores z checksum (List.replicate (2 ^ 32) 0)) ∧
    exists (z : ZlibUtility) (compressed : List UInt8), z.Keeps ∧
      z.compress (List.replicate (2 ^ 32) 0)
        (z.compressBound (List.replicate (2 ^ 32) (0 : UInt8)).length) =
          some compressed ∧
      compressed.length < 2 ^ 31 := by
  refine ⟨?_, zlibOf (List.replicate (2 ^ 32) 0) [120],
    if List.replicate (2 ^ 32) (0 : UInt8) = List.replicate (2 ^ 32) 0
      then [120] else 0 :: List.replicate (2 ^ 32) 0,
    zlibOf_keeps _ ⟨_, _, rfl, by decide⟩, rfl, ?_⟩
  · intro z checksum compressed hz hcompress hshort hrestores
    have hlength : (List.replicate (2 ^ 32) (0 : UInt8)).length = 2 ^ 32 :=
      List.length_replicate
    have hne : List.replicate (2 ^ 32) (0 : UInt8) ≠ [] := by
      rw [← List.length_pos_iff, hlength]
      decide
    rcases hrestores with ⟨compressed', magic, encryptedData, hcompress',
      hmagic, hvisits, hencrypt, hdecrypt⟩
    rw [hcompress] at hcompress'
    cases hcompress'
    rcases decrypt_encryptWith hne hcompress (by lia) hmagic hvisits with
      ⟨encryptedData', hencrypt', hdecrypt'⟩
    rw [hencrypt] at hencrypt'
    cases hencrypt'
    rw [hdecrypt] at hdecrypt'
    have hlt := lt_of_uncompressed hz hne (Except.ok.inj hdecrypt').symm
    rw [hlength] at hlt
    exact Nat.lt_irrefl _ hlt
  · rw [if_pos rfl]
    decide

end RoundTrip

end ZlibCipher

end Cipher
end Rzu
