import Mathlib.Logic.Function.Basic
import Mathlib.Data.BitVec

/-!
# Obfuscated integers

Some integers travel with their bits permuted, and spread over four words two
of which may be random.
-/

namespace Rzu
namespace Packet

/-!
## Permuted bits
-/

/-- Bit `i` of `v` goes to bit `map i`, for `left` bits from the lowest on. -/
def permuteBits (map : List Nat) :
    Nat -> Nat -> BitVec 32 -> BitVec 32 -> BitVec 32
  | 0, _, _, result => result
  | left + 1, i, v, result =>
      permuteBits map left (i + 1) (v >>> 1)
        (if v &&& 1#32 ≠ 0#32 then result ||| 1#32 <<< map.getD i 0 else result)

theorem and_one_ne_zero (v : BitVec 32) :
    v &&& 1#32 ≠ 0#32 ↔ v.getLsbD 0 = true := by
  rw [ne_eq, BitVec.and_one_eq_setWidth_ofBool_getLsbD]
  cases v.getLsbD 0 with
  | false => decide
  | true => decide

theorem permuteBits_getLsbD (map : List Nat) (left i : Nat)
    (v result : BitVec 32) (k : Nat) (hk : k < 32) :
    (permuteBits map left i v result).getLsbD k = true ↔
      result.getLsbD k = true ∨
        exists j, j < left ∧ map.getD (i + j) 0 = k ∧ v.getLsbD j = true := by
  induction left generalizing i v result with
  | zero =>
      rw [permuteBits]
      constructor
      · exact Or.inl
      · rintro (h | ⟨j, hj, -⟩)
        · exact h
        · exact absurd hj (Nat.not_lt_zero j)
  | succ left ih =>
      have hfirst : (if v &&& 1#32 ≠ 0#32 then result ||| 1#32 <<< map.getD i 0
          else result).getLsbD k = true ↔
            result.getLsbD k = true ∨
              map.getD i 0 = k ∧ v.getLsbD 0 = true := by
        by_cases hbit : v.getLsbD 0 = true
        · rw [if_pos ((and_one_ne_zero v).mpr hbit)]
          simp only [BitVec.getLsbD_or, BitVec.getLsbD_shiftLeft,
            BitVec.getLsbD_one, Bool.or_eq_true, Bool.and_eq_true,
            decide_eq_true_eq, Bool.not_eq_true', decide_eq_false_iff_not,
            hk, hbit, and_true, true_and]
          lia
        · rw [if_neg (mt (and_one_ne_zero v).mp hbit)]
          exact ⟨Or.inl, fun h => h.resolve_right fun hlast =>
            hbit hlast.right⟩
      rw [permuteBits, ih, hfirst]
      constructor
      · rintro ((h | ⟨hmap, hbit⟩) | ⟨j, hj, hmap, hbit⟩)
        · exact Or.inl h
        · exact Or.inr ⟨0, Nat.succ_pos left, hmap, hbit⟩
        · refine Or.inr ⟨j + 1, Nat.succ_lt_succ hj, ?_, ?_⟩
          · rw [← hmap, Nat.add_right_comm, Nat.add_assoc]
          · rw [BitVec.getLsbD_ushiftRight] at hbit
            rw [Nat.add_comm]
            exact hbit
      · rintro (h | ⟨j, hj, hmap, hbit⟩)
        · exact Or.inl (Or.inl h)
        · cases j with
          | zero => exact Or.inl (Or.inr ⟨hmap, hbit⟩)
          | succ j =>
              refine Or.inr ⟨j, Nat.lt_of_succ_lt_succ hj, ?_, ?_⟩
              · rw [← hmap, Nat.add_right_comm, Nat.add_assoc]
              · rw [BitVec.getLsbD_ushiftRight, Nat.add_comm]
                exact hbit

/-- Two maps that lead back from each other, on 32 bits. -/
structure Inverse (map back : List Nat) : Prop where
  bounded : forall i, i < 32 -> map.getD i 0 < 32
  left : forall i, i < 32 -> back.getD (map.getD i 0) 0 = i

theorem Inverse.permuteBits {map back : List Nat} (h : Inverse map back)
    (v : BitVec 32) :
    permuteBits back 32 0 (permuteBits map 32 0 v 0#32) 0#32 = v := by
  apply BitVec.eq_of_getLsbD_eq
  intro k hk
  rw [Bool.eq_iff_iff, permuteBits_getLsbD back 32 0 _ _ k hk]
  simp only [BitVec.getLsbD_zero, Bool.false_eq_true, false_or, Nat.zero_add]
  constructor
  · rintro ⟨j, hj, hback, hbit⟩
    rw [permuteBits_getLsbD map 32 0 v _ j hj] at hbit
    simp only [BitVec.getLsbD_zero, Bool.false_eq_true, false_or,
      Nat.zero_add] at hbit
    rcases hbit with ⟨i, hi, hmap, hbit⟩
    rw [← hback, ← hmap, h.left i hi]
    exact hbit
  · intro hbit
    refine ⟨map.getD k 0, h.bounded k hk, h.left k hk, ?_⟩
    rw [permuteBits_getLsbD map 32 0 v _ _ (h.bounded k hk)]
    exact Or.inr ⟨k, hk, by rw [Nat.zero_add], hbit⟩

/-- The static variables of the class. -/
structure EncodingScrambled where
  mapInitialized : Bool
  encodeMap : List Nat
  decodeMap : List Nat

namespace EncodingScrambled

/-- The variables when the program starts. -/
def static : EncodingScrambled where
  mapInitialized := false
  encodeMap := List.replicate 32 0
  decodeMap := List.replicate 32 0

/-- The second loop of `init`: entry `i` changes places with entry `j`. -/
def shuffle : Nat -> Nat -> Nat -> List Nat -> List Nat
  | 0, _, _, encodeMap => encodeMap
  | left + 1, i, j, encodeMap =>
      let oldValue := encodeMap.getD i 0
      shuffle left (i + 1) ((j + i + 3) % 32)
        ((encodeMap.set i (encodeMap.getD j 0)).set j oldValue)

/-- The last loop of `init`. -/
def invert (encodeMap : List Nat) : Nat -> Nat -> List Nat -> List Nat
  | 0, _, decodeMap => decodeMap
  | left + 1, i, decodeMap =>
      invert encodeMap left (i + 1) (decodeMap.set (encodeMap.getD i 0) i)

def init (s : EncodingScrambled) : EncodingScrambled :=
  if s.mapInitialized = false then
    let encodeMap := shuffle 32 0 3 (List.range 32)
    { mapInitialized := true
      encodeMap := encodeMap
      decodeMap := invert encodeMap 32 0 s.decodeMap }
  else s

def encode (s : EncodingScrambled) (v : BitVec 32) :
    EncodingScrambled × BitVec 32 :=
  (s.init, permuteBits s.init.encodeMap 32 0 v 0#32)

def decode (s : EncodingScrambled) (v : BitVec 32) :
    EncodingScrambled × BitVec 32 :=
  (s.init, permuteBits s.init.decodeMap 32 0 v 0#32)

inductive Call where
  | encode (v : BitVec 32)
  | decode (v : BitVec 32)

def call (s : EncodingScrambled) : Call -> EncodingScrambled
  | Call.encode v => (s.encode v).1
  | Call.decode v => (s.decode v).1

/-- The maps have not been filled, or hold what `init` filled them with. -/
def Ready (s : EncodingScrambled) : Prop :=
  s = static ∨ s = static.init

theorem Ready.init {s : EncodingScrambled} (h : Ready s) :
    s.init = static.init := by
  rcases h with rfl | rfl
  · rfl
  · rfl

theorem ready_call {s : EncodingScrambled} (h : Ready s) (call : Call) :
    Ready (s.call call) := by
  cases call with
  | encode v => exact Or.inr h.init
  | decode v => exact Or.inr h.init

theorem ready_calls {s : EncodingScrambled} (h : Ready s)
    (calls : List Call) :
    Ready (calls.foldl EncodingScrambled.call s) := by
  induction calls generalizing s with
  | nil => exact h
  | cons call calls ih => exact ih (ready_call h call)

theorem inverse_maps :
    Inverse static.init.encodeMap static.init.decodeMap where
  bounded := by decide +kernel
  left := by decide +kernel

theorem inverse_maps_back :
    Inverse static.init.decodeMap static.init.encodeMap where
  bounded := by decide +kernel
  left := by decide +kernel

end EncodingScrambled

/-!
## Words of the integer
-/

namespace EncodingRandomized

/-- `SerializedValue`; the first word is the low one. -/
structure SerializedValue where
  u16_0 : BitVec 16
  u16_1 : BitVec 16
  u16_2 : BitVec 16
  u16_3 : BitVec 16

def SerializedValue.u64 (sv : SerializedValue) : BitVec 64 :=
  sv.u16_3 ++ sv.u16_2 ++ sv.u16_1 ++ sv.u16_0

def SerializedValue.ofU64 (u64 : BitVec 64) : SerializedValue where
  u16_0 := u64.extractLsb' 0 16
  u16_1 := u64.extractLsb' 16 16
  u16_2 := u64.extractLsb' 32 16
  u16_3 := u64.extractLsb' 48 16

/-- What is written; the words that may be random are zero. -/
def serialize (value : BitVec 32) : BitVec 64 :=
  SerializedValue.u64
    { u16_0 := 0
      u16_1 := (value >>> 16).setWidth 16
      u16_2 := 0
      u16_3 := (value &&& 0xFFFF#32).setWidth 16 }

/-- What the comment in `serialize` calls the true implementation. -/
def trueSerialize (word0 word2 : BitVec 16) (value : BitVec 32) : BitVec 64 :=
  SerializedValue.u64
    { u16_0 := word0
      u16_1 := BitVec.ofInt 16
        ((value >>> 16).toNat + 2 * (word2.toNat - word0.toNat))
      u16_2 := word2
      u16_3 := BitVec.ofInt 16
        ((value &&& 0xFFFF#32).toNat - 2 * (word2.toNat + word0.toNat)) }

def deserialize (u64 : BitVec 64) : BitVec 32 :=
  let sv := SerializedValue.ofU64 u64
  (BitVec.ofInt 16 (sv.u16_1.toNat -
      2 * (sv.u16_2.toNat - sv.u16_0.toNat))).setWidth 32 <<< 16 |||
    (BitVec.ofInt 16 (sv.u16_3.toNat +
      2 * (sv.u16_2.toNat + sv.u16_0.toNat))).setWidth 32

theorem SerializedValue.ofU64_u64 (sv : SerializedValue) :
    SerializedValue.ofU64 sv.u64 = sv := by
  rcases sv with ⟨u0, u1, u2, u3⟩
  have h0 : (u3 ++ u2 ++ u1 ++ u0).extractLsb' 0 16 = u0 :=
    BitVec.extractLsb'_append_eq_right
  have h1 : (u3 ++ u2 ++ u1 ++ u0).extractLsb' 16 16 = u1 := by
    rw [BitVec.extractLsb'_append_eq_of_le (by decide)]
    exact BitVec.extractLsb'_append_eq_right
  have h2 : (u3 ++ u2 ++ u1 ++ u0).extractLsb' 32 16 = u2 := by
    rw [BitVec.extractLsb'_append_eq_of_le (by decide),
      BitVec.extractLsb'_append_eq_of_le (by decide)]
    exact BitVec.extractLsb'_append_eq_right
  have h3 : (u3 ++ u2 ++ u1 ++ u0).extractLsb' 48 16 = u3 := by
    rw [BitVec.extractLsb'_append_eq_of_le (by decide),
      BitVec.extractLsb'_append_eq_of_le (by decide)]
    exact BitVec.extractLsb'_append_eq_left
  exact congr (congr (congr (congrArg SerializedValue.mk h0) h1) h2) h3

theorem join_halves (value : BitVec 32) :
    ((value >>> 16).setWidth 16).setWidth 32 <<< 16 |||
      ((value &&& 0xFFFF#32).setWidth 16).setWidth 32 = value := by
  have hmask : 0xFFFF#32 = (BitVec.allOnes 16).setWidth 32 := by decide
  apply BitVec.eq_of_getLsbD_eq
  intro i hi
  rw [hmask]
  simp only [BitVec.getLsbD_or, BitVec.getLsbD_shiftLeft,
    BitVec.getLsbD_setWidth, BitVec.getLsbD_ushiftRight, BitVec.getLsbD_and,
    BitVec.getLsbD_allOnes, hi]
  by_cases hlow : i < 16
  · simp [hlow]
  · have hword : i - 16 < 16 := by lia
    have hvalue : i - 16 < 32 := by lia
    have hback : 16 + (i - 16) = i := by lia
    simp [hlow, hword, hvalue, hback]

theorem ofInt_add (x y : Int) :
    BitVec.ofInt 16 ((BitVec.ofInt 16 x).toNat + y) =
      BitVec.ofInt 16 (x + y) := by
  apply BitVec.eq_of_toNat_eq
  rw [BitVec.toNat_ofInt, BitVec.toNat_ofInt, BitVec.toNat_ofInt]
  lia

theorem ofInt_half (half : BitVec 32) :
    BitVec.ofInt 16 half.toNat = half.setWidth 16 := by
  apply BitVec.eq_of_toNat_eq
  rw [BitVec.toNat_ofInt, BitVec.toNat_setWidth]
  lia

theorem deserialize_trueSerialize (word0 word2 : BitVec 16)
    (value : BitVec 32) :
    deserialize (trueSerialize word0 word2 value) = value := by
  have hhigh : BitVec.ofInt 16 ((BitVec.ofInt 16 ((value >>> 16).toNat +
      2 * (word2.toNat - word0.toNat))).toNat -
        2 * (word2.toNat - word0.toNat)) = (value >>> 16).setWidth 16 := by
    rw [sub_eq_add_neg, ofInt_add, add_neg_cancel_right, ofInt_half]
  have hlow : BitVec.ofInt 16 ((BitVec.ofInt 16
      ((value &&& 0xFFFF#32).toNat -
        2 * (word2.toNat + word0.toNat))).toNat +
          2 * (word2.toNat + word0.toNat)) =
            (value &&& 0xFFFF#32).setWidth 16 := by
    rw [ofInt_add, sub_add_cancel, ofInt_half]
  rw [deserialize, trueSerialize, SerializedValue.ofU64_u64]
  dsimp only
  rw [hhigh, hlow, join_halves]

theorem serialize_eq (value : BitVec 32) :
    serialize value = trueSerialize 0 0 value := by
  have hzero : (0 : BitVec 16).toNat = 0 := rfl
  rw [serialize, trueSerialize, hzero, Nat.cast_zero, sub_zero, add_zero,
    mul_zero, add_zero, sub_zero, ofInt_half, ofInt_half]

end EncodingRandomized

namespace EncodingScrambled

/-- A permuted integer is spread over the words as well. -/
def serialize (s : EncodingScrambled) (value : BitVec 32) :
    EncodingScrambled × BitVec 64 :=
  ((s.encode value).1, EncodingRandomized.serialize (s.encode value).2)

def deserialize (s : EncodingScrambled) (u64 : BitVec 64) :
    EncodingScrambled × BitVec 32 :=
  s.decode (EncodingRandomized.deserialize u64)

theorem decode_encode {s : EncodingScrambled} (h : Ready s) (v : BitVec 32) :
    ((s.encode v).1.decode (s.encode v).2).2 = v := by
  change permuteBits s.init.init.decodeMap 32 0
    (permuteBits s.init.encodeMap 32 0 v 0#32) 0#32 = v
  rw [h.init, Ready.init (Or.inr rfl)]
  exact inverse_maps.permuteBits v

theorem encode_decode {s : EncodingScrambled} (h : Ready s) (v : BitVec 32) :
    ((s.decode v).1.encode (s.decode v).2).2 = v := by
  change permuteBits s.init.init.encodeMap 32 0
    (permuteBits s.init.decodeMap 32 0 v 0#32) 0#32 = v
  rw [h.init, Ready.init (Or.inr rfl)]
  exact inverse_maps_back.permuteBits v

theorem deserialize_serialize {s : EncodingScrambled} (h : Ready s)
    (value : BitVec 32) :
    ((s.serialize value).1.deserialize (s.serialize value).2).2 = value := by
  rw [serialize, deserialize, EncodingRandomized.serialize_eq,
    EncodingRandomized.deserialize_trueSerialize]
  exact decode_encode h value

end EncodingScrambled

/--
What is obfuscated is restored: whatever was encoded before, the permutation
leads back both ways, and the random words do not matter.
-/
theorem encodings_invert :
    (forall (calls : List EncodingScrambled.Call) (v : BitVec 32),
      let s := calls.foldl EncodingScrambled.call EncodingScrambled.static
      ((s.encode v).1.decode (s.encode v).2).2 = v ∧
        ((s.decode v).1.encode (s.decode v).2).2 = v) ∧
      forall value : BitVec 32,
        EncodingRandomized.deserialize
          (EncodingRandomized.serialize value) = value ∧
        forall word0 word2 : BitVec 16,
          EncodingRandomized.deserialize
            (EncodingRandomized.trueSerialize word0 word2 value) = value := by
  refine ⟨?_, fun value => ⟨?_, fun word0 word2 => ?_⟩⟩
  · intro calls v s
    have hready : EncodingScrambled.Ready s :=
      EncodingScrambled.ready_calls (Or.inl rfl) calls
    exact ⟨EncodingScrambled.decode_encode hready v,
      EncodingScrambled.encode_decode hready v⟩
  · rw [EncodingRandomized.serialize_eq]
    exact EncodingRandomized.deserialize_trueSerialize 0 0 value
  · exact EncodingRandomized.deserialize_trueSerialize word0 word2 value

end Packet
end Rzu
