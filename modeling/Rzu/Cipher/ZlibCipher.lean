import Mathlib.Data.Nat.GCD.Basic
import Mathlib.Data.List.Range
import Mathlib.Algebra.Ring.Nat
import Rzu.Library.CyclicWalk

/-!
# Compressed and shuffled texts

`ZlibCipher` compresses a text and writes its bytes on a walk round the output.
What it decrypts may be anything: only a vector that has no payload behind its
header makes it fail.
-/

namespace Rzu
namespace Cipher

open Library

/-- The functions of zlib that work all at once; nothing, if they fail. -/
structure ZlibUtility where
  compressBound : Nat -> Nat
  compress : List UInt8 -> Nat -> Option (List UInt8)
  uncompress : List UInt8 -> Nat -> Option (List UInt8)

namespace ZlibCipher

/-- What must not happen. -/
inductive Fault where
  | moduloByZero
  | outOfRange
  | neverEnds
deriving DecidableEq

def byteAt (data : List UInt8) (i : Nat) : Except Fault UInt8 :=
  match data[i]? with
  | some byte => Except.ok byte
  | none => Except.error Fault.outOfRange

def setByte (data : List UInt8) (i : Nat) (byte : UInt8) :
    Except Fault (List UInt8) :=
  if i < data.length then Except.ok (data.set i byte)
  else Except.error Fault.outOfRange

def modulo (n m : Nat) : Except Fault Nat :=
  if m = 0 then Except.error Fault.moduloByZero else Except.ok (n % m)

/-- A loop whose counter has 32 bits, up to a bound that may have more. -/
def countTo (bound : Nat) : Except Fault Nat :=
  if bound < 2 ^ 32 then Except.ok bound else Except.error Fault.neverEnds

/-!
## The step of the walk
-/

def divisors (compressedSize : Nat) : List Nat :=
  (List.range compressedSize).filter fun i =>
    decide (2 ≤ i ∧ compressedSize % i = 0)

/-- The loop of `getMagic`. -/
def lowerMagic (divisors : List Nat) : Nat -> Nat
  | 0 => 0
  | magic + 1 =>
      if 1 < magic + 1 ∧
          divisors.any (fun d => decide ((magic + 1) % d = 0)) = true then
        lowerMagic divisors magic
      else magic + 1

/-- The step that the loop of `getMagic` begins with. -/
def firstMagic (rest compressedSize : Nat) : Nat :=
  let magic : Int := (rest / 2 : Nat) - 2
  if magic < 2 then
    if compressedSize > 16 then compressedSize / 2 - 1
    else if compressedSize > 4 then compressedSize - 2
    else compressedSize - 1
  else magic.toNat

def getMagic (checksum : UInt32) (compressedSize : Nat) :
    Except Fault Nat := do
  let rest <- modulo ((checksum &&& 0xFFF0).toNat + 1) compressedSize
  pure (lowerMagic (divisors compressedSize) (firstMagic rest compressedSize))

/-- The next place of the walk; the sum has 32 bits. -/
def advance (magic compressedSize idx : Nat) : Nat :=
  (idx + magic) % 2 ^ 32 % compressedSize

/-!
## Decryption
-/

/-- The bytes stand with the most significant one first. -/
def ofBytes (a b c d : UInt8) : UInt32 :=
  a.toUInt32 <<< 24 ||| b.toUInt32 <<< 16 ||| c.toUInt32 <<< 8 ||| d.toUInt32

/-- The indexes are computed with 32 bits. -/
def readUInt32 (data : List UInt8) (offset : Nat) : Except Fault UInt32 := do
  let a <- byteAt data (offset % 2 ^ 32)
  let b <- byteAt data ((offset + 1) % 2 ^ 32)
  let c <- byteAt data ((offset + 2) % 2 ^ 32)
  let d <- byteAt data ((offset + 3) % 2 ^ 32)
  pure (ofBytes a b c d)

/-- The low byte of the checksum is the key of all bytes from `i` on. -/
def xorBytes (key : UInt8) :
    Nat -> Nat -> List UInt8 -> Except Fault (List UInt8)
  | 0, _, data => pure data
  | left + 1, i, data => do
      let byte <- byteAt data i
      let data <- setByte data i (byte ^^^ key)
      xorBytes key left (i + 1) data

/-- The bytes on the walk, each added to the one before. -/
def gather (magic compressedSize : Nat) (encryptedData : List UInt8) :
    Nat -> UInt8 -> Nat -> Except Fault (List UInt8)
  | 0, _, _ => pure []
  | left + 1, lastChar, idx => do
      let byte <- byteAt encryptedData idx
      let next <- modulo ((idx + magic) % 2 ^ 32) compressedSize
      let rest <- gather magic compressedSize encryptedData left
        (byte + lastChar) next
      pure ((byte + lastChar) :: rest)

/-- The text; an empty one, if there is an error. -/
def decrypt (z : ZlibUtility) (encryptedData : List UInt8) :
    Except Fault (List UInt8) :=
  if encryptedData.length < 8 then pure []
  else do
    let compressedSize := (encryptedData.length - 8) % 2 ^ 32
    let checksum <- readUInt32 encryptedData (compressedSize + 4)
    let encryptedData <- xorBytes checksum.toUInt8
      ((compressedSize + 4) % 2 ^ 32) 0 encryptedData
    let originalSize <- readUInt32 encryptedData compressedSize
    let magic <- getMagic checksum compressedSize
    let idx <- modulo checksum.toNat compressedSize
    let compressed <- gather magic compressedSize encryptedData
      compressedSize 0 idx
    pure ((z.uncompress compressed originalSize.toNat).getD [])

/-!
## Encryption
-/

/-- Characters are signed. -/
def checksumOf (plainData : List UInt8) : UInt32 :=
  plainData.foldl (fun checksum c =>
    checksum + c.toInt8.toInt32.toUInt32 * 65539) 0

/-- The bytes go to the walk, each less the one before. -/
def scatter (magic compressedSize : Nat) :
    List UInt8 -> UInt8 -> Nat -> List UInt8 -> Except Fault (List UInt8)
  | [], _, _, encryptedData => pure encryptedData
  | c :: compressed, lastChar, idx, encryptedData => do
      let encryptedData <- setByte encryptedData idx (c - lastChar)
      scatter magic compressedSize compressed c
        (advance magic compressedSize idx) encryptedData

/-- `htonl`, stored at an offset. -/
def writeUInt32 (data : List UInt8) (offset : Nat) (val : UInt32) :
    Except Fault (List UInt8) := do
  let data <- setByte data offset (val >>> 24).toUInt8
  let data <- setByte data (offset + 1) (val >>> 16).toUInt8
  let data <- setByte data (offset + 2) (val >>> 8).toUInt8
  setByte data (offset + 3) val.toUInt8

def encryptWith (z : ZlibUtility) (checksum : UInt32)
    (plainData : List UInt8) : Except Fault (List UInt8) :=
  if plainData.length = 0 then pure []
  else
    match z.compress plainData (z.compressBound plainData.length) with
    | none => pure []
    | some compressed => do
        let compressedSize := compressed.length
        let magic <- getMagic checksum (compressedSize % 2 ^ 32)
        let idx <- modulo checksum.toNat compressedSize
        let _ <- countTo compressedSize
        let encryptedData <- scatter magic compressedSize compressed 0 idx
          (List.replicate (compressedSize + 8) 0)
        let encryptedData <- writeUInt32 encryptedData compressedSize
          (UInt32.ofNat plainData.length)
        let count <- countTo (compressedSize + 4)
        let encryptedData <- xorBytes checksum.toUInt8 count 0 encryptedData
        writeUInt32 encryptedData (compressedSize + 4) checksum

def encrypt (z : ZlibUtility) (plainData : List UInt8) :
    Except Fault (List UInt8) :=
  encryptWith z (checksumOf plainData) plainData

/-!
## Accesses
-/

theorem byteAt_ok {data : List UInt8} {i : Nat} (h : i < data.length) :
    byteAt data i = Except.ok data[i] := by
  rw [byteAt, List.getElem?_eq_getElem h]

theorem setByte_ok {data : List UInt8} {i : Nat} (h : i < data.length)
    (byte : UInt8) : setByte data i byte = Except.ok (data.set i byte) :=
  if_pos h

theorem readUInt32_ok (data : List UInt8) (offset : Nat)
    (h : forall k, k < 4 -> (offset + k) % 2 ^ 32 < data.length) :
    exists val, readUInt32 data offset = Except.ok val := by
  have hfirst : offset % 2 ^ 32 < data.length := h 0 (by decide)
  rw [readUInt32, byteAt_ok hfirst, byteAt_ok (h 1 (by decide)),
    byteAt_ok (h 2 (by decide)), byteAt_ok (h 3 (by decide))]
  exact ⟨_, rfl⟩

theorem xorBytes_ok (key : UInt8) (left i : Nat) (data : List UInt8)
    (h : i + left ≤ data.length) :
    exists data', xorBytes key left i data = Except.ok data' ∧
      data'.length = data.length ∧
      forall j, data'[j]? =
        if i ≤ j ∧ j < i + left then data[j]?.map (· ^^^ key)
        else data[j]? := by
  induction left generalizing i data with
  | zero =>
      refine ⟨data, rfl, rfl, fun j => ?_⟩
      rw [if_neg (by lia)]
  | succ left ih =>
      have hi : i < data.length := by lia
      rcases ih (i + 1) (data.set i (data[i] ^^^ key))
          (by rw [List.length_set]; lia) with ⟨data', heq, hlength, hget⟩
      refine ⟨data', ?_, ?_, ?_⟩
      · rw [xorBytes, byteAt_ok hi]
        change (setByte data i (data[i] ^^^ key)).bind _ = _
        rw [setByte_ok hi]
        exact heq
      · rw [hlength, List.length_set]
      · intro j
        rw [hget, List.getElem?_set]
        by_cases hj : i = j
        · subst hj
          rw [if_neg (by lia), if_pos rfl, if_pos hi, if_pos (by lia),
            List.getElem?_eq_getElem hi]
          rfl
        · rw [if_neg hj]
          have hrange : (i + 1 ≤ j ∧ j < i + 1 + left) ↔
              (i ≤ j ∧ j < i + (left + 1)) := by lia
          simp only [hrange]

theorem modulo_ok {m : Nat} (h : m ≠ 0) (n : Nat) :
    modulo n m = Except.ok (n % m) := if_neg h

theorem gather_ok (magic : Nat) {compressedSize : Nat}
    {encryptedData : List UInt8} (hpos : compressedSize ≠ 0)
    (hsize : compressedSize ≤ encryptedData.length) (left : Nat) {idx : Nat}
    (hidx : idx < compressedSize) (lastChar : UInt8) :
    exists compressed, gather magic compressedSize encryptedData left lastChar
      idx = Except.ok compressed := by
  induction left generalizing lastChar idx with
  | zero => exact ⟨[], rfl⟩
  | succ left ih =>
      have hnext : (idx + magic) % 2 ^ 32 % compressedSize < compressedSize :=
        Nat.mod_lt _ (Nat.pos_of_ne_zero hpos)
      rcases ih hnext (encryptedData[idx] + lastChar) with ⟨rest, hrest⟩
      refine ⟨(encryptedData[idx] + lastChar) :: rest, ?_⟩
      rw [gather, byteAt_ok (Nat.lt_of_lt_of_le hidx hsize)]
      change (modulo _ _).bind _ = _
      rw [modulo_ok hpos]
      change (gather magic compressedSize encryptedData left
        (encryptedData[idx] + lastChar) _).bind _ = _
      rw [hrest]
      rfl

theorem getMagic_ok {compressedSize : Nat} (h : compressedSize ≠ 0)
    (checksum : UInt32) :
    getMagic checksum compressedSize = Except.ok
      (lowerMagic (divisors compressedSize)
        (firstMagic (((checksum &&& 0xFFF0).toNat + 1) % compressedSize)
          compressedSize)) := by
  rw [getMagic, modulo_ok h]
  rfl

/-!
## Any input
-/

/-- Decryption ends with a text or an error, and nothing else happens. -/
def DecryptsSafely (z : ZlibUtility) (encryptedData : List UInt8) : Prop :=
  exists decrypted, decrypt z encryptedData = Except.ok decrypted

/--
Any vector is decrypted safely, unless the size of its payload is taken for
zero.
-/
theorem decryptsSafely_iff (z : ZlibUtility) (encryptedData : List UInt8) :
    DecryptsSafely z encryptedData ↔
      (8 ≤ encryptedData.length ->
        (encryptedData.length - 8) % 2 ^ 32 ≠ 0) := by
  by_cases hshort : encryptedData.length < 8
  · refine ⟨fun _ hlong => absurd hshort (Nat.not_lt.mpr hlong), fun _ => ?_⟩
    exact ⟨[], if_pos hshort⟩
  · have hlong : 8 ≤ encryptedData.length := Nat.le_of_not_lt hshort
    let compressedSize := (encryptedData.length - 8) % 2 ^ 32
    have hlt : compressedSize < 2 ^ 32 := Nat.mod_lt _ (by decide)
    have hle : compressedSize + 8 ≤ encryptedData.length := by
      have := Nat.mod_le (encryptedData.length - 8) (2 ^ 32)
      lia
    rcases readUInt32_ok encryptedData (compressedSize + 4) (fun k hk => by
        have := Nat.mod_le (compressedSize + 4 + k) (2 ^ 32)
        lia) with ⟨checksum, hchecksum⟩
    rcases xorBytes_ok checksum.toUInt8 ((compressedSize + 4) % 2 ^ 32) 0
        encryptedData (by
          have := Nat.mod_le (compressedSize + 4) (2 ^ 32)
          lia) with ⟨data, hdata, hlength, -⟩
    rcases readUInt32_ok data compressedSize (fun k hk => by
        have := Nat.mod_le (compressedSize + k) (2 ^ 32)
        lia) with ⟨originalSize, horiginal⟩
    have hdecrypt : decrypt z encryptedData = (do
        let magic <- getMagic checksum compressedSize
        let idx <- modulo checksum.toNat compressedSize
        let compressed <- gather magic compressedSize data compressedSize 0
          idx
        pure ((z.uncompress compressed originalSize.toNat).getD [])) := by
      rw [decrypt, if_neg hshort]
      change (readUInt32 encryptedData (compressedSize + 4)).bind _ = _
      rw [hchecksum]
      change (xorBytes checksum.toUInt8 _ 0 encryptedData).bind _ = _
      rw [hdata]
      change (readUInt32 data compressedSize).bind _ = _
      rw [horiginal]
      rfl
    rw [DecryptsSafely, hdecrypt]
    change _ ↔ (_ -> compressedSize ≠ 0)
    by_cases hzero : compressedSize = 0
    · refine ⟨?_, fun h => absurd hzero (h hlong)⟩
      rintro ⟨decrypted, hok⟩
      rw [getMagic, modulo, if_pos hzero] at hok
      cases hok
    · refine ⟨fun _ _ => hzero, fun _ => ?_⟩
      rw [getMagic_ok hzero]
      change exists decrypted, (modulo checksum.toNat compressedSize).bind _ =
        _
      rw [modulo_ok hzero]
      rcases gather_ok (lowerMagic (divisors compressedSize)
          (firstMagic (((checksum &&& 0xFFF0).toNat + 1) % compressedSize)
            compressedSize)) hzero (by rw [hlength]; lia) compressedSize
          (Nat.mod_lt checksum.toNat (Nat.pos_of_ne_zero hzero)) 0 with
        ⟨compressed, hcompressed⟩
      change exists decrypted, (gather _ compressedSize data compressedSize 0
        (checksum.toNat % compressedSize)).bind _ = _
      rw [hcompressed]
      exact ⟨_, rfl⟩

/-- Eight bytes are a header without a payload. -/
theorem not_decryptsSafely_header :
    (forall z : ZlibUtility, decrypt z (List.replicate 8 0) =
      Except.error Fault.moduloByZero) ∧
      ¬forall (z : ZlibUtility) (encryptedData : List UInt8),
        DecryptsSafely z encryptedData := by
  have hfails (z : ZlibUtility) : decrypt z (List.replicate 8 0) =
      Except.error Fault.moduloByZero := rfl
  refine ⟨hfails, fun h => ?_⟩
  rcases h ⟨id, fun _ _ => none, fun _ _ => none⟩ (List.replicate 8 0) with
    ⟨decrypted, hok⟩
  rw [hfails] at hok
  cases hok

end ZlibCipher

end Cipher
end Rzu
