import Rzu.Converter.SpecificPacketConverter
import Rzu.Packet.Widths

/-!
# Packets between endpoints

A packet that an endpoint sends reaches the handler of the other one with the
members that it had, as far as the version of the sender carries them.
-/

namespace Rzu
namespace Converter

open Library Packet Auth

theorem atLeast_mono {epic epic' version : Version} (h : epic ≤ epic')
    (hlater : atLeast epic' version = true) : atLeast epic version = true := by
  unfold atLeast at hlater ⊢
  rw [decide_eq_true_eq] at hlater ⊢
  exact UInt32.le_trans h hlater

/-- The bytes that `sendPacket` writes. -/
def sendBytes (packet : PacketType) (version : Version) (r : Record)
    (garbage : Nat -> UInt8) : Option (List UInt8) :=
  match packet.sendPacket version r garbage with
  | some (PacketType.SendResult.written bytes) => some bytes
  | _ => none

structure Carries (packet : PacketType) (version : Version) (r : Record)
    (bytes : List UInt8) : Prop where
  id : SpecificPacketConverter.packetId bytes = (packet.getId version).toNat
  processed : forall memory,
    process packet version bytes memory =
      some (some (packet.fields.overwrite version r memory))

theorem sendBytes_carries {packet : PacketType} {version : Version}
    {r : Record} (h : packet.Sendable version r)
    (hversion : packet.fields.VersionConditions) (garbage : Nat -> UInt8) :
    exists bytes, sendBytes packet version r garbage = some bytes ∧
      Carries packet version r bytes := by
  rcases h.sent garbage with ⟨chunks, -, hsent, hreceived⟩
  refine ⟨packet.bytes version chunks, ?_, ?_, ?_⟩
  · rw [sendBytes, hsent]
  · exact PacketType.id_bytes packet version chunks
  · intro memory
    rcases hreceived memory (hversion.same version r memory) with
      ⟨b, receivedId, hread, hfinal⟩
    rw [process, hread, Option.bind_eq_bind, Option.bind_some, if_pos hfinal]
    rfl

/-!
## Bytes of members
-/

theorem fits_uint8 (c : UInt8) : uint8.Fits (c.toNat : Int) := by
  have hlt := c.toNat_lt
  have hunsigned : ¬uint8.signed = true := Bool.false_ne_true
  have hmodulus : uint8.modulus = 256 := by decide
  rw [IntType.Fits, if_neg hunsigned, hmodulus]
  lia

theorem fits_arrayOfBytes (bytes : List UInt8) (i : Nat) :
    Packet.Fits uint8 uint8 (arrayOfBytes bytes i) :=
  ⟨fits_uint8 _, fits_uint8 _⟩

theorem fits_vectorOfBytes {bytes : List UInt8} {val : Int}
    (h : val ∈ vectorOfBytes bytes) : Packet.Fits uint8 uint8 val := by
  rcases List.mem_map.mp h with ⟨c, -, heq⟩
  subst heq
  exact ⟨fits_uint8 c, fits_uint8 c⟩

@[simp] theorem length_vectorOfBytes (bytes : List UInt8) :
    (vectorOfBytes bytes).length = bytes.length := List.length_map _

@[simp] theorem length_bytesOfArray (val : Nat -> Int) (size : Nat) :
    (bytesOfArray val size).length = size := by
  rw [bytesOfArray, List.length_map, List.length_range]

@[simp] theorem bytesOfVector_vectorOfBytes (bytes : List UInt8) :
    bytesOfVector (vectorOfBytes bytes) = bytes := by
  rw [bytesOfVector, vectorOfBytes, List.map_map]
  exact List.map_id'' (fun c => by simp) bytes

theorem bytesOfArray_congr {val val' : Nat -> Int} {size : Nat}
    (h : forall i, i < size -> val i = val' i) :
    bytesOfArray val size = bytesOfArray val' size := by
  apply List.map_congr_left
  intro i hi
  rw [h i (List.mem_range.mp hi)]

theorem take_bytesOfArray (val : Nat -> Int) {m n : Nat} (h : m ≤ n) :
    (bytesOfArray val n).take m = bytesOfArray val m := by
  rw [bytesOfArray, ← List.map_take, List.take_range, Nat.min_eq_left h]
  rfl

theorem bytesOfArray_arrayOfBytes (bytes : List UInt8) :
    bytesOfArray (arrayOfBytes bytes) bytes.length = bytes := by
  apply List.ext_getElem
  · rw [length_bytesOfArray]
  · intro i hi hi'
    simp [bytesOfArray, arrayOfBytes, hi']

theorem take_arrayOfBytes {bytes : List UInt8} {size : Nat}
    (h : size ≤ bytes.length) :
    bytesOfArray (arrayOfBytes bytes) size = bytes.take size := by
  rw [← take_bytesOfArray _ h, bytesOfArray_arrayOfBytes]

theorem length_copyOver (data old : List UInt8) :
    (copyOver data old).length = old.length := by
  rw [copyOver, List.length_append, List.length_take, List.length_drop]
  lia

theorem copyOver_short {data old : List UInt8}
    (h : data.length ≤ old.length) :
    copyOver data old = data ++ old.drop data.length := by
  rw [copyOver, List.take_of_length_le h]

theorem take_copyOver {data old : List UInt8} (h : data.length ≤ old.length) :
    (copyOver data old).take data.length = data := by
  rw [copyOver_short h, List.take_left]

theorem copyOver_full {data old : List UInt8}
    (h : data.length = old.length) : copyOver data old = data := by
  rw [copyOver_short (Nat.le_of_eq h), h, List.drop_length, List.append_nil]

theorem take_resizeAtLeast (size : Nat) (bytes : List UInt8) :
    (resizeAtLeast size bytes).take bytes.length = bytes := by
  rw [resizeAtLeast, List.take_left]

theorem length_resizeAtLeast_le {size bound : Nat} {bytes : List UInt8}
    (hsize : size ≤ bound) (hbytes : bytes.length ≤ bound) :
    (resizeAtLeast size bytes).length ≤ bound := by
  rw [resizeAtLeast, List.length_append, List.length_replicate]
  lia

/-!
## Bytes up to the first NUL
-/

def cut (bytes : List UInt8) : List UInt8 := bytes.takeWhile (· ≠ 0)

theorem cut_append {bytes : List UInt8} (h : 0 ∉ bytes)
    (rest : List UInt8) : cut (bytes ++ 0 :: rest) = bytes := by
  have hall : forall c, c ∈ bytes -> decide (c ≠ 0) = true := by
    intro c hc
    rw [decide_eq_true_eq]
    intro hzero
    subst hzero
    exact h hc
  rw [cut, List.takeWhile_append_of_pos hall]
  simp

theorem cut_self {bytes : List UInt8} (h : 0 ∉ bytes) : cut bytes = bytes := by
  have hcut := cut_append h []
  rw [cut, List.takeWhile_append] at hcut
  split at hcut
  · rename_i hall
    have hprefix := List.takeWhile_prefix (fun c : UInt8 => decide (c ≠ 0))
      (l := bytes)
    exact hprefix.eq_of_length hall
  · exact hcut

theorem cut_replicate {bytes : List UInt8} (h : 0 ∉ bytes) (n : Nat) :
    cut (bytes ++ List.replicate n 0) = bytes := by
  cases n with
  | zero =>
      rw [List.replicate_zero, List.append_nil]
      exact cut_self h
  | succ n =>
      rw [List.replicate_succ]
      exact cut_append h _

theorem cut_of_take {bytes password : List UInt8} {n : Nat}
    (h : 0 ∉ password)
    (htake : exists rest, bytes.take n = password ++ 0 :: rest) :
    cut bytes = password := by
  rcases htake with ⟨rest, htake⟩
  have hsplit : bytes = password ++ 0 :: (rest ++ bytes.drop n) := by
    have hboth := List.take_append_drop n bytes
    rw [htake] at hboth
    rw [← List.cons_append, ← List.append_assoc]
    exact hboth.symm
  rw [hsplit]
  exact cut_append h _

end Converter
end Rzu
