import Rzu.Cipher.RC4Cipher
import Rzu.Net.EncryptedSession

/-!
# Encryption transparency

An encrypted session dispatches what a plain session would dispatch for the
same plain bytes, for every cipher, exactly when at most four bytes follow the
first oversized frame.
-/

namespace Rzu
namespace Net

open Library

section Transparency

variable {state : Type} (C : StreamCipher state)
variable (garbage : Nat -> UInt8) (streamType : StreamType)

theorem dispatched_encrypted (key : state) (frames : List (List UInt8))
    {chunks : List (List UInt8)}
    (hchunks : chunks.flatten =
      (EncryptedSession.writeAll C key frames).1) :
    (Receiver.start garbage streamType key).dispatched
        C.transform garbage chunks =
      ((framer C.transform).drain
        (((Receiver.start garbage streamType ()).framing.feed
          frames.flatten).encrypted C key)).2 := by
  have hdrain := Receiver.receiveAll_eq_drain C.transform garbage
    (start_idle _ garbage streamType key) chunks
  rw [hchunks, EncryptedSession.writeAll_eq_encode] at hdrain
  exact congrArg Prod.snd hdrain

theorem encryption_transparent_of_quiet (key : state)
    {frames chunks plainChunks : List (List UInt8)}
    (hquiet : QuietAfterOversized frames.flatten)
    (hchunks : chunks.flatten = (EncryptedSession.writeAll C key frames).1)
    (hplain : plainChunks.flatten = frames.flatten) :
    (Receiver.start garbage streamType key).dispatched
        C.transform garbage chunks =
      (Receiver.start garbage streamType ()).dispatched
        ByteTransform.identity garbage plainChunks := by
  rw [dispatched_encrypted C garbage streamType key frames hchunks,
    dispatched_eq_packetFrames, hplain]
  cases hfirst : firstOversized frames.flatten with
  | none => exact Framing.drain_encrypted_of_none C key rfl hfirst
  | some found =>
      rcases found with ⟨start, size⟩
      rcases Framing.drain_encrypted_of_some C key
        (f := (Receiver.start garbage streamType ()).framing.feed
          frames.flatten) rfl hfirst with
        ⟨front, bufferSize, hpackets, hcipher⟩
      change packetFrames frames.flatten =
        front ++ packetFrames (frames.flatten.drop _) at hpackets
      have htail : (frames.flatten.drop (start + (size - 4))).length ≤ 4 := by
        have hbound := hquiet start size hfirst
        rw [List.length_drop]
        lia
      have hlagging : (Framing.lagging C key frames.flatten start size
          bufferSize).recvBuffer.length ≤ 4 := by
        rw [Framing.lagging, StreamCipher.encode_length]
        exact htail
      have hquietPlain := Framing.drain_of_length_le_four
        (T := ByteTransform.identity)
        (f := ⟨frames.flatten.drop (start + (size - 4)), 0, false, 0, ()⟩)
        rfl htail
      rw [drain_eq_packetFrames _ rfl] at hquietPlain
      rw [hpackets, hcipher, hquietPlain]
      congr 1
      exact Framing.drain_of_length_le_four rfl hlagging

/-- The session dispatches what a plain session would dispatch. -/
def EncryptedSession.Transparent (key : state)
    (frames : List (List UInt8)) : Prop :=
  forall chunks plainChunks : List (List UInt8),
    chunks.flatten = (EncryptedSession.writeAll C key frames).1 ->
    plainChunks.flatten = frames.flatten ->
      (Receiver.start garbage streamType key).dispatched
          C.transform garbage chunks =
        (Receiver.start garbage streamType ()).dispatched
          ByteTransform.identity garbage plainChunks

end Transparency

theorem exists_other_packet (packets : List Frame) :
    exists x : UInt8, forall rest, ⟨5, [x]⟩ :: rest ≠ packets := by
  by_cases hhead : packets.head? = some ⟨5, [0]⟩
  · refine ⟨1, ?_⟩
    intro rest heq
    rw [← heq] at hhead
    cases hhead
  · refine ⟨0, ?_⟩
    intro rest heq
    apply hhead
    rw [← heq]
    rfl

theorem exists_cipher_of_tail {bytes : List UInt8} {start size : Nat}
    (hfirst : firstOversized bytes = some (start, size))
    (hlen : start + (size - 4) + 4 < bytes.length) (x : UInt8) :
    exists keystream : Nat -> UInt8, forall bufferSize, exists rest,
      ((framer (StreamCipher.ofKeystream keystream).transform).drain
        (Framing.lagging (StreamCipher.ofKeystream keystream) 0 bytes
          start size bufferSize)).2 = ⟨5, [x]⟩ :: rest := by
  rcases firstOversized_bounds hfirst with ⟨-, -, hover⟩
  unfold maxPacketSize at hover
  have htake : ((bytes.drop (start + (size - 4))).take 5).length =
      [5, 0, 0, 0, x].length := by
    rw [List.length_take, List.length_drop]
    change min 5 _ = 5
    lia
  refine ⟨StreamCipher.maskAt start
    ((bytes.drop (start + (size - 4))).take 5) [5, 0, 0, 0, x], ?_⟩
  intro bufferSize
  apply Framing.drain_shortestPacket rfl
  -- the writer is already past the five masked positions
  have hsilent : (Framing.lagging
      (StreamCipher.ofKeystream (StreamCipher.maskAt start
        ((bytes.drop (start + (size - 4))).take 5) [5, 0, 0, 0, x]))
      0 bytes start size bufferSize).recvBuffer =
      bytes.drop (start + (size - 4)) := by
    rw [Framing.lagging, StreamCipher.ofKeystream_advance, Nat.zero_add]
    apply StreamCipher.encode_of_silent
    intro n hn
    apply StreamCipher.maskAt_silent htake
    rw [htake]
    change start + 5 ≤ n
    lia
  have hbehind : (Framing.lagging
      (StreamCipher.ofKeystream (StreamCipher.maskAt start
        ((bytes.drop (start + (size - 4))).take 5) [5, 0, 0, 0, x]))
      0 bytes start size bufferSize).inputEnc = start := by
    change StreamCipher.advance _ 0 start = start
    rw [StreamCipher.ofKeystream_advance, Nat.zero_add]
  rw [hsilent, hbehind]
  exact StreamCipher.encode_maskAt start htake

theorem encryption_transparent_iff_quiet (garbage : Nat -> UInt8)
    (streamType : StreamType) (frames : List (List UInt8)) :
    (forall (state : Type) (C : StreamCipher state) (key : state),
        EncryptedSession.Transparent C garbage streamType key frames) ↔
      QuietAfterOversized frames.flatten := by
  constructor
  · intro htransparent start size hfirst
    by_contra hloud
    rcases exists_other_packet
      (packetFrames (frames.flatten.drop (start + (size - 4)))) with
      ⟨x, hother⟩
    rcases exists_cipher_of_tail hfirst (Nat.lt_of_not_le hloud) x with
      ⟨keystream, hforged⟩
    have hsame := htransparent Nat (StreamCipher.ofKeystream keystream) 0
      [(EncryptedSession.writeAll (StreamCipher.ofKeystream keystream) 0
        frames).1] [frames.flatten] (List.append_nil _) (List.append_nil _)
    rw [dispatched_encrypted _ garbage streamType 0 frames
        (List.append_nil _),
      dispatched_eq_packetFrames, List.flatten_singleton] at hsame
    rcases Framing.drain_encrypted_of_some
      (StreamCipher.ofKeystream keystream) 0
      (f := (Receiver.start garbage streamType ()).framing.feed
        frames.flatten) rfl hfirst with
      ⟨front, bufferSize, hpackets, hcipher⟩
    change packetFrames frames.flatten =
      front ++ packetFrames (frames.flatten.drop _) at hpackets
    change _ = front ++ ((framer _).drain
      (Framing.lagging _ 0 frames.flatten start size bufferSize)).2
        at hcipher
    rcases hforged bufferSize with ⟨rest, hrest⟩
    rw [hcipher, hpackets, hrest] at hsame
    exact hother rest (List.append_cancel_left hsame)
  · intro hquiet state C key chunks plainChunks hchunks hplain
    exact encryption_transparent_of_quiet C garbage streamType key hquiet
      hchunks hplain

/-!
## The cipher of the repository

An oversized frame followed by a packet.  If the session were transparent for
it, five bytes of the key stream would repeat at the size of that frame.
-/

def oversizedThenPacket (size : Nat) : List (List UInt8) :=
  [leBytes 4 size ++ List.replicate (size - 4) 0, [5, 0, 0, 0, 0]]

theorem drop_oversizedThenPacket {size : Nat} (hsize : 4 ≤ size) :
    (oversizedThenPacket size).flatten.drop size = [5, 0, 0, 0, 0] := by
  rw [oversizedThenPacket, List.flatten_cons, List.flatten_singleton]
  apply List.drop_left'
  rw [List.length_append, leBytes_length, List.length_replicate]
  lia

theorem length_oversizedThenPacket {size : Nat} (hsize : 4 ≤ size) :
    (oversizedThenPacket size).flatten.length = size + 5 := by
  rw [oversizedThenPacket, List.flatten_cons, List.flatten_singleton,
    List.length_append, List.length_append, leBytes_length,
    List.length_replicate]
  change 4 + (size - 4) + 5 = size + 5
  lia

theorem firstOversized_oversizedThenPacket {size : Nat}
    (hover : maxPacketSize < size) (hlt : size < 256 ^ 4) :
    firstOversized (oversizedThenPacket size).flatten = some (4, size) := by
  have hlarge := Framing.large_of_oversized hover
  have hlen := length_oversizedThenPacket (Nat.le_of_lt hlarge)
  have htake : leNat ((oversizedThenPacket size).flatten.take 4) = size := by
    rw [oversizedThenPacket, List.flatten_cons, List.append_assoc,
      List.take_left' (leBytes_length _ _), leNat_leBytes_of_lt hlt]
  rw [firstOversized, dif_neg (by lia), htake, if_neg (by lia),
    if_pos hover]

theorem keyByte_repeats_of_transparent {state : Type}
    {C : StreamCipher state} {garbage : Nat -> UInt8}
    {streamType : StreamType} {key : state} {size : Nat}
    (hover : maxPacketSize < size) (hlt : size < 256 ^ 4)
    (htransparent : EncryptedSession.Transparent C garbage streamType key
      (oversizedThenPacket size)) {n : Nat} (hn : n < 5) :
    C.keyByte key (size + n) = C.keyByte key (4 + n) := by
  have hlarge := Framing.large_of_oversized hover
  have hsum : 4 + (size - 4) = size := by
    lia
  have hfirst := firstOversized_oversizedThenPacket hover hlt
  have hsame := htransparent
    [(EncryptedSession.writeAll C key (oversizedThenPacket size)).1]
    [(oversizedThenPacket size).flatten] (List.append_nil _)
    (List.append_nil _)
  rw [dispatched_encrypted C garbage streamType key _ (List.append_nil _),
    dispatched_eq_packetFrames, List.flatten_singleton] at hsame
  rcases Framing.drain_encrypted_of_some C key
    (f := (Receiver.start garbage streamType ()).framing.feed
      (oversizedThenPacket size).flatten) rfl hfirst with
    ⟨front, bufferSize, hpackets, hcipher⟩
  change packetFrames (oversizedThenPacket size).flatten =
    front ++ packetFrames ((oversizedThenPacket size).flatten.drop _)
      at hpackets
  change _ = front ++ ((framer _).drain (Framing.lagging C key
    (oversizedThenPacket size).flatten 4 size bufferSize)).2 at hcipher
  rw [hcipher, hpackets, hsum, drop_oversizedThenPacket (by lia),
    packetFrames_shortest] at hsame
  have hbuffer : (Framing.lagging C key (oversizedThenPacket size).flatten
      4 size bufferSize).recvBuffer =
      (C.encode (C.advance key size) [5, 0, 0, 0, 0]).1 := by
    rw [Framing.lagging, hsum, drop_oversizedThenPacket (by lia)]
  have hlen : (C.encode (C.advance key size) [5, 0, 0, 0, 0]).1.length =
      5 :=
    C.encode_length _ _
  have hdecoded := Framing.run_of_drain_shortestPacket (T := C.transform)
    (f := Framing.lagging C key (oversizedThenPacket size).flatten 4 size
      bufferSize) rfl (by rw [hbuffer, hlen]; decide)
    (List.append_cancel_left hsame)
  rw [hbuffer, List.take_of_length_le (Nat.le_of_eq hlen)] at hdecoded
  change (C.encode (C.advance key 4)
    (C.encode (C.advance key size) [5, 0, 0, 0, 0]).1).1 = _ at hdecoded
  have hbyte := congrArg (fun bytes => bytes[n]?) hdecoded
  have hplain : exists b, [5, 0, 0, 0, 0][n]? = some (b : UInt8) :=
    ⟨_, List.getElem?_eq_getElem (by simpa using hn)⟩
  rcases hplain with ⟨b, hb⟩
  simp only [StreamCipher.encode_getElem?, hb, Option.map_some,
    StreamCipher.keyByte_advance] at hbyte
  have hzero : C.keyByte key (size + n) ^^^ C.keyByte key (4 + n) = 0 := by
    apply (UInt8.xor_right_inj b).mp
    rw [← UInt8.xor_assoc, UInt8.xor_zero]
    exact Option.some.inj hbyte
  exact UInt8.xor_eq_zero_iff.mp hzero

/-- With the default key a packet is lost after an oversized frame. -/
theorem encryption_not_transparent :
    exists size, (size = 65537 ∨ size = 65538) ∧
      ¬ EncryptedSession.Transparent Cipher.rc4 (fun _ => 0)
        StreamType.socket Cipher.encryptedSessionCachedCipher
        (oversizedThenPacket size) := by
  by_contra hnone
  have htransparent : forall size, size = 65537 ∨ size = 65538 ->
      EncryptedSession.Transparent Cipher.rc4 (fun _ => 0)
        StreamType.socket Cipher.encryptedSessionCachedCipher
        (oversizedThenPacket size) := by
    intro size hsize
    by_contra hnot
    exact hnone ⟨size, hsize, hnot⟩
  have hsecond := keyByte_repeats_of_transparent
    (by unfold maxPacketSize; lia) (by lia)
    (htransparent 65537 (Or.inl rfl)) (n := 1) (by lia)
  have hfirst := keyByte_repeats_of_transparent
    (by unfold maxPacketSize; lia) (by lia)
    (htransparent 65538 (Or.inr rfl)) (n := 0) (by lia)
  rw [Nat.add_zero, Nat.add_zero,
    Cipher.defaultStreamCipher_keyByte_four] at hfirst
  rw [Cipher.defaultStreamCipher_keyByte_five, hfirst] at hsecond
  exact absurd hsecond (by decide)

end Net
end Rzu
