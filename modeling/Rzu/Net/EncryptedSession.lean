import Rzu.Net.Segmentation

/-!
# Encrypted sessions

An encrypted session passes every byte it writes through its output cipher and
every byte it reads through its input cipher.  Both start from the same cached
state.  The receive loop discards the body of an oversized message straight
from the stream, so those bytes never reach the input cipher.
-/

namespace Rzu
namespace Net

open Library

namespace EncryptedSession

variable {state : Type} (C : StreamCipher state)

/-- `write` on a connected stream: the bytes sent and the next state. -/
def write (outputEnc : state) (data : List UInt8) : List UInt8 × state :=
  C.encode outputEnc data

/-- The bytes that a sequence of writes puts on the connection. -/
def writeAll (outputEnc : state) : List (List UInt8) -> List UInt8 × state
  | [] => ([], outputEnc)
  | data :: rest =>
      let first := write C outputEnc data
      let later := writeAll first.2 rest
      (first.1 ++ later.1, later.2)

theorem writeAll_eq_encode (outputEnc : state)
    (blocks : List (List UInt8)) :
    writeAll C outputEnc blocks = C.encode outputEnc blocks.flatten := by
  induction blocks generalizing outputEnc with
  | nil => rfl
  | cons data rest ih =>
      rw [writeAll, List.flatten_cons, StreamCipher.encode_append, ih]
      rfl

end EncryptedSession

/-!
## The first oversized frame

The offset at which the body of the first oversized frame starts, and the size
that the frame announces.
-/

def firstOversized (bytes : List UInt8) : Option (Nat × Nat) :=
  if _hshort : bytes.length < 4 then
    none
  else if leNat (bytes.take 4) ≤ 4 then
    (firstOversized (bytes.drop 4)).map fun found => (found.1 + 4, found.2)
  else if maxPacketSize < leNat (bytes.take 4) then
    some (4, leNat (bytes.take 4))
  else if bytes.length < leNat (bytes.take 4) then
    none
  else
    (firstOversized (bytes.drop (leNat (bytes.take 4)))).map
      fun found => (found.1 + leNat (bytes.take 4), found.2)
termination_by bytes.length
decreasing_by
  · rw [List.length_drop]
    lia
  · rw [List.length_drop]
    lia

/-- What follows the first oversized frame is too short to be a packet. -/
def QuietAfterOversized (bytes : List UInt8) : Prop :=
  forall start size, firstOversized bytes = some (start, size) ->
    bytes.length ≤ start + (size - 4) + 4

theorem firstOversized_bounds {bytes : List UInt8} {start size : Nat}
    (h : firstOversized bytes = some (start, size)) :
    4 ≤ start ∧ start ≤ bytes.length ∧ maxPacketSize < size := by
  induction hn : bytes.length using Nat.strongRecOn
    generalizing bytes start with
  | ind n ih =>
      rw [firstOversized] at h
      split at h
      · cases h
      split at h
      · rcases Option.map_eq_some_iff.mp h with
          ⟨⟨start', size'⟩, hfound, hpair⟩
        cases hpair
        have hlen : (bytes.drop 4).length = bytes.length - 4 :=
          List.length_drop
        have hrec := ih (bytes.drop 4).length (by lia) hfound rfl
        lia
      split at h
      · rename_i hover
        cases h
        lia
      split at h
      · cases h
      · rcases Option.map_eq_some_iff.mp h with
          ⟨⟨start', size'⟩, hfound, hpair⟩
        cases hpair
        have hlen : (bytes.drop (leNat (bytes.take 4))).length =
            bytes.length - leNat (bytes.take 4) := List.length_drop
        have hrec := ih (bytes.drop (leNat (bytes.take 4))).length
          (by lia) hfound rfl
        lia

namespace Framing

variable {state : Type} (C : StreamCipher state)

def encrypted (key : state) (f : Framing Unit) : Framing state where
  recvBuffer := (C.encode key f.recvBuffer).1
  currentMessageSize := f.currentMessageSize
  discardPacket := f.discardPacket
  bufferSize := f.bufferSize
  inputEnc := key

theorem encrypted_length (key : state) (f : Framing Unit) :
    (f.encrypted C key).recvBuffer.length = f.recvBuffer.length :=
  C.encode_length key f.recvBuffer

theorem encrypted_run_take (key : state) (f : Framing Unit) {n : Nat}
    (hn : n ≤ f.recvBuffer.length) :
    C.transform.run key ((f.encrypted C key).recvBuffer.take n) =
      (f.recvBuffer.take n, C.advance key n) := by
  change C.transform.run key ((C.encode key f.recvBuffer).1.take n) = _
  rw [StreamCipher.encode_take, StreamCipher.run_encode, List.length_take,
    Nat.min_eq_left hn]

theorem encrypted_announcedSize (key : state) {f : Framing Unit}
    (havail : 4 ≤ f.recvBuffer.length) :
    (f.encrypted C key).announcedSize C.transform =
      leNat (f.recvBuffer.take 4) := by
  change leNat (C.transform.run key _).1 = _
  rw [encrypted_run_take C key f havail]

theorem encrypted_afterInvalid (key : state) {f : Framing Unit}
    (havail : 4 ≤ f.recvBuffer.length) :
    (f.encrypted C key).afterInvalid C.transform =
      (f.afterInvalid ByteTransform.identity).encrypted C
        (C.advance key 4) := by
  have hrun := encrypted_run_take C key f havail
  rw [afterInvalid, afterInvalid]
  simp only [encrypted] at hrun ⊢
  rw [hrun, StreamCipher.encode_drop]

theorem encrypted_afterPacket (key : state) {f : Framing Unit}
    (havail : 4 ≤ f.recvBuffer.length)
    (hcomplete : leNat (f.recvBuffer.take 4) ≤ f.recvBuffer.length) :
    (f.encrypted C key).afterPacket C.transform =
      (f.afterPacket ByteTransform.identity).encrypted C
        (C.advance key (leNat (f.recvBuffer.take 4))) := by
  have hrun := encrypted_run_take C key f hcomplete
  have hsize := encrypted_announcedSize C key havail
  rw [afterPacket, afterPacket, hsize, announcedSize_identity]
  simp only [encrypted] at hrun ⊢
  rw [hrun, StreamCipher.encode_drop]

theorem encrypted_nextPacket (key : state) {f : Framing Unit}
    (havail : 4 ≤ f.recvBuffer.length)
    (hcomplete : leNat (f.recvBuffer.take 4) ≤ f.recvBuffer.length) :
    (f.encrypted C key).nextPacket C.transform =
      f.nextPacket ByteTransform.identity := by
  have hrun := encrypted_run_take C key f hcomplete
  have hsize := encrypted_announcedSize C key havail
  rw [nextPacket, nextPacket, hsize, announcedSize_identity,
    ByteTransform.run_identity]
  simp only [encrypted] at hrun ⊢
  rw [hrun]

theorem drain_encrypted_invalid (key : state) {f : Framing Unit}
    (hzero : f.currentMessageSize = 0) (havail : 4 ≤ f.recvBuffer.length)
    (hsmall : leNat (f.recvBuffer.take 4) ≤ 4) :
    (framer C.transform).drain (f.encrypted C key) =
      (framer C.transform).drain
        ((f.afterInvalid ByteTransform.identity).encrypted C
          (C.advance key 4)) := by
  have hsize := encrypted_announcedSize C key havail
  have hlength := encrypted_length C key f
  have hzero' : (f.encrypted C key).currentMessageSize = 0 := hzero
  rw [drain_invalid hzero' (hlength ▸ havail) (hsize ▸ hsmall),
    encrypted_afterInvalid C key havail]

theorem drain_encrypted_packet (key : state) {f : Framing Unit}
    (hzero : f.currentMessageSize = 0) (havail : 4 ≤ f.recvBuffer.length)
    (hlarge : ¬ leNat (f.recvBuffer.take 4) ≤ 4)
    (hfits : leNat (f.recvBuffer.take 4) ≤ maxPacketSize)
    (hcomplete : leNat (f.recvBuffer.take 4) ≤ f.recvBuffer.length) :
    ((framer C.transform).drain (f.encrypted C key)).2 =
      headFrame f.recvBuffer ::
        ((framer C.transform).drain
          ((f.afterPacket ByteTransform.identity).encrypted C
            (C.advance key (leNat (f.recvBuffer.take 4))))).2 := by
  have hsize := encrypted_announcedSize C key havail
  have hlength := encrypted_length C key f
  have hzero' : (f.encrypted C key).currentMessageSize = 0 := hzero
  rw [drain_packet hzero' (by lia) (by lia) (by lia),
    encrypted_nextPacket C key havail hcomplete, nextPacket_identity,
    encrypted_afterPacket C key havail hcomplete]

theorem drain_encrypted_incomplete (key : state) {f : Framing Unit}
    (hzero : f.currentMessageSize = 0) (havail : 4 ≤ f.recvBuffer.length)
    (hlarge : ¬ leNat (f.recvBuffer.take 4) ≤ 4)
    (hincomplete : f.recvBuffer.length < leNat (f.recvBuffer.take 4)) :
    ((framer C.transform).drain (f.encrypted C key)).2 = [] := by
  have hsize := encrypted_announcedSize C key havail
  have hlength := encrypted_length C key f
  have hzero' : (f.encrypted C key).currentMessageSize = 0 := hzero
  by_cases hover : maxPacketSize < leNat (f.recvBuffer.take 4)
  · exact drain_oversized_incomplete hzero' (by lia) (by lia) (by lia)
  · exact drain_packet_incomplete hzero' (by lia) (by lia) (by lia)
      (by lia)

/-- Without oversized frames the ciphered stream yields the same packets. -/
theorem drain_encrypted_of_none (key : state) {f : Framing Unit}
    (hzero : f.currentMessageSize = 0)
    (hnone : firstOversized f.recvBuffer = none) :
    ((framer C.transform).drain (f.encrypted C key)).2 =
      packetFrames f.recvBuffer := by
  induction hn : f.recvBuffer.length using Nat.strongRecOn
    generalizing f key with
  | ind n ih =>
      have hlength := encrypted_length C key f
      have hzero' : (f.encrypted C key).currentMessageSize = 0 := hzero
      rw [firstOversized] at hnone
      split at hnone
      · rename_i hshort
        rw [drain_short hzero' (hlength ▸ hshort),
          packetFrames_short hshort]
      rename_i hshort
      have havail : 4 ≤ f.recvBuffer.length := by
        lia
      split at hnone
      · rename_i hsmall
        have hlt : (f.recvBuffer.drop 4).length < n := by
          rw [List.length_drop]
          lia
        rw [drain_encrypted_invalid C key hzero havail hsmall,
          packetFrames_invalid havail hsmall]
        exact ih _ hlt _ (f := f.afterInvalid ByteTransform.identity)
          hzero (Option.map_eq_none_iff.mp hnone) rfl
      rename_i hlarge
      split at hnone
      · cases hnone
      rename_i hfits
      split at hnone
      · rename_i hincomplete
        rw [packetFrames_incomplete havail hlarge hincomplete,
          drain_encrypted_incomplete C key hzero havail hlarge
            hincomplete]
      · have hcomplete : leNat (f.recvBuffer.take 4) ≤
            f.recvBuffer.length := by
          lia
        have hlt : (f.recvBuffer.drop
            (leNat (f.recvBuffer.take 4))).length < n := by
          rw [List.length_drop]
          lia
        have hafter : (f.afterPacket ByteTransform.identity).recvBuffer =
            f.recvBuffer.drop (leNat (f.recvBuffer.take 4)) := by
          rw [afterPacket, announcedSize_identity]
        rw [drain_encrypted_packet C key hzero havail hlarge (by lia)
            hcomplete,
          packetFrames_packet havail hlarge (by lia) hcomplete,
          ← hafter]
        congr 1
        exact ih _ (hafter ▸ hlt) _ hzero
          (hafter ▸ Option.map_eq_none_iff.mp hnone) rfl

/--
After an oversized frame the input cipher lags behind: it is still where the
body of that frame began.
-/
def lagging (key : state) (bytes : List UInt8) (start size bufferSize : Nat) :
    Framing state where
  recvBuffer :=
    (C.encode (C.advance key (start + (size - 4)))
      (bytes.drop (start + (size - 4)))).1
  currentMessageSize := 0
  discardPacket := true
  bufferSize := bufferSize
  inputEnc := C.advance key start

theorem lagging_drop (key : state) (bytes : List UInt8)
    (start size bufferSize n : Nat) :
    lagging C (C.advance key n) (bytes.drop n) start size bufferSize =
      lagging C key bytes (start + n) size bufferSize := by
  have hsum : n + (start + (size - 4)) = start + n + (size - 4) := by
    lia
  rw [lagging, lagging, List.drop_drop, ← StreamCipher.advance_add,
    ← StreamCipher.advance_add, hsum, Nat.add_comm n start]

theorem drain_encrypted_oversized (key : state) {f : Framing Unit}
    (hzero : f.currentMessageSize = 0) (havail : 4 ≤ f.recvBuffer.length)
    (hover : maxPacketSize < leNat (f.recvBuffer.take 4)) :
    ((framer C.transform).drain (f.encrypted C key)).2 =
      ((framer C.transform).drain
        (lagging C key f.recvBuffer 4 (leNat (f.recvBuffer.take 4))
          f.bufferSize)).2 := by
  have hlarge := large_of_oversized hover
  have hsum : 4 + (leNat (f.recvBuffer.take 4) - 4) =
      leNat (f.recvBuffer.take 4) := by
    lia
  have hsize := encrypted_announcedSize C key havail
  have hlength := encrypted_length C key f
  have hzero' : (f.encrypted C key).currentMessageSize = 0 := hzero
  by_cases hcomplete : leNat (f.recvBuffer.take 4) ≤ f.recvBuffer.length
  · have hrun := encrypted_run_take C key f havail
    rw [drain_oversized hzero' (by lia) (by lia) (by lia), afterOversized,
      lagging, hsize, hsum, ← StreamCipher.encode_drop]
    simp only [encrypted] at hrun ⊢
    rw [hrun, hzero]
  · have hidle : ((framer C.transform).drain
        (lagging C key f.recvBuffer 4 (leNat (f.recvBuffer.take 4))
          f.bufferSize)).2 = [] := by
      have hempty : f.recvBuffer.drop (leNat (f.recvBuffer.take 4)) = [] :=
        List.drop_eq_nil_iff.mpr (by lia)
      rw [drain_short rfl]
      rw [lagging, hsum, hempty]
      change 0 < 4
      decide
    rw [hidle, drain_encrypted_incomplete C key hzero havail (by lia)
      (by lia)]

/-- Up to the first oversized frame the packets are the plain ones. -/
theorem drain_encrypted_of_some (key : state) {f : Framing Unit}
    {start size : Nat} (hzero : f.currentMessageSize = 0)
    (hsome : firstOversized f.recvBuffer = some (start, size)) :
    exists front bufferSize,
      packetFrames f.recvBuffer =
          front ++ packetFrames (f.recvBuffer.drop (start + (size - 4))) ∧
        ((framer C.transform).drain (f.encrypted C key)).2 =
          front ++
            ((framer C.transform).drain
              (lagging C key f.recvBuffer start size bufferSize)).2 := by
  induction hn : f.recvBuffer.length using Nat.strongRecOn
    generalizing f key start with
  | ind n ih =>
      rw [firstOversized] at hsome
      split at hsome
      · cases hsome
      rename_i hshort
      have havail : 4 ≤ f.recvBuffer.length := by
        lia
      split at hsome
      · rename_i hsmall
        rcases Option.map_eq_some_iff.mp hsome with
          ⟨⟨start', size'⟩, hfound, hpair⟩
        cases hpair
        have hlt : (f.recvBuffer.drop 4).length < n := by
          rw [List.length_drop]
          lia
        rcases ih _ hlt (C.advance key 4)
          (f := f.afterInvalid ByteTransform.identity) hzero hfound rfl with
          ⟨front, bufferSize, hplain, hcipher⟩
        refine ⟨front, bufferSize, ?_, ?_⟩
        · rw [packetFrames_invalid havail hsmall]
          rw [afterInvalid] at hplain
          rw [hplain, List.drop_drop]
          congr 3
          lia
        · rw [drain_encrypted_invalid C key hzero havail hsmall, hcipher]
          rw [← lagging_drop C key f.recvBuffer start' size' bufferSize 4]
          rfl
      rename_i hlarge
      split at hsome
      · rename_i hover
        cases hsome
        have hsum : 4 + (leNat (f.recvBuffer.take 4) - 4) =
            leNat (f.recvBuffer.take 4) := by
          lia
        refine ⟨[], f.bufferSize, ?_, ?_⟩
        · rw [hsum, List.nil_append]
          by_cases hcomplete :
              leNat (f.recvBuffer.take 4) ≤ f.recvBuffer.length
          · exact packetFrames_oversized havail hover hcomplete
          · rw [packetFrames_incomplete havail hlarge (by lia),
              packetFrames_short]
            rw [List.length_drop]
            lia
        · rw [List.nil_append]
          exact drain_encrypted_oversized C key hzero havail hover
      rename_i hfits
      split at hsome
      · cases hsome
      · rcases Option.map_eq_some_iff.mp hsome with
          ⟨⟨start', size'⟩, hfound, hpair⟩
        cases hpair
        have hcomplete : leNat (f.recvBuffer.take 4) ≤
            f.recvBuffer.length := by
          lia
        have hlt : (f.recvBuffer.drop
            (leNat (f.recvBuffer.take 4))).length < n := by
          rw [List.length_drop]
          lia
        have hafter : (f.afterPacket ByteTransform.identity).recvBuffer =
            f.recvBuffer.drop (leNat (f.recvBuffer.take 4)) := by
          rw [afterPacket, announcedSize_identity]
        rcases ih _ (hafter ▸ hlt)
          (C.advance key (leNat (f.recvBuffer.take 4)))
          (f := f.afterPacket ByteTransform.identity) hzero
          (hafter ▸ hfound) rfl with
          ⟨front, bufferSize, hplain, hcipher⟩
        rw [hafter] at hplain hcipher
        refine ⟨headFrame f.recvBuffer :: front, bufferSize, ?_, ?_⟩
        · rw [packetFrames_packet havail hlarge (by lia) hcomplete, hplain,
            List.drop_drop, List.cons_append]
          congr 4
          lia
        · rw [drain_encrypted_packet C key hzero havail hlarge (by lia)
            hcomplete, hcipher, lagging_drop, List.cons_append]

end Framing

end Net
end Rzu
