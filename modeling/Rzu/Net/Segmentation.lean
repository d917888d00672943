import Rzu.Net.FrameByFrame

/-!
# Framing and segmentation

A plain session dispatches the complete frames of the byte stream whose
announced size lies between 5 and the largest packet size, whatever chunks the
stream arrives in.
-/

namespace Rzu
namespace Net

open Library

/-- The frame that a complete header and body at the front make up. -/
def headFrame (bytes : List UInt8) : Frame where
  size := leNat (bytes.take 4)
  body := (bytes.drop 4).take (leNat (bytes.take 4) - 4)

/--
The complete frames of a byte stream, whatever size they announce.  A header
that announces 4 bytes or less is a frame of its own.
-/
def announcedFrames (bytes : List UInt8) : List Frame :=
  if _hshort : bytes.length < 4 then
    []
  else if leNat (bytes.take 4) ≤ 4 then
    headFrame bytes :: announcedFrames (bytes.drop 4)
  else if bytes.length < leNat (bytes.take 4) then
    []
  else
    headFrame bytes :: announcedFrames (bytes.drop (leNat (bytes.take 4)))
termination_by bytes.length
decreasing_by
  · rw [List.length_drop]
    lia
  · rw [List.length_drop]
    lia

/-- The frames that reach the handlers. -/
def Frame.IsPacket (frame : Frame) : Prop :=
  5 ≤ frame.size ∧ frame.size ≤ maxPacketSize

instance (frame : Frame) : Decidable frame.IsPacket :=
  inferInstanceAs (Decidable (_ ∧ _))

def packetFrames (bytes : List UInt8) : List Frame :=
  (announcedFrames bytes).filter fun frame => frame.IsPacket

theorem packetFrames_short {bytes : List UInt8} (h : bytes.length < 4) :
    packetFrames bytes = [] := by
  rw [packetFrames, announcedFrames, dif_pos h]
  rfl

theorem packetFrames_invalid {bytes : List UInt8} (h : 4 ≤ bytes.length)
    (hsmall : leNat (bytes.take 4) ≤ 4) :
    packetFrames bytes = packetFrames (bytes.drop 4) := by
  have hnot : ¬ (headFrame bytes).IsPacket := by
    intro hpacket
    have hle : 5 ≤ leNat (bytes.take 4) := hpacket.left
    lia
  rw [packetFrames, announcedFrames, dif_neg (by lia), if_pos hsmall,
    List.filter_cons_of_neg (by simpa using hnot)]
  rfl

theorem packetFrames_incomplete {bytes : List UInt8}
    (h : 4 ≤ bytes.length) (hlarge : ¬ leNat (bytes.take 4) ≤ 4)
    (hincomplete : bytes.length < leNat (bytes.take 4)) :
    packetFrames bytes = [] := by
  rw [packetFrames, announcedFrames, dif_neg (by lia), if_neg hlarge,
    if_pos hincomplete]
  rfl

theorem packetFrames_oversized {bytes : List UInt8}
    (h : 4 ≤ bytes.length)
    (hover : leNat (bytes.take 4) > maxPacketSize)
    (hcomplete : leNat (bytes.take 4) ≤ bytes.length) :
    packetFrames bytes =
      packetFrames (bytes.drop (leNat (bytes.take 4))) := by
  have hlarge : ¬ leNat (bytes.take 4) ≤ 4 := by
    unfold maxPacketSize at hover
    lia
  have hnot : ¬ (headFrame bytes).IsPacket := by
    intro hpacket
    exact absurd hpacket.right (Nat.not_le_of_gt hover)
  rw [packetFrames, announcedFrames, dif_neg (by lia), if_neg hlarge,
    if_neg (by lia), List.filter_cons_of_neg (by simpa using hnot)]
  rfl

theorem packetFrames_packet {bytes : List UInt8}
    (h : 4 ≤ bytes.length) (hlarge : ¬ leNat (bytes.take 4) ≤ 4)
    (hfits : leNat (bytes.take 4) ≤ maxPacketSize)
    (hcomplete : leNat (bytes.take 4) ≤ bytes.length) :
    packetFrames bytes =
      headFrame bytes ::
        packetFrames (bytes.drop (leNat (bytes.take 4))) := by
  have hpacket : (headFrame bytes).IsPacket :=
    ⟨Nat.lt_of_not_le hlarge, hfits⟩
  rw [packetFrames, announcedFrames, dif_neg (by lia), if_neg hlarge,
    if_neg (by lia), List.filter_cons_of_pos (by simpa using hpacket)]
  rfl

theorem packetFrames_shortest (x : UInt8) :
    packetFrames [5, 0, 0, 0, x] = [⟨5, [x]⟩] := by
  have hsize : leNat (List.take 4 [5, 0, 0, 0, x]) = 5 := rfl
  have hfits : 5 ≤ maxPacketSize := by
    unfold maxPacketSize
    lia
  rw [packetFrames_packet (by simp) (by lia) (by lia)
    (by rw [hsize]; exact Nat.le_refl 5), hsize]
  congr 1
  apply packetFrames_short
  simp

/-!
## The plain session
-/

theorem announcedSize_identity (f : Framing Unit) :
    f.announcedSize ByteTransform.identity =
      leNat (f.recvBuffer.take 4) := by
  rw [Framing.announcedSize, ByteTransform.run_identity]

theorem nextPacket_identity (f : Framing Unit) :
    f.nextPacket ByteTransform.identity = headFrame f.recvBuffer := by
  rw [Framing.nextPacket, announcedSize_identity,
    ByteTransform.run_identity, headFrame, List.drop_take]

theorem drain_eq_packetFrames (f : Framing Unit)
    (hzero : f.currentMessageSize = 0) :
    ((framer ByteTransform.identity).drain f).2 =
      packetFrames f.recvBuffer := by
  induction hn : f.recvBuffer.length using Nat.strongRecOn
    generalizing f with
  | ind n ih =>
      have hsize := announcedSize_identity f
      by_cases hshort : f.recvBuffer.length < 4
      · rw [Framing.drain_short hzero hshort, packetFrames_short hshort]
      have havail : 4 ≤ f.recvBuffer.length := by
        lia
      by_cases hsmall : f.announcedSize ByteTransform.identity ≤ 4
      · rw [Framing.drain_invalid hzero havail hsmall,
          packetFrames_invalid havail (hsize ▸ hsmall)]
        refine ih (f.recvBuffer.drop 4).length ?_ _ hzero rfl
        rw [List.length_drop]
        lia
      have hlarge : 4 < f.announcedSize ByteTransform.identity := by
        lia
      by_cases hcomplete :
          f.announcedSize ByteTransform.identity ≤ f.recvBuffer.length
      · have hlt : (f.recvBuffer.drop
            (f.announcedSize ByteTransform.identity)).length < n := by
          rw [List.length_drop]
          lia
        by_cases hover :
            maxPacketSize < f.announcedSize ByteTransform.identity
        · rw [Framing.drain_oversized hzero havail hover hcomplete,
            packetFrames_oversized havail (hsize ▸ hover)
              (hsize ▸ hcomplete), ← hsize]
          exact ih _ hlt _ hzero rfl
        · rw [Framing.drain_packet hzero hlarge (by lia) hcomplete,
            packetFrames_packet havail (hsize ▸ hsmall)
              (hsize ▸ Nat.le_of_not_lt hover) (hsize ▸ hcomplete),
            ← hsize, ih _ hlt (f.afterPacket ByteTransform.identity)
              hzero rfl, nextPacket_identity]
          rfl
      · rw [packetFrames_incomplete havail (hsize ▸ hsmall)
          (hsize ▸ Nat.lt_of_not_le hcomplete)]
        by_cases hover :
            maxPacketSize < f.announcedSize ByteTransform.identity
        · exact Framing.drain_oversized_incomplete hzero havail hover
            (by lia)
        · exact Framing.drain_packet_incomplete hzero havail hlarge
            (by lia) (by lia)

theorem start_idle {cipher : Type} (T : ByteTransform cipher)
    (garbage : Nat -> UInt8) (streamType : StreamType)
    (inputEnc : cipher) :
    (framer T).step
      (Receiver.start garbage streamType inputEnc).framing = none := by
  apply (Framing.idle_iff T).mpr
  apply Framing.Waiting.header
  · rfl
  · change 0 < 4
    decide

theorem start_framing {cipher : Type} (garbage garbage' : Nat -> UInt8)
    (streamType : StreamType) (inputEnc : cipher) :
    (Receiver.start garbage streamType inputEnc).framing =
      (Receiver.start garbage' streamType inputEnc).framing := by
  simp [Receiver.framing, Receiver.start, InputBuffer.create,
    InputBuffer.bufferSize]

theorem dispatched_eq_packetFrames (garbage : Nat -> UInt8)
    (streamType : StreamType) (chunks : List (List UInt8)) :
    (Receiver.start garbage streamType ()).dispatched
        ByteTransform.identity garbage chunks =
      packetFrames chunks.flatten := by
  have hdrain := Receiver.receiveAll_eq_drain ByteTransform.identity
    garbage (start_idle _ garbage streamType ()) chunks
  have hout := congrArg Prod.snd hdrain
  rw [drain_eq_packetFrames _ rfl] at hout
  exact hout

theorem segmentation_independent (garbage garbage' : Nat -> UInt8)
    (streamType : StreamType) (chunks chunks' : List (List UInt8))
    (hsame : chunks.flatten = chunks'.flatten) :
    let first := Receiver.start garbage streamType ()
    let second := Receiver.start garbage' streamType ()
    first.dispatched ByteTransform.identity garbage chunks =
        second.dispatched ByteTransform.identity garbage' chunks' ∧
      (first.receiveAll ByteTransform.identity garbage chunks).1.framing =
        (second.receiveAll ByteTransform.identity
          garbage' chunks').1.framing ∧
      first.dispatched ByteTransform.identity garbage chunks =
        (announcedFrames chunks.flatten).filter
          fun frame => frame.IsPacket := by
  intro first second
  have hfirst := Receiver.receiveAll_eq_drain ByteTransform.identity
    garbage (start_idle _ garbage streamType ()) chunks
  have hsecond := Receiver.receiveAll_eq_drain ByteTransform.identity
    garbage' (start_idle _ garbage' streamType ()) chunks'
  have hagree : ((first.receiveAll ByteTransform.identity
        garbage chunks).1.framing,
      first.dispatched ByteTransform.identity garbage chunks) =
      ((second.receiveAll ByteTransform.identity garbage' chunks').1.framing,
        second.dispatched ByteTransform.identity garbage' chunks') := by
    rw [hfirst, hsecond, hsame,
      start_framing garbage garbage' streamType ()]
  refine ⟨congrArg Prod.snd hagree, congrArg Prod.fst hagree, ?_⟩
  exact dispatched_eq_packetFrames garbage streamType chunks

/-- A frame cut inside its header, and the same frame in one piece. -/
theorem segmentation_independent_header_cut :
    let chunks : List (List UInt8) := [[6, 0], [0, 0, 1], [2]]
    let chunks' : List (List UInt8) := [[6, 0, 0, 0, 1, 2]]
    chunks.flatten = chunks'.flatten ∧
      (Receiver.start (fun _ => 0) StreamType.socket ()).dispatched
          ByteTransform.identity (fun _ => 0) chunks =
        (Receiver.start (fun _ => 1) StreamType.socket ()).dispatched
          ByteTransform.identity (fun _ => 1) chunks' :=
  ⟨rfl, (segmentation_independent (fun _ => 0) (fun _ => 1)
    StreamType.socket [[6, 0], [0, 0, 1], [2]] [[6, 0, 0, 0, 1, 2]]
    rfl).left⟩

end Net
end Rzu
