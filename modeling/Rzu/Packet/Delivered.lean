import Rzu.Net.Segmentation
import Rzu.Packet.SentOn

/-!
# Packets that are delivered

What is sent back to back on a connection is received packet by packet.
-/

namespace Rzu
namespace Packet

open Library Net

theorem packetFrames_append {bytes : List UInt8} (rest : List UInt8)
    (hlong : 5 ≤ bytes.length) (hfits : bytes.length ≤ maxPacketSize)
    (hsize : leNat (bytes.take 4) = bytes.length) :
    packetFrames (bytes ++ rest) =
      Message.frame bytes :: packetFrames rest := by
  have hall : leNat ((bytes ++ rest).take 4) = bytes.length := by
    rw [List.take_append_of_le_length (by omega), hsize]
  have hlength : (bytes ++ rest).length = bytes.length + rest.length :=
    List.length_append
  rw [packetFrames_packet (by omega) (by omega) (by omega) (by omega),
    headFrame, Message.frame, hall, hsize, List.drop_left,
    List.drop_append_of_le_length (by omega),
    List.take_append_of_le_length (by rw [List.length_drop])]

structure Sending where
  packet : PacketType
  version : Version
  r : Record

namespace Sending

/-- The packet can be sent, and a session takes messages of its size. -/
structure Fits (s : Sending) : Prop where
  declared : s.packet.fields.WellDeclared
  sendable : s.packet.Sendable s.version s.r
  message : 7 + (s.packet.fieldSizes s.version s.r).sum ≤ maxPacketSize

/-- These bytes are sent, and every receiver reads the packet from them. -/
structure Carries (s : Sending) (bytes : List UInt8) : Prop where
  sent : forall garbage, s.packet.sendPacket s.version s.r garbage =
    some (PacketType.SendResult.written bytes)
  read : forall g, exists b id,
    s.packet.deserialize s.version (MessageBuffer.create bytes) 0 g =
      some (b, id, s.packet.fields.overwrite s.version s.r g) ∧
    b.checkPacketFinalSize = true

theorem Fits.carries {s : Sending} (h : s.Fits) :
    exists bytes, s.Carries bytes ∧ forall rest,
      packetFrames (bytes ++ rest) =
        Message.frame bytes :: packetFrames rest := by
  rcases h.sendable.sent (fun _ => 0) with ⟨chunks, hchunks, -, hread⟩
  have hmessage := h.message
  rw [PacketType.fieldSizes, hchunks, Option.getD_some, ← List.length_flatten,
    ← PacketType.bytes_length s.packet s.version] at hmessage
  have hlength := PacketType.bytes_length s.packet s.version chunks
  refine ⟨s.packet.bytes s.version chunks, ⟨fun garbage => ?_, fun g => ?_⟩,
    fun rest => ?_⟩
  · rcases h.sendable.sent garbage with ⟨chunks', hchunks', hsent, -⟩
    rw [hchunks] at hchunks'
    cases hchunks'
    exact hsent
  · exact hread g (h.declared.version.same s.version s.r g)
  · apply packetFrames_append rest (by omega) hmessage
    rw [PacketType.msgSize_bytes, hlength]
    unfold maxPacketSize at hmessage
    omega

/-- However the bytes of the packets arrive, their frames are dispatched. -/
def Delivered (sendings : List Sending) : Prop :=
  exists packets, List.Forall₂ Carries sendings packets ∧
    forall garbage streamType chunks, chunks.flatten = packets.flatten ->
      (Receiver.start garbage streamType ()).dispatched
          ByteTransform.identity garbage chunks = packets.map Message.frame

end Sending

end Packet
end Rzu
