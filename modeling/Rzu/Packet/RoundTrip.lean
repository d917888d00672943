import Rzu.Packet.TrailingFields

/-!
# Round trip of a packet

Deserialization reads the layout of a packet back, up to the defaults that
inactive lines assign.
-/

namespace Rzu
namespace Packet

open Library

open MessageBuffer

/-- The declarations that are read back. -/
structure Struct.WellDeclared (type : Struct) : Prop where
  markers : type.MarkersDeclared []
  counts : type.CountsMatch []
  bounded : type.Bounded
  version : type.VersionConditions

namespace PacketType

/-- A packet is sent, received to its last byte, and its fields agree. -/
def RoundTrips (packet : PacketType) (version : Version) (r g : Record)
    (garbage : Nat -> UInt8) : Prop :=
  exists bytes b receivedId g',
    packet.sendPacket version r garbage = some (SendResult.written bytes) ∧
      packet.deserialize version (MessageBuffer.create bytes) 0 g =
        some (b, receivedId, g') ∧
      b.checkPacketFinalSize = true ∧ packet.fields.Agrees version r g'

variable {packet : PacketType} {version : Version} {r : Record}
variable {chunks : List (List UInt8)}

theorem readHeader_ahead {b : MessageBuffer} {size id : Nat}
    (h : b.Ahead (header size id)) (receivedId : Int) :
    exists id', b.readHeader receivedId = some (b.advance 7, id') := by
  have hfirst : (b.discard "size" 4) = b.advance 4 := by
    rw [MessageBuffer.discard,
      MessageBuffer.checkAvailableBuffer_room (h.room.mono (by
        rw [header_length]
        decide)) (by decide)]
  have hsplit : header size id =
      (uint32.encode size ++ uint16.encode id) ++
        uint8.encode (MessageBuffer.getMessageChecksum size id) := rfl
  have hsize : (uint32.encode size).length = 4 := IntType.encode_length _ _
  have hid : (uint16.encode id).length = 2 := IntType.encode_length _ _
  have hsum : (uint8.encode
      (MessageBuffer.getMessageChecksum size id)).length = 1 :=
    IntType.encode_length _ _
  rw [hsplit, List.append_assoc] at h
  have hback := h.back
  rw [hsize] at hback
  have hlast := hback.back
  rw [hid, MessageBuffer.advance_advance] at hlast
  have hload := hback.front.load_all
  rw [hid] at hload
  have hread : (b.advance 4).read uint16 uint16 "id" receivedId =
      some (b.advance 6, MessageBuffer.convert uint16 uint16
        (uint16.encode id)) := by
    rw [MessageBuffer.read]
    have hcheck : (b.advance 4).checkAvailableBuffer "id" uint16.size =
        (true, b.advance 4) :=
      hback.front.check (by rw [hid]; decide) "id" hid.symm
    rw [hcheck]
    change Option.bind ((b.advance 4).load 2) _ = _
    rw [hload]
    rfl
  have hdiscard : (b.advance 6).discard "msg_checksum" 1 = b.advance 7 := by
    rw [MessageBuffer.discard, hlast.check (by rw [hsum]; decide)
      "msg_checksum" hsum.symm]
    exact MessageBuffer.advance_advance b 6 1
  refine ⟨MessageBuffer.convert uint16 uint16 (uint16.encode id), ?_⟩
  rw [MessageBuffer.readHeader, hfirst, hread, Option.bind_eq_bind,
    Option.bind_some, hdiscard]
  rfl

theorem deserialize_bytes {g : Record}
    (hconditions : packet.fields.SameConditions version r g)
    (hends : packet.fields.EndsLast version r)
    (hcounted : packet.fields.Counted version r Locals.initial)
    (hpads : packet.fields.PadsKnown version r [] [])
    (hrange : packet.fields.InRange version r)
    (h : packet.layout version r = some chunks)
    (hshort : Struct.Short chunks)
    (hroom : 7 + chunks.flatten.length < 2 ^ 32) :
    exists b receivedId,
      packet.deserialize version
          (MessageBuffer.create (packet.bytes version chunks)) 0 g =
        some (b, receivedId, packet.fields.overwrite version r g) ∧
      b.checkPacketFinalSize = true := by
  let bytes := packet.bytes version chunks
  have hbytes : bytes.length = 7 + chunks.flatten.length :=
    bytes_length _ _ _
  have hsize : (MessageBuffer.create bytes).getSize =
      7 + chunks.flatten.length := by
    change bytes.length % 2 ^ 32 = _
    rw [hbytes, Nat.mod_eq_of_lt hroom]
  have hatEnd : (MessageBuffer.create bytes).AtEnd
      (header (7 + chunks.flatten.length) (packet.getId version).toNat ++
        chunks.flatten) := by
    refine ⟨⟨rfl, ?_⟩, rfl⟩
    rw [List.length_append, header_length, hsize]
    exact Nat.le_of_eq (Nat.zero_add _)
  rcases readHeader_ahead hatEnd.ahead.front 0 with ⟨receivedId, hheader⟩
  have hback := hatEnd.back
  rw [header_length] at hback
  have hread : packet.fields.read version (Locals.initial.shift 0)
      ((MessageBuffer.create bytes).advance 7) g =
        some (((MessageBuffer.create bytes).advance 7).advance
          chunks.flatten.length, packet.fields.overwrite version r g) :=
    Struct.read_to_end hconditions hends hcounted hpads
      ⟨fun _ hc => (nomatch hc), fun _ hc => (nomatch hc)⟩ hrange h hshort
      hback.ahead (Or.inr hback) rfl
  rw [MessageBuffer.advance_advance] at hread
  refine ⟨(MessageBuffer.create bytes).advance (7 + chunks.flatten.length),
    receivedId, ?_, ?_⟩
  · rw [deserialize, hheader, Option.bind_eq_bind, Option.bind_some,
      Struct.deserialize]
    change Option.bind (packet.fields.read version
      (Locals.initial.shift 0) _ g) _ = _
    rw [hread]
    rfl
  · have hmsg : leNat (bytes.take 4) = 7 + chunks.flatten.length :=
      msgSize_bytes hroom
    have hparsed : ((MessageBuffer.create bytes).advance
        (7 + chunks.flatten.length)).getParsedSize =
          7 + chunks.flatten.length := by
      change (0 + (7 + chunks.flatten.length)) % 2 ^ 32 = _
      rw [Nat.zero_add, Nat.mod_eq_of_lt hroom]
    have hmsg' : ((MessageBuffer.create bytes).advance
        (7 + chunks.flatten.length)).msgSize = 7 + chunks.flatten.length :=
      hmsg
    have hsize' : ((MessageBuffer.create bytes).advance
        (7 + chunks.flatten.length)).getSize = 7 + chunks.flatten.length :=
      hsize
    rw [MessageBuffer.checkPacketFinalSize, hparsed, hmsg', hsize']
    simp [MessageBuffer.advance, MessageBuffer.create]

/-- A packet with these values is sent, and can be read to its end. -/
structure Sendable (packet : PacketType) (version : Version) (r : Record) :
    Prop where
  markers : packet.fields.MarkersDeclared []
  endsLast : packet.fields.EndsLast version r
  counted : packet.fields.Counted version r Locals.initial
  pads : packet.fields.PadsKnown version r [] []
  range : packet.fields.InRange version r
  short : forall size, size ∈ packet.fieldSizes version r -> size < 65536
  total : 7 + (packet.fieldSizes version r).sum < 2 ^ 32

/-- The bytes that are sent, and what every receiver makes of them. -/
theorem Sendable.sent (h : packet.Sendable version r)
    (garbage : Nat -> UInt8) :
    exists chunks,
      packet.layout version r = some chunks ∧
      packet.sendPacket version r garbage =
        some (SendResult.written (packet.bytes version chunks)) ∧
      forall g, packet.fields.SameConditions version r g ->
        exists b receivedId,
          packet.deserialize version
              (MessageBuffer.create (packet.bytes version chunks)) 0 g =
            some (b, receivedId, packet.fields.overwrite version r g) ∧
          b.checkPacketFinalSize = true := by
  rcases Struct.exists_layout 7 h.markers (fun marker hmem => nomatch hmem)
      (Struct.haveRoom_of_inRange h.range) (Locals.Similar.refl _)
      h.counted.enough with
    ⟨chunks, hlayout⟩
  have hchunks : packet.layout version r = some chunks := hlayout
  have hsmall := h.short
  have htotal := h.total
  rw [fieldSizes, hchunks, Option.getD_some] at hsmall htotal
  rw [← List.length_flatten] at htotal
  have hshort : Struct.Short chunks := by
    intro chunk hchunk
    exact hsmall chunk.length (List.mem_map_of_mem hchunk)
  refine ⟨chunks, hchunks,
    sendPacket_layout hchunks hshort htotal garbage, ?_⟩
  intro g hconditions
  exact deserialize_bytes hconditions h.endsLast h.counted h.pads h.range
    hchunks hshort htotal

theorem Sendable.received (h : packet.Sendable version r) {g : Record}
    (hconditions : packet.fields.SameConditions version r g)
    (garbage : Nat -> UInt8) :
    exists bytes b receivedId,
      packet.sendPacket version r garbage =
        some (SendResult.written bytes) ∧
      packet.deserialize version (MessageBuffer.create bytes) 0 g =
        some (b, receivedId, packet.fields.overwrite version r g) ∧
      b.checkPacketFinalSize = true := by
  rcases h.sent garbage with ⟨chunks, -, hsent, hreceived⟩
  rcases hreceived g hconditions with ⟨b, receivedId, hread, hfinal⟩
  exact ⟨_, b, receivedId, hsent, hread, hfinal⟩

theorem header_id (size : Nat) (id : UInt16) (rest : List UInt8) :
    leNat (((header size id.toNat ++ rest).drop 4).take 2) = id.toNat := by
  have hfour : (uint32.encode (size : Int)).length = 4 :=
    IntType.encode_length _ _
  have htwo : (uint16.encode (id.toNat : Int)).length = 2 :=
    IntType.encode_length _ _
  rw [header, List.append_assoc, List.append_assoc,
    List.drop_left' hfour, List.take_left' htwo]
  have hcast := uint16.leNat_encode (id.toNat : Int)
  have hmodulus : uint16.modulus = 2 ^ 16 := by decide
  have hlt := id.toNat_lt
  rw [hmodulus] at hcast
  lia

theorem id_bytes (packet : PacketType) (version : Version)
    (chunks : List (List UInt8)) :
    leNat (((packet.bytes version chunks).drop 4).take 2) =
      (packet.getId version).toNat := header_id _ _ _

theorem received_of_sent (hdeclared : packet.fields.WellDeclared)
    (hpads : packet.fields.PadsKnown version r [] [])
    (hrange : packet.fields.InRange version r)
    (hsmall : forall size, size ∈ packet.fieldSizes version r ->
      size < 65536)
    (htotal : 7 + (packet.fieldSizes version r).sum < 2 ^ 32) (g : Record)
    (garbage : Nat -> UInt8) :
    exists bytes b receivedId,
      packet.sendPacket version r garbage =
        some (SendResult.written bytes) ∧
      packet.deserialize version (MessageBuffer.create bytes) 0 g =
        some (b, receivedId, packet.fields.overwrite version r g) ∧
      b.checkPacketFinalSize = true := by
  have hsendable : packet.Sendable version r := {
    markers := hdeclared.markers
    endsLast := (hdeclared.bounded.boundedIn version r).endsLast
    counted := Struct.counted_of_counts hdeclared.counts
      (fun c hc => nomatch hc) hrange
    pads := hpads
    range := hrange
    short := hsmall
    total := htotal }
  exact hsendable.received (hdeclared.version.same version r g) garbage

theorem RoundTrips.agrees {g : Record} {garbage : Nat -> UInt8}
    (h : packet.RoundTrips version r g garbage) {bytes : List UInt8}
    {b : MessageBuffer} {receivedId : Int} {g' : Record}
    (hsent : packet.sendPacket version r garbage =
      some (SendResult.written bytes))
    (hreceived : packet.deserialize version (MessageBuffer.create bytes) 0 g =
      some (b, receivedId, g')) :
    packet.fields.Agrees version r g' := by
  rcases h with ⟨bytes', b', receivedId', found, hsent', hreceived', -, hagrees⟩
  rw [hsent] at hsent'
  cases hsent'
  rw [hreceived] at hreceived'
  cases hreceived'
  exact hagrees

end PacketType

/-!
## A default that spoils a field

`TS_AC_SERVER_LIST` declares `last_login_server_idx` twice, with two widths.
-/

/-- The first lines of `TS_AC_SERVER_LIST`. -/
def serverListPacket : PacketType where
  getId _ := 10022
  fields :=
    Struct.field "last_login_server_idx"
      (fun version _ => atLeast EPIC_4_1 version && !atLeast EPIC_9_6_5 version)
      (Metatype.simple uint16 uint32 (some 1))
      (Struct.field "last_login_server_idx"
        (fun version _ => atLeast EPIC_9_6_5 version)
        (Metatype.simple uint32 uint32 (some 1)) Struct.nil)

def lastServer (idx : Int) : Record :=
  Record.zero.setInteger "last_login_server_idx" idx

theorem serverListPacket_declared : serverListPacket.fields.WellDeclared where
  markers := by
    refine ⟨?_, ?_, ?_, ?_, trivial⟩
    all_goals intro h
    all_goals cases h
  counts := by
    refine ⟨?_, ?_, ?_, ?_, trivial⟩
    all_goals intro c hc
    all_goals cases hc
  bounded := ⟨rfl, rfl, trivial⟩
  version := ⟨fun _ _ _ => rfl, fun _ _ _ => rfl, trivial⟩

end Packet
end Rzu
