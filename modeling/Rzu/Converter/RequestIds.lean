import Rzu.Converter.PacketIds
import Rzu.Converter.PaddingCiphers

/-!
# Identifiers of requests

The result of a request names the packet that asked for it.  A result with a
string becomes a plain result for old clients, and both are expected to name
the same packet then.
-/

namespace Rzu
namespace Converter

open Packet Auth

/-!
## What an identifier stands for
-/

namespace PacketIds

theorem packetID_mem_values {packet : PacketIds}
    (hids : packet.values ≠ []) : packet.packetID ∈ packet.values := by
  rw [packetID, List.getLastD_eq_getLast?, List.getLast?_eq_getLast_of_ne_nil
    hids, Option.getD_some]
  exact List.getLast_mem hids

end PacketIds

set_option maxRecDepth 2000 in
theorem clientPackets_listed :
    forall sessionType packet, packet ∈ clientPackets sessionType ->
      packet.values ≠ [] := by
  intro sessionType
  cases sessionType with
  | authClient => decide
  | gameClient => decide

theorem exists_of_dispatch {packets : List PacketIds} {version : Version}
    {id : Int} {packet : PacketIds}
    (hlisted : forall packet, packet ∈ packets -> packet.values ≠ [])
    (hfound : dispatch packets version id = some packet) :
    packet ∈ packets ∧ exists other, other ∈ packets ∧
      id ∈ other.values ∧ packet.packetID = other.packetID := by
  have hnot : id ≠ 9999 := by
    intro hid
    rw [dispatch, if_pos hid] at hfound
    cases hfound
  rw [dispatch, if_neg hnot] at hfound
  have hmem := List.mem_of_find?_eq_some hfound
  have htype := List.find?_some hfound
  rw [decide_eq_true_eq] at htype
  refine ⟨hmem, ?_⟩
  rw [convertPacketIdToTypeId] at htype
  cases hid : packets.find? fun packet =>
      packet.values.contains id && packet.getId version = id with
  | none =>
      have htype : packet.packetID = id := by
        simpa only [hid] using htype
      have hlast := PacketIds.packetID_mem_values (hlisted packet hmem)
      exact ⟨packet, hmem, htype ▸ hlast, rfl⟩
  | some other =>
      have htype : packet.packetID = other.packetID := by
        simpa only [hid] using htype
      have hlists := List.find?_some hid
      rw [Bool.and_eq_true, List.contains_iff_mem] at hlists
      exact ⟨other, List.mem_of_find?_eq_some hid, hlists.1, htype⟩

/-!
## The packets of the auth protocol
-/

theorem getId_authClientPackets (version : Version) :
    forall packet, packet ∈ authClientPackets -> packet.packetID ≠ 1071 ->
      packet.values = [packet.packetID] ∧
        packet.getId version = packet.packetID := by
  intro packet hpacket hkey
  simp only [authClientPackets, List.mem_cons, List.not_mem_nil,
    or_false] at hpacket
  rcases hpacket with rfl | rfl | rfl | rfl | rfl | rfl | rfl | rfl
  · exact ⟨rfl, rfl⟩
  · exact ⟨rfl, rfl⟩
  · exact ⟨rfl, rfl⟩
  · exact ⟨rfl, rfl⟩
  · exact absurd rfl hkey
  · exact ⟨rfl, rfl⟩
  · exact ⟨rfl, rfl⟩
  · exact ⟨rfl, rfl⟩

theorem values_of_key :
    forall packet, packet ∈ authClientPackets -> packet.packetID = 1071 ->
      packet.values = [71, 1071] := by
  decide

set_option maxRecDepth 4000 in
theorem no_key_gameClientPackets :
    forall packet, packet ∈ gameClientPackets ->
      71 ∉ packet.values ∧ 1071 ∉ packet.values := by
  decide

theorem getId_of_dispatch_both {server : Version} {id : Int}
    {authPacket gamePacket : PacketIds}
    (hauth : dispatch (clientPackets SessionType.authClient) server id =
      some authPacket)
    (hgame : dispatch (clientPackets SessionType.gameClient) server id =
      some gamePacket) (client : Version) :
    authPacket.getId client = id := by
  rcases exists_of_dispatch (clientPackets_listed _) hauth with
    ⟨hmem, other, hother, hid, htype⟩
  rcases exists_of_dispatch (clientPackets_listed _) hgame with
    ⟨_, row, hrow, hgameId, _⟩
  have hkey : authPacket.packetID ≠ 1071 := by
    intro hkey
    rw [values_of_key other hother (htype ▸ hkey)] at hid
    rcases no_key_gameClientPackets row hrow with ⟨hold, hnew⟩
    rcases List.mem_pair.mp hid with rfl | rfl
    · exact hold hgameId
    · exact hnew hgameId
  have hvalues :=
    (getId_authClientPackets client other hother (htype ▸ hkey)).1
  rw [hvalues, List.mem_singleton, ← htype] at hid
  rw [(getId_authClientPackets client authPacket hmem hkey).2, hid]

/-!
## Translation
-/

/-- The packet that the identifier stands for has it at both versions. -/
def KeepsId (server client : Version) (id : Int)
    (sessionType : SessionType) : Prop :=
  forall packet, dispatch (clientPackets sessionType) server id = some packet ->
    packet.getId client = id

instance (server client : Version) (id : Int) (sessionType : SessionType) :
    Decidable (KeepsId server client id sessionType) :=
  match hfound : dispatch (clientPackets sessionType) server id with
  | none => isTrue fun packet hpacket => by
      rw [hfound] at hpacket
      cases hpacket
  | some found =>
      if hid : found.getId client = id then
        isTrue fun packet hpacket => by
          rw [hfound] at hpacket
          cases hpacket
          exact hid
      else isFalse fun hkeeps => hid (hkeeps found hfound)

example :
    KeepsId EPIC_9_6_3 EPIC_7_4 10001 SessionType.authClient ∧
      ¬ KeepsId EPIC_9_6_3 EPIC_7_4 1071 SessionType.authClient := by
  decide

theorem convertPacketId_eq_self_iff (server client : Version) (id : Int)
    (sessionType : SessionType) :
    convertPacketId sessionType server id client = id <->
      KeepsId server client id sessionType := by
  rw [convertPacketId, KeepsId]
  cases dispatch (clientPackets sessionType) server id with
  | none => simp
  | some packet => simp

theorem convertPacketId_agree_iff (server client : Version) (id : Int) :
    convertPacketId SessionType.gameClient server id client =
        convertPacketId SessionType.authClient server id client <->
      forall sessionType, KeepsId server client id sessionType := by
  constructor
  · intro hagree
    have hauth :
        convertPacketId SessionType.authClient server id client = id := by
      cases hpacket :
          dispatch (clientPackets SessionType.authClient) server id with
      | none => rw [convertPacketId, hpacket]
      | some authPacket =>
          cases hgame :
              dispatch (clientPackets SessionType.gameClient) server id with
          | none => rw [← hagree, convertPacketId, hgame]
          | some gamePacket =>
              rw [convertPacketId, hpacket]
              exact getId_of_dispatch_both hpacket hgame client
    intro sessionType
    rw [← convertPacketId_eq_self_iff]
    cases sessionType with
    | authClient => exact hauth
    | gameClient => rw [hagree, hauth]
  · intro hkeeps
    rw [(convertPacketId_eq_self_iff _ _ _ _).mpr (hkeeps _),
      (convertPacketId_eq_self_iff _ _ _ _).mpr (hkeeps _)]

/-!
## Results
-/

namespace SpecificPacketConverter

variable {C : Ciphers}

/-- The packets that results name, as the client gets them. -/
def requestIds (conversion : Conversion C) : List Int :=
  conversion.sent.map fun sent => sent.fields.integer "request_msg_id"

theorem requestIds_onResult (s : SpecificPacketConverter C)
    (client server : Version) (around : Surroundings C) (pkt : Record) :
    requestIds (s.onResult client server around pkt) =
      [around.convertPacketId SessionType.authClient server
        (pkt.integer "request_msg_id") client] := by
  simp [requestIds, onResult, convertRequestId, Record.integer_setInteger]

theorem requestIds_onResultWithString (s : SpecificPacketConverter C)
    {client : Version} (hold : intAtLeast EPIC_8_1 client = false)
    (server : Version) (around : Surroundings C) (pkt : Record) :
    requestIds (s.onResultWithString client server around pkt) =
      [around.convertPacketId SessionType.gameClient server
        (pkt.integer "request_msg_id") client] := by
  simp [requestIds, onResultWithString, hold, convertRequestId,
    Record.integer_setInteger]

/--
A result with a string that is downgraded names the same packet as a plain
result does.
-/
def DowngradeAgrees (s : SpecificPacketConverter C) (client server : Version)
    (around : Surroundings C) (id : Int) : Prop :=
  forall pkt plain, pkt.integer "request_msg_id" = id ->
    plain.integer "request_msg_id" = id ->
      requestIds (s.onResultWithString client server around pkt) =
        requestIds (s.onResult client server around plain)

def converting : Surroundings (padding []) :=
  { surroundings [] [] [] with convertPacketId := convertPacketId }

def converter : SpecificPacketConverter (padding []) :=
  (paddedLogin LoginKind.account [] [] [] [] []).converter

end SpecificPacketConverter

end Converter
end Rzu
