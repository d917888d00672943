import Rzu.Mirror.HandlerEffects

/-!
# Taking the player away from the client

When the connection to the game server ends, the client is told that all that
it knows of is gone.  What is told of one kind comes in no particular order.
-/

namespace Rzu
namespace Mirror

open Library
open Library.Numeral
open Packet

def ST_Cancel : Int := 3

/-- What `%s` prints. -/
def cString (text : CharString) : CharString := text.takeWhile (· ≠ 0)

namespace GameData

variable (data : GameData)

/-- `removeCreatureData` for the player. -/
def removeLocalCreatureData (creature : CreatureData) : List ServerPacket :=
  creature.activeSkillsBySkillId.entries.map (fun e =>
    .TS_SC_SKILL (e.2.setInteger "type" ST_Cancel)) ++
  creature.aurasBySkillId.entries.map (fun e =>
    .TS_SC_AURA (e.2.setInteger "status" 0)) ++
  creature.statesByHandle.entries.map (fun e =>
    .TS_SC_STATE (e.2.setInteger "state_level" 0)) ++
  creature.itemWearByPosition.entries.map (fun e =>
    .TS_SC_ITEM_WEAR_INFO (e.2.setInteger "wear_position" (-1)))

/-- `removeCreatureData` for another creature. -/
def removeCreatureData (creature : CreatureData) : ServerPacket :=
  .TS_SC_LEAVE (Record.zero.setInteger "handle" creature.handle)

def removeLocalPlayerData : List ServerPacket :=
  removeLocalCreatureData data.localPlayer.creatureData ++
  data.localPlayer.summonInfosByCardHandle.entries.map (fun e =>
    .TS_SC_REMOVE_SUMMON_INFO (Record.zero.setInteger "card_handle" e.1)) ++
  data.localPlayer.petInfosByCardHandle.entries.map (fun e =>
    .TS_SC_REMOVE_PET_INFO (Record.zero.setInteger "handle" e.1)) ++
  data.localPlayer.skillCardInfoByItemHandle.entries.map (fun e =>
    .TS_SC_SKILLCARD_INFO
      ((Record.zero.setInteger "item_handle" e.1).setInteger
        "target_handle" 0)) ++
  data.localPlayer.itemsByHandle.entries.map (fun e =>
    .TS_SC_UPDATE_ITEM_COUNT
      ((Record.zero.setInteger "item_handle" e.1).setInteger "count" 0)) ++
  data.localPlayer.partyInfoByName.entries.map (fun e =>
    .TS_SC_CHAT (partyMessage
      (ascii "DESTROY|" ++ cString e.2.partyName ++ ascii "|0|")))

/-- The player's own handle does not leave. -/
def removePlayerData : List ServerPacket :=
  match data.localPlayer.loginResult with
  | none => []
  | some loginResult =>
      data.removeLocalPlayerData ++
      (data.creaturesData.entries.filter fun e =>
        decide (e.1 ≠ loginResult.integer "handle")).map fun e =>
        removeCreatureData e.2

def leftHandles : List Handle :=
  data.removePlayerData.filterMap ServerPacket.leaving?

theorem filterMap_leaving?_map {α : Type} {f : α -> ServerPacket}
    (h : forall a, (f a).leaving? = none) (xs : List α) :
    (xs.map f).filterMap ServerPacket.leaving? = [] := by
  rw [List.filterMap_map]
  exact List.filterMap_eq_nil_iff.mpr fun a _ => h a

theorem leaving?_removeLocalPlayerData :
    data.removeLocalPlayerData.filterMap ServerPacket.leaving? = [] := by
  rw [removeLocalPlayerData, removeLocalCreatureData]
  simp only [List.filterMap_append]
  rw [filterMap_leaving?_map fun _ => rfl, filterMap_leaving?_map fun _ => rfl,
    filterMap_leaving?_map fun _ => rfl, filterMap_leaving?_map fun _ => rfl,
    filterMap_leaving?_map fun _ => rfl, filterMap_leaving?_map fun _ => rfl,
    filterMap_leaving?_map fun _ => rfl, filterMap_leaving?_map fun _ => rfl,
    filterMap_leaving?_map fun _ => rfl]
  rfl

theorem leftHandles_of_login {handle : Handle}
    (hlogin : data.loginHandle = some handle) :
    data.leftHandles =
      (data.creaturesData.entries.filter fun e =>
        decide (e.1 ≠ handle)).map fun e => e.2.handle := by
  rw [leftHandles, removePlayerData]
  rw [loginHandle, Option.map_eq_some_iff] at hlogin
  rcases hlogin with ⟨loginResult, hresult, rfl⟩
  rw [hresult]
  simp only
  rw [List.filterMap_append, leaving?_removeLocalPlayerData, List.nil_append,
    List.filterMap_map, ← List.filterMap_eq_map]
  rfl

theorem leftHandles_of_none (hlogin : data.loginHandle = none) :
    data.leftHandles = [] := by
  rw [leftHandles, removePlayerData]
  rw [loginHandle, Option.map_eq_none_iff] at hlogin
  rw [hlogin]
  rfl

end GameData

end Mirror
end Rzu
