import Rzu.Mirror.PartyChat

/-!
# Handling the packets of a game server

Every packet that the client keeps something of has a handler.
-/

namespace Rzu
namespace Mirror

open Library
open Packet

def ST_Casting : Int := 1
def ST_CastingUpdate : Int := 2
def SIT_Total : Int := 0

inductive ServerPacket where
  | TS_SC_ENTER (packet : Record)
  | TS_SC_LEAVE (packet : Record)
  | TS_SC_PROPERTY (packet : Record)
  | TS_SC_SKILL_LIST (packet : Record)
  | TS_SC_ADDED_SKILL_LIST (packet : Record)
  | TS_SC_WEAR_INFO (packet : Record)
  | TS_SC_ITEM_WEAR_INFO (packet : Record)
  | TS_SC_EXP_UPDATE (packet : Record)
  | TS_SC_DETECT_RANGE_UPDATE (packet : Record)
  | TS_SC_SKILLCARD_INFO (packet : Record)
  | TS_SC_STATE (packet : Record)
  | TS_SC_MOVE (packet : Record)
  | TS_SC_AURA (packet : Record)
  | TS_SC_SET_MAIN_TITLE (packet : Record)
  | TS_SC_SKILL (packet : Record)
  | TS_SC_STAT_INFO (packet : Record)
  | TS_SC_UNSUMMON_NOTICE (packet : Record)
  | TS_SC_LOGIN_RESULT (packet : Record)
  | TS_SC_CHAT (packet : Record)
  | TS_SC_ADD_SUMMON_INFO (packet : Record)
  | TS_SC_REMOVE_SUMMON_INFO (packet : Record)
  | TS_SC_ADD_PET_INFO (packet : Record)
  | TS_SC_REMOVE_PET_INFO (packet : Record)
  | TS_SC_INVENTORY (packet : Record)
  | TS_EQUIP_SUMMON (packet : Record)
  | TS_SC_GOLD_UPDATE (packet : Record)
  | TS_SC_BELT_SLOT_INFO (packet : Record)
  | TS_SC_BATTLE_ARENA_PENALTY_INFO (packet : Record)
  | TS_SC_QUEST_LIST (packet : Record)
  | TS_SC_TITLE_LIST (packet : Record)
  | TS_SC_TITLE_CONDITION_LIST (packet : Record)
  | TS_SC_REMAIN_TITLE_TIME (packet : Record)
  | TS_SC_SET_SUB_TITLE (packet : Record)
  | TS_SC_LEVEL_UPDATE (packet : Record)
  | TS_SC_ENERGY (packet : Record)
  | TS_SC_HPMP (packet : Record)
  | TS_SC_REGEN_HPMP (packet : Record)
  | TS_SC_CHANGE_NAME (packet : Record)
  | TS_SC_HAIR_INFO (packet : Record)
  | TS_SC_SKIN_INFO (packet : Record)
  | TS_SC_HIDE_EQUIP_INFO (packet : Record)
  | TS_SC_STATUS_CHANGE (packet : Record)
  | TS_SC_WARP (packet : Record)
  | TS_SC_CHANGE_TITLE_CONDITION (packet : Record)
  | TS_SC_UPDATE_ITEM_COUNT (packet : Record)
  | TS_SC_DESTROY_ITEM (packet : Record)
  | other (packet : Record)

def modifyObject (name : String) (change : Record -> Record) (r : Record) :
    Record :=
  r.setObject name (change (r.object name))

/-- `enterInfo.playerInfo`. -/
def CreatureData.updatePlayerInfo (creature : CreatureData)
    (change : Record -> Record) : CreatureData :=
  { creature with
    enterInfo := modifyObject "playerInfo" change creature.enterInfo }

/-- `enterInfo.playerInfo.creatureInfo`. -/
def CreatureData.updateCreatureInfo (creature : CreatureData)
    (change : Record -> Record) : CreatureData :=
  creature.updatePlayerInfo (modifyObject "creatureInfo" change)

namespace GameData

variable (m : Moment) (data : GameData) (packet : Record)

/-!
## Creatures
-/

def onEnter : GameData :=
  if packet.integer "handle" = data.getLocalPlayerServerHandle then data
  else
    { data with
      creaturesData :=
        data.creaturesData.insert (packet.integer "handle")
          { (data.creaturesData.lookup (packet.integer "handle")).getD
              CreatureData.create with
            enterInfo := packet
            activeMove := none } }

def onLeave : GameData :=
  { data with
    creaturesData := data.creaturesData.erase (packet.integer "handle") }

def onProperty : GameData :=
  data.updateCreature (packet.integer "handle") fun creature =>
    if packet.integer "is_number" ≠ 0 then
      { creature with
        intPropertiesByName :=
          creature.intPropertiesByName.insert (packet.string "name")
            (packet.integer "value") }
    else
      { creature with
        stringPropertiesByName :=
          creature.stringPropertiesByName.insert (packet.string "name")
            (packet.string "string_value") }

/-- Put the elements of a list under their ids. -/
def insertSkills (skills : List Record) (byId : UnorderedMap Int Record) :
    UnorderedMap Int Record :=
  skills.foldl (fun byId skill => byId.insert (skill.integer "skill_id") skill)
    byId

def onSkillList : GameData :=
  data.updateCreature (packet.integer "target") fun creature =>
    { creature with
      skillsById :=
        insertSkills (packet.objectVector "skills")
          (if packet.integer "modification_type" = 1 then ∅
            else creature.skillsById) }

def onAddedSkillList : GameData :=
  data.updateCreature (packet.integer "target") fun creature =>
    { creature with
      addedSkillsById :=
        insertSkills (packet.objectVector "skills") creature.addedSkillsById }

def onWearInfo : GameData :=
  data.updateCreature (packet.integer "handle") fun creature =>
    { creature with wearInfo := some packet }

def onItemWearInfo : GameData :=
  data.updateCreature (packet.integer "target_handle") fun creature =>
    { creature with
      itemWearByPosition :=
        if 0 ≤ packet.integer "wear_position" then
          creature.itemWearByPosition.insert (packet.integer "item_handle")
            packet
        else creature.itemWearByPosition.erase (packet.integer "item_handle") }

def onExpUpdate : GameData :=
  data.updateCreature (packet.integer "handle") fun creature =>
    { creature with exp := some packet }

def onDetectRangeUpdate : GameData :=
  data.updateCreature (packet.integer "handle") fun creature =>
    { creature with detectRange := some packet }

def onState : GameData :=
  data.updateCreature (packet.integer "handle") fun creature =>
    { creature with
      statesByHandle :=
        if 0 < packet.integer "state_level" then
          creature.statesByHandle.insert (packet.integer "state_handle") packet
        else creature.statesByHandle.erase (packet.integer "state_handle") }

def onAura : GameData :=
  data.updateCreature (packet.integer "caster") fun creature =>
    { creature with
      aurasBySkillId :=
        if packet.integer "status" ≠ 0 then
          creature.aurasBySkillId.insert (packet.integer "skill_id") packet
        else creature.aurasBySkillId.erase (packet.integer "skill_id") }

def onSetMainTitle : GameData :=
  data.updateCreature (packet.integer "handle") fun creature =>
    { creature with mainTitle := some packet }

def onSkill : GameData :=
  data.updateCreature (packet.integer "caster") fun creature =>
    { creature with
      activeSkillsBySkillId :=
        if packet.integer "type" = ST_Casting ∨
            packet.integer "type" = ST_CastingUpdate then
          creature.activeSkillsBySkillId.insert (packet.integer "skill_id")
            packet
        else
          creature.activeSkillsBySkillId.erase (packet.integer "skill_id") }

def onStatInfo : GameData :=
  data.updateCreature (packet.integer "handle") fun creature =>
    if packet.integer "type" = SIT_Total then
      { creature with statInfoTotal := some packet }
    else { creature with statInfoByItems := some packet }

def onSummonNotice : GameData :=
  data.updateCreature (packet.integer "summon_handle") fun creature =>
    { creature with
      unsummonNotice :=
        if packet.integer "unsummon_duration" ≠ 0 then some packet else none }

/-!
## The local player
-/

def updateLocalPlayer (change : LocalPlayerData -> LocalPlayerData) :
    GameData :=
  { data with localPlayer := change data.localPlayer }

def onLoginResult : GameData :=
  data.updateLocalPlayer fun l =>
    { l with
      loginResult := some packet
      creatureData :=
        { l.creatureData with
          enterInfo :=
            l.creatureData.enterInfo.setInteger "handle"
              (packet.integer "handle") } }

def onAddSummonInfo : GameData :=
  data.updateLocalPlayer fun l =>
    { l with
      summonInfosByCardHandle :=
        l.summonInfosByCardHandle.insert (packet.integer "card_handle")
          packet }

def onRemoveSummonInfo : GameData :=
  data.updateLocalPlayer fun l =>
    { l with
      summonInfosByCardHandle :=
        l.summonInfosByCardHandle.erase (packet.integer "card_handle") }

def onAddPetInfo : GameData :=
  data.updateLocalPlayer fun l =>
    { l with
      petInfosByCardHandle :=
        l.petInfosByCardHandle.insert (packet.integer "pet_handle") packet }

def onRemovePetInfo : GameData :=
  data.updateLocalPlayer fun l =>
    { l with
      petInfosByCardHandle :=
        l.petInfosByCardHandle.erase (packet.integer "handle") }

def insertItems (items : List Record)
    (byHandle : UnorderedMap Handle Record) : UnorderedMap Handle Record :=
  items.foldl (fun byHandle item =>
    byHandle.insert (item.integer "handle") item) byHandle

def onInventory : GameData :=
  data.updateLocalPlayer fun l =>
    { l with
      itemsByHandle :=
        insertItems (packet.objectVector "items") l.itemsByHandle }

def onSkillcardInfo : GameData :=
  data.updateLocalPlayer fun l =>
    { l with
      skillCardInfoByItemHandle :=
        if packet.integer "target_handle" ≠ 0 then
          l.skillCardInfoByItemHandle.insert (packet.integer "item_handle")
            packet
        else l.skillCardInfoByItemHandle.erase (packet.integer "item_handle") }

def onEquipSummon : GameData :=
  data.updateLocalPlayer fun l => { l with equipSummon := some packet }

def onGoldUpdate : GameData :=
  data.updateLocalPlayer fun l => { l with gold := some packet }

def onBeltSlotInfo : GameData :=
  data.updateLocalPlayer fun l => { l with beltSlotInfo := some packet }

def onBattleArenaPenaltyInfo : GameData :=
  data.updateLocalPlayer fun l =>
    { l with battleArenaPenaltyInfo := some packet }

def onQuestList : GameData :=
  data.updateLocalPlayer fun l => { l with questList := some packet }

def onTitleList : GameData :=
  data.updateLocalPlayer fun l => { l with titleList := some packet }

def onTitleConditionList : GameData :=
  data.updateLocalPlayer fun l => { l with titleConditionList := some packet }

def onRemainTitleTime : GameData :=
  data.updateLocalPlayer fun l => { l with titleRemainTime := some packet }

def onSetSubTitle : GameData :=
  data.updateLocalPlayer fun l =>
    { l with
      subTitle := if packet.integer "code" ≠ 0 then some packet else none }

/-!
## What updates earlier packets
-/

def onLevelUpdate : GameData :=
  data.updateCreature (packet.integer "handle") fun creature =>
    { creature with level := some packet }.updateCreatureInfo fun info =>
      info.setInteger "level" (packet.integer "level")

def onEnergy : GameData :=
  if packet.integer "handle" = data.getLocalPlayerServerHandle then
    data.updateLocalPlayer fun l => { l with energy := some packet }
  else
    data.updateCreature (packet.integer "handle") fun creature =>
      creature.updatePlayerInfo fun info =>
        info.setInteger "energy" (packet.integer "energy")

def onHpMp : Except Fault GameData :=
  if packet.integer "handle" = data.getLocalPlayerServerHandle then
    data.updateLoginResult fun loginResult =>
      (((loginResult.setInteger "hp" (packet.integer "hp")).setInteger
        "max_hp" (packet.integer "max_hp")).setInteger
        "mp" (packet.integer "mp")).setInteger
        "max_mp" (packet.integer "max_mp")
  else
    Except.ok (data.updateCreature (packet.integer "handle") fun creature =>
      creature.updateCreatureInfo fun info =>
        (((info.setInteger "hp" (packet.integer "hp")).setInteger
          "max_hp" (packet.integer "max_hp")).setInteger
          "mp" (packet.integer "mp")).setInteger
          "max_mp" (packet.integer "max_mp"))

def onRegenHpMp : Except Fault GameData :=
  if packet.integer "handle" = data.getLocalPlayerServerHandle then
    data.updateLoginResult fun loginResult =>
      (loginResult.setInteger "hp" (packet.integer "hp")).setInteger
        "mp" (packet.integer "mp")
  else
    Except.ok (data.updateCreature (packet.integer "handle") fun creature =>
      creature.updateCreatureInfo fun info =>
        (info.setInteger "hp" (packet.integer "hp")).setInteger
          "mp" (packet.integer "mp"))

def onChangeName : Except Fault GameData :=
  if packet.integer "handle" = data.getLocalPlayerServerHandle then
    data.updateLoginResult fun loginResult =>
      loginResult.setString "name" (packet.string "name")
  else
    Except.ok (data.updateCreature (packet.integer "handle") fun creature =>
      creature.updatePlayerInfo fun info =>
        info.setString "name" (packet.string "name"))

/-- Change a number property only if it already exists. -/
def changeProperty (name : CharString) (value : Int)
    (properties : UnorderedMap CharString Int) :
    UnorderedMap CharString Int :=
  match properties.lookup name with
  | none => properties
  | some _ => properties.insert name value

def updateProperties
    (change : UnorderedMap CharString Int -> UnorderedMap CharString Int) :
    GameData :=
  data.updateLocalPlayer fun l =>
    { l with
      creatureData :=
        { l.creatureData with
          intPropertiesByName := change l.creatureData.intPropertiesByName } }

def onHairInfo : Except Fault GameData :=
  if packet.integer "hPlayer" = data.getLocalPlayerServerHandle then do
    let data' <- data.updateLoginResult fun loginResult =>
      loginResult.setInteger "hairId" (packet.integer "nHairID")
    pure (data'.updateProperties fun properties =>
      ((changeProperty (ascii "hair_id") (packet.integer "nHairID")
        properties).insert
        (ascii "hair_color_idx") (packet.integer "nHairColorIndex")).insert
        (ascii "hair_color_rgb") (packet.integer "nHairColorRGB"))
  else
    Except.ok (data.updateCreature (packet.integer "hPlayer") fun creature =>
      creature.updatePlayerInfo fun info =>
        ((info.setInteger
          "hairId" (cUnsigned.cast (packet.integer "nHairID"))).setInteger
          "hairColorIndex"
          (cUnsigned.cast (packet.integer "nHairColorIndex"))).setInteger
          "hairColorRGB" (packet.integer "nHairColorRGB"))

def onSkinInfo : Except Fault GameData :=
  if packet.integer "handle" = data.getLocalPlayerServerHandle then
    data.updateLoginResult fun loginResult =>
      loginResult.setInteger "skin_color"
        (cUnsigned.cast (packet.integer "nSkinColor"))
  else
    Except.ok (data.updateCreature (packet.integer "handle") fun creature =>
      { creature with skinInfo := some packet })

def onHideEquipInfo : GameData :=
  if packet.integer "hPlayer" = data.getLocalPlayerServerHandle then
    (data.updateLocalPlayer fun l =>
      { l with hideEquipInfo := some packet }).updateProperties
      (changeProperty (ascii "hide_equip_flag")
        (packet.integer "nHideEquipFlag"))
  else
    data.updateCreature (packet.integer "hPlayer") fun creature =>
      creature.updatePlayerInfo fun info =>
        info.setInteger "hideEquipFlag" (packet.integer "nHideEquipFlag")

def onStatusChange : GameData :=
  if packet.integer "handle" = data.getLocalPlayerServerHandle then
    data.updateLocalPlayer fun l => { l with status := some packet }
  else
    data.updateCreature (packet.integer "handle") fun creature =>
      creature.updateCreatureInfo fun info =>
        info.setInteger "status" (packet.integer "status")

/-- Where a creature is by now; a move that has ended is forgotten. -/
def updateCreaturePosition (creature : CreatureData) (x y : Int) :
    CreatureData × Int × Int :=
  match creature.activeMove with
  | none => (creature, x, y)
  | some move =>
      let now := m.follow move x y
      ({ creature with activeMove := now.1 }, now.2)

/-- The position that the login result says. -/
def updateLocalPosition (loginResult : Record) (l : LocalPlayerData) :
    LocalPlayerData :=
  let now := updateCreaturePosition m l.creatureData
    (loginResult.integer "x") (loginResult.integer "y")
  { l with
    creatureData := now.1
    loginResult := some ((loginResult.setInteger "x" now.2.1).setInteger
      "y" now.2.2) }

/-- The position that the last packet about entering says. -/
def updateOwnPosition (creature : CreatureData) : CreatureData :=
  let now := updateCreaturePosition m creature
    (creature.enterInfo.integer "x") (creature.enterInfo.integer "y")
  { now.1 with
    enterInfo := (now.1.enterInfo.setInteger "x" now.2.1).setInteger
      "y" now.2.2 }

def onMove : Except Fault GameData :=
  if packet.integer "handle" = data.getLocalPlayerServerHandle then
    match data.localPlayer.loginResult with
    | none => Except.error Fault.absentMember
    | some loginResult =>
        (data.updateLocalPlayer fun l =>
          let moved := updateLocalPosition m loginResult l
          { moved with
            creatureData :=
              { moved.creatureData with
                activeMove := some packet } }).updateLoginResult
          fun loginResult =>
            loginResult.setInteger "layer"
              (cUnsigned.cast (packet.integer "tlayer"))
  else
    Except.ok (data.updateCreature (packet.integer "handle") fun creature =>
      let moved := updateOwnPosition m creature
      { moved with
        activeMove := some packet
        enterInfo :=
          moved.enterInfo.setInteger "layer"
            (uint8.cast (packet.integer "tlayer")) })

/-!
## Only the local player
-/

def onWarp : Except Fault GameData :=
  data.updateLoginResult fun loginResult =>
    (((loginResult.setInteger "x" (packet.integer "x")).setInteger
      "y" (packet.integer "y")).setInteger
      "z" (packet.integer "z")).setInteger
      "layer" (cUnsigned.cast (packet.integer "layer"))

/-- The list of conditions is taken to be there. -/
def onChangeTitleCondition : Except Fault GameData :=
  match data.localPlayer.titleConditionList with
  | none => Except.error Fault.absentMember
  | some titleConditionList =>
      Except.ok (data.updateLocalPlayer fun l =>
        { l with
          titleConditionList :=
            some (titleConditionList.setObjectVector "title_condition_infos"
              ((titleConditionList.objectVector
                "title_condition_infos").map fun condition =>
                if condition.integer "type" = packet.integer "condition_id"
                then condition.setInteger "count" (packet.integer "count")
                else condition)) })

/-- The count of an item that is not known is the count of a new item. -/
def onUpdateItemCount : GameData :=
  data.updateLocalPlayer fun l =>
    { l with
      itemsByHandle :=
        if packet.integer "count" ≠ 0 then
          l.itemsByHandle.insert (packet.integer "item_handle")
            (((l.itemsByHandle.lookup (packet.integer "item_handle")).getD
              Record.zero).setInteger "count" (packet.integer "count"))
        else l.itemsByHandle.erase (packet.integer "item_handle") }

def onDestroyItem : GameData :=
  data.updateLocalPlayer fun l =>
    { l with
      itemsByHandle := l.itemsByHandle.erase (packet.integer "item_handle") }

/-!
## Dispatch
-/

variable (playerName : CharString)

/-- The data after a packet; messages that answer it go to the server. -/
def onChat : Except Fault (GameData × List CharString) := do
  let handled <- data.localPlayer.onChat m playerName packet
  pure ({ data with localPlayer := handled.1 }, handled.2)

/-- A packet that is not a chat message. -/
def onSilentPacket : ServerPacket -> Except Fault GameData
  | .TS_SC_ENTER packet => Except.ok (data.onEnter packet)
  | .TS_SC_LEAVE packet => Except.ok (data.onLeave packet)
  | .TS_SC_PROPERTY packet => Except.ok (data.onProperty packet)
  | .TS_SC_SKILL_LIST packet => Except.ok (data.onSkillList packet)
  | .TS_SC_ADDED_SKILL_LIST packet => Except.ok (data.onAddedSkillList packet)
  | .TS_SC_WEAR_INFO packet => Except.ok (data.onWearInfo packet)
  | .TS_SC_ITEM_WEAR_INFO packet => Except.ok (data.onItemWearInfo packet)
  | .TS_SC_EXP_UPDATE packet => Except.ok (data.onExpUpdate packet)
  | .TS_SC_DETECT_RANGE_UPDATE packet =>
      Except.ok (data.onDetectRangeUpdate packet)
  | .TS_SC_SKILLCARD_INFO packet => Except.ok (data.onSkillcardInfo packet)
  | .TS_SC_STATE packet => Except.ok (data.onState packet)
  | .TS_SC_MOVE packet => data.onMove m packet
  | .TS_SC_AURA packet => Except.ok (data.onAura packet)
  | .TS_SC_SET_MAIN_TITLE packet => Except.ok (data.onSetMainTitle packet)
  | .TS_SC_SKILL packet => Except.ok (data.onSkill packet)
  | .TS_SC_STAT_INFO packet => Except.ok (data.onStatInfo packet)
  | .TS_SC_UNSUMMON_NOTICE packet => Except.ok (data.onSummonNotice packet)
  | .TS_SC_LOGIN_RESULT packet => Except.ok (data.onLoginResult packet)
  | .TS_SC_CHAT _ => Except.ok data
  | .TS_SC_ADD_SUMMON_INFO packet => Except.ok (data.onAddSummonInfo packet)
  | .TS_SC_REMOVE_SUMMON_INFO packet =>
      Except.ok (data.onRemoveSummonInfo packet)
  | .TS_SC_ADD_PET_INFO packet => Except.ok (data.onAddPetInfo packet)
  | .TS_SC_REMOVE_PET_INFO packet => Except.ok (data.onRemovePetInfo packet)
  | .TS_SC_INVENTORY packet => Except.ok (data.onInventory packet)
  | .TS_EQUIP_SUMMON packet => Except.ok (data.onEquipSummon packet)
  | .TS_SC_GOLD_UPDATE packet => Except.ok (data.onGoldUpdate packet)
  | .TS_SC_BELT_SLOT_INFO packet => Except.ok (data.onBeltSlotInfo packet)
  | .TS_SC_BATTLE_ARENA_PENALTY_INFO packet =>
      Except.ok (data.onBattleArenaPenaltyInfo packet)
  | .TS_SC_QUEST_LIST packet => Except.ok (data.onQuestList packet)
  | .TS_SC_TITLE_LIST packet => Except.ok (data.onTitleList packet)
  | .TS_SC_TITLE_CONDITION_LIST packet =>
      Except.ok (data.onTitleConditionList packet)
  | .TS_SC_REMAIN_TITLE_TIME packet => Except.ok (data.onRemainTitleTime packet)
  | .TS_SC_SET_SUB_TITLE packet => Except.ok (data.onSetSubTitle packet)
  | .TS_SC_LEVEL_UPDATE packet => Except.ok (data.onLevelUpdate packet)
  | .TS_SC_ENERGY packet => Except.ok (data.onEnergy packet)
  | .TS_SC_HPMP packet => data.onHpMp packet
  | .TS_SC_REGEN_HPMP packet => data.onRegenHpMp packet
  | .TS_SC_CHANGE_NAME packet => data.onChangeName packet
  | .TS_SC_HAIR_INFO packet => data.onHairInfo packet
  | .TS_SC_SKIN_INFO packet => data.onSkinInfo packet
  | .TS_SC_HIDE_EQUIP_INFO packet => Except.ok (data.onHideEquipInfo packet)
  | .TS_SC_STATUS_CHANGE packet => Except.ok (data.onStatusChange packet)
  | .TS_SC_WARP packet => data.onWarp packet
  | .TS_SC_CHANGE_TITLE_CONDITION packet => data.onChangeTitleCondition packet
  | .TS_SC_UPDATE_ITEM_COUNT packet => Except.ok (data.onUpdateItemCount packet)
  | .TS_SC_DESTROY_ITEM packet => Except.ok (data.onDestroyItem packet)
  | .other _ => Except.ok data

def onPacketReceived : ServerPacket -> Except Fault (GameData × List CharString)
  | .TS_SC_CHAT packet => data.onChat m packet playerName
  | packet => do
      let data' <- data.onSilentPacket m packet
      pure (data', [])

/-!
## The clock and the client
-/

/-- What the timer does every five seconds. -/
def updateAllPositions : GameData :=
  match data.localPlayer.loginResult with
  | none => data
  | some loginResult =>
      { localPlayer := updateLocalPosition m loginResult data.localPlayer
        creaturesData :=
          ⟨data.creaturesData.entries.map fun e =>
              ⟨e.1, updateOwnPosition m e.2⟩, by
            rw [List.NodupKeys, List.keys, List.map_map]
            exact data.creaturesData.nodupKeys⟩ }

/-- The client's own properties are kept before they go to the server. -/
def onSetProperty : GameData :=
  data.updateLocalPlayer fun l =>
    { l with
      creatureData :=
        { l.creatureData with
          stringPropertiesByName :=
            l.creatureData.stringPropertiesByName.insert
              (packet.string "name") (packet.string "string_value") } }

end GameData

end Mirror
end Rzu
