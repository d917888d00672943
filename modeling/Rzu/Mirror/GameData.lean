import Rzu.Library.UnorderedMap
import Rzu.Packet.Declaration

/-!
# What the game server has told

The client that reconnects keeps what a game server has told about the player
and the creatures around, so that it can tell it again.
-/

namespace Rzu
namespace Mirror

open Library
open Packet

abbrev Handle := Int

/-- A creature, an item or another thing with a handle. -/
structure CreatureData where
  enterInfo : Record
  stringPropertiesByName : UnorderedMap CharString CharString
  intPropertiesByName : UnorderedMap CharString Int
  skillsById : UnorderedMap Int Record
  addedSkillsById : UnorderedMap Int Record
  wearInfo : Option Record
  itemWearByPosition : UnorderedMap Handle Record
  level : Option Record
  exp : Option Record
  detectRange : Option Record
  statesByHandle : UnorderedMap Int Record
  aurasBySkillId : UnorderedMap Int Record
  mainTitle : Option Record
  activeSkillsBySkillId : UnorderedMap Int Record
  statInfoTotal : Option Record
  statInfoByItems : Option Record
  unsummonNotice : Option Record
  skinInfo : Option Record
  activeMove : Option Record

namespace CreatureData

def create : CreatureData where
  enterInfo := Record.zero
  stringPropertiesByName := ∅
  intPropertiesByName := ∅
  skillsById := ∅
  addedSkillsById := ∅
  wearInfo := none
  itemWearByPosition := ∅
  level := none
  exp := none
  detectRange := none
  statesByHandle := ∅
  aurasBySkillId := ∅
  mainTitle := none
  activeSkillsBySkillId := ∅
  statInfoTotal := none
  statInfoByItems := none
  unsummonNotice := none
  skinInfo := none
  activeMove := none

def handle (creature : CreatureData) : Handle :=
  creature.enterInfo.integer "handle"

end CreatureData

structure MemberInfo where
  handle : Int
  name : CharString
  level : Int
  jobId : Int
  hpPercentage : Int
  mpPercentage : Int
  x : Int
  y : Int
  creature : Int
deriving DecidableEq

structure SummonInfo where
  playerHandle : Int
  mainSummonHandle : Int
  subSummonHandle : Int
deriving DecidableEq

def SummonInfo.create : SummonInfo where
  playerHandle := 0
  mainSummonHandle := 0
  subSummonHandle := 0

structure PartyInfo where
  partyId : Int
  partyName : CharString
  leaderDisplayName : CharString
  shareMode : Int
  maxLevel : Int
  minLevel : Int
  partyType : Int
  membersByName : UnorderedMap CharString MemberInfo
  summonByPlayerHandle : UnorderedMap Int SummonInfo

namespace PartyInfo

def create : PartyInfo where
  partyId := 0
  partyName := []
  leaderDisplayName := []
  shareMode := 0
  maxLevel := 0
  minLevel := 0
  partyType := 0
  membersByName := ∅
  summonByPlayerHandle := ∅

def hasMember (party : PartyInfo) (name : CharString) : Bool :=
  (party.membersByName.lookup name).isSome

end PartyInfo

/-- What belongs to the player without a handle in the messages. -/
structure LocalPlayerData where
  creatureData : CreatureData
  loginResult : Option Record
  chatPropertiesBySender : UnorderedMap CharString Record
  partyInfoByName : UnorderedMap CharString PartyInfo
  summonInfosByCardHandle : UnorderedMap Handle Record
  petInfosByCardHandle : UnorderedMap Handle Record
  itemsByHandle : UnorderedMap Handle Record
  skillCardInfoByItemHandle : UnorderedMap Handle Record
  equipSummon : Option Record
  gold : Option Record
  beltSlotInfo : Option Record
  battleArenaPenaltyInfo : Option Record
  questList : Option Record
  titleList : Option Record
  titleConditionList : Option Record
  titleRemainTime : Option Record
  subTitle : Option Record
  energy : Option Record
  hideEquipInfo : Option Record
  status : Option Record

def LocalPlayerData.create : LocalPlayerData where
  creatureData := CreatureData.create
  loginResult := none
  chatPropertiesBySender := ∅
  partyInfoByName := ∅
  summonInfosByCardHandle := ∅
  petInfosByCardHandle := ∅
  itemsByHandle := ∅
  skillCardInfoByItemHandle := ∅
  equipSummon := none
  gold := none
  beltSlotInfo := none
  battleArenaPenaltyInfo := none
  questList := none
  titleList := none
  titleConditionList := none
  titleRemainTime := none
  subTitle := none
  energy := none
  hideEquipInfo := none
  status := none

structure GameData where
  localPlayer : LocalPlayerData
  creaturesData : UnorderedMap Handle CreatureData

/-- What `clear` leaves. -/
def GameData.create : GameData where
  localPlayer := LocalPlayerData.create
  creaturesData := ∅

/-- How a handler goes wrong. -/
inductive Fault where
  /-- A member that has no value is dereferenced. -/
  | absentMember
  /-- A vector is indexed behind its end. -/
  | outOfRange
deriving DecidableEq, Repr

/--
What handling a message takes from outside the game data: the order in which
unordered maps are visited, the players of the other connections, and where a
creature is by now, with what is left of its move.
-/
structure Moment where
  parties : UnorderedMap.Visit CharString PartyInfo
  members : UnorderedMap.Visit CharString MemberInfo
  isKnownLocalPlayer : CharString -> Bool
  follow : Record -> Int -> Int -> Option Record × Int × Int

/-- A moment at which nobody else is connected and nothing has moved. -/
def Moment.still : Moment where
  parties := UnorderedMap.Visit.kept
  members := UnorderedMap.Visit.kept
  isKnownLocalPlayer _ := false
  follow move x y := (some move, x, y)

namespace GameData

def getLocalPlayerServerHandle (data : GameData) : Handle :=
  match data.localPlayer.loginResult with
  | some loginResult => loginResult.integer "handle"
  | none => 0

/--
Change what `getCreatureData` gives: the local player, a creature that is
known, or one that is created.
-/
def updateCreature (data : GameData) (creatureHandle : Handle)
    (change : CreatureData -> CreatureData) : GameData :=
  if creatureHandle = data.getLocalPlayerServerHandle then
    { data with
      localPlayer :=
        { data.localPlayer with
          creatureData := change data.localPlayer.creatureData } }
  else
    { data with
      creaturesData :=
        data.creaturesData.insert creatureHandle
          (change ((data.creaturesData.lookup creatureHandle).getD
            CreatureData.create)) }

def updateLoginResult (data : GameData) (change : Record -> Record) :
    Except Fault GameData :=
  match data.localPlayer.loginResult with
  | none => Except.error Fault.absentMember
  | some loginResult =>
      Except.ok
        { data with
          localPlayer :=
            { data.localPlayer with
              loginResult := some (change loginResult) } }

end GameData

end Mirror
end Rzu
