import Mathlib.Data.List.Nodup
import Rzu.Converter.SpecificPacketConverter

/-!
# Packet identifiers

The identifiers of the packets that clients send, by version.  An identifier
that a packet has at one version is translated to the one that it has at
another.
-/

namespace Rzu
namespace Converter

open Packet

def EPIC_9_4_AR : Version := 0x090401
def EPIC_9_4_2 : Version := 0x090402

/-- `version == epic`, which does not look at the flags. -/
def isEpic (epic version : Version) : Bool :=
  version &&& 0x00FFFFFF = epic

/-- The identifiers of a packet with the versions that have them. -/
structure PacketIds where
  name : String
  ids : List (Int × (Version -> Bool))

namespace PacketIds

/-- `getId`: the last identifier whose condition holds. -/
def getId (packet : PacketIds) (version : Version) : Int :=
  packet.ids.foldl (fun id entry => if entry.2 version then entry.1 else id) 0

def values (packet : PacketIds) : List Int := packet.ids.map Prod.fst

/-- `PACKET_IDS::getLatest()`, the last identifier that is listed. -/
def packetID (packet : PacketIds) : Int := packet.values.getLastD 0

end PacketIds

/-- A packet of `CREATE_PACKET`. -/
def fixed (name : String) (id : Int) : PacketIds :=
  ⟨name, [(id, fun _ => true)]⟩

/-- A packet that got a new identifier with epic 9.6.3. -/
def renumbered (name : String) (old new : Int) : PacketIds :=
  ⟨name, [(old, fun v => !atLeast EPIC_9_6_3 v),
    (new, fun v => atLeast EPIC_9_6_3 v)]⟩

def authClientPackets : List PacketIds :=
  [ fixed "TS_CA_ACCOUNT" 10010,
    fixed "TS_CA_DISTRIBUTION_INFO" 10026,
    fixed "TS_CA_IMBC_ACCOUNT" 10012,
    fixed "TS_CA_OTP_ACCOUNT" 10011,
    renumbered "TS_CA_RSA_PUBLIC_KEY" 71 1071,
    fixed "TS_CA_SELECT_SERVER" 10023,
    fixed "TS_CA_SERVER_LIST" 10021,
    fixed "TS_CA_VERSION" 10001 ]

/-- With the packets that both sides send. -/
def gameClientPackets : List PacketIds :=
  [ renumbered "TS_CS_ACCOUNT" 2000 2400,
    renumbered "TS_CS_ACCOUNT_WITH_AUTH" 2005 2405,
    renumbered "TS_CS_ANTI_HACK" 54 1054,
    renumbered "TS_CS_ARRANGE_ITEM" 219 1219,
    renumbered "TS_CS_ATTACK_REQUEST" 100 1100,
    renumbered "TS_CS_AUCTION_BID" 1306 2306,
    renumbered "TS_CS_AUCTION_BIDDED_LIST" 1304 2304,
    renumbered "TS_CS_AUCTION_CANCEL" 1310 2310,
    renumbered "TS_CS_AUCTION_INSTANT_PURCHASE" 1308 2308,
    renumbered "TS_CS_AUCTION_REGISTER" 1309 2309,
    renumbered "TS_CS_AUCTION_SEARCH" 1300 2300,
    renumbered "TS_CS_AUCTION_SELLING_LIST" 1302 2302,
    fixed "TS_CS_BATTLE_ARENA_ABSENCE_CHECK_ANSWER" 4719,
    fixed "TS_CS_BATTLE_ARENA_ABSENCE_CHECK_REQUEST" 4717,
    fixed "TS_CS_BATTLE_ARENA_ENTER_WHILE_COUNTDOWN" 4707,
    fixed "TS_CS_BATTLE_ARENA_EXERCISE_READY" 4708,
    fixed "TS_CS_BATTLE_ARENA_EXERCISE_START" 4710,
    fixed "TS_CS_BATTLE_ARENA_JOIN_QUEUE" 4701,
    fixed "TS_CS_BATTLE_ARENA_LEAVE" 4704,
    renumbered "TS_CS_BIND_SKILLCARD" 284 1284,
    renumbered "TS_CS_BOOKMARK_TITLE" 632 1632,
    renumbered "TS_CS_BUY_FROM_BOOTH" 705 1705,
    renumbered "TS_CS_BUY_ITEM" 251 1251,
    renumbered "TS_CS_CANCEL_ACTION" 150 1150,
    renumbered "TS_CS_CHANGE_ALIAS" 31 1031,
    renumbered "TS_CS_CHANGE_ITEM_POSITION" 218 1218,
    renumbered "TS_CS_CHANGE_LOCATION" 900 1900,
    renumbered "TS_CS_CHANGE_SECURITY_NO" 9007 8107,
    renumbered "TS_CS_CHANGE_SUMMON_NAME" 323 1323,
    ⟨"TS_CS_CHARACTER_LIST",
      [ (2407, fun v => atLeast EPIC_9_6_3 v),
        (2007, fun v => atLeast EPIC_9_4 v && !isEpic EPIC_9_4_AR v &&
          !atLeast EPIC_9_6_3 v),
        (2179, fun v => isEpic EPIC_9_4_AR v),
        (2001, fun v => !atLeast EPIC_9_4 v) ]⟩,
    renumbered "TS_CS_CHAT_REQUEST" 20 1020,
    renumbered "TS_CS_CHECK_BOOTH_STARTABLE" 711 1711,
    renumbered "TS_CS_CHECK_CHARACTER_NAME" 2006 2406,
    renumbered "TS_CS_CHECK_ILLEGAL_USER" 57 1057,
    renumbered "TS_CS_CLEAR_SECURITY_NO" 9012 8112,
    fixed "TS_CS_COMPETE_ANSWER" 4502,
    fixed "TS_CS_COMPETE_REQUEST" 4500,
    fixed "TS_CS_CONTACT" 3002,
    renumbered "TS_CS_CREATE_CHARACTER" 2002 2402,
    renumbered "TS_CS_CREATE_SECURITY_NO" 9006 8106,
    renumbered "TS_CS_DECOMPOSE" 265 1265,
    renumbered "TS_CS_DELETE_CHARACTER" 2003 2403,
    fixed "TS_CS_DIALOG" 3001,
    renumbered "TS_CS_DONATE_ITEM" 258 1258,
    renumbered "TS_CS_DONATE_REWARD" 259 1259,
    renumbered "TS_CS_DROP_ITEM" 203 1203,
    renumbered "TS_CS_DROP_QUEST" 603 1603,
    renumbered "TS_CS_EMOTION" 1202 2202,
    renumbered "TS_CS_END_QUEST" 605 1605,
    renumbered "TS_CS_ENTER_EVENT_AREA" 15 1015,
    renumbered "TS_CS_ERASE_ITEM" 208 1208,
    fixed "TS_CS_FOSTER_CREATURE" 6002,
    renumbered "TS_CS_GAME_GUARD_AUTH_ANSWER" 56 1056,
    renumbered "TS_CS_GAME_TIME" 1100 2100,
    renumbered "TS_CS_GET_BOOTHS_NAME" 707 1707,
    renumbered "TS_CS_GET_REGION_INFO" 550 1550,
    renumbered "TS_CS_GET_SUMMON_SETUP_INFO" 324 1324,
    renumbered "TS_CS_GET_WEATHER_INFO" 903 1903,
    renumbered "TS_CS_HIDE_EQUIP_INFO" 221 1221,
    fixed "TS_CS_HUNTAHOLIC_BEGIN_HUNTING" 4011,
    fixed "TS_CS_HUNTAHOLIC_CREATE_INSTANCE" 4003,
    fixed "TS_CS_HUNTAHOLIC_INSTANCE_LIST" 4000,
    fixed "TS_CS_HUNTAHOLIC_JOIN_INSTANCE" 4004,
    fixed "TS_CS_HUNTAHOLIC_LEAVE_INSTANCE" 4005,
    fixed "TS_CS_HUNTAHOLIC_LEAVE_LOBBY" 4008,
    fixed "TS_CS_INSTANCE_GAME_ENTER" 4250,
    fixed "TS_CS_INSTANCE_GAME_EXIT" 4251,
    fixed "TS_CS_INSTANCE_GAME_SCORE_REQUEST" 4252,
    renumbered "TS_CS_ITEM_KEEPING_LIST" 1350 2350,
    renumbered "TS_CS_ITEM_KEEPING_TAKE" 1352 2352,
    renumbered "TS_CS_JOB_LEVEL_UP" 410 1410,
    renumbered "TS_CS_LEARN_SKILL" 402 1402,
    renumbered "TS_CS_LEAVE_EVENT_AREA" 16 1016,
    ⟨"TS_CS_LOGIN",
      [ (1, fun v => !atLeast EPIC_9_2 v),
        (61, fun v => atLeast EPIC_9_2 v && !atLeast EPIC_9_4_2 v),
        (62, fun v => atLeast EPIC_9_4_2 v && !atLeast EPIC_9_6_3 v),
        (1062, fun v => atLeast EPIC_9_6_3 v) ]⟩,
    renumbered "TS_CS_LOGOUT" 27 1027,
    renumbered "TS_CS_MIX" 256 1256,
    renumbered "TS_CS_MONSTER_RECOGNIZE" 517 1517,
    ⟨"TS_CS_MOVE_REQUEST",
      [ (5, fun v => !atLeast EPIC_9_2 v),
        (65, fun v => atLeast EPIC_9_2 v && !atLeast EPIC_9_4_2 v),
        (63, fun v => atLeast EPIC_9_4_2 v && !atLeast EPIC_9_6_3 v),
        (1063, fun v => atLeast EPIC_9_6_3 v) ]⟩,
    fixed "TS_CS_NURSE_CREATURE" 6006,
    renumbered "TS_CS_OPEN_ITEM_SHOP" 10000 9000,
    fixed "TS_CS_PARTYMATCH_ACTION" 7000,
    renumbered "TS_CS_PUTOFF_CARD" 215 1215,
    renumbered "TS_CS_PUTOFF_ITEM" 201 1201,
    renumbered "TS_CS_PUTON_CARD" 214 1214,
    renumbered "TS_CS_PUTON_ITEM" 200 1200,
    renumbered "TS_CS_PUTON_ITEM_SET" 281 1281,
    renumbered "TS_CS_QUERY" 13 1013,
    renumbered "TS_CS_QUEST_INFO" 604 1604,
    fixed "TS_CS_RANKING_TOP_RECORD" 5000,
    ⟨"TS_CS_REGION_UPDATE",
      [ (7, fun v => !atLeast EPIC_9_2 v),
        (67, fun v => atLeast EPIC_9_2 v && !atLeast EPIC_9_6_3 v),
        (1067, fun v => atLeast EPIC_9_6_3 v) ]⟩,
    renumbered "TS_CS_REPAIR_SOULSTONE" 262 1262,
    fixed "TS_CS_REPORT" 8000,
    renumbered "TS_CS_REQUEST" 60 1060,
    renumbered "TS_CS_REQUEST_CLEAR_SECURITY_NO" 9010 8110,
    fixed "TS_CS_REQUEST_FARM_INFO" 6000,
    fixed "TS_CS_REQUEST_FARM_MARKET" 6008,
    renumbered "TS_CS_REQUEST_LOGOUT" 26 1026,
    renumbered "TS_CS_REQUEST_REMOVE_STATE" 408 1408,
    renumbered "TS_CS_REQUEST_RETURN_LOBBY" 25 1025,
    renumbered "TS_CS_REQUEST_SECURITY_NO_CHANGE" 9008 8108,
    renumbered "TS_CS_RESURRECTION" 513 1513,
    fixed "TS_CS_RETRIEVE_CREATURE" 6004,
    renumbered "TS_CS_RETURN_LOBBY" 23 1023,
    renumbered "TS_CS_SELL_ITEM" 252 1252,
    renumbered "TS_CS_SELL_TO_BOOTH" 706 1706,
    renumbered "TS_CS_SET_MAIN_TITLE" 628 1628,
    renumbered "TS_CS_SET_PET_NAME" 354 1354,
    renumbered "TS_CS_SET_PROPERTY" 508 1508,
    renumbered "TS_CS_SET_SUB_TITLE" 630 1630,
    renumbered "TS_CS_SKILL" 400 1400,
    renumbered "TS_CS_SOULSTONE_CRAFT" 260 1260,
    renumbered "TS_CS_START_BOOTH" 700 1700,
    renumbered "TS_CS_STOP_BOOTH" 701 1701,
    renumbered "TS_CS_STOP_WATCH_BOOTH" 704 1704,
    renumbered "TS_CS_STORAGE" 212 1212,
    renumbered "TS_CS_SUMMON" 304 1304,
    renumbered "TS_CS_SUMMON_CARD_SKILL_LIST" 452 1452,
    renumbered "TS_CS_SWAP_EQUIP" 223 1223,
    renumbered "TS_CS_TAKEOUT_COMMERCIAL_ITEM" 10005 9005,
    renumbered "TS_CS_TAKE_ITEM" 204 1204,
    renumbered "TS_CS_TARGETING" 511 1511,
    renumbered "TS_CS_TRANSMIT_ETHEREAL_DURABILITY" 263 1263,
    renumbered "TS_CS_TRANSMIT_ETHEREAL_DURABILITY_TO_EQUIPMENT" 264 1264,
    renumbered "TS_CS_TURN_OFF_PK_MODE" 801 1801,
    renumbered "TS_CS_TURN_ON_PK_MODE" 800 1800,
    renumbered "TS_CS_UNBIND_SKILLCARD" 285 1285,
    renumbered "TS_CS_UPDATE" 503 1503,
    renumbered "TS_CS_USE_ITEM" 253 1253,
    ⟨"TS_CS_VERSION",
      [ (50, fun v => !atLeast EPIC_7_4 v),
        (51, fun v => atLeast EPIC_7_4 v && !atLeast EPIC_9_6_3 v),
        (1051, fun v => atLeast EPIC_9_6_3 v) ]⟩,
    renumbered "TS_CS_WATCH_BOOTH" 702 1702,
    renumbered "TS_CS_XTRAP_CHECK" 59 1059,
    renumbered "TS_EQUIP_SUMMON" 303 1303,
    renumbered "TS_SECURITY_NO" 9005 8105,
    renumbered "TS_TIMESYNC" 2 1002,
    renumbered "TS_TRADE" 280 1280 ]

def clientPackets : SessionType -> List PacketIds
  | .authClient => authClientPackets
  | .gameClient => gameClientPackets

/-- What does not stand for a packet is taken for a type itself. -/
def convertPacketIdToTypeId (packets : List PacketIds) (id : Int)
    (version : Version) : Int :=
  match packets.find? fun packet =>
      packet.values.contains id && packet.getId version = id with
  | some packet => packet.packetID
  | none => id

/-- The packet of the case that is taken, if there is one. -/
def dispatch (packets : List PacketIds) (version : Version) (id : Int) :
    Option PacketIds :=
  if id = 9999 then none
  else packets.find? fun packet =>
    packet.packetID = convertPacketIdToTypeId packets id version

/-- `processPacket<ConvertPacketId>`, which leaves other identifiers alone. -/
def convertPacketId (sessionType : SessionType) (version : Version) (id : Int)
    (targetVersion : Version) : Int :=
  match dispatch (clientPackets sessionType) version id with
  | some packet => packet.getId targetVersion
  | none => id

end Converter
end Rzu
