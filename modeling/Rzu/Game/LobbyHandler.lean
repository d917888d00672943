import Rzu.Database.DbQueryJobRef
import Rzu.Packet.Declaration

/-!
# The lobby

Between the login and the game, a client lists, creates and deletes the
characters of its account, and enters the game with one of them.  The handler
keeps the list as the database has answered it, in entries that it owns.
-/

namespace Rzu
namespace Game

open Packet Database

/-!
## Rows and packets
-/

structure CharacterLight where
  sid : Int
  name : CharString
  race : Nat
  sex : Nat
  lv : Nat
  jlv : Nat
  hp : Nat
  mp : Nat
  job : Nat
  permission : Nat
  skin_color : Nat
  model : List Nat
  hair_color_index : Nat
  hair_color_rgb : Nat
  hide_equip_flag : Nat
  texture_id : Nat
  create_time : CharString
  login_time : CharString
deriving DecidableEq

structure CharacterWearInfo where
  character_sid : Int
  wear_info : Int
  code : Nat
  enhance : Nat
  level : Nat
  elemental_effect_type : Nat
  appearance_code : Nat
deriving DecidableEq

structure LOBBY_CHARACTER_INFO where
  sex : Nat
  race : Nat
  model_id : List Nat
  hair_color_index : Nat
  hair_color_rgb : Nat
  hide_equip_flag : Nat
  texture_id : Nat
  wear_info : Nat -> Nat
  level : Nat
  job : Nat
  job_level : Nat
  exp_percentage : Nat
  hp : Nat
  mp : Nat
  permission : Nat
  is_banned : Bool
  name : CharString
  skin_color : Nat
  szCreateTime : CharString
  szDeleteTime : CharString
  wear_item_enhance_info : Nat -> Nat
  wear_item_level_info : Nat -> Nat
  wear_item_elemental_type : Nat -> Nat
  wear_appearance_code : Nat -> Nat

structure TS_SC_CHARACTER_LIST where
  current_server_time : Nat
  last_character_idx : Nat
  characters : List LOBBY_CHARACTER_INFO

def TS_CS_CHECK_CHARACTER_NAME.packetID : Nat := 2406
def TS_CS_CREATE_CHARACTER.packetID : Nat := 2402
def TS_CS_DELETE_CHARACTER.packetID : Nat := 2403

inductive TS_ResultCode where
  | success
  | notExist
  | notActable
  | dbError
  | alreadyExist
  | limitMax
  | invalidText
deriving DecidableEq

/-- The packets that the handler knows; one answer repeats the identifier. -/
inductive LobbyPacket where
  | characterList
  | login (name : CharString)
  | checkCharacterName (receivedId : Nat) (name : CharString)
  | createCharacter (character : LOBBY_CHARACTER_INFO)
  | deleteCharacter (name : CharString)

inductive LobbyMessage where
  | result (request : Nat) (result : TS_ResultCode) (value : Int)
  | characterList (list : TS_SC_CHARACTER_LIST)
  | loginResult (result : TS_ResultCode)

/-!
## Queries
-/

structure CreateCharacterInput where
  name : CharString
  account_name : CharString
  account_id : Nat
  slot : Nat
  x : Nat
  y : Nat
  z : Nat
  layer : Nat
  race : Nat
  sex : Nat
  level : Nat
  max_reached_level : Nat
  hp : Nat
  mp : Nat
  jlv : Nat
  jp : Nat
  cha : Nat
  skin_color : Nat
  model : List Nat
  hair_color_index : Nat
  texture_id : Nat
  default_weapon_sid : Int
  default_weapon_code : Nat
  default_armor_sid : Int
  default_armor_code : Nat
  default_bag_sid : Int
  default_bag_code : Nat

inductive LobbyQuery where
  | characterLight (account_id : Nat)
  | characterWearInfo (account_id : Nat)
  | checkCharacterName (character_name : CharString)
  | createCharacter (input : CreateCharacterInput)
  | deleteCharacter (character_name : CharString)

/--
The rows that a job has read, by the binding that has them, and the output
parameter of a creation.
-/
structure Answer where
  characters : List CharacterLight := []
  wearInfo : List CharacterWearInfo := []
  names : Nat := 0
  out_character_sid : Int := 0

structure LobbyJob where
  query : LobbyQuery
  answer : Option Answer

def LobbyJob.results (job : LobbyJob) : Answer := job.answer.getD {}

/-!
## Handler and session
-/

/-- An entry of `characters` is null once the character is moved out of it. -/
structure LobbyHandler where
  lobbyQueries : List LobbyJob
  charactersPopulated : Bool
  characters : List (Option CharacterLight)
  lastValidatedCharacterName : CharString

/--
The session of a client that has logged in.  The handler is gone when the
client has left the lobby; a worker may still be at its canceled queries.  The
next identifier of an item is one of the whole server.
-/
structure LobbySession where
  account : CharString
  accountId : Nat
  connectionHandler : Option LobbyHandler
  canceledQueries : List LobbyJob
  aborted : Bool
  itemSid : Int
  sent : List LobbyMessage

/-- What the handler asks elsewhere while it works on a packet. -/
structure LobbySurroundings where
  checkTextAgainstEncoding : CharString -> Bool
  isWordBanned : CharString -> Bool
  isLoggedIn : Int -> Bool

namespace LobbyHandler

def create : LobbyHandler where
  lobbyQueries := []
  charactersPopulated := false
  characters := []
  lastValidatedCharacterName := []

def inProgress (h : LobbyHandler) : Bool := !h.lobbyQueries.isEmpty

def executeDbQuery (h : LobbyHandler) (query : LobbyQuery) : LobbyHandler :=
  { h with lobbyQueries := h.lobbyQueries ++ [⟨query, none⟩] }

end LobbyHandler

namespace LobbySession

def login (account : CharString) (accountId : Nat) (itemSid : Int) :
    LobbySession where
  account := account
  accountId := accountId
  connectionHandler := some LobbyHandler.create
  canceledQueries := []
  aborted := false
  itemSid := itemSid
  sent := []

def withHandler (s : LobbySession) (h : LobbyHandler) : LobbySession :=
  { s with connectionHandler := some h }

/-- Nothing is sent to a stream that is closing. -/
def sendPacket (s : LobbySession) (message : LobbyMessage) : LobbySession :=
  if s.aborted then s else { s with sent := s.sent ++ [message] }

def sendResult (s : LobbySession) (id : Nat) (result : TS_ResultCode)
    (value : Int) : LobbySession :=
  s.sendPacket (LobbyMessage.result id result value)

/-- The handler goes, and cancels its queries. -/
def leaveLobby (s : LobbySession) : LobbySession :=
  match s.connectionHandler with
  | none => s
  | some h =>
      { s with
        connectionHandler := none
        canceledQueries := s.canceledQueries ++ h.lobbyQueries }

def lobbyExitResult (s : LobbySession) (result : TS_ResultCode)
    (characterData : Option CharacterLight) : LobbySession :=
  if characterData.isNone || result != TS_ResultCode.success then
    { s.sendPacket (LobbyMessage.loginResult result) with aborted := true }
  else s.leaveLobby

end LobbySession

/-!
## Character list
-/

def LOBBY_CHARACTER_INFO.ofCharacter (dbCharacterInfo : CharacterLight) :
    LOBBY_CHARACTER_INFO where
  sex := dbCharacterInfo.sex
  race := dbCharacterInfo.race
  model_id := dbCharacterInfo.model
  hair_color_index := dbCharacterInfo.hair_color_index
  hair_color_rgb := dbCharacterInfo.hair_color_rgb
  hide_equip_flag := dbCharacterInfo.hide_equip_flag
  texture_id := dbCharacterInfo.texture_id
  wear_info _ := 0
  level := dbCharacterInfo.lv
  job := dbCharacterInfo.job
  job_level := dbCharacterInfo.jlv
  exp_percentage := 0
  hp := dbCharacterInfo.hp
  mp := dbCharacterInfo.mp
  permission := dbCharacterInfo.permission
  is_banned := false
  name := dbCharacterInfo.name
  skin_color := dbCharacterInfo.skin_color
  szCreateTime := dbCharacterInfo.create_time
  szDeleteTime := "9999-12-31 00:00:00".toUTF8.data.toList
  wear_item_enhance_info _ := 0
  wear_item_level_info _ := 0
  wear_item_elemental_type _ := 0
  wear_appearance_code _ := 0

/-- The slots of `wear_info`. -/
def LOBBY_CHARACTER_INFO.wearSlots : Int := 32

def LOBBY_CHARACTER_INFO.wear (sid : Int) (info : LOBBY_CHARACTER_INFO)
    (dbWearInfo : CharacterWearInfo) : LOBBY_CHARACTER_INFO :=
  if sid = dbWearInfo.character_sid ∧ 0 ≤ dbWearInfo.wear_info ∧
      dbWearInfo.wear_info < wearSlots then
    let slot := dbWearInfo.wear_info.toNat
    { info with
      wear_info := Function.update info.wear_info slot dbWearInfo.code
      wear_item_level_info :=
        Function.update info.wear_item_level_info slot dbWearInfo.level
      wear_item_enhance_info :=
        Function.update info.wear_item_enhance_info slot dbWearInfo.enhance
      wear_item_elemental_type :=
        Function.update info.wear_item_elemental_type slot
          dbWearInfo.elemental_effect_type
      wear_appearance_code :=
        Function.update info.wear_appearance_code slot
          dbWearInfo.appearance_code }
  else info

/-- The list so far, and `lastCharacterLoginTime`. -/
def addCharacter (wearInfoResults : List CharacterWearInfo)
    (sofar : TS_SC_CHARACTER_LIST × CharString)
    (dbCharacterInfo : CharacterLight) : TS_SC_CHARACTER_LIST × CharString :=
  let characterInfo := wearInfoResults.foldl
    (LOBBY_CHARACTER_INFO.wear dbCharacterInfo.sid)
    (LOBBY_CHARACTER_INFO.ofCharacter dbCharacterInfo)
  let later := decide (sofar.2 < dbCharacterInfo.login_time)
  ({ sofar.1 with
      last_character_idx :=
        if later then sofar.1.characters.length % 65536
        else sofar.1.last_character_idx
      characters := sofar.1.characters ++ [characterInfo] },
    if later then dbCharacterInfo.login_time else sofar.2)

/-- There is no list if an entry is null: its members are read. -/
def addCharacters (wearInfoResults : List CharacterWearInfo) :
    TS_SC_CHARACTER_LIST × CharString -> List (Option CharacterLight) ->
      Option (TS_SC_CHARACTER_LIST × CharString)
  | sofar, [] => some sofar
  | _, none :: _ => none
  | sofar, some dbCharacterInfo :: rest =>
      addCharacters wearInfoResults
        (addCharacter wearInfoResults sofar dbCharacterInfo) rest

def listCharacters (characters : List (Option CharacterLight))
    (wearInfoResults : List CharacterWearInfo) :
    Option TS_SC_CHARACTER_LIST :=
  (addCharacters wearInfoResults (⟨0, 0, []⟩, []) characters).map Prod.fst

/-!
## Searches
-/

/-- Whether a character has the name; nothing if a null entry is read. -/
def hasCharacter (name : CharString) :
    List (Option CharacterLight) -> Option Bool
  | [] => some false
  | none :: _ => none
  | some character :: rest =>
      if name = character.name then some true else hasCharacter name rest

/--
The first character with the name is moved out of its entry; again nothing if
a null entry is read before.
-/
def selectCharacter (name : CharString) :
    List (Option CharacterLight) ->
      Option (Option CharacterLight × List (Option CharacterLight))
  | [] => some (none, [])
  | none :: _ => none
  | some character :: rest =>
      if name = character.name then some (some character, none :: rest)
      else (selectCharacter name rest).map fun found =>
        (found.1, some character :: found.2)

namespace LobbySession

/-!
## Packets
-/

def onCharacterListQuery (s : LobbySession) (h : LobbyHandler) :
    LobbySession :=
  s.withHandler (h.executeDbQuery (LobbyQuery.characterLight s.accountId))

def onCheckCharacterName (s : LobbySession) (around : LobbySurroundings)
    (h : LobbyHandler) (receivedId : Nat) (name : CharString) :
    LobbySession :=
  let h := { h with lastValidatedCharacterName := [] }
  let s := s.withHandler h
  if name.length > 18 || name.length < 4 then
    s.sendResult receivedId TS_ResultCode.invalidText 0
  else if !around.checkTextAgainstEncoding name then
    s.sendResult receivedId TS_ResultCode.invalidText 0
  else if around.isWordBanned name then
    s.sendResult receivedId TS_ResultCode.invalidText 0
  else s.withHandler (h.executeDbQuery (LobbyQuery.checkCharacterName name))

/-- The codes of the armor and of the weapon of a new character. -/
def defaultCodes (character : LOBBY_CHARACTER_INFO) : Nat × Nat :=
  let useSecondaryStuff := decide (character.wear_info 2 = 602)
  if character.race = 3 then
    (if useSecondaryStuff then 240109 else 240100, 112100)
  else if character.race = 5 then
    (if useSecondaryStuff then 230109 else 230100, 103100)
  else (if useSecondaryStuff then 220109 else 220100, 106100)

def createCharacterInput (s : LobbySession) (slot : Nat)
    (character : LOBBY_CHARACTER_INFO) : CreateCharacterInput where
  name := character.name
  account_name := (s.account.takeWhile (· ≠ 0)).take 60
  account_id := s.accountId
  slot := slot
  x := 19500
  y := 51000
  z := 0
  layer := 0
  race := character.race
  sex := character.sex
  level := 0
  max_reached_level := 0
  hp := 0
  mp := 0
  jlv := 0
  jp := 0
  cha := 0
  skin_color := character.skin_color
  model := character.model_id
  hair_color_index := character.hair_color_index
  texture_id := character.texture_id
  default_weapon_sid := s.itemSid
  default_weapon_code := (defaultCodes character).2
  default_armor_sid := s.itemSid + 1
  default_armor_code := (defaultCodes character).1
  default_bag_sid := s.itemSid + 2
  default_bag_code := 490001

def onCreateCharacter (s : LobbySession) (h : LobbyHandler)
    (character : LOBBY_CHARACTER_INFO) : LobbySession :=
  let reply := s.sendResult TS_CS_CREATE_CHARACTER.packetID
  if character.name ≠ h.lastValidatedCharacterName then
    reply TS_ResultCode.invalidText 0
  else if h.inProgress then reply TS_ResultCode.notActable 0
  else if !h.charactersPopulated then reply TS_ResultCode.notActable 0
  else if h.characters.length ≥ 6 then reply TS_ResultCode.limitMax 0
  else
    let input := s.createCharacterInput h.characters.length character
    let h := { h with lastValidatedCharacterName := [] }
    { s with itemSid := s.itemSid + 3 }.withHandler
      (h.executeDbQuery (LobbyQuery.createCharacter input))

def onDeleteCharacter (s : LobbySession) (h : LobbyHandler)
    (name : CharString) : Option LobbySession :=
  (hasCharacter name h.characters).map fun found =>
    if found then
      s.withHandler (h.executeDbQuery (LobbyQuery.deleteCharacter name))
    else
      s.sendResult TS_CS_DELETE_CHARACTER.packetID TS_ResultCode.notExist 0

/-- The identifier of the selected character is read, if there is one or not. -/
def onCharacterLogin (s : LobbySession) (around : LobbySurroundings)
    (h : LobbyHandler) (name : CharString) : Option LobbySession := do
  let selected <- selectCharacter name h.characters
  let s := s.withHandler { h with characters := selected.2 }
  let character <- selected.1
  if around.isLoggedIn character.sid then
    pure (s.lobbyExitResult TS_ResultCode.alreadyExist none)
  else pure (s.lobbyExitResult TS_ResultCode.success (some character))

def onPacketReceived (s : LobbySession) (around : LobbySurroundings)
    (h : LobbyHandler) : LobbyPacket -> Option LobbySession
  | .characterList => some (s.onCharacterListQuery h)
  | .login name => s.onCharacterLogin around h name
  | .checkCharacterName receivedId name =>
      some (s.onCheckCharacterName around h receivedId name)
  | .createCharacter character => some (s.onCreateCharacter h character)
  | .deleteCharacter name => s.onDeleteCharacter h name

/-!
## Results
-/

def onCharacterListResult (s : LobbySession) (h : LobbyHandler)
    (results : List CharacterLight) : LobbySession :=
  let h := { h with
    characters := results.map some
    charactersPopulated := true }
  s.withHandler (h.executeDbQuery (LobbyQuery.characterWearInfo s.accountId))

def onCharacterWearInfoResult (s : LobbySession) (h : LobbyHandler)
    (results : List CharacterWearInfo) : Option LobbySession :=
  (listCharacters h.characters results).map fun characterList =>
    s.sendPacket (LobbyMessage.characterList characterList)

def onCheckCharacterNameExistsResult (s : LobbySession) (h : LobbyHandler)
    (name : CharString) (names : Nat) : LobbySession :=
  let reply := s.sendResult TS_CS_CHECK_CHARACTER_NAME.packetID
  if names = 0 then
    (reply TS_ResultCode.success 0).withHandler
      { h with lastValidatedCharacterName := name }
  else reply TS_ResultCode.alreadyExist 0

/-- The list of characters stays as it is. -/
def onCreateCharacterResult (s : LobbySession) (out_character_sid : Int) :
    LobbySession :=
  if out_character_sid = 0 then
    s.sendResult TS_CS_CREATE_CHARACTER.packetID TS_ResultCode.dbError 0
  else s.sendResult TS_CS_CREATE_CHARACTER.packetID TS_ResultCode.success 0

def onDeleteCharacterResult (s : LobbySession) : LobbySession :=
  s.sendResult TS_CS_DELETE_CHARACTER.packetID TS_ResultCode.success 0

def onQueryDone (s : LobbySession) (h : LobbyHandler) (job : LobbyJob) :
    Option LobbySession :=
  match job.query with
  | .characterLight _ =>
      some (s.onCharacterListResult h job.results.characters)
  | .characterWearInfo _ =>
      s.onCharacterWearInfoResult h job.results.wearInfo
  | .checkCharacterName name =>
      some (s.onCheckCharacterNameExistsResult h name job.results.names)
  | .createCharacter _ =>
      some (s.onCreateCharacterResult job.results.out_character_sid)
  | .deleteCharacter _ => some s.onDeleteCharacterResult

end LobbySession

/-!
## Events
-/

/--
A packet arrives, a worker has read the answer of a query, the main loop hears
that a query is done, or the connection is closed.
-/
inductive LobbyEvent where
  | packet (around : LobbySurroundings) (packet : LobbyPacket)
  | processed (j : Nat) (answer : Answer)
  | done (j : Nat) (status : JobStatus)
  | closed

namespace LobbySession

/-- A worker is at the query with this place in the list. -/
def onProcess (s : LobbySession) (j : Nat) (answer : Answer) : LobbySession :=
  match s.connectionHandler with
  | none => s
  | some h =>
      s.withHandler { h with
        lobbyQueries := h.lobbyQueries.modify j fun job =>
          { job with answer := some answer } }

def onDone (s : LobbySession) (j : Nat) (status : JobStatus) :
    Option LobbySession :=
  match s.connectionHandler with
  | none => some s
  | some h =>
      match h.lobbyQueries[j]? with
      | none => some s
      | some job =>
          let h := { h with lobbyQueries := h.lobbyQueries.eraseIdx j }
          let s := s.withHandler h
          if status = JobStatus.canceled then some s
          else s.onQueryDone h job

/--
The session after an event; nothing if a null character is dereferenced.
Packets are read, and queries are done, until an aborted connection is closed.
-/
def handle (s : LobbySession) : LobbyEvent -> Option LobbySession
  | .packet around packet =>
      match s.connectionHandler with
      | none => some s
      | some h => s.onPacketReceived around h packet
  | .processed j answer => some (s.onProcess j answer)
  | .done j status => s.onDone j status
  | .closed => some s.leaveLobby

end LobbySession

end Game
end Rzu
