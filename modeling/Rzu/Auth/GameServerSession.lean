import Rzu.Auth.GameData

/-!
# Game server sessions

The handlers of the packets that a game server sends to the auth server.
-/

namespace Rzu
namespace Auth

/-- `TS_GA_LOGIN` and the packets derived from it. -/
structure ServerLogin where
  serverIdx : UInt16
  serverName : Vector UInt8 21
  serverScreenshotUrl : Vector UInt8 256
  isAdultServer : Bool
  serverIp : Vector UInt8 16
  serverPort : Int32
deriving DecidableEq

/-- The three packets that log a game server in. -/
inductive LoginKind where
  | login
  | loginWithLogout
  | loginWithLogoutExt (guid : Vector UInt8 16)
deriving DecidableEq

namespace LoginKind

def useAutoReconnectFeature : LoginKind -> Bool
  | login => false
  | loginWithLogout => true
  | loginWithLogoutExt _ => true

def guid : LoginKind -> Option (Vector UInt8 16)
  | loginWithLogoutExt guid => some guid
  | _ => none

end LoginKind

/-- The strings of the packet need not be terminated. -/
def ServerLogin.info (packet : ServerLogin) : ServerInfo where
  serverIdx := packet.serverIdx
  serverName := convertToString packet.serverName.toList 20
  serverIp := convertToString packet.serverIp.toList 15
  serverPort := packet.serverPort
  serverScreenshotUrl := convertToString packet.serverScreenshotUrl.toList 255
  isAdultServer := packet.isAdultServer

/-- `sizeof(TS_GA_ACCOUNT_LIST::AccountInfo)`. -/
def accountInfoSize : Nat := 124

/-- `sizeof(TS_GA_ACCOUNT_LIST)`, without its accounts. -/
def accountListSize : Nat := 9

/-- `TS_GA_ACCOUNT_LIST`: the array may be longer than its count. -/
structure AccountList where
  size : Nat
  finalPacket : Bool
  count : UInt8
  accountInfo : List AccountInfo
  covered : count.toNat ≤ accountInfo.length
deriving DecidableEq

def AccountList.expectedSize (packet : AccountList) : Nat :=
  packet.count.toNat * accountInfoSize + accountListSize

namespace AccountInfo

/-- Terminate the name, whatever the packet holds at its end. -/
def terminated (accountInfo : AccountInfo) : AccountInfo :=
  { accountInfo with account := accountInfo.account.set 60 0 }

def name (accountInfo : AccountInfo) : CharString :=
  convertToString accountInfo.account.toList 60

def data (accountInfo : AccountInfo) : AccountData where
  account := accountInfo.name
  accountId := accountInfo.nAccountID.toUInt32
  age := accountInfo.nAge.toUInt32
  eventCode := accountInfo.nEventCode.toUInt32
  pcBang := accountInfo.nPCBangUser.toInt32.toUInt32
  ip := accountInfo.ip

/-- The login time of the list as a `time_t`. -/
def time (accountInfo : AccountInfo) : Int64 :=
  accountInfo.loginTime.toUInt64.toInt64

end AccountInfo

structure ClientLogin where
  account : Vector UInt8 61
  oneTimeKey : UInt64
deriving DecidableEq

def packetAccount (account : Vector UInt8 61) : CharString :=
  convertToString account.toList 60

/-- What a successful login tells about the client, zeros otherwise. -/
def clientLoginResult (useAutoReconnectFeature : Bool)
    (account : CharString) (result : ResultCode)
    (clientData : Option ClientData) : ClientLoginResult :=
  match result, clientData with
  | ResultCode.success, some clientData =>
      { account := account
        result := result
        nAccountID := clientData.accountId
        nPCBangUser := decide (clientData.pcBang ≠ 0)
        nEventCode := clientData.eventCode
        nAge := clientData.age
        extended :=
          if useAutoReconnectFeature then
            some (some clientData.ip,
              (clientData.loginTime.getD 0).toUInt64.toUInt32)
          else none }
  | _, _ =>
      { account := account
        result := result
        nAccountID := 0
        nPCBangUser := false
        nEventCode := 0
        nAge := 0
        extended :=
          if useAutoReconnectFeature then some (none, 0) else none }

namespace AuthState

def loginNewServer (s : AuthState) (x g : Addr) (kind : LoginKind) :
    Option (AuthState × List Output) := do
  let paired <- s.setGameDataOf x (some g)
  let ready <- paired.setReady g (!kind.useAutoReconnectFeature)
  pure (ready, [Output.loginResult x ResultCode.success])

/-- The same server again: the new session takes it over. -/
def loginOldServer (s : AuthState) (x g : Addr)
    (gameServer : Option Addr) : Option (AuthState × List Output) := do
  let paired <- s.setGameDataOf x (some g)
  let notReady <- paired.setReady g false
  pure (notReady,
    gameServer.toList.map Output.closeSession ++
      [Output.loginResult x ResultCode.success])

/-- What has to agree for a session to take over a server. -/
def sameServer (kind : LoginKind) (packet : ServerLogin)
    (old : GameData) : Bool :=
  kind.useAutoReconnectFeature && decide (old.info = packet.info) &&
    decide (kind.guid = some old.guid)

/-- The part of a login that follows the check of the session. -/
def loginServer (s : AuthState) (x : Addr) (kind : LoginKind)
    (packet : ServerLogin) (newGameData : Addr) :
    Option (AuthState × List Output) := do
  let result <- s.tryAddServer newGameData x packet.info kind.guid
  match result with
  | (added, AddServerResult.added) =>
      added.loginNewServer x newGameData kind
  | (_, AddServerResult.exists oldGameData) => do
      let old <- s.gameDatas oldGameData
      if sameServer kind packet old then
        s.loginOldServer x oldGameData old.gameServerSession
      else
        pure (s, [Output.loginResult x ResultCode.alreadyExist])

def onServerLogin (s : AuthState) (x : Addr) (kind : LoginKind)
    (packet : ServerLogin) (newGameData : Addr) :
    Option (AuthState × List Output) := do
  let session <- s.gameSessions x
  let s' := s.setGameSession x
    { session with useAutoReconnectFeature := kind.useAutoReconnectFeature }
  match session.gameData with
  | some _ =>
      pure (s', [Output.loginResult x ResultCode.invalidArgument])
  | none => s'.loginServer x kind packet newGameData

/-- A client that was added from the list is in game at once. -/
def enterFromList (s : AuthState) (g newClient : Addr)
    (accountInfo : AccountInfo) : Option (AuthState × List Output) := do
  let switched <- s.switchClientToServer newClient g 0
  let inGame <- switched.connectedToGame newClient accountInfo.time
  pure (inGame, [])

def addAccount (s : AuthState) (x g : Addr) (accountInfo : AccountInfo)
    (newClient : Addr) : Option (AuthState × List Output) := do
  let result <- s.tryAddClient newClient none accountInfo.data
  match result with
  | (added, AddResult.added) => added.enterFromList g newClient accountInfo
  | (_, AddResult.conflict _) =>
      pure (s, [Output.kickClient x accountInfo.name])

def addAccounts (s : AuthState) (x g : Addr) :
    List AccountInfo -> List Addr -> Option (AuthState × List Output)
  | [], _ => some (s, [])
  | _ :: _, [] => none
  | accountInfo :: rest, newClient :: newClients => do
      let first <- s.addAccount x g accountInfo newClient
      let later <- addAccounts first.1 x g rest newClients
      pure (later.1, first.2 ++ later.2)

/-- A final list replaces the clients of the server. -/
def synchronize (s : AuthState) (x g : Addr) (accounts : List AccountInfo)
    (newClients : List Addr) : Option (AuthState × List Output) := do
  let cleared <- s.removeServer g
  let added <- cleared.addAccounts x g accounts newClients
  let ready <- added.1.setReady g true
  let session <- ready.gameSessions x
  pure (ready.setGameSession x
    { session with alreadyConnectedAccounts := [] }, added.2)

/-- The accounts of a packet, after those that are waiting. -/
def collectedAccounts (session : GameServerSession) (packet : AccountList) :
    List AccountInfo :=
  session.alreadyConnectedAccounts ++
    (packet.accountInfo.take packet.count.toNat).map AccountInfo.terminated

/-- The objects of a final list are allocated at the given addresses. -/
def onAccountList (s : AuthState) (x : Addr) (packet : AccountList)
    (newClients : List Addr) : Option (AuthState × List Output) := do
  let session <- s.gameSessions x
  match session.gameData with
  | none => pure (s, [])
  | some g =>
      if packet.expectedSize ≠ packet.size then
        pure (s, [])
      else if packet.finalPacket then
        (s.setGameSession x
          { session with
            alreadyConnectedAccounts :=
              collectedAccounts session packet }).synchronize x g
          (collectedAccounts session packet) newClients
      else
        pure (s.setGameSession x
          { session with
            alreadyConnectedAccounts :=
              collectedAccounts session packet }, [])

def onServerLogout (s : AuthState) (x : Addr) :
    Option (AuthState × List Output) := do
  let session <- s.gameSessions x
  match session.gameData with
  | none => pure (s, [])
  | some g => do
      let removed <- s.removeGameData g
      pure (removed.setGameSession x { session with gameData := none }, [])

/-- Whether a client may enter the game server that asks. -/
def clientLoginCheck (s : AuthState) (g p : Addr) (packet : ClientLogin) :
    Option ResultCode := do
  let clientData <- s.clientDatas p
  let gameData <- s.gameDatas g
  if 61 ≤ (packetAccount packet.account).length then
    pure ResultCode.accessDenied
  else if clientData.server = none then
    pure ResultCode.accessDenied
  else if clientData.server ≠ some g then
    pure ResultCode.accessDenied
  else if gameData.isReady = false then
    pure ResultCode.accessDenied
  else if clientData.oneTimePassword ≠ some packet.oneTimeKey then
    pure ResultCode.accessDenied
  else if clientData.inGame = true then
    pure ResultCode.accessDenied
  else
    pure ResultCode.success

/-- The client enters the game if the check says so. -/
def enterIfSuccess (s : AuthState) (p : Addr) (now : Int64) :
    ResultCode -> Option AuthState
  | ResultCode.success => s.connectedToGame p now
  | _ => some s

def loginClient (s : AuthState) (x g p : Addr) (useAutoReconnectFeature : Bool)
    (packet : ClientLogin) (now : Int64) :
    Option (AuthState × List Output) := do
  let result <- s.clientLoginCheck g p packet
  let s' <- s.enterIfSuccess p now result
  let clientData <- s'.clientDatas p
  pure (s', [Output.clientLogin x (clientLoginResult useAutoReconnectFeature
    (packetAccount packet.account) result (some clientData))])

def onClientLogin (s : AuthState) (x : Addr) (packet : ClientLogin)
    (now : Int64) : Option (AuthState × List Output) := do
  let session <- s.gameSessions x
  match session.gameData, s.getClient (packetAccount packet.account) with
  | some g, some p =>
      s.loginClient x g p session.useAutoReconnectFeature packet now
  | _, _ =>
      pure (s, [Output.clientLogin x (clientLoginResult
        session.useAutoReconnectFeature (packetAccount packet.account)
          ResultCode.accessDenied none)])

def removeNamedClient (s : AuthState) (x : Addr)
    (account : Vector UInt8 61) : Option (AuthState × List Output) := do
  let session <- s.gameSessions x
  match session.gameData, s.getClient (packetAccount account) with
  | some _, some p => (s.removeClient p).map fun removed => (removed, [])
  | _, _ => pure (s, [])

/-- A client left the game server, says the game server. -/
def onClientLogout (s : AuthState) (x : Addr) (account : Vector UInt8 61) :
    Option (AuthState × List Output) :=
  s.removeNamedClient x account

/-- A client that was to be kicked is not there. -/
def onClientKickFailed (s : AuthState) (x : Addr)
    (account : Vector UInt8 61) : Option (AuthState × List Output) :=
  s.removeNamedClient x account

def forgetKicked (s : AuthState) (strictKick : Bool) (p : Addr)
    (clientData : ClientData) : Option AuthState :=
  if strictKick then
    some (s.setClientData p { clientData with kickRequested := true })
  else s.removeClient p

/-- `GameServerSession::kickClient`. -/
def kickClient (s : AuthState) (strictKick : Bool) (x p : Addr) :
    Option (AuthState × List Output) := do
  let _ <- s.gameSessions x
  let clientData <- s.clientDatas p
  let s' <- s.forgetKicked strictKick p clientData
  pure (s', [Output.kickClient x clientData.account])

/-- `GameData::kickClient`: a server that is away is not told. -/
def kickClientOf (s : AuthState) (strictKick : Bool) (g p : Addr) :
    Option (AuthState × List Output) := do
  let gameData <- s.gameDatas g
  match gameData.gameServerSession with
  | some x => s.kickClient strictKick x p
  | none => pure (s, [])

def leaveServer (s : AuthState) (x : Addr) (session : GameServerSession) :
    Option AuthState :=
  match session.gameData with
  | none => some s
  | some g => do
      let gameData <- s.gameDatas g
      if gameData.gameServerSession = some x then
        if session.useAutoReconnectFeature then s.setGameDataOf x none
        else s.removeGameData g
      else pure s

/-- The destructor of a session, once its connection is closed. -/
def deleteGameSession (s : AuthState) (x : Addr) : Option AuthState := do
  let session <- s.gameSessions x
  let s' <- s.leaveServer x session
  pure { s' with gameSessions := Function.update s'.gameSessions x none }

end AuthState

end Auth
end Rzu
