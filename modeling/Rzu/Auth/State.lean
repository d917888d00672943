import Mathlib.Algebra.Ring.Int.Defs
import Mathlib.Algebra.Ring.Nat
import Mathlib.Data.List.AList

/-!
# State of the auth server

Live objects are kept by address, one heap for each class, and refer to each
other by address as the raw pointers of the server do.  An address without an
object is free; the allocator may hand it out again.
-/

namespace Rzu
namespace Auth

abbrev Addr := Nat

/-- Characters of a C string, without the terminating zero. -/
abbrev CharString := List UInt8

/-- `Utils::convertToString`: an array up to its first zero. -/
def convertToString (array : List UInt8) (maxSize : Nat) : CharString :=
  (array.take maxSize).takeWhile (· ≠ 0)

structure ClientData where
  account : CharString
  accountId : UInt32
  age : UInt32
  eventCode : UInt32
  /-- Not initialised by the constructor. -/
  oneTimePassword : Option UInt64
  pcBang : UInt32
  ip : Vector UInt8 46
  /-- Not initialised by the constructor. -/
  loginTime : Option Int64
  kickRequested : Bool
  /-- Set while the client is not yet in game. -/
  client : Option Addr
  /-- Set once a game server is selected. -/
  server : Option Addr
  inGame : Bool
deriving DecidableEq

/-- What a game server tells about itself when it logs in. -/
structure ServerInfo where
  serverIdx : UInt16
  serverName : CharString
  serverIp : CharString
  serverPort : Int32
  serverScreenshotUrl : CharString
  isAdultServer : Bool
deriving DecidableEq

structure GameData where
  gameServerSession : Option Addr
  info : ServerInfo
  guid : Vector UInt8 16
  playerCount : UInt32
  ready : Bool
deriving DecidableEq

structure ClientSession where
  lastLoginServerId : UInt16
  serverIdxOffset : UInt32
  clientData : Option Addr
deriving DecidableEq

/-- One account of a `TS_GA_ACCOUNT_LIST` packet. -/
structure AccountInfo where
  account : Vector UInt8 61
  nAccountID : Int32
  nPCBangUser : Int8
  nEventCode : Int32
  nAge : Int32
  ip : Vector UInt8 46
  loginTime : UInt32
deriving DecidableEq

structure GameServerSession where
  gameData : Option Addr
  useAutoReconnectFeature : Bool
  alreadyConnectedAccounts : List AccountInfo
deriving DecidableEq

structure AuthState where
  clientDatas : Addr -> Option ClientData
  gameDatas : Addr -> Option GameData
  clientSessions : Addr -> Option ClientSession
  gameSessions : Addr -> Option GameServerSession
  connectedClients : AList fun _ : UInt32 => Addr
  connectedClientsByName : AList fun _ : CharString => Addr
  servers : AList fun _ : UInt16 => Addr

namespace AuthState

/-- The server before anything connects to it. -/
def initial : AuthState where
  clientDatas _ := none
  gameDatas _ := none
  clientSessions _ := none
  gameSessions _ := none
  connectedClients := ∅
  connectedClientsByName := ∅
  servers := ∅

def setClientData (s : AuthState) (p : Addr) (clientData : ClientData) :
    AuthState :=
  { s with clientDatas := Function.update s.clientDatas p (some clientData) }

def setGameData (s : AuthState) (g : Addr) (gameData : GameData) :
    AuthState :=
  { s with gameDatas := Function.update s.gameDatas g (some gameData) }

def setClientSession (s : AuthState) (c : Addr) (session : ClientSession) :
    AuthState :=
  { s with
    clientSessions := Function.update s.clientSessions c (some session) }

def setGameSession (s : AuthState) (x : Addr)
    (session : GameServerSession) : AuthState :=
  { s with gameSessions := Function.update s.gameSessions x (some session) }

end AuthState

inductive ResultCode where
  | success
  | notExist
  | alreadyExist
  | accessDenied
  | invalidArgument
  | clientSideError
  | unknown
deriving DecidableEq, Repr

/-- `TS_AG_CLIENT_LOGIN`, with the tail of its extended form if it is one. -/
structure ClientLoginResult where
  account : CharString
  result : ResultCode
  nAccountID : UInt32
  nPCBangUser : Bool
  nEventCode : UInt32
  nAge : UInt32
  extended : Option (Option (Vector UInt8 46) × UInt32)
deriving DecidableEq

/-- What the handlers send, and the sessions that they close. -/
inductive Output where
  | result (c : Addr) (result : ResultCode) (loginFlag : UInt32)
  | selectServer (c : Addr) (oneTimeKey : UInt64)
  | abortSession (c : Addr)
  | loginResult (x : Addr) (result : ResultCode)
  | clientLogin (x : Addr) (message : ClientLoginResult)
  | kickClient (x : Addr) (account : CharString)
  | closeSession (x : Addr)
deriving DecidableEq

end Auth
end Rzu
