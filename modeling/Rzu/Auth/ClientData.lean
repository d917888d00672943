import Rzu.Auth.State

/-!
# Client data

The two global maps of connected clients and the objects behind them.  A
result of none stands for a step that does not exist: a pointer was followed to
an address where no object lives, or an object would be allocated over another.
-/

namespace Rzu
namespace Auth

def toLowerChar (c : UInt8) : UInt8 :=
  if 65 ≤ c ∧ c ≤ 90 then c + 32 else c

def toLower (str : CharString) : CharString :=
  str.map toLowerChar

namespace GameData

def incPlayerCount (gameData : GameData) : GameData :=
  { gameData with playerCount := gameData.playerCount + 1 }

def decPlayerCount (gameData : GameData) : GameData :=
  { gameData with playerCount := gameData.playerCount - 1 }

end GameData

namespace ClientData

/-- The constructor. -/
def create (clientInfo : Option Addr) : ClientData where
  account := []
  accountId := 0
  age := 0
  eventCode := 0
  oneTimePassword := none
  pcBang := 0
  ip := Vector.replicate 46 0
  loginTime := none
  kickRequested := false
  client := clientInfo
  server := none
  inGame := false

end ClientData

/-- What the caller of `tryAddClient` tells about the account. -/
structure AccountData where
  account : CharString
  accountId : UInt32
  age : UInt32
  eventCode : UInt32
  pcBang : UInt32
  ip : Vector UInt8 46
deriving DecidableEq

def AccountData.fill (data : AccountData) (clientData : ClientData) :
    ClientData :=
  { clientData with
    account := data.account
    accountId := data.accountId
    age := data.age
    eventCode := data.eventCode
    pcBang := data.pcBang
    ip := data.ip }

/-- The new client, or the client that is in its way. -/
inductive AddResult where
  | added
  | conflict (oldClient : Addr)
deriving DecidableEq

namespace AuthState

/-- The destructor: the game server loses a player. -/
def destroyClientData (s : AuthState) (clientData : ClientData) :
    Option (Addr -> Option GameData) :=
  match clientData.server with
  | some g =>
      if clientData.inGame then
        (s.gameDatas g).map fun gameData =>
          Function.update s.gameDatas g (some gameData.decPlayerCount)
      else some s.gameDatas
  | none => some s.gameDatas

def deleteClientData (s : AuthState) (p : Addr) : Option AuthState := do
  let clientData <- s.clientDatas p
  let gameDatas <- s.destroyClientData clientData
  pure { s with
    gameDatas := gameDatas
    clientDatas := Function.update s.clientDatas p none }

/-- Add a client whose object is allocated at a given free address. -/
def tryAddClient (s : AuthState) (newClient : Addr)
    (clientInfo : Option Addr) (data : AccountData) :
    Option (AuthState × AddResult) :=
  if s.clientDatas newClient = none then
    match s.connectedClients.lookup data.accountId with
    | some oldClient => some (s, AddResult.conflict oldClient)
    | none =>
        match s.connectedClientsByName.lookup (toLower data.account) with
        | some oldClient => some (s, AddResult.conflict oldClient)
        | none =>
            some ({ s with
                clientDatas := Function.update s.clientDatas newClient
                  (some (data.fill (ClientData.create clientInfo)))
                connectedClients :=
                  s.connectedClients.insert data.accountId newClient
                connectedClientsByName :=
                  s.connectedClientsByName.insert (toLower data.account)
                    newClient },
              AddResult.added)
  else none

/-- `removeClient` by name. -/
def removeClientByName (s : AuthState) (account : CharString) :
    Option AuthState :=
  match s.connectedClientsByName.lookup (toLower account) with
  | none => some s
  | some p => do
      let clientData <- s.clientDatas p
      deleteClientData
        { s with
          connectedClientsByName :=
            s.connectedClientsByName.erase (toLower account)
          connectedClients :=
            s.connectedClients.erase clientData.accountId } p

/-- `removeClient` by account id. -/
def removeClientById (s : AuthState) (accountId : UInt32) :
    Option AuthState :=
  match s.connectedClients.lookup accountId with
  | none => some s
  | some p => do
      let clientData <- s.clientDatas p
      deleteClientData
        { s with
          connectedClients := s.connectedClients.erase accountId
          connectedClientsByName :=
            s.connectedClientsByName.erase (toLower clientData.account) } p

/-- `removeClient` by pointer. -/
def removeClient (s : AuthState) (p : Addr) : Option AuthState := do
  let clientData <- s.clientDatas p
  s.removeClientById clientData.accountId

def switchClientToServer (s : AuthState) (p g : Addr)
    (oneTimePassword : UInt64) : Option AuthState := do
  let clientData <- s.clientDatas p
  pure (s.setClientData p
    { clientData with
      oneTimePassword := some oneTimePassword
      client := none
      server := some g })

/-- The game server that a client enters gains a player. -/
def countPlayer (s : AuthState) (server : Option Addr) : Option AuthState :=
  match server with
  | none => some s
  | some g => (s.gameDatas g).map fun gameData =>
      s.setGameData g gameData.incPlayerCount

def connectedToGame (s : AuthState) (p : Addr) (now : Int64) :
    Option AuthState := do
  let clientData <- s.clientDatas p
  let counted <- s.countPlayer clientData.server
  pure (counted.setClientData p
    { clientData with inGame := true, loginTime := some now })

/-- One pass of the loop of `removeServer`, at an entry of the map. -/
def removeBoundClient (g : Addr) (s : AuthState) (accountId : UInt32)
    (p : Addr) : Option AuthState := do
  let clientData <- s.clientDatas p
  if clientData.server = some g then
    deleteClientData
      { s with
        connectedClientsByName :=
          s.connectedClientsByName.erase (toLower clientData.account)
        connectedClients := s.connectedClients.erase accountId } p
  else
    pure s

def removeBoundClients (g : Addr) :
    List (Sigma fun _ : UInt32 => Addr) -> AuthState -> Option AuthState
  | [], s => some s
  | entry :: rest, s => do
      let next <- s.removeBoundClient g entry.1 entry.2
      removeBoundClients g rest next

/-- Remove every client that is bound to a game server. -/
def removeServer (s : AuthState) (g : Addr) : Option AuthState :=
  removeBoundClients g s.connectedClients.entries s

def getClient (s : AuthState) (account : CharString) : Option Addr :=
  s.connectedClientsByName.lookup (toLower account)

end AuthState

end Auth
end Rzu
