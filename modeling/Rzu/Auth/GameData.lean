import Rzu.Auth.ClientData

/-!
# Game data

The registered game servers, their sessions, and the mutual pointers between a
server and its session.
-/

namespace Rzu
namespace Auth

inductive AddServerResult where
  | added
  | exists (oldGameData : Addr)
deriving DecidableEq

namespace GameData

def isReady (gameData : GameData) : Bool :=
  gameData.gameServerSession.isSome && gameData.ready

/-- The constructor; a missing guid is all zeros. -/
def create (gameServerSession : Addr) (info : ServerInfo)
    (guid : Option (Vector UInt8 16)) : GameData where
  gameServerSession := some gameServerSession
  info := info
  guid := guid.getD (Vector.replicate 16 0)
  playerCount := 0
  ready := false

end GameData

namespace AuthState

/-- Add a server whose object is allocated at a given free address. -/
def tryAddServer (s : AuthState) (newGameData gameServerSession : Addr)
    (info : ServerInfo) (guid : Option (Vector UInt8 16)) :
    Option (AuthState × AddServerResult) :=
  match s.servers.lookup info.serverIdx with
  | some oldGameData => some (s, AddServerResult.exists oldGameData)
  | none =>
      if s.gameDatas newGameData = none then
        some ({ s with
            gameDatas := Function.update s.gameDatas newGameData
              (some (GameData.create gameServerSession info guid))
            servers := s.servers.insert info.serverIdx newGameData },
          AddServerResult.added)
      else none

/-- `GameData::remove`: the destructor takes the clients along. -/
def removeGameData (s : AuthState) (g : Addr) : Option AuthState := do
  let gameData <- s.gameDatas g
  let cleared <- removeServer
    { s with servers := s.servers.erase gameData.info.serverIdx } g
  pure { cleared with
    gameDatas := Function.update cleared.gameDatas g none }

def setReady (s : AuthState) (g : Addr) (ready : Bool) : Option AuthState := do
  let gameData <- s.gameDatas g
  pure (s.setGameData g { gameData with ready := ready })

/-- The two objects that `setGameData` and `setGameServer` are called on. -/
inductive PairingCall where
  | setGameData (gameServerSession : Addr) (gameData : Option Addr)
  | setGameServer (gameData : Addr) (gameServerSession : Option Addr)

/-- Call a setter on the object that a pointer names, if it names one. -/
def callOn (call : Addr -> AuthState -> Option AuthState)
    (target : Option Addr) (s : AuthState) : Option AuthState :=
  match target with
  | none => some s
  | some a => call a s

/--
`GameServerSession::setGameData` and `GameData::setGameServer`, which call each
other.  The fuel bounds the depth of the calls; running out of it is no step.
-/
def pair : Nat -> PairingCall -> AuthState -> Option AuthState
  | 0, _, _ => none
  | depth + 1, PairingCall.setGameData x gameData, s => do
      let session <- s.gameSessions x
      if session.gameData = gameData then
        pure s
      else
        let detached <- callOn
          (fun old => pair depth (PairingCall.setGameServer old none))
          session.gameData
          (s.setGameSession x { session with gameData := gameData })
        callOn (fun g => pair depth (PairingCall.setGameServer g (some x)))
          gameData detached
  | depth + 1, PairingCall.setGameServer g gameServerSession, s => do
      let gameData <- s.gameDatas g
      if gameData.gameServerSession = gameServerSession then
        pure s
      else
        let detached <- callOn
          (fun old => pair depth (PairingCall.setGameData old none))
          gameData.gameServerSession
          (s.setGameData g
            { gameData with gameServerSession := gameServerSession })
        callOn (fun x => pair depth (PairingCall.setGameData x (some g)))
          gameServerSession detached

/-- Deep enough for every call of the server. -/
def pairingDepth : Nat := 8

def setGameDataOf (s : AuthState) (x : Addr) (gameData : Option Addr) :
    Option AuthState :=
  pair pairingDepth (PairingCall.setGameData x gameData) s

end AuthState

end Auth
end Rzu
