import Rzu.Library.Run
import Rzu.Mirror.ConnectionToServer

/-!
# The session with the game server

Packets reach the handlers between the login result and the end of the
connection; then all data is forgotten.
-/

namespace Rzu
namespace Mirror

open Library
open Packet

/-- The game connection of `AutoClientSession` with what is kept of it. -/
structure GameSession where
  connectedInGame : Bool
  gameData : GameData

inductive SessionEvent where
  /-- `onGamePacketReceived` with any packet but the next. -/
  | packet (m : Moment) (packet : ServerPacket)
  /-- A `TS_SC_DISCONNECT_DESC`. -/
  | disconnectDesc
  /-- `onGameDisconnected`. -/
  | gameDisconnected
  /-- The timer, or a look at the data for the client. -/
  | updateAllPositions (m : Moment)
  /-- A `TS_CS_SET_PROPERTY` of the client. -/
  | setProperty (packet : Record)

namespace GameSession

def create : GameSession where
  connectedInGame := false
  gameData := GameData.create

/-- `onDisconnected` hands the data over and clears it. -/
def setConnected (s : GameSession) (connected : Bool) : GameSession where
  connectedInGame := connected
  gameData :=
    if connected = false ∧ s.connectedInGame = true then GameData.create
    else s.gameData

/-- A login result connects the session before it is handled. -/
def connectFor (s : GameSession) : ServerPacket -> GameSession
  | .TS_SC_LOGIN_RESULT _ => s.setConnected true
  | _ => s

def onGamePacketReceived (s : GameSession) (playerName : CharString)
    (m : Moment) (packet : ServerPacket) :
    Except Fault (GameSession × List CharString) :=
  if (s.connectFor packet).connectedInGame then do
    let handled <-
      (s.connectFor packet).gameData.onPacketReceived m playerName packet
    pure ({ s.connectFor packet with gameData := handled.1 }, handled.2)
  else Except.ok (s.connectFor packet, [])

def next (s : GameSession) (playerName : CharString) :
    SessionEvent -> Except Fault (GameSession × List CharString)
  | .packet m packet => s.onGamePacketReceived playerName m packet
  | .disconnectDesc => Except.ok (s.setConnected false, [])
  | .gameDisconnected => Except.ok (s.setConnected false, [])
  | .updateAllPositions m =>
      Except.ok ({ s with gameData := s.gameData.updateAllPositions m }, [])
  | .setProperty packet =>
      Except.ok ({ s with gameData := s.gameData.onSetProperty packet }, [])

def Step (playerName : CharString) (s : GameSession) (e : SessionEvent)
    (s' : GameSession) : Prop :=
  exists answers, s.next playerName e = Except.ok (s', answers)

theorem step_deterministic (playerName : CharString) :
    Deterministic (Step playerName) := by
  intro s e s' s'' h h'
  rcases h with ⟨answers, hok⟩
  rcases h' with ⟨answers', hok'⟩
  rw [hok] at hok'
  cases hok'
  rfl

end GameSession

end Mirror
end Rzu
