import Rzu.Auth.Consistency

/-!
# Pairing of servers and sessions

What the two setters that call each other end up with, in the three situations
in which the server calls them.
-/

namespace Rzu
namespace Auth

namespace AuthState

/-- The server with another session of a game server. -/
def attach (s : AuthState) (x g : Addr) (session : GameServerSession)
    (gameData : GameData) : AuthState :=
  (s.setGameSession x { session with gameData := some g }).setGameData g
    { gameData with gameServerSession := some x }

section Calls

variable {s : AuthState} {x g : Addr} (depth : Nat) (target : Option Addr)

theorem pair_setGameData {session : GameServerSession}
    (hx : s.gameSessions x = some session) :
    pair (depth + 1) (PairingCall.setGameData x target) s =
      if session.gameData = target then some s
      else
        (callOn (fun old => pair depth (PairingCall.setGameServer old none))
          session.gameData
          (s.setGameSession x { session with gameData := target })).bind
            (callOn
              (fun g => pair depth (PairingCall.setGameServer g (some x)))
              target) := by
  rw [pair, hx]
  rfl

theorem pair_setGameServer {gameData : GameData}
    (hg : s.gameDatas g = some gameData) :
    pair (depth + 1) (PairingCall.setGameServer g target) s =
      if gameData.gameServerSession = target then some s
      else
        (callOn (fun old => pair depth (PairingCall.setGameData old none))
          gameData.gameServerSession
          (s.setGameData g { gameData with gameServerSession := target })).bind
            (callOn
              (fun x => pair depth (PairingCall.setGameData x (some g)))
              target) := by
  rw [pair, hg]
  rfl

end Calls

theorem setGameDataOf_new {s : AuthState} {x g : Addr}
    {session : GameServerSession} {gameData : GameData}
    (hx : s.gameSessions x = some session) (hnone : session.gameData = none)
    (hg : s.gameDatas g = some gameData)
    (hback : gameData.gameServerSession = some x) :
    s.setGameDataOf x (some g) =
      some (s.setGameSession x { session with gameData := some g }) := by
  simp [setGameDataOf, pairingDepth, pair_setGameData,
    pair_setGameServer, hx, hnone, callOn,
    setGameSession, hg, hback]

theorem setGameDataOf_vacant {s : AuthState} {x g : Addr}
    {session : GameServerSession} {gameData : GameData}
    (hx : s.gameSessions x = some session) (hnone : session.gameData = none)
    (hg : s.gameDatas g = some gameData)
    (hback : gameData.gameServerSession = none) :
    s.setGameDataOf x (some g) = some (s.attach x g session gameData) := by
  simp [setGameDataOf, pairingDepth, pair_setGameData,
    pair_setGameServer, hx, hnone, callOn,
    setGameSession, hg, hback, setGameData, attach]

theorem setGameDataOf_takeover {s : AuthState} {x y g : Addr}
    {session other : GameServerSession} {gameData : GameData}
    (hx : s.gameSessions x = some session) (hnone : session.gameData = none)
    (hg : s.gameDatas g = some gameData)
    (hback : gameData.gameServerSession = some y)
    (hy : s.gameSessions y = some other) (hother : other.gameData = some g) :
    s.setGameDataOf x (some g) =
      some ((s.setGameSession y { other with gameData := none }).attach
        x g session gameData) := by
  have hne : y ≠ x := by
    intro heq
    subst heq
    rw [hx] at hy
    cases hy
    rw [hnone] at hother
    cases hother
  simp [setGameDataOf, pairingDepth, pair_setGameData,
    pair_setGameServer, hx, hnone, callOn,
    setGameSession, hg, hback, setGameData, attach, hy, hother, hne,
    Function.update_of_ne, Ne.symm hne]
  rw [Function.update_comm (Ne.symm hne), Function.update_idem]

theorem setGameDataOf_none {s : AuthState} {x g : Addr}
    {session : GameServerSession} {gameData : GameData}
    (hx : s.gameSessions x = some session)
    (hpair : session.gameData = some g)
    (hg : s.gameDatas g = some gameData)
    (hback : gameData.gameServerSession = some x) :
    s.setGameDataOf x none =
      some ((s.setGameSession x { session with gameData := none }).setGameData
        g { gameData with gameServerSession := none }) := by
  simp [setGameDataOf, pairingDepth, pair_setGameData,
    pair_setGameServer, hx, hpair, callOn,
    setGameSession, hg, hback, setGameData]

end AuthState

end Auth
end Rzu
