import Rzu.Auth.ClientSession
import Rzu.Library.Run

/-!
# The auth server as a transition system

Every event of a session, at any time and in any order.  Addresses in an event
are those that the allocator returns for the objects the event creates.
-/

namespace Rzu
namespace Auth

open Library

inductive Event where
  | clientConnected (c : Addr)
  | accountAuthResult (c : Addr) (query : AccountQuery) (newClient : Addr)
  | selectServer (c : Addr) (serverIdx : UInt16) (oneTimePassword : UInt64)
  | clientDisconnected (c : Addr)
  | clientDestroyed (c : Addr)
  | gameConnected (x : Addr)
  | serverLogin (x : Addr) (kind : LoginKind) (packet : ServerLogin)
      (newGameData : Addr)
  | accountList (x : Addr) (packet : AccountList) (newClients : List Addr)
  | serverLogout (x : Addr)
  | clientLogin (x : Addr) (packet : ClientLogin) (now : Int64)
  | clientLogout (x : Addr) (account : Vector UInt8 61)
  | clientKickFailed (x : Addr) (account : Vector UInt8 61)
  | gameDisconnected (x : Addr)
deriving DecidableEq

namespace AuthState

def clientConnected (s : AuthState) (c : Addr) : Option AuthState :=
  if s.clientSessions c = none then
    some (s.setClientSession c
      { lastLoginServerId := 1
        serverIdxOffset := 0
        clientData := none })
  else none

def gameConnected (s : AuthState) (x : Addr) : Option AuthState :=
  if s.gameSessions x = none then
    some (s.setGameSession x
      { gameData := none
        useAutoReconnectFeature := false
        alreadyConnectedAccounts := [] })
  else none

def handle (strictKick : Bool) (s : AuthState) :
    Event -> Option (AuthState × List Output)
  | Event.clientConnected c => (s.clientConnected c).map fun s' => (s', [])
  | Event.accountAuthResult c query newClient =>
      s.clientAuthResult strictKick c query newClient
  | Event.selectServer c serverIdx oneTimePassword =>
      s.onSelectServer c serverIdx oneTimePassword
  | Event.clientDisconnected c => (s.onDisconnected c).map fun s' => (s', [])
  | Event.clientDestroyed c =>
      (s.deleteClientSession c).map fun s' => (s', [])
  | Event.gameConnected x => (s.gameConnected x).map fun s' => (s', [])
  | Event.serverLogin x kind packet newGameData =>
      s.onServerLogin x kind packet newGameData
  | Event.accountList x packet newClients =>
      s.onAccountList x packet newClients
  | Event.serverLogout x => s.onServerLogout x
  | Event.clientLogin x packet now => s.onClientLogin x packet now
  | Event.clientLogout x account => s.onClientLogout x account
  | Event.clientKickFailed x account => s.onClientKickFailed x account
  | Event.gameDisconnected x =>
      (s.deleteGameSession x).map fun s' => (s', [])

end AuthState

/-- An event together with what the server sends while it handles it. -/
structure Occurrence where
  event : Event
  outputs : List Output
deriving DecidableEq

def Step (strictKick : Bool) (s : AuthState) (o : Occurrence)
    (s' : AuthState) : Prop :=
  s.handle strictKick o.event = some (s', o.outputs)

theorem step_deterministic (strictKick : Bool) :
    Deterministic (Step strictKick) := by
  intro s o s' s'' hstep hstep'
  have heq := hstep.symm.trans hstep'
  cases heq
  rfl

/-- Runs of the server from its start. -/
abbrev AuthRun (strictKick : Bool) (history : List Occurrence)
    (s : AuthState) : Prop :=
  Run (Step strictKick) AuthState.initial history s

def nextStep (strictKick : Bool) (s : AuthState) (event : Event) :
    Option (Occurrence × AuthState) :=
  (s.handle strictKick event).map fun handled =>
    (⟨event, handled.2⟩, handled.1)

theorem nextStep_step (strictKick : Bool) (s : AuthState) (event : Event)
    (o : Occurrence) (s' : AuthState)
    (hnext : nextStep strictKick s event = some (o, s')) :
    Step strictKick s o s' := by
  rcases Option.map_eq_some_iff.mp hnext with ⟨handled, hhandle, hpair⟩
  cases hpair
  exact hhandle

end Auth
end Rzu
