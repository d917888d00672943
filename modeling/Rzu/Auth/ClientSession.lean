import Rzu.Auth.GameServerSession

/-!
# Client sessions

The handlers of the auth server that bind a client session to client data, and
hand that data over to a game server.
-/

namespace Rzu
namespace Auth

structure AccountRow where
  ok : Bool
  authOk : Bool
  block : Bool
  accountId : UInt32
  age : UInt32
  eventCode : UInt32
  pcBang : UInt32
  lastLoginServerIdx : UInt16
  serverIdxOffset : UInt32
deriving DecidableEq

/-- A finished account query, and the address that the client comes from. -/
structure AccountQuery where
  account : CharString
  results : List AccountRow
  ip : Vector UInt8 46
deriving DecidableEq

def AccountQuery.data (query : AccountQuery) (row : AccountRow) :
    AccountData where
  account := query.account
  accountId := row.accountId
  age := row.age
  eventCode := row.eventCode
  pcBang := row.pcBang
  ip := query.ip

namespace AuthState

def abortOwner (s : AuthState) (old : ClientData) :
    Option (AuthState × List Output) := do
  let owner <- old.client
  let _ <- s.clientSessions owner
  pure (s, [Output.abortSession owner])

def evict (s : AuthState) (strictKick : Bool) (oldClient : Addr) :
    Option (AuthState × List Output) := do
  let old <- s.clientDatas oldClient
  match old.server with
  | none => s.abortOwner old
  | some g =>
      if old.inGame then s.kickClientOf strictKick g oldClient
      else (s.removeClient oldClient).map fun removed => (removed, [])

/-- The client is authenticated: bind the session to new client data. -/
def bindClient (s : AuthState) (strictKick : Bool) (c : Addr)
    (query : AccountQuery) (row : AccountRow) (newClient : Addr) :
    Option (AuthState × List Output) := do
  let result <- s.tryAddClient newClient (some c) (query.data row)
  match result with
  | (added, AddResult.added) =>
      pure (added.setClientSession c
        { lastLoginServerId := row.lastLoginServerIdx
          serverIdxOffset := row.serverIdxOffset
          clientData := some newClient },
        [Output.result c ResultCode.success 1])
  | (_, AddResult.conflict oldClient) => do
      let evicted <- s.evict strictKick oldClient
      pure (evicted.1, evicted.2 ++
        [Output.result c ResultCode.alreadyExist 0])

def clientAuthResult (s : AuthState) (strictKick : Bool) (c : Addr)
    (query : AccountQuery) (newClient : Addr) :
    Option (AuthState × List Output) := do
  let session <- s.clientSessions c
  match query.results with
  | [row] =>
      if row.ok = false ∨ row.authOk = false then
        pure (s, [Output.result c ResultCode.notExist 0])
      else if row.block = true then
        pure (s, [Output.result c ResultCode.accessDenied 0])
      else if session.clientData.isSome then
        pure (s, [Output.result c ResultCode.clientSideError 0])
      else s.bindClient strictKick c query row newClient
  | _ => pure (s, [Output.result c ResultCode.notExist 0])

/-- The one time password is whatever the random numbers multiply to. -/
def onSelectServer (s : AuthState) (c : Addr) (serverIdx : UInt16)
    (oneTimePassword : UInt64) : Option (AuthState × List Output) := do
  let session <- s.clientSessions c
  match session.clientData, s.servers.lookup serverIdx with
  | none, _ => pure (s, [Output.abortSession c])
  | some _, none => pure (s, [Output.abortSession c])
  | some p, some g => do
      let switched <- s.switchClientToServer p g oneTimePassword
      pure (switched.setClientSession c { session with clientData := none },
        [Output.selectServer c oneTimePassword])

def removeOwned (s : AuthState) (session : ClientSession) :
    Option AuthState :=
  match session.clientData with
  | none => some s
  | some p => s.removeClient p

def onDisconnected (s : AuthState) (c : Addr) : Option AuthState := do
  let session <- s.clientSessions c
  let removed <- s.removeOwned session
  pure (removed.setClientSession c { session with clientData := none })

def deleteClientSession (s : AuthState) (c : Addr) : Option AuthState := do
  let session <- s.clientSessions c
  let removed <- s.removeOwned session
  pure { removed with
    clientSessions := Function.update removed.clientSessions c none }

end AuthState

end Auth
end Rzu
