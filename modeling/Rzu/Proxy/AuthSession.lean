import Rzu.Library.Trace
import Rzu.Net.Stream
import Rzu.Proxy.AccountList

/-!
# The auth session of the proxy

The proxy keeps one link to the auth server for each game server that logs in.
It survives losses of the link: what the game server sends meanwhile waits for
the next login and goes out behind the account list.
-/

namespace Rzu
namespace Proxy

open Auth Library Net

def logoutPacketID : Nat := 60002

inductive GameMessage where
  /-- `TS_GA_LOGIN` -/
  | login
  /-- `TS_GA_CLIENT_LOGIN` -/
  | clientLogin (body : List UInt8)
  /-- `TS_GA_CLIENT_LOGOUT` -/
  | clientLogout (account : CharString) (body : List UInt8)
  | other (id : Nat) (body : List UInt8)
deriving DecidableEq, Repr

/-- The messages that may have to wait. -/
def GameMessage.deferrable : GameMessage -> Bool
  | other _ _ => true
  | _ => false

/-- A message to the auth server. -/
inductive Outgoing where
  /-- `TS_GA_LOGIN_WITH_LOGOUT_EXT` -/
  | login
  | accountList (packet : AccountList)
  | forward (message : GameMessage)
deriving DecidableEq

namespace Outgoing

def isLogout : Outgoing -> Bool
  | forward (GameMessage.other id _) => id == logoutPacketID
  | _ => false

/-- The game server's message that is delivered, if it may have to wait. -/
def deferred? : Outgoing -> Option GameMessage
  | forward message => if message.deferrable = true then some message else none
  | _ => none

end Outgoing

structure AuthSession where
  currentState : StreamState
  closeCausedByRemote : Bool
  sentLoginPacket : Bool
  pendingLogin : Bool
  synchronizedWithAuth : Bool
  /-- `recoTimer` is running. -/
  recoTimer : Bool
  pendingMessages : List Outgoing
  accountList : List AccountInfo
deriving DecidableEq

namespace AuthSession

/-- A session of a game server that logs in; it connects at once. -/
def create : AuthSession where
  currentState := StreamState.connecting
  closeCausedByRemote := false
  sentLoginPacket := false
  pendingLogin := false
  synchronizedWithAuth := false
  recoTimer := false
  pendingMessages := []
  accountList := []

def isConnected (a : AuthSession) : Bool :=
  a.currentState == StreamState.connected

/-- `Stream::close` and `Stream::abort`, as far as the session can tell. -/
def close (a : AuthSession) (causedByRemote : Bool) : AuthSession :=
  if a.currentState = StreamState.closing ∨
      a.currentState = StreamState.unconnected then a
  else
    { a with
      currentState := StreamState.closing
      closeCausedByRemote := causedByRemote }

/-- The messages that reach the network: nothing, if there is no link. -/
def written (a : AuthSession) (message : Outgoing) : List Outgoing :=
  if a.isConnected = true then [message] else []

def sendPacketToNetwork (a : AuthSession) (message : Outgoing) :
    AuthSession × List Outgoing :=
  match message with
  | Outgoing.login => ({ a with sentLoginPacket := true }, a.written message)
  | _ =>
      if message.isLogout = true then (a.close false, a.written message)
      else (a, a.written message)

def sendPacket (a : AuthSession) (message : Outgoing) :
    AuthSession × List Outgoing :=
  if a.isConnected = true ∧ a.synchronizedWithAuth = true then
    a.sendPacketToNetwork message
  else
    ({ a with pendingMessages := a.pendingMessages ++ [message] }, [])

/-- Send some messages, one after the other. -/
def sendEach (send : AuthSession -> Outgoing -> AuthSession × List Outgoing)
    (a : AuthSession) : List Outgoing -> AuthSession × List Outgoing
  | [] => (a, [])
  | message :: rest =>
      let first := send a message
      let later := sendEach send first.1 rest
      (later.1, first.2 ++ later.2)

def sendLogin (a : AuthSession) : AuthSession × List Outgoing :=
  if a.pendingLogin = true then (a, [])
  else
    ({ a with pendingLogin := true } : AuthSession).sendPacketToNetwork
      Outgoing.login

def sendPendingMessages (a : AuthSession) : AuthSession × List Outgoing :=
  let sent := a.sendEach sendPacketToNetwork a.pendingMessages
  ({ sent.1 with pendingMessages := [] }, sent.2)

def sendAccountList (a : AuthSession) : AuthSession × List Outgoing :=
  let listed :=
    ({ a with synchronizedWithAuth := true } : AuthSession).sendEach
      sendPacket
      ((Proxy.sendAccountList a.accountList).map Outgoing.accountList)
  let flushed := listed.1.sendPendingMessages
  (flushed.1, listed.2 ++ flushed.2)

/-- The account list without the last login of an account. -/
def eraseAccount (account : CharString) :
    List AccountInfo -> List AccountInfo
  | [] => []
  | accountInfo :: rest =>
      if (rest.any fun other => other.name == account) = true then
        accountInfo :: eraseAccount account rest
      else if accountInfo.name = account then rest
      else accountInfo :: rest

def eraseLogin (a : AuthSession) (account : CharString) : AuthSession :=
  { a with accountList := eraseAccount account a.accountList }

def logoutClient (a : AuthSession) (account : CharString)
    (packet : GameMessage) : AuthSession × List Outgoing :=
  if a.isConnected = true ∧ a.synchronizedWithAuth = true then
    (a.eraseLogin account).sendPacket (Outgoing.forward packet)
  else (a.eraseLogin account, [])

/-- The game server is there, so a loss is followed by a new connection. -/
def onDisconnected (a : AuthSession) : AuthSession :=
  { a with
    currentState := StreamState.unconnected
    synchronizedWithAuth := false
    pendingLogin := false
    recoTimer := a.closeCausedByRemote || a.recoTimer
    closeCausedByRemote := false }

def onTimerReconnect (a : AuthSession) : AuthSession :=
  { a with
    recoTimer := false
    currentState := StreamState.connecting }

/-- The part of `onClientLoginResult` that remembers a client. -/
def clientLoggedIn (a : AuthSession) (accountInfo : AccountInfo) :
    AuthSession :=
  { a with accountList := a.accountList ++ [accountInfo] }

end AuthSession

structure GameServer where
  authSession : Option AuthSession
deriving DecidableEq

inductive ProxyEvent where
  | gameMessage (message : GameMessage)
  /-- The link to the auth server is there. -/
  | connected
  /-- The link fails, or the auth server closes it. -/
  | linkLost
  | disconnected
  | timerReconnect
  /-- `TS_AG_LOGIN_RESULT` -/
  | loginResult (success : Bool)
  /-- `TS_AG_CLIENT_LOGIN_EXTENDED` for a client that may enter. -/
  | clientLoggedIn (accountInfo : AccountInfo)
deriving DecidableEq

/-- What is seen of a run between the game server and the auth server. -/
inductive Seen where
  /-- A session of the game server is created. -/
  | attached
  | sent (message : GameMessage)
  /-- The link is there. -/
  | linked
  | delivered (message : Outgoing)
deriving DecidableEq

namespace GameServer

/-- Nobody is logged in yet. -/
def initial : GameServer where
  authSession := none

def onSession (s : GameServer)
    (f : AuthSession -> AuthSession × List Outgoing) :
    GameServer × List Seen :=
  match s.authSession with
  | none => (s, [])
  | some a => ({ authSession := some (f a).1 }, (f a).2.map Seen.delivered)

theorem onSession_none {s : GameServer} (h : s.authSession = none)
    (f : AuthSession -> AuthSession × List Outgoing) :
    s.onSession f = (s, []) := by
  rw [onSession, h]

theorem onSession_some {s : GameServer} {a : AuthSession}
    (h : s.authSession = some a)
    (f : AuthSession -> AuthSession × List Outgoing) :
    s.onSession f =
      ({ authSession := some (f a).1 }, (f a).2.map Seen.delivered) := by
  rw [onSession, h]

/-- `GameServerSession::onPacketReceived` -/
def onGameMessage (s : GameServer) (message : GameMessage) :
    GameServer × List Seen :=
  match message with
  | GameMessage.login =>
      match s.authSession with
      | some _ => (s, [])
      | none => ({ authSession := some AuthSession.create }, [Seen.attached])
  | GameMessage.clientLogin _ =>
      s.onSession fun a =>
        if a.synchronizedWithAuth = false then (a, [])
        else a.sendPacket (Outgoing.forward message)
  | GameMessage.clientLogout account _ =>
      s.onSession fun a => a.logoutClient account message
  | GameMessage.other _ _ =>
      let result := s.onSession fun a =>
        a.sendPacket (Outgoing.forward message)
      (result.1, Seen.sent message :: result.2)

/-- `onLoginResult`; a refused login detaches the session for good. -/
def onLoginResult (s : GameServer) (success : Bool) :
    GameServer × List Seen :=
  match s.authSession with
  | none => (s, [])
  | some a =>
      if a.pendingLogin = false then (s, [])
      else if success = true then
        s.onSession fun a =>
          ({ a with pendingLogin := false } : AuthSession).sendAccountList
      else if a.synchronizedWithAuth = false then
        ({ authSession := none }, [])
      else
        ({ authSession :=
            some { a with pendingLogin := false, sentLoginPacket := false } },
          [])

theorem onLoginResult_ignored {s : GameServer} {a : AuthSession}
    (h : s.authSession = some a) (hlogin : a.pendingLogin = false)
    (success : Bool) : s.onLoginResult success = (s, []) := by
  rw [onLoginResult, h]
  exact if_pos hlogin

theorem onLoginResult_success {s : GameServer} {a : AuthSession}
    (h : s.authSession = some a) (hlogin : a.pendingLogin = true) :
    s.onLoginResult true = s.onSession fun a =>
      ({ a with pendingLogin := false } : AuthSession).sendAccountList := by
  rw [onLoginResult, h]
  exact if_neg (by rw [hlogin]; exact nofun)

theorem onLoginResult_refused {s : GameServer} {a : AuthSession}
    (h : s.authSession = some a) (hlogin : a.pendingLogin = true)
    (hsync : a.synchronizedWithAuth = false) :
    s.onLoginResult false = ({ authSession := none }, []) := by
  rw [onLoginResult, h]
  change (if a.pendingLogin = false then (s, []) else
    if a.synchronizedWithAuth = false then ({ authSession := none }, [])
    else _) = _
  rw [if_neg (by rw [hlogin]; exact nofun), if_pos hsync]

/-- Whether something may still be received on the link. -/
def receives (a : AuthSession) : Bool :=
  a.isConnected ||
    (a.currentState == StreamState.closing && !a.closeCausedByRemote)

def handle (s : GameServer) : ProxyEvent -> Option (GameServer × List Seen)
  | ProxyEvent.gameMessage message => some (s.onGameMessage message)
  | ProxyEvent.connected => do
      let a <- s.authSession
      if a.currentState = StreamState.connecting then
        let result :=
          ({ a with currentState := StreamState.connected } :
            AuthSession).sendLogin
        some ({ authSession := some result.1 },
          Seen.linked :: result.2.map Seen.delivered)
      else none
  | ProxyEvent.linkLost => do
      let a <- s.authSession
      some ({ authSession := some (a.close true) }, [])
  | ProxyEvent.disconnected => do
      let a <- s.authSession
      if a.currentState = StreamState.closing then
        some ({ authSession := some a.onDisconnected }, [])
      else none
  | ProxyEvent.timerReconnect => do
      let a <- s.authSession
      if a.recoTimer = true ∧ a.currentState = StreamState.unconnected then
        some ({ authSession := some a.onTimerReconnect }, [])
      else none
  | ProxyEvent.loginResult success => do
      let a <- s.authSession
      if receives a = true then some (s.onLoginResult success) else none
  | ProxyEvent.clientLoggedIn accountInfo => do
      let a <- s.authSession
      if receives a = true then
        some ({ authSession := some (a.clientLoggedIn accountInfo) }, [])
      else none

def Step (s : GameServer) (l : ProxyEvent × List Seen)
    (s' : GameServer) : Prop :=
  s.handle l.1 = some (s', l.2)

def nextStep (s : GameServer) (event : ProxyEvent) :
    Option ((ProxyEvent × List Seen) × GameServer) :=
  (s.handle event).map fun result => ((event, result.2), result.1)

theorem nextStep_step (s : GameServer) (event : ProxyEvent)
    (l : ProxyEvent × List Seen) (s' : GameServer)
    (h : nextStep s event = some (l, s')) : Step s l s' := by
  rcases Option.map_eq_some_iff.mp h with ⟨result, hhandle, hpair⟩
  cases hpair
  exact hhandle

inductive Outcome (s : GameServer) :
    ProxyEvent -> GameServer -> List Seen -> Prop where
  | gameMessage (message : GameMessage) :
      Outcome s (ProxyEvent.gameMessage message) (s.onGameMessage message).1
        (s.onGameMessage message).2
  | connected {a : AuthSession} (hsession : s.authSession = some a)
      (hstate : a.currentState = StreamState.connecting) :
      Outcome s ProxyEvent.connected
        { authSession :=
            some ({ a with currentState := StreamState.connected } :
              AuthSession).sendLogin.1 }
        (Seen.linked ::
          ({ a with currentState := StreamState.connected } :
            AuthSession).sendLogin.2.map Seen.delivered)
  | linkLost {a : AuthSession} (hsession : s.authSession = some a) :
      Outcome s ProxyEvent.linkLost { authSession := some (a.close true) } []
  | disconnected {a : AuthSession} (hsession : s.authSession = some a)
      (hstate : a.currentState = StreamState.closing) :
      Outcome s ProxyEvent.disconnected
        { authSession := some a.onDisconnected } []
  | timerReconnect {a : AuthSession} (hsession : s.authSession = some a)
      (hstate : a.currentState = StreamState.unconnected) :
      Outcome s ProxyEvent.timerReconnect
        { authSession := some a.onTimerReconnect } []
  | loginResult {a : AuthSession} (hsession : s.authSession = some a)
      (hreceives : receives a = true) (success : Bool) :
      Outcome s (ProxyEvent.loginResult success) (s.onLoginResult success).1
        (s.onLoginResult success).2
  | clientLoggedIn {a : AuthSession} (hsession : s.authSession = some a)
      (accountInfo : AccountInfo) :
      Outcome s (ProxyEvent.clientLoggedIn accountInfo)
        { authSession := some (a.clientLoggedIn accountInfo) } []

theorem Step.outcome {s s' : GameServer} {l : ProxyEvent × List Seen}
    (h : Step s l s') : Outcome s l.1 s' l.2 := by
  rcases l with ⟨event, seen⟩
  change s.handle event = some (s', seen) at h
  cases event with
  | gameMessage message =>
      have hpair : s.onGameMessage message = (s', seen) := Option.some.inj h
      have houtcome := Outcome.gameMessage (s := s) message
      rw [hpair] at houtcome
      exact houtcome
  | connected =>
      rcases Option.bind_eq_some_iff.mp h with ⟨a, hsession, hrest⟩
      split at hrest
      · rename_i hstate
        cases hrest
        exact Outcome.connected hsession hstate
      · cases hrest
  | linkLost =>
      rcases Option.bind_eq_some_iff.mp h with ⟨a, hsession, hrest⟩
      cases hrest
      exact Outcome.linkLost hsession
  | disconnected =>
      rcases Option.bind_eq_some_iff.mp h with ⟨a, hsession, hrest⟩
      split at hrest
      · rename_i hstate
        cases hrest
        exact Outcome.disconnected hsession hstate
      · cases hrest
  | timerReconnect =>
      rcases Option.bind_eq_some_iff.mp h with ⟨a, hsession, hrest⟩
      split at hrest
      · rename_i hstate
        cases hrest
        exact Outcome.timerReconnect hsession hstate.right
      · cases hrest
  | loginResult success =>
      rcases Option.bind_eq_some_iff.mp h with ⟨a, hsession, hrest⟩
      split at hrest
      · rename_i hreceives
        have hpair : s.onLoginResult success = (s', seen) :=
          Option.some.inj hrest
        have houtcome := Outcome.loginResult hsession hreceives success
        rw [hpair] at houtcome
        exact houtcome
      · cases hrest
  | clientLoggedIn accountInfo =>
      rcases Option.bind_eq_some_iff.mp h with ⟨a, hsession, hrest⟩
      split at hrest
      · cases hrest
        exact Outcome.clientLoggedIn hsession accountInfo
      · cases hrest

end GameServer

end Proxy
end Rzu
