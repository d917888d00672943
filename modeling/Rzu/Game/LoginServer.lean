import Mathlib.Logic.Function.Basic
import Rzu.Auth.State

/-!
# Logins of the game server

Clients log in with an account and a one time key, which the auth server has
to confirm.  The session with the auth server keeps which client waits for
which account.
-/

namespace Rzu
namespace Game

open Auth (Addr CharString convertToString)

/-- `TS_CS_ACCOUNT_WITH_AUTH`, deserialized from at most 64 characters. -/
structure AccountWithAuth where
  account : CharString
  oneTimeKey : UInt64
  terminated : 0 ∉ account
  fits : account.length < 64
deriving DecidableEq

/-- `TS_AG_CLIENT_LOGIN`, without the fields that nothing reads. -/
structure ClientLoginResult where
  account : Vector UInt8 61
  nAccountID : UInt32
  result : UInt16
deriving DecidableEq

structure ClientSession where
  authReceived : Bool
  account : CharString
  accountId : UInt32
  /-- The connection handler is set once the login has succeeded. -/
  inLobby : Bool
deriving DecidableEq

structure GameState where
  clientSessions : Addr -> Option ClientSession
  pendingClients : CharString -> Option Addr

inductive Output where
  | clientLogin (account : List UInt8) (oneTimeKey : UInt64)
  | clientLogout (account : CharString)
  | accountResult (c : Addr) (result : UInt16)
  | abortSession (c : Addr)
deriving DecidableEq

/-- `UINT32_MAX`: nobody is logged in. -/
def noAccountId : UInt32 := 0xffffffff

/-- `TS_RESULT_SUCCESS` -/
def resultSuccess : UInt16 := 0

/--
`strcpy` into the account of a message with 61 characters.  What is longer
runs into the one time key, which is written afterwards.
-/
def copiedAccount (memory : Vector UInt8 61) (account : CharString) :
    List UInt8 :=
  (account ++ 0 :: memory.toList.drop (account.length + 1)).take 61

/-- An account of a message between the servers, as the other side reads it. -/
def accountOf (account : List UInt8) : CharString :=
  convertToString account 60

namespace GameState

/-- The server before any client connects to it. -/
def initial : GameState where
  clientSessions _ := none
  pendingClients _ := none

def setClientSession (s : GameState) (c : Addr) (session : ClientSession) :
    GameState :=
  { s with
    clientSessions := Function.update s.clientSessions c (some session) }

def clientConnected (s : GameState) (c : Addr) : Option GameState :=
  if s.clientSessions c = none then
    some (s.setClientSession c
      { authReceived := false
        account := []
        accountId := noAccountId
        inLobby := false })
  else none

/-- `AuthServerSession::loginClient` -/
def loginClient (s : GameState) (clientSession : Addr)
    (account : CharString) (oneTimePassword : UInt64)
    (memory : Vector UInt8 61) : GameState × List Output :=
  match s.pendingClients account with
  | some _ => (s, [])
  | none =>
      ({ s with
        pendingClients :=
          Function.update s.pendingClients account (some clientSession) },
        [Output.clientLogin (copiedAccount memory account) oneTimePassword])

/-- `ClientSession::onAccountWithAuth`, while nobody is logged in. -/
def onAccountWithAuth (s : GameState) (c : Addr) (packet : AccountWithAuth)
    (memory : Vector UInt8 61) : Option (GameState × List Output) := do
  let session <- s.clientSessions c
  if session.accountId ≠ noAccountId then
    pure (s, [])
  else if session.authReceived then
    pure (s, [Output.abortSession c])
  else
    let received := s.setClientSession c { session with authReceived := true }
    pure (received.loginClient c packet.account packet.oneTimeKey memory)

/-- `ClientSession::onAccountLoginResult` -/
def onAccountLoginResult (s : GameState) (c : Addr) (result : UInt16)
    (account : CharString) (accountId : UInt32) :
    Option (GameState × List Output) := do
  let session <- s.clientSessions c
  if result ≠ resultSuccess then
    pure (s, [Output.accountResult c result])
  else
    pure (s.setClientSession c
      { session with
        accountId := accountId
        account := account
        inLobby := true }, [Output.accountResult c result])

/-- `AuthServerSession::onClientLoginResult` -/
def onClientLoginResult (s : GameState) (packet : ClientLoginResult) :
    Option (GameState × List Output) :=
  let account := accountOf packet.account.toList
  match s.pendingClients account with
  | none => some (s, [])
  | some client =>
      let erased : GameState :=
        { s with
          pendingClients := Function.update s.pendingClients account none }
      erased.onAccountLoginResult client packet.result account
        packet.nAccountID

/-- `ClientSession::~ClientSession` -/
def clientDisconnected (s : GameState) (c : Addr) :
    Option (GameState × List Output) := do
  let session <- s.clientSessions c
  pure ({ s with
    clientSessions := Function.update s.clientSessions c none },
    [Output.clientLogout session.account])

end GameState

/-!
## Events
-/

/-- What clients and the auth server can send, at any time, in any order. -/
inductive Event where
  | clientConnected (c : Addr)
  | accountWithAuth (c : Addr) (packet : AccountWithAuth)
      (memory : Vector UInt8 61)
  | clientDisconnected (c : Addr)
  | clientLoginResult (packet : ClientLoginResult)
  /-- The server has no handler for it. -/
  | kickClient (account : Vector UInt8 61)
deriving DecidableEq

namespace GameState

def handle (s : GameState) : Event -> Option (GameState × List Output)
  | Event.clientConnected c => (s.clientConnected c).map fun s' => (s', [])
  | Event.accountWithAuth c packet memory =>
      s.onAccountWithAuth c packet memory
  | Event.clientDisconnected c => s.clientDisconnected c
  | Event.clientLoginResult packet => s.onClientLoginResult packet
  | Event.kickClient _ => some (s, [])

end GameState

/-!
## Accounts on the wire
-/

theorem convertToString_idem (array : List UInt8) (maxSize : Nat) :
    (convertToString array maxSize).take maxSize =
      convertToString array maxSize := by
  apply List.take_of_length_le
  calc (convertToString array maxSize).length
      ≤ (array.take maxSize).length :=
        (List.takeWhile_sublist _).length_le
    _ ≤ maxSize := List.length_take_le _ _

end Game
end Rzu
