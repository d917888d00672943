import Rzu.Auth.ClientPackets
import Rzu.Auth.System
import Rzu.Library.LittleEndian

/-!
# Frames of the auth server

The handlers of a session work on its input buffer, cast to the struct of a
packet.  Behind the current frame the buffer holds what earlier frames left.  A
result of none also stands for an access behind the end of the buffer.
-/

namespace Rzu
namespace Auth

open Library Packet

/-- What a session hands to its handlers: at most `MAX_PACKET_SIZE` bytes. -/
structure Frame where
  bytes : List UInt8
  large : 5 ≤ bytes.length
  small : bytes.length ≤ 65536
  announced : leNat (bytes.take 4) = bytes.length

/-- `INITIAL_INPUT_BUFFERSIZE`, of bytes that are not initialised. -/
def initialBufferSize : Nat := 296

/--
The input buffer when a frame is dispatched.  A frame that does not fit gets a
buffer of its own size.
-/
def Frame.over (frame : Frame) (previous : List UInt8) : List UInt8 :=
  frame.bytes ++ previous.drop frame.bytes.length

/-!
## Structs over the input buffer
-/

def arrayAt (memory : List UInt8) (offset n : Nat) : Vector UInt8 n :=
  Vector.ofFn fun i => memory.getD (offset + i) 0

def numberAt (memory : List UInt8) (offset width : Nat) : Nat :=
  leNat (arrayAt memory offset width).toList

/-- `TS_MESSAGE::size`. -/
def messageSize (memory : List UInt8) : Nat := numberAt memory 0 4

/-- `TS_MESSAGE::id`. -/
def messageId (memory : List UInt8) : Nat := numberAt memory 4 2

def boolAt (memory : List UInt8) (offset : Nat) : Bool :=
  memory.getD offset 0 != 0

def int32At (memory : List UInt8) (offset : Nat) : Int32 :=
  (UInt32.ofNat (numberAt memory offset 4)).toInt32

/-- `TS_GA_LOGIN`. -/
def serverLoginAt (memory : List UInt8) : ServerLogin where
  serverIdx := UInt16.ofNat (numberAt memory 7 2)
  serverName := arrayAt memory 9 21
  serverScreenshotUrl := arrayAt memory 30 256
  isAdultServer := boolAt memory 286
  serverIp := arrayAt memory 287 16
  serverPort := int32At memory 303

/-- `TS_GA_ACCOUNT_LIST::AccountInfo`. -/
def accountInfoAt (memory : List UInt8) (offset : Nat) : AccountInfo where
  account := arrayAt memory offset 61
  nAccountID := int32At memory (offset + 61)
  nPCBangUser := (memory.getD (offset + 65) 0).toInt8
  nEventCode := int32At memory (offset + 66)
  nAge := int32At memory (offset + 70)
  ip := arrayAt memory (offset + 74) 46
  loginTime := UInt32.ofNat (numberAt memory (offset + 120) 4)

/-- `TS_GA_ACCOUNT_LIST`: its accounts are read once the size was checked. -/
def accountListAt (memory : List UInt8) : AccountList where
  size := messageSize memory
  finalPacket := boolAt memory 7
  count := memory.getD 8 0
  accountInfo := (List.range (memory.getD 8 0).toNat).map fun i =>
    accountInfoAt memory (accountListSize + i * accountInfoSize)
  covered := by
    rw [List.length_map, List.length_range]

/-- `TS_GA_CLIENT_LOGIN`. -/
def clientLoginAt (memory : List UInt8) : ClientLogin where
  account := arrayAt memory 7 61
  oneTimeKey := UInt64.ofNat (numberAt memory 68 8)

/-!
## What a handler does
-/

/-- What the surroundings of the server decide. -/
structure Chance where
  newObject : Addr
  newClients : List Addr
  now : Int64
  oneTimePassword : UInt64

inductive ClientPacketType where
  | version
  | rsaPublicKey
  | account
  | imbcAccount
  | serverList
  | selectServer
deriving DecidableEq

/--
What a frame makes a session do: it sends something, asks the database, or calls
a handler that sees nothing but a deserialized packet.
-/
inductive Reply where
  | output (output : Output)
  | versionResult (c : Addr) (value : UInt32)
  | securityNoCheck (x : Addr) (account securityNo : CharString) (mode : Int32)
  | called (c : Addr) (type : ClientPacketType) (receivedId : Int)
      (packet : Record)

/-- The registry after a frame, the state of the session itself, the replies. -/
structure Handled (own : Type) where
  state : AuthState
  session : own
  replies : List Reply

/-- A handler that leaves the session's own state alone. -/
def Handled.ofOutputs {own : Type} (session : own)
    (handled : AuthState × List Output) : Handled own where
  state := handled.1
  session := session
  replies := handled.2.map Reply.output

/-!
## Game server sessions
-/

inductive GamePacketType where
  | loginWithLogout
  | loginWithLogoutExt
  | login
  | accountList
  | logout
  | clientLogin
  | clientLogout
  | clientKickFailed
  | securityNoCheck
deriving DecidableEq

def gamePacketType (id : Nat) : Option GamePacketType :=
  if id = 60001 then some GamePacketType.loginWithLogout
  else if id = 60004 then some GamePacketType.loginWithLogoutExt
  else if id = 20001 then some GamePacketType.login
  else if id = 60003 then some GamePacketType.accountList
  else if id = 60002 then some GamePacketType.logout
  else if id = 20010 then some GamePacketType.clientLogin
  else if id = 20012 then some GamePacketType.clientLogout
  else if id = 20014 then some GamePacketType.clientKickFailed
  else if id = 40001 then some GamePacketType.securityNoCheck
  else none

/-- `sizeof` of the struct, up to the last member that its handler reads. -/
def GamePacketType.extent : GamePacketType -> Nat
  | loginWithLogout => 307
  | loginWithLogoutExt => 323
  | login => 307
  | accountList => accountListSize
  | logout => 6
  | clientLogin => 76
  | clientLogout => 68
  | clientKickFailed => 68
  | securityNoCheck => 87

/-- `sizeof(TS_GA_SECURITY_NO_CHECK)`. -/
def securityNoCheckSize : Nat := 91

namespace AuthState

/-- The session's own state is `securityNoSendMode`. -/
def onSecurityNoCheck (s : AuthState) (x : Addr) (securityNoSendMode : Bool)
    (memory : List UInt8) : Handled Bool :=
  let account := packetAccount (arrayAt memory 7 61)
  let securityNo := convertToString (arrayAt memory 68 19).toList 18
  if securityNoCheckSize ≤ messageSize memory then
    ⟨s, securityNoSendMode,
      [Reply.securityNoCheck x account securityNo (int32At memory 87)]⟩
  else ⟨s, false, [Reply.securityNoCheck x account securityNo 0]⟩

def handleGamePacket (chance : Chance) (s : AuthState) (x : Addr)
    (securityNoSendMode : Bool) (memory : List UInt8) :
    GamePacketType -> Option (Handled Bool)
  | GamePacketType.loginWithLogout =>
      (s.onServerLogin x LoginKind.loginWithLogout (serverLoginAt memory)
        chance.newObject).map (Handled.ofOutputs securityNoSendMode)
  | GamePacketType.loginWithLogoutExt =>
      (s.onServerLogin x
        (LoginKind.loginWithLogoutExt (arrayAt memory 307 16))
        (serverLoginAt memory) chance.newObject).map
          (Handled.ofOutputs securityNoSendMode)
  | GamePacketType.login =>
      (s.onServerLogin x LoginKind.login (serverLoginAt memory)
        chance.newObject).map (Handled.ofOutputs securityNoSendMode)
  | GamePacketType.accountList =>
      (s.onAccountList x (accountListAt memory) chance.newClients).map
        (Handled.ofOutputs securityNoSendMode)
  | GamePacketType.logout =>
      (s.onServerLogout x).map (Handled.ofOutputs securityNoSendMode)
  | GamePacketType.clientLogin =>
      (s.onClientLogin x (clientLoginAt memory) chance.now).map
        (Handled.ofOutputs securityNoSendMode)
  | GamePacketType.clientLogout =>
      (s.onClientLogout x (arrayAt memory 7 61)).map
        (Handled.ofOutputs securityNoSendMode)
  | GamePacketType.clientKickFailed =>
      (s.onClientKickFailed x (arrayAt memory 7 61)).map
        (Handled.ofOutputs securityNoSendMode)
  | GamePacketType.securityNoCheck =>
      some (s.onSecurityNoCheck x securityNoSendMode memory)

/-- `GameServerSession::onPacketReceived`. -/
def onGamePacketReceived (chance : Chance) (s : AuthState) (x : Addr)
    (securityNoSendMode : Bool) (memory : List UInt8) :
    Option (Handled Bool) :=
  match gamePacketType (messageId memory) with
  | none => some ⟨s, securityNoSendMode, []⟩
  | some type =>
      if type.extent ≤ memory.length then
        s.handleGamePacket chance x securityNoSendMode memory type
      else none

end AuthState

/-!
## Client sessions
-/

/-- `PacketMetadata::convertPacketIdToTypeId` for what clients send. -/
def clientPacketType (packetVersion : Version) (id : Nat) :
    Option ClientPacketType :=
  if id = 10001 then some ClientPacketType.version
  else if id = (TS_CA_RSA_PUBLIC_KEY.getId packetVersion).toNat then
    some ClientPacketType.rsaPublicKey
  else if id = 10010 then some ClientPacketType.account
  else if id = 10012 then some ClientPacketType.imbcAccount
  else if id = 10021 then some ClientPacketType.serverList
  else if id = 10023 then some ClientPacketType.selectServer
  else none

def setMinimumPacketVersion (packetVersion version : Version) : Version :=
  if (packetVersion - version).toInt32 < 0 then version else packetVersion

def preProcessPacketReceived (packetVersion : Version) (id size : Nat) :
    Version :=
  let packetVersion :=
    if id = (TS_CA_RSA_PUBLIC_KEY.getId EPIC_9_6_3).toNat then
      setMinimumPacketVersion packetVersion EPIC_9_6_3
    else packetVersion
  let packetVersion :=
    if id = (TS_CA_RSA_PUBLIC_KEY.getId packetVersion).toNat then
      setMinimumPacketVersion packetVersion EPIC_8_1_1_RSA
    else packetVersion
  let packetVersion :=
    if id = 10010 ∧ 58 < size then
      setMinimumPacketVersion packetVersion EPIC_5_2
    else packetVersion
  if id = 10012 ∧ 79 < size then
    setMinimumPacketVersion packetVersion EPIC_7_4
  else packetVersion

def isSpace (c : UInt8) : Bool := c == 32 || (9 ≤ c && c ≤ 13)

def isDigit (c : UInt8) : Bool := 48 ≤ c && c ≤ 57

def digitsValue (digits : List UInt8) : Int :=
  digits.foldl (fun value c => 10 * value + (c.toNat - 48 : Int)) 0

def signOf : List UInt8 -> Int × List UInt8
  | 45 :: rest => (-1, rest)
  | 43 :: rest => (1, rest)
  | chars => (1, chars)

/-- `strtol` in base ten, to a `long` of 64 bits. -/
def strtol (chars : List UInt8) : Option Int :=
  let signed := signOf (chars.dropWhile isSpace)
  let digits := signed.2.takeWhile isDigit
  if digits.length < signed.2.length then
    some (max (-2 ^ 63) (min (2 ^ 63 - 1) (signed.1 * digitsValue digits)))
  else none

def epicOfNumber (number : Int) : Version :=
  let version := (number % 2 ^ 32).toNat
  if 20210128 ≤ version ∧ version < 100000000 then EPIC_9_6_7
  else if 201507080 ≤ version then EPIC_9_2
  else if 200701120 ≤ version then EPIC_4_1
  else EPIC_2

def textTEST : CharString := [84, 69, 83, 84]
def textINFO : CharString := [73, 78, 70, 79]
def text200609280 : CharString := [50, 48, 48, 54, 48, 57, 50, 56, 48]
def textCreer : CharString := [67, 114, 101, 101, 114]

namespace AuthState

/-- The session's own state is `packetVersion`. -/
def onVersion (s : AuthState) (buildDate : UInt32) (c : Addr)
    (memory : List UInt8) : Option (Handled Version) :=
  let szVersion := memory.drop 7
  if textTEST.isPrefixOf szVersion then
    some ⟨s, EPIC_2, [Reply.versionResult c
      (UInt32.ofNat s.connectedClients.entries.length ^^^ 0xADADADAD)]⟩
  else if textINFO.isPrefixOf szVersion then
    some ⟨s, EPIC_2, [Reply.versionResult c (buildDate ^^^ 0xADADADAD)]⟩
  else if text200609280.isPrefixOf szVersion ||
      textCreer.isPrefixOf szVersion then
    some ⟨s, setMinimumPacketVersion EPIC_2 EPIC_2, []⟩
  else do
    let number <- strtol szVersion
    pure ⟨s, setMinimumPacketVersion EPIC_2 (epicOfNumber number), []⟩

/-- `TS_MESSAGE::process`: the handler only gets a packet of the right size. -/
def process (s : AuthState) (c : Addr) (packetVersion : Version)
    (memory : List UInt8) (type : ClientPacketType) (packet : PacketType) :
    Option (Handled Version) := do
  let result <- packet.deserialize packetVersion
    (MessageBuffer.create (memory.take (messageSize memory))) 0 Record.zero
  if result.1.checkPacketFinalSize then
    pure ⟨s, packetVersion,
      [Reply.called c type result.2.1 result.2.2]⟩
  else
    pure ⟨s, packetVersion, [Reply.output (Output.abortSession c)]⟩

/-- The handler that a packet of a client is for. -/
def handleClientPacket (buildDate : UInt32) (chance : Chance) (s : AuthState)
    (c : Addr) (packetVersion : Version) (memory : List UInt8) :
    ClientPacketType -> Option (Handled Version)
  | ClientPacketType.version => s.onVersion buildDate c memory
  | ClientPacketType.rsaPublicKey =>
      s.process c packetVersion memory ClientPacketType.rsaPublicKey
        TS_CA_RSA_PUBLIC_KEY
  | ClientPacketType.account =>
      s.process c packetVersion memory ClientPacketType.account TS_CA_ACCOUNT
  | ClientPacketType.imbcAccount =>
      s.process c packetVersion memory ClientPacketType.imbcAccount
        TS_CA_IMBC_ACCOUNT
  | ClientPacketType.serverList =>
      s.process c packetVersion memory ClientPacketType.serverList
        TS_CA_SERVER_LIST
  | ClientPacketType.selectServer =>
      (s.onSelectServer c (UInt32.ofNat (numberAt memory 7 4)).toUInt16
        chance.oneTimePassword).map (Handled.ofOutputs packetVersion)

/-- `ClientSession::onPacketReceived`, with what precedes it. -/
def onClientPacketReceived (buildDate : UInt32) (chance : Chance)
    (s : AuthState) (c : Addr) (packetVersion : Version)
    (memory : List UInt8) : Option (Handled Version) :=
  let packetVersion := preProcessPacketReceived packetVersion
    (messageId memory) (messageSize memory)
  match clientPacketType packetVersion (messageId memory) with
  | none => some ⟨s, packetVersion, []⟩
  | some type =>
      s.handleClientPacket buildDate chance c packetVersion memory type

end AuthState

end Auth
end Rzu
