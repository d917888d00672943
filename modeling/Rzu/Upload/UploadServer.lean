import Mathlib.Logic.Function.Basic
import Rzu.Auth.State
import Rzu.Library.Decimal

/-!
# The upload server

Game servers announce uploads of their players, clients then send the images.
Sessions are kept by address and refer to each other as the raw pointers of
the server do.
-/

namespace Rzu
namespace Upload

open Auth (Addr CharString convertToString)

structure GameServerSession where
  serverName : CharString
deriving DecidableEq

structure UploadRequest where
  gameServer : Addr
  clientId : UInt32
  accountId : UInt32
  guildSid : UInt32
  oneTimePassword : UInt32
  timestamp : Int64
deriving DecidableEq

structure ClientSession where
  currentRequest : Option UploadRequest
deriving DecidableEq

structure UploadState where
  gameSessions : Addr -> Option GameServerSession
  clientSessions : Addr -> Option ClientSession
  servers : CharString -> Option Addr
  pendingRequests : UInt32 -> Option UploadRequest

inductive ResultCode where
  | success
  | notExist
  | alreadyExist
  | accessDenied
  | invalidArgument
  | limitMax
  | invalidText
deriving DecidableEq, Repr

inductive Output where
  | serverLoginResult (x : Addr) (result : ResultCode)
  | requestUploadResult (x : Addr) (result : ResultCode)
  | uploaded (x : Addr) (guildId fileSize : UInt32) (fileName : CharString)
  | loginResult (c : Addr) (result : ResultCode)
  | uploadResult (c : Addr) (result : ResultCode)
deriving DecidableEq

/-!
## Packets
-/

/-- `TS_SU_REQUEST_UPLOAD`, without its type, which nothing reads. -/
structure RequestUpload where
  clientId : UInt32
  accountId : UInt32
  guildSid : UInt32
  oneTimePassword : UInt32
deriving DecidableEq

/-- `TS_CU_LOGIN` -/
structure ClientLogin where
  clientId : UInt32
  accountId : UInt32
  guildId : UInt32
  oneTimePassword : UInt32
  rawServerName : Vector UInt8 32
deriving DecidableEq

/-- `TS_CU_UPLOAD` -/
structure UploadPacket where
  size : UInt32
  fileLength : UInt32
  fileContents : List UInt8
deriving DecidableEq

/-- `sizeof(TS_CU_UPLOAD)`, without the file. -/
def uploadPacketSize : Nat := 11

/-- The fields of `struct tm` that file names are made of. -/
structure TimeInfo where
  tmYear : Int
  tmMon : Int
  tmMday : Int
  tmHour : Int
  tmMin : Int
  tmSec : Int
deriving DecidableEq

inductive FileOutcome where
  | cannotOpen
  | cannotWrite
  | written
deriving DecidableEq

/-- `IconServerSession::checkName` -/
def checkName (filename : CharString) : Bool :=
  filename.all fun c =>
    (48 ≤ c && c ≤ 57) || (65 ≤ c && c ≤ 90) || (97 ≤ c && c ≤ 122) ||
      c == 95 || c == 46

def checkJpegImage (length : UInt32) (data : List UInt8) : Bool :=
  2 ≤ length && data[0]? == some 0xff && data[1]? == some 0xd8

def chars (text : String) : CharString :=
  text.toList.map fun c => c.toNat.toUInt8

/-- `%0*d` -/
def zeroPadded (width : Nat) (number : Int) : CharString :=
  let digits := chars (toString number.natAbs)
  if number < 0 then
    45 :: (List.replicate (width - 1 - digits.length) 48 ++ digits)
  else
    List.replicate (width - digits.length) 48 ++ digits

theorem length_chars_toString (n : Nat) :
    (chars (toString n)).length = Library.digitCount n := by
  rw [chars, List.length_map, Library.length_toString]

theorem length_zeroPadded (width : Nat) (number : Int) :
    (zeroPadded width number).length =
      max width (Library.signedDigitCount number) := by
  rw [zeroPadded, Library.signedDigitCount]
  split
  · rw [List.length_cons, List.length_append, List.length_replicate,
      length_chars_toString]
    lia
  · rw [List.length_append, List.length_replicate, length_chars_toString]
    lia

/-- The last byte of the buffer is for the terminating zero. -/
def filenameSize : Nat := 128

/-- `"%s_%010d_%02d%02d%02d_%02d%02d%02d.jpg"` -/
def uploadFilename (name : CharString) (guildId : UInt32)
    (timeinfo : TimeInfo) : CharString :=
  (name ++ chars "_" ++ zeroPadded 10 guildId.toInt32.toInt ++ chars "_" ++
    zeroPadded 2 (timeinfo.tmYear.tmod 100) ++
    zeroPadded 2 timeinfo.tmMon ++ zeroPadded 2 timeinfo.tmMday ++
    chars "_" ++ zeroPadded 2 timeinfo.tmHour ++
    zeroPadded 2 timeinfo.tmMin ++ zeroPadded 2 timeinfo.tmSec ++
    chars ".jpg").take (filenameSize - 1)

namespace UploadState

/-- The server before anything connects to it. -/
def initial : UploadState where
  gameSessions _ := none
  clientSessions _ := none
  servers _ := none
  pendingRequests _ := none

def setGameSession (s : UploadState) (x : Addr)
    (session : GameServerSession) : UploadState :=
  { s with gameSessions := Function.update s.gameSessions x (some session) }

def setClientSession (s : UploadState) (c : Addr)
    (session : ClientSession) : UploadState :=
  { s with
    clientSessions := Function.update s.clientSessions c (some session) }

/-!
## Requests
-/

/-- `UploadRequest::pushRequest`: an old request keeps its game server. -/
def pushRequest (s : UploadState) (gameServer : Addr)
    (packet : RequestUpload) (now : Int64) : UploadState :=
  let request : UploadRequest :=
    match s.pendingRequests packet.clientId with
    | some oldRequest =>
        { oldRequest with
          oneTimePassword := packet.oneTimePassword
          timestamp := now }
    | none =>
        { gameServer := gameServer
          clientId := packet.clientId
          accountId := packet.accountId
          guildSid := packet.guildSid
          oneTimePassword := packet.oneTimePassword
          timestamp := now }
  { s with
    pendingRequests :=
      Function.update s.pendingRequests packet.clientId (some request) }

/--
`UploadRequest::popRequest`: the name of the game server is only read if all
else matches.
-/
def popRequest (s : UploadState) (packet : ClientLogin) :
    Option (UploadState × Option UploadRequest) :=
  match s.pendingRequests packet.clientId with
  | none => some (s, none)
  | some request =>
      if request.accountId = packet.accountId ∧
          request.guildSid = packet.guildId ∧
          request.oneTimePassword = packet.oneTimePassword then do
        let gameServer <- s.gameSessions request.gameServer
        if gameServer.serverName =
            convertToString packet.rawServerName.toList 31 then
          pure ({ s with
            pendingRequests :=
              Function.update s.pendingRequests packet.clientId none },
            some request)
        else
          pure (s, none)
      else
        some (s, none)

/-- `UploadRequest::removeServer` -/
def removeServer (s : UploadState) (server : Addr) : UploadState :=
  { s with
    pendingRequests := fun clientId =>
      (s.pendingRequests clientId).filter fun request =>
        request.gameServer ≠ server }

/-!
## Game server sessions
-/

def gameConnected (s : UploadState) (x : Addr) : Option UploadState :=
  if s.gameSessions x = none then
    some (s.setGameSession x { serverName := [] })
  else none

/-- `GameServerSession::onLogin` -/
def serverLogin (s : UploadState) (x : Addr)
    (rawServerName : Vector UInt8 21) :
    Option (UploadState × List Output) := do
  let _ <- s.gameSessions x
  let serverName := convertToString rawServerName.toList 20
  if checkName serverName then
    match s.servers serverName with
    | none =>
        let registered : UploadState :=
          { s with
            servers := Function.update s.servers serverName (some x) }
        pure (registered.setGameSession x { serverName := serverName },
          [Output.serverLoginResult x ResultCode.success])
    | some _ =>
        pure (s, [Output.serverLoginResult x ResultCode.alreadyExist])
  else
    pure (s, [Output.serverLoginResult x ResultCode.invalidText])

def onRequestUpload (s : UploadState) (x : Addr) (packet : RequestUpload)
    (now : Int64) : Option (UploadState × List Output) := do
  let _ <- s.gameSessions x
  pure (s.pushRequest x packet now,
    [Output.requestUploadResult x ResultCode.success])

/-- `GameServerSession::~GameServerSession` -/
def gameDisconnected (s : UploadState) (x : Addr) : Option UploadState := do
  let session <- s.gameSessions x
  let forgotten : UploadState :=
    if session.serverName = [] then s
    else
      let erased : UploadState :=
        { s with
          servers := Function.update s.servers session.serverName none }
      erased.removeServer x
  pure { forgotten with
    gameSessions := Function.update forgotten.gameSessions x none }

/-!
## Client sessions
-/

def clientConnected (s : UploadState) (c : Addr) : Option UploadState :=
  if s.clientSessions c = none then
    some (s.setClientSession c { currentRequest := none })
  else none

/-- `ClientSession::onLogin`: a request that was open before is lost. -/
def clientLogin (s : UploadState) (c : Addr) (packet : ClientLogin) :
    Option (UploadState × List Output) := do
  let _ <- s.clientSessions c
  let (popped, request) <- s.popRequest packet
  pure (popped.setClientSession c { currentRequest := request },
    [Output.loginResult c
      (if request.isSome then ResultCode.success else ResultCode.notExist)])

/-- What is sent once the file name is known; the request is done with. -/
def uploadFile (s : UploadState) (c : Addr) (request : UploadRequest)
    (fileLength : UInt32) (filename : CharString) (file : FileOutcome) :
    UploadState × List Output :=
  (s.setClientSession c { currentRequest := none },
    match file with
    | FileOutcome.written =>
        [Output.uploaded request.gameServer request.guildSid fileLength
            filename,
          Output.uploadResult c ResultCode.success]
    | _ => [Output.uploadResult c ResultCode.accessDenied])

/-- `ClientSession::onUpload` -/
def onUpload (s : UploadState) (c : Addr) (packet : UploadPacket)
    (timeinfo : TimeInfo) (file : FileOutcome) :
    Option (UploadState × List Output) := do
  let session <- s.clientSessions c
  match session.currentRequest with
  | none => pure (s, [Output.uploadResult c ResultCode.notExist])
  | some request =>
      if packet.size.toNat ≠ packet.fileLength.toNat + uploadPacketSize then
        pure (s, [Output.uploadResult c ResultCode.invalidArgument])
      else if 64000 < packet.fileLength then
        pure (s, [Output.uploadResult c ResultCode.limitMax])
      else if ¬checkJpegImage packet.fileLength packet.fileContents then
        pure (s, [Output.uploadResult c ResultCode.invalidArgument])
      else do
        let gameServer <- s.gameSessions request.gameServer
        if filenameSize / 2 < gameServer.serverName.length then
          pure (s, [Output.uploadResult c ResultCode.invalidText])
        else
          pure (s.uploadFile c request packet.fileLength
            (uploadFilename gameServer.serverName request.guildSid timeinfo)
            file)

/-- `ClientSession::~ClientSession` -/
def clientDisconnected (s : UploadState) (c : Addr) : Option UploadState := do
  let _ <- s.clientSessions c
  pure { s with
    clientSessions := Function.update s.clientSessions c none }

end UploadState

/-!
## Events
-/

/-- What the sessions of both kinds can see, at any time and in any order. -/
inductive Event where
  | gameConnected (x : Addr)
  | serverLogin (x : Addr) (rawServerName : Vector UInt8 21)
  | requestUpload (x : Addr) (packet : RequestUpload) (now : Int64)
  | gameDisconnected (x : Addr)
  | clientConnected (c : Addr)
  | clientLogin (c : Addr) (packet : ClientLogin)
  | upload (c : Addr) (packet : UploadPacket) (timeinfo : TimeInfo)
      (file : FileOutcome)
  | clientDisconnected (c : Addr)
deriving DecidableEq

namespace UploadState

def handle (s : UploadState) : Event -> Option (UploadState × List Output)
  | Event.gameConnected x => (s.gameConnected x).map fun s' => (s', [])
  | Event.serverLogin x rawServerName => s.serverLogin x rawServerName
  | Event.requestUpload x packet now => s.onRequestUpload x packet now
  | Event.gameDisconnected x => (s.gameDisconnected x).map fun s' => (s', [])
  | Event.clientConnected c => (s.clientConnected c).map fun s' => (s', [])
  | Event.clientLogin c packet => s.clientLogin c packet
  | Event.upload c packet timeinfo file => s.onUpload c packet timeinfo file
  | Event.clientDisconnected c =>
      (s.clientDisconnected c).map fun s' => (s', [])

end UploadState

end Upload
end Rzu
