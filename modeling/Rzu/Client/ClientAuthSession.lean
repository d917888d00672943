import Rzu.Converter.Login
import Rzu.Net.Stream

/-!
# Logins at the auth server

A client session sends its password under DES, or under AES with a key that the
server has encrypted for the RSA key of the client.  The sessions of a process
share that RSA key, and the last DES password that was encrypted.
-/

namespace Rzu
namespace Client

open Library Packet Auth Converter Net

/-- Ciphers, with the AES of `DB_Account`, which notices a wrong padding. -/
structure LoginCiphers extends Ciphers where
  evpDecrypt : List UInt8 -> List UInt8 -> Option (List UInt8)

structure LoginCiphers.Lawful (C : LoginCiphers) : Prop
    extends C.toCiphers.Lawful where
  evp : forall key data : List UInt8,
    C.evpDecrypt key (C.aesEncrypt key data) = some data

/-!
## Sessions of the client
-/

inductive AuthCipherMethod where
  | des
  | rsaAes
deriving DecidableEq

structure ClientAuthSession where
  packetVersion : Version
  currentState : StreamState
  cipherMethod : AuthCipherMethod
  username : Packet.CharString
  password : Packet.CharString

namespace ClientAuthSession

def create (packetVersion : Version) : ClientAuthSession where
  packetVersion := packetVersion
  currentState := StreamState.unconnected
  cipherMethod := AuthCipherMethod.des
  username := []
  password := []

/-- The credentials are replaced even where the stream is already in use. -/
def connect (session : ClientAuthSession)
    (account password : Packet.CharString) : ClientAuthSession :=
  { session with
    username := account
    password := password
    cipherMethod :=
      if atLeast EPIC_8_1_1_RSA session.packetVersion then
        AuthCipherMethod.rsaAes
      else AuthCipherMethod.des
    currentState :=
      if session.currentState = StreamState.unconnected then
        StreamState.connecting
      else session.currentState }

end ClientAuthSession

/-- What a session does next. -/
inductive Action where
  /-- `TS_CA_ACCOUNT` -/
  | account (accountMsg : Record)
  /-- `TS_CA_RSA_PUBLIC_KEY` -/
  | rsaPublicKey (key : List UInt8)
  /-- The code for the account is asked for with `curl`. -/
  | query (session : Packet.CharString)
  | close

/-- `memcpy` into the password of DES. -/
def desAccountMsg (accountMsg : Record) (username : Packet.CharString)
    (cachedPassword : List UInt8) : Record :=
  (accountMsg.setString "account" username).setObject "passwordDes"
    ((accountMsg.object "passwordDes").setArray "password"
      (arrayOfBytes cachedPassword))

/-- The other bytes of the array stay as they are. -/
def aesAccountMsg (packetVersion : Version) (accountMsg : Record)
    (username : Packet.CharString) (encryptedPassword : List UInt8) :
    Record :=
  let passwordAes := (accountMsg.object "passwordAes").setInteger
    "password_size" encryptedPassword.length
  (accountMsg.setObject "passwordAes"
    (if atLeast EPIC_9_6_7 packetVersion then
      passwordAes.setVector "password_dyn" (vectorOfBytes encryptedPassword)
    else
      passwordAes.setArray "password" (arrayOfBytes
        (copyOver encryptedPassword
          (bytesOfArray (passwordAes.array "password") 516))))).setString
    "account" username

/-- A code is sent with its NUL, and no size. -/
def boraAccountMsg (packetVersion : Version) (accountMsg : Record)
    (code : List UInt8) : Record :=
  let passwordAes := (accountMsg.object "passwordAes").setInteger
    "password_size" 0
  (accountMsg.setObject "passwordAes"
    (if atLeast EPIC_9_6_7 packetVersion then
      passwordAes.setVector "password_dyn" (vectorOfBytes (code ++ [0]))
    else
      passwordAes.setArray "password" (arrayOfBytes
        (copyOver (code ++ [0]) (List.replicate 516 0))))).setString
    "account" "bora".toUTF8.data.toList

/-- `strstr(location, "code=")`, and what comes behind it. -/
def codeOf : List UInt8 -> Option (List UInt8)
  | [] => none
  | c :: rest =>
      if "code=".toUTF8.data.toList.isPrefixOf (c :: rest) then
        some ((c :: rest).drop 5)
      else codeOf rest

variable (C : LoginCiphers)

structure Process where
  sessions : Nat -> ClientAuthSession
  rsaCipher : Option C.RsaKey
  cachedPassword : List UInt8
  cachedPasswordStr : Packet.CharString

namespace Process

variable {C}

def create (versions : Nat -> Version) : Process C where
  sessions i := ClientAuthSession.create (versions i)
  rsaCipher := none
  cachedPassword := List.replicate 61 0
  cachedPasswordStr := []

def setSession (p : Process C) (i : Nat) (session : ClientAuthSession) :
    Process C :=
  { p with sessions := Function.update p.sessions i session }

def setState (p : Process C) (i : Nat) (state : StreamState) : Process C :=
  p.setSession i { p.sessions i with currentState := state }

def connect (p : Process C) (i : Nat)
    (account password : Packet.CharString) : Process C :=
  p.setSession i ((p.sessions i).connect account password)

/-- A password is encrypted over the previous one, unless it is the same. -/
def cachePassword (p : Process C) (packetVersion : Version)
    (password : Packet.CharString) : Process C :=
  if p.cachedPasswordStr ≠ password then
    { p with
      cachedPassword := C.desEncryptBuffer
        (copyOver (cut password ++ [0]) p.cachedPassword)
        (if atLeast EPIC_5_2 packetVersion then 61 else 32)
      cachedPasswordStr := password }
  else p

/-- The key is generated for the first session that needs it. -/
def onConnected (p : Process C) (i : Nat) (generateKey : Option C.RsaKey)
    (accountMsg : Record) : Process C × Action :=
  let session := p.sessions i
  match session.cipherMethod with
  | AuthCipherMethod.des =>
      let p := p.cachePassword session.packetVersion session.password
      (p, Action.account
        (desAccountMsg accountMsg session.username p.cachedPassword))
  | AuthCipherMethod.rsaAes =>
      let p := { p with rsaCipher := p.rsaCipher.or generateKey }
      match p.rsaCipher with
      | some key => (p, Action.rsaPublicKey (C.pemPublicKey key))
      | none => (p, Action.close)

def clearPassword (p : Process C) (i : Nat) : Process C :=
  p.setSession i { p.sessions i with password := [] }

def onPacketAuthPasswordKey (p : Process C) (i : Nat) (data : List UInt8)
    (accountMsg : Record) : Process C × Action :=
  let session := p.sessions i
  match p.rsaCipher with
  | none => (p, Action.close)
  | some key =>
      let aesKey := C.privateDecrypt key data
      if aesKey.length ≠ 32 then (p, Action.close)
      else if session.username ≠ "bora".toUTF8.data.toList then
        let encryptedPassword := C.aesEncrypt aesKey session.password
        if 2147483647 < session.password.length ∨
            516 < encryptedPassword.length then
          (p, Action.close)
        else
          (p.clearPassword i, Action.account
            (aesAccountMsg session.packetVersion accountMsg session.username
              encryptedPassword))
      else (p.clearPassword i, Action.query session.password)

/-- The reply to a query; nothing, if it was no redirection. -/
def onRedirect (p : Process C) (i : Nat) (location : Option (List UInt8))
    (accountMsg : Record) : Action :=
  match location.bind codeOf with
  | some code => Action.account
      (boraAccountMsg (p.sessions i).packetVersion accountMsg code)
  | none => Action.close

end Process

/-!
## The server
-/

inductive EncryptMode where
  | none
  | des
  | aes
deriving DecidableEq

/-- `DB_AccountData::Input` -/
structure Input where
  account : Packet.CharString
  cryptedPassword : List UInt8
  cryptMode : EncryptMode
  aesKey : List UInt8

/-- The query for an account, unless the session waits for one. -/
def onAccount (packetVersion : Version) (aesKey : List UInt8)
    (inProgress : Bool) (packet : Record) : Option Input :=
  let passwordAes := packet.object "passwordAes"
  let passwordSize := passwordAes.integer "password_size"
  let cryptedPassword :=
    if atLeast EPIC_9_6_7 packetVersion then
      let password := bytesOfVector (passwordAes.vector "password_dyn")
      if passwordSize ≠ 0 ∧ passwordSize < password.length then
        password.take passwordSize.toNat
      else password
    else if atLeast EPIC_8_1_1_RSA packetVersion then
      (bytesOfArray (passwordAes.array "password") 516).take
        (int32.cast passwordSize).toNat
    else bytesOfArray ((packet.object "passwordDes").array "password") 61
  if inProgress then none
  else some
    { account := packet.string "account"
      cryptedPassword := cryptedPassword
      cryptMode :=
        if atLeast EPIC_8_1_1_RSA packetVersion then EncryptMode.aes
        else EncryptMode.des
      aesKey := aesKey }

/-- The password that is hashed, as a C string in a buffer of 80 bytes. -/
def decryptPassword (input : Input) : Option Packet.CharString :=
  match input.cryptMode with
  | EncryptMode.aes =>
      if input.cryptedPassword.length > 80 - 16 then none
      else do
        let password <- C.evpDecrypt input.aesKey (input.cryptedPassword.take
          (input.cryptedPassword.length / 16 * 16))
        if password.length ≥ 80 then none else some (cut password)
  | EncryptMode.none =>
      if input.cryptedPassword.length ≥ 80 then none
      else some (cut input.cryptedPassword)
  | EncryptMode.des =>
      if input.cryptedPassword.length ≥ 80 then none
      else some (cut (C.desDecryptBuffer input.cryptedPassword
        input.cryptedPassword.length))

/-- The password that the server reads in an account packet. -/
def serverPassword (packetVersion : Version) (aesKey : List UInt8)
    (memory : Record) (bytes : List UInt8) : Option Packet.CharString := do
  let packet <- (process TS_CA_ACCOUNT packetVersion bytes memory).join
  let input <- onAccount packetVersion aesKey false packet
  decryptPassword C input

/-!
## Client and server
-/

structure AesKey where
  bytes : List UInt8
  size : bytes.length = 32

/-- The local packets of both ends, and the memory that a packet goes to. -/
structure Around where
  accountMsg : Record
  packet : Record
  garbage : Nat -> UInt8
  accountMsg_unassigned : Struct.Unassigned TS_CA_ACCOUNT.fields accountMsg
  packet_unassigned : Struct.Unassigned TS_CA_ACCOUNT.fields packet

/--
A process of the client, the public keys that the sessions of the server have
got and not answered, their keys, and the sessions that wait for a code.
-/
structure Logins where
  process : Process C
  publicKey : Nat -> Option (List UInt8)
  aesKey : Nat -> List UInt8
  queries : Nat -> Bool

inductive Event where
  | connect (i : Nat) (account password : Packet.CharString)
  | onConnected (i : Nat) (generateKey : Option C.RsaKey) (around : Around)
  /-- The server answers a public key, and the client its answer. -/
  | onPacketAuthPasswordKey (i : Nat) (aesKey : AesKey) (around : Around)
  | onRedirect (i : Nat) (location : Option (List UInt8)) (around : Around)
  | onDisconnected (i : Nat)

inductive Observation where
  | given (i : Nat) (account password : Packet.CharString)
  /-- What the server makes of an account packet of this account. -/
  | checked (i : Nat) (account : Packet.CharString)
      (password : Option Packet.CharString)
deriving DecidableEq

namespace Logins

variable {C}

def create (versions : Nat -> Version) : Logins C where
  process := Process.create versions
  publicKey _ := none
  aesKey _ := []
  queries _ := false

/-- An action of a session reaches the server. -/
def perform (s : Logins C) (i : Nat) (around : Around) :
    Action -> Logins C × List Observation
  | Action.account accountMsg =>
      let version := (s.process.sessions i).packetVersion
      (s, [Observation.checked i (accountMsg.string "account")
        ((sendBytes TS_CA_ACCOUNT version accountMsg around.garbage).bind
          (serverPassword C version (s.aesKey i) around.packet))])
  | Action.rsaPublicKey key =>
      ({ s with publicKey := Function.update s.publicKey i (some key) }, [])
  | Action.query _ =>
      ({ s with queries := Function.update s.queries i true }, [])
  | Action.close =>
      ({ s with process := s.process.setState i StreamState.closing }, [])

def isConnected (s : Logins C) (i : Nat) : Bool :=
  decide ((s.process.sessions i).currentState = StreamState.connected)

def answered (s : Logins C) (i : Nat) : Logins C :=
  { s with queries := Function.update s.queries i false }

def next (s : Logins C) :
    Event C -> Option (Logins C × List Observation)
  | Event.connect i account password =>
      some ({ s with process := s.process.connect i account password },
        [Observation.given i account password])
  | Event.onConnected i generateKey around =>
      if (s.process.sessions i).currentState = StreamState.connecting then
        let result := (s.process.setState i StreamState.connected).onConnected
          i generateKey around.accountMsg
        some ({ s with process := result.1 }.perform i around result.2)
      else none
  | Event.onPacketAuthPasswordKey i aesKey around =>
      match s.publicKey i with
      | some key =>
          if s.isConnected i = true then
            let result := s.process.onPacketAuthPasswordKey i
              (C.publicEncrypt key aesKey.bytes) around.accountMsg
            some ({ s with
              process := result.1
              publicKey := Function.update s.publicKey i none
              aesKey := Function.update s.aesKey i aesKey.bytes
              }.perform i around result.2)
          else none
      | none => none
  | Event.onRedirect i location around =>
      if s.queries i = true then
        -- without a connection, the packet is dropped
        if s.isConnected i = true then
          some ((s.answered i).perform i around
            (s.process.onRedirect i location around.accountMsg))
        else some (s.answered i, [])
      else none
  | Event.onDisconnected i =>
      some ({ s with
        process := s.process.setState i StreamState.unconnected
        publicKey := Function.update s.publicKey i none }, [])

end Logins

variable {C}

def Step (s : Logins C) (l : Event C × List Observation)
    (s' : Logins C) : Prop :=
  s.next l.1 = some (s', l.2)

end Client
end Rzu
