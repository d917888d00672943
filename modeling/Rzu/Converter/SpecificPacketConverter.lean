import Rzu.Auth.ClientPackets

/-!
# Specific conversions of auth packets

The packets of the auth protocol that the version converter of the filter does
not convert field by field.
-/

namespace Rzu
namespace Converter

open Library Packet Auth

/-!
## Packets
-/

def EPIC_5_1 : Version := 0x050100
def EPIC_8_1 : Version := 0x080100
def EPIC_9_4 : Version := 0x090400

/--
`getPacketVersion() >= epic` of an endpoint: the version is an `int`, and its
flags are compared as well.
-/
def intAtLeast (epic version : Version) : Bool :=
  decide (epic.toInt32 ≤ version.toInt32)

def TS_CA_VERSION : PacketType where
  getId _ := 10001
  fields :=
    Struct.field "szVersion" always (Metatype.string 20 none) Struct.nil

def TS_AC_AES_KEY_IV : PacketType where
  getId version := if atLeast EPIC_9_6_3 version then 1072 else 72
  fields :=
    Struct.field "data" always (Metatype.count uint32 Container.vector none)
      (Struct.field "data" always (Metatype.dynarray uint8 uint8) Struct.nil)

def TS_AC_ACCOUNT_NAME : PacketType where
  getId _ := 10014
  fields :=
    Struct.field "account" (since EPIC_9_6_6) (Metatype.string 64 none)
      (Struct.field "account" (upTo EPIC_9_6_6) (Metatype.string 61 none)
        (Struct.field "user_no" always (Metatype.simple uint32 uint32 none)
          (Struct.field "unknown" always (Metatype.simple uint32 uint32 none)
            (Struct.field "usertoken" (since EPIC_9_6_3)
              (Metatype.endstring true none) Struct.nil))))

def TS_AC_SELECT_SERVER : PacketType where
  getId _ := 10024
  fields :=
    Struct.field "result" always (Metatype.simple uint16 uint16 none)
      (Struct.field "one_time_key" (upTo EPIC_8_1_1_RSA)
        (Metatype.simple int64 int64 none)
        (Struct.field "encrypted_data_size" (since EPIC_8_1_1_RSA)
          (Metatype.simple int32 int32 none)
          (Struct.field "encrypted_data" (since EPIC_8_1_1_RSA)
            (Metatype.array uint8 uint8 24 none)
            (Struct.field "pending_time" always
              (Metatype.simple uint32 uint32 none) Struct.nil))))

def TS_AC_RESULT : PacketType where
  getId _ := 10000
  fields :=
    Struct.field "request_msg_id" always (Metatype.simple uint16 uint16 none)
      (Struct.field "result" always (Metatype.simple uint16 uint16 none)
        (Struct.field "login_flag" always (Metatype.simple int32 int32 none)
          Struct.nil))

def TS_AC_RESULT_WITH_STRING : PacketType where
  getId _ := 10002
  fields :=
    Struct.field "request_msg_id" always (Metatype.simple uint16 uint16 none)
      (Struct.field "result" always (Metatype.simple uint16 uint16 none)
        (Struct.field "login_flag" always (Metatype.simple int32 int32 none)
          (Struct.field "string" always
            (Metatype.count int32 (Container.string false) none)
            (Struct.field "string" always (Metatype.dynstring false none)
              Struct.nil))))

/-!
## Ciphers
-/

/--
What the ciphers make of their input.  The functions of OpenSSL are not part of
the repository: DES works on a block of eight bytes with the key of `MERONG`, a
key of AES is the 32 bytes of `AesPasswordCipher::key`, and RSA encrypts with
the text of a public key.
-/
structure Ciphers where
  desEncrypt : List UInt8 -> List UInt8
  desDecrypt : List UInt8 -> List UInt8
  aesEncrypt : List UInt8 -> List UInt8 -> List UInt8
  aesDecrypt : List UInt8 -> List UInt8 -> List UInt8
  RsaKey : Type
  pemPublicKey : RsaKey -> List UInt8
  publicEncrypt : List UInt8 -> List UInt8 -> List UInt8
  privateDecrypt : RsaKey -> List UInt8 -> List UInt8

/-- `DesPasswordCipher`: whole blocks are replaced, what is left stays. -/
def desCrypt (cryptBlock : List UInt8 -> List UInt8) :
    Nat -> List UInt8 -> List UInt8
  | 0, buf => buf
  | blocks + 1, buf =>
      cryptBlock (buf.take 8) ++ desCrypt cryptBlock blocks (buf.drop 8)

namespace Ciphers

variable (C : Ciphers)

def desEncryptBuffer (buf : List UInt8) (len : Nat) : List UInt8 :=
  desCrypt C.desEncrypt (len / 8) buf

def desDecryptBuffer (buf : List UInt8) (len : Nat) : List UInt8 :=
  desCrypt C.desDecrypt (len / 8) buf

end Ciphers

/-!
## Bytes of members
-/

def bytesOfArray (val : Nat -> Int) (size : Nat) : List UInt8 :=
  (List.range size).map fun i => UInt8.ofNat (val i).toNat

def arrayOfBytes (bytes : List UInt8) (i : Nat) : Int :=
  ((bytes.getD i 0).toNat : Int)

def bytesOfVector (val : List Int) : List UInt8 :=
  val.map fun c => UInt8.ofNat c.toNat

def vectorOfBytes (bytes : List UInt8) : List Int :=
  bytes.map fun c => (c.toNat : Int)

/-- `memcpy` of as much as fits. -/
def copyOver (data old : List UInt8) : List UInt8 :=
  data.take old.length ++ old.drop data.length

/-- `resize` to at least so many bytes. -/
def resizeAtLeast (size : Nat) (bytes : List UInt8) : List UInt8 :=
  bytes ++ List.replicate (size - bytes.length) 0

/-!
## State
-/

/-- The login that waits for the key of the server. -/
structure PendingAccount where
  useImbc : Bool
  account : Packet.CharString
  password : List UInt8
  additionalInfos : List Record
  isBoraAccount : Bool

structure SpecificPacketConverter (C : Ciphers) where
  clientAesCipher : List UInt8
  serverAesCipher : List UInt8
  serverRsaCipher : Option C.RsaKey
  account : PendingAccount

inductive SessionType where
  | authClient
  | gameClient
deriving DecidableEq

/--
What a call finds outside the converter: the memory of its local packets, the
keys that it generates, the configured version, and the conversion of packet
identifiers, which is generated code.
-/
structure Surroundings (C : Ciphers) where
  pkt : Record
  aesPkt : Record
  rsaKeyPkt : Record
  accountPkt : Record
  resultPkt : Record
  randomKey : List UInt8
  generatedKey : C.RsaKey
  authVersionString : Version -> Packet.CharString
  convertPacketId : SessionType -> Version -> Int -> Version -> Int

inductive Side where
  | client
  | server
deriving DecidableEq

structure Sent where
  side : Side
  packet : PacketType
  fields : Record

/-- What becomes of a packet, and if the generic conversion gets it as well. -/
structure Conversion (C : Ciphers) where
  converter : SpecificPacketConverter C
  sent : List Sent
  forward : Bool

/-- `packet->process(pkt, version)`, into what the memory of `pkt` holds. -/
def process (packet : PacketType) (version : Version) (bytes : List UInt8)
    (pkt : Record) : Option (Option Record) := do
  let result <- packet.deserialize version (MessageBuffer.create bytes) 0 pkt
  if result.1.checkPacketFinalSize then pure (some result.2.2)
  else pure none

def isNormalVersion (version : Packet.CharString) : Bool :=
  version.all fun c => decide (48 ≤ c) && decide (c ≤ 57)

namespace SpecificPacketConverter

variable {C : Ciphers} (client server : Version) (around : Surroundings C)

/-!
## Packets of clients
-/

def onVersion (s : SpecificPacketConverter C) (pkt : Record) : Conversion C :=
  let pkt :=
    if isNormalVersion (pkt.string "szVersion") then
      pkt.setString "szVersion" (around.authVersionString server)
    else pkt
  ⟨s, [⟨Side.server, TS_CA_VERSION, pkt⟩], false⟩

def onRsaPublicKey (s : SpecificPacketConverter C) (pkt : Record) :
    Conversion C :=
  let aesPkt := around.aesPkt.setVector "data"
    (vectorOfBytes (C.publicEncrypt (bytesOfVector (pkt.vector "key"))
      around.randomKey))
  ⟨{ s with clientAesCipher := around.randomKey },
    [⟨Side.client, TS_AC_AES_KEY_IV, aesPkt⟩], false⟩

/-- The server is asked for its key, and the login waits. -/
def askForKey (s : SpecificPacketConverter C) (account : PendingAccount) :
    Conversion C :=
  let key := s.serverRsaCipher.getD around.generatedKey
  ⟨{ s with serverRsaCipher := some key, account := account },
    [⟨Side.server, TS_CA_RSA_PUBLIC_KEY,
      around.rsaKeyPkt.setVector "key"
        (vectorOfBytes (C.pemPublicKey key))⟩], false⟩

/-- The encrypted password of a `TS_CA_ACCOUNT`. -/
def accountPassword (pkt : Record) : List UInt8 :=
  let passwordAes := pkt.object "passwordAes"
  if intAtLeast EPIC_9_6_7 client then
    bytesOfVector (passwordAes.vector "password_dyn")
  else bytesOfArray (passwordAes.array "password") 516

def isBora (pkt : Record) : Bool :=
  decide (pkt.string "account" = "bora".toUTF8.data.toList) &&
    decide ((pkt.object "passwordAes").integer "password_size" = 0)

/-- What `pkt` and the password are, when both passwords have been read. -/
def decryptAccount (s : SpecificPacketConverter C) (pkt : Record) :
    Record × List UInt8 :=
  if intAtLeast EPIC_8_1_1_RSA client then
    let passwordAes := pkt.object "passwordAes"
    let pktPassword := accountPassword client pkt
    let pkt :=
      if intAtLeast EPIC_9_6_7 client then
        pkt.setObject "passwordAes" (passwordAes.setVector "password_dyn" [])
      else pkt
    if isBora pkt then (pkt, pktPassword)
    else
      (pkt, C.aesDecrypt s.clientAesCipher
        (pktPassword.take (passwordAes.integer "password_size").toNat))
  else
    let passwordDes := pkt.object "passwordDes"
    let size := if intAtLeast EPIC_5_1 client then 61 else 32
    let plain := C.desDecryptBuffer
      (bytesOfArray (passwordDes.array "password") 61) size
    (pkt.setObject "passwordDes"
        (passwordDes.setArray "password" (arrayOfBytes plain)),
      (plain.take size).takeWhile (· ≠ 0))

def onAccount (s : SpecificPacketConverter C) (pkt : Record) :
    Conversion C :=
  let bora := intAtLeast EPIC_8_1_1_RSA client && isBora pkt
  let decrypted := decryptAccount client s pkt
  let pkt := decrypted.1
  if intAtLeast EPIC_8_1_1_RSA server then
    s.askForKey around
      { useImbc := false
        account := pkt.string "account"
        password := decrypted.2
        additionalInfos := pkt.objectVector "additionalInfos"
        isBoraAccount := bora }
  else
    let size := if intAtLeast EPIC_5_1 server then 61 else 32
    let password := C.desEncryptBuffer
      (copyOver decrypted.2 (List.replicate 61 0)) size
    let pkt := pkt.setObject "passwordDes"
      ((pkt.object "passwordDes").setArray "password" (arrayOfBytes password))
    ⟨{ s with account := { s.account with
        useImbc := false
        isBoraAccount := bora } },
      [⟨Side.server, TS_CA_ACCOUNT, pkt⟩], false⟩

def decryptImbcAccount (s : SpecificPacketConverter C) (pkt : Record) :
    List UInt8 :=
  if intAtLeast EPIC_8_1_1_RSA client then
    let passwordAes := pkt.object "passwordAes"
    C.aesDecrypt s.clientAesCipher
      ((bytesOfVector (passwordAes.vector "password")).take
        (passwordAes.integer "password_size").toNat)
  else bytesOfArray ((pkt.object "passwordPlain").array "password") 48

/-- A password without encryption is copied over what the member holds. -/
def onImbcAccount (s : SpecificPacketConverter C) (pkt : Record) :
    Conversion C :=
  let plainPassword := decryptImbcAccount client s pkt
  if intAtLeast EPIC_8_1_1_RSA server then
    s.askForKey around
      { s.account with
        useImbc := true
        account := pkt.string "account"
        password := plainPassword }
  else
    let passwordPlain := pkt.object "passwordPlain"
    let pkt := pkt.setObject "passwordPlain"
      (passwordPlain.setArray "password" (arrayOfBytes
        (copyOver plainPassword
          (bytesOfArray (passwordPlain.array "password") 48))))
    ⟨{ s with account := { s.account with useImbc := true } },
      [⟨Side.server, TS_CA_IMBC_ACCOUNT, pkt⟩], false⟩

/-!
## Packets of servers
-/

/-- `privateDecrypt` of the key of the server: nothing without a key. -/
def receivedKey (s : SpecificPacketConverter C) (data : List UInt8) :
    List UInt8 :=
  match s.serverRsaCipher with
  | some key => C.privateDecrypt key data
  | none => []

/-- The cipher of the server takes a key of the right size only. -/
def withServerKey (s : SpecificPacketConverter C) (data : List UInt8) :
    SpecificPacketConverter C :=
  let aesKey := s.receivedKey data
  if aesKey.length = 32 then { s with serverAesCipher := aesKey } else s

def clearPassword (s : SpecificPacketConverter C) :
    SpecificPacketConverter C :=
  { s with account := { s.account with
      password := List.replicate s.account.password.length 0 } }

def imbcAccountPkt (s : SpecificPacketConverter C) : Record :=
  let encrypted := C.aesEncrypt s.serverAesCipher s.account.password
  let passwordAes := around.accountPkt.object "passwordAes"
  (around.accountPkt.setString "account" s.account.account).setObject
    "passwordAes"
    ((passwordAes.setInteger "password_size" encrypted.length).setVector
      "password" (vectorOfBytes (resizeAtLeast 64 encrypted)))

def setAccountPassword (passwordAes : Record) (size : Nat)
    (password : List UInt8) : Record :=
  let passwordAes := passwordAes.setInteger "password_size" size
  if intAtLeast EPIC_9_6_7 server then
    passwordAes.setVector "password_dyn"
      (vectorOfBytes (resizeAtLeast 64 password))
  else
    passwordAes.setArray "password"
      (arrayOfBytes (copyOver password (List.replicate 516 0)))

def accountPkt (s : SpecificPacketConverter C) : Record :=
  let pkt := (around.accountPkt.setString "account"
    s.account.account).setObjectVector "additionalInfos"
      s.account.additionalInfos
  let passwordAes := pkt.object "passwordAes"
  pkt.setObject "passwordAes"
    (if s.account.isBoraAccount then
      setAccountPassword server passwordAes 0 s.account.password
    else
      let encrypted := C.aesEncrypt s.serverAesCipher s.account.password
      setAccountPassword server passwordAes encrypted.length encrypted)

def onAesKeyIv (s : SpecificPacketConverter C) (pkt : Record) :
    Conversion C :=
  let data := bytesOfVector (pkt.vector "data")
  if s.account.useImbc then
    let s := s.withServerKey data
    ⟨s.clearPassword,
      [⟨Side.server, TS_CA_IMBC_ACCOUNT, s.imbcAccountPkt around⟩], false⟩
  else
    let s := if s.account.isBoraAccount then s else s.withServerKey data
    ⟨s.clearPassword,
      [⟨Side.server, TS_CA_ACCOUNT, s.accountPkt server around⟩], false⟩

/-- The first eight bytes as an `uint64_t`; zero if there are fewer. -/
def otpOfBytes (plainOTP : List UInt8) : Int :=
  if 8 ≤ plainOTP.length then (leNat (plainOTP.take 8) : Int) else 0

def receivedOtp (s : SpecificPacketConverter C) (pkt : Record) : Int :=
  if intAtLeast EPIC_8_1_1_RSA server then
    let data := bytesOfArray (pkt.array "encrypted_data") 24
    otpOfBytes (C.aesDecrypt s.serverAesCipher
      (data.take (pkt.integer "encrypted_data_size").toNat))
  else uint64.cast (pkt.integer "one_time_key")

def onSelectServer (s : SpecificPacketConverter C) (pkt : Record) :
    Conversion C :=
  let otp := receivedOtp server s pkt
  let pkt :=
    if intAtLeast EPIC_8_1_1_RSA client then
      let encryptedOTP := C.aesEncrypt s.clientAesCipher (uint64.encode otp)
      (pkt.setArray "encrypted_data" (arrayOfBytes
        (copyOver encryptedOTP
          (bytesOfArray (pkt.array "encrypted_data") 24)))).setInteger
        "encrypted_data_size" encryptedOTP.length
    else pkt.setInteger "one_time_key" (int64.cast otp)
  ⟨s, [⟨Side.client, TS_AC_SELECT_SERVER, pkt⟩], false⟩

def convertRequestId (sessionType : SessionType) (pkt : Record) : Record :=
  pkt.setInteger "request_msg_id" (around.convertPacketId sessionType server
    (pkt.integer "request_msg_id") client)

def onResult (s : SpecificPacketConverter C) (pkt : Record) : Conversion C :=
  ⟨s, [⟨Side.client, TS_AC_RESULT,
    convertRequestId client server around SessionType.authClient pkt⟩],
    false⟩

def onResultWithString (s : SpecificPacketConverter C) (pkt : Record) :
    Conversion C :=
  if intAtLeast EPIC_8_1 client then
    ⟨s, [⟨Side.client, TS_AC_RESULT_WITH_STRING,
      convertRequestId client server around SessionType.authClient pkt⟩],
      false⟩
  else
    let resultPkt := around.resultPkt.setInteger "request_msg_id"
      (pkt.integer "request_msg_id")
    let resultPkt := convertRequestId client server around
      SessionType.gameClient resultPkt
    ⟨s, [⟨Side.client, TS_AC_RESULT,
      (resultPkt.setInteger "result" (pkt.integer "result")).setInteger
        "login_flag" (pkt.integer "login_flag")⟩], false⟩

/-!
## All packets
-/

/-- A handler only gets a packet of the right size. -/
def whenProcessed (s : SpecificPacketConverter C) (packet : PacketType)
    (version : Version) (bytes : List UInt8)
    (handler : Record -> Conversion C) : Option (Conversion C) :=
  (process packet version bytes around.pkt).map fun result =>
    match result with
    | some pkt => handler pkt
    | none => ⟨s, [], true⟩

/-- `packet->id`. -/
def packetId (bytes : List UInt8) : Nat := leNat ((bytes.drop 4).take 2)

/-- Nothing tells the packets of a client from those of a server. -/
def convertAuthPacketAndSend (s : SpecificPacketConverter C)
    (bytes : List UInt8) : Option (Conversion C) :=
  let isPacket (packet : PacketType) (version : Version) : Bool :=
    decide (packetId bytes = (packet.getId version).toNat)
  if isPacket TS_CA_VERSION client then
    (process TS_CA_VERSION client bytes around.pkt).map fun result =>
      match result with
      | some pkt => s.onVersion server around pkt
      | none => ⟨s, [], false⟩
  else if isPacket TS_CA_RSA_PUBLIC_KEY client then
    s.whenProcessed around TS_CA_RSA_PUBLIC_KEY client bytes
      (s.onRsaPublicKey around)
  else if isPacket TS_CA_ACCOUNT client then
    let s := { s with account := { s.account with isBoraAccount := false } }
    s.whenProcessed around TS_CA_ACCOUNT client bytes
      (s.onAccount client server around)
  else if isPacket TS_CA_IMBC_ACCOUNT client then
    s.whenProcessed around TS_CA_IMBC_ACCOUNT client bytes
      (s.onImbcAccount client server around)
  else if isPacket TS_AC_AES_KEY_IV server then
    s.whenProcessed around TS_AC_AES_KEY_IV server bytes
      (s.onAesKeyIv server around)
  else if isPacket TS_AC_ACCOUNT_NAME server then
    some ⟨s, [], intAtLeast EPIC_9_4 client⟩
  else if isPacket TS_AC_SELECT_SERVER server then
    s.whenProcessed around TS_AC_SELECT_SERVER server bytes
      (s.onSelectServer client server)
  else if isPacket TS_AC_RESULT server then
    s.whenProcessed around TS_AC_RESULT server bytes
      (s.onResult client server around)
  else if isPacket TS_AC_RESULT_WITH_STRING server then
    s.whenProcessed around TS_AC_RESULT_WITH_STRING server bytes
      (s.onResultWithString client server around)
  else some ⟨s, [], true⟩

end SpecificPacketConverter

end Converter
end Rzu
