import Rzu.Converter.Transmission

/-!
# A login through the converter

A client and a server of two versions, with the converter between them: the
exchange of keys, the login and the answer that selects a game server.
-/

namespace Rzu
namespace Converter

open Library Packet Auth

/-!
## Ciphers that decrypt
-/

/--
Decryption inverts encryption under the same key.  DES keeps the length of a
block, AES fills up to the next whole block of 16 bytes, and RSA has at most
16384 bits.
-/
structure Ciphers.Lawful (C : Ciphers) : Prop where
  des : forall block : List UInt8, block.length = 8 ->
    C.desDecrypt (C.desEncrypt block) = block
  desEncrypt_length : forall block : List UInt8, block.length = 8 ->
    (C.desEncrypt block).length = 8
  desDecrypt_length : forall block : List UInt8, block.length = 8 ->
    (C.desDecrypt block).length = 8
  aes : forall key data : List UInt8,
    C.aesDecrypt key (C.aesEncrypt key data) = data
  aes_length : forall key data : List UInt8,
    (C.aesEncrypt key data).length = (data.length / 16 + 1) * 16
  rsa : forall (key : C.RsaKey) (data : List UInt8), data.length = 32 ->
    C.privateDecrypt key (C.publicEncrypt (C.pemPublicKey key) data) = data
  pem_length : forall key : C.RsaKey, (C.pemPublicKey key).length ≤ 4096
  rsa_length : forall pem data : List UInt8,
    (C.publicEncrypt pem data).length ≤ 2048

section DesBuffers

variable {f : List UInt8 -> List UInt8}

theorem take_desCrypt
    (hf : forall block : List UInt8, block.length = 8 ->
      (f block).length = 8)
    {blocks n : Nat} (hle : blocks ≤ n) {buf : List UInt8}
    (hlength : 8 * blocks ≤ buf.length) :
    (desCrypt f n buf).take (8 * blocks) =
      desCrypt f blocks (buf.take (8 * blocks)) := by
  induction blocks generalizing n buf with
  | zero => rfl
  | succ blocks ih =>
      cases n with
      | zero => cases hle
      | succ n =>
          have hfirst : (buf.take 8).length = 8 :=
            List.length_take_of_le (by lia)
          have hrest := ih (Nat.le_of_succ_le_succ hle)
            (show 8 * blocks ≤ (buf.drop 8).length by
              rw [List.length_drop]
              lia)
          have hsplit : 8 * (blocks + 1) = (f (buf.take 8)).length +
              8 * blocks := by
            rw [hf _ hfirst]
            lia
          rw [desCrypt, desCrypt, hsplit, List.take_length_add_append, hrest,
            ← hsplit, List.take_take, Nat.min_eq_left (by lia),
            List.drop_take]
          congr 2

theorem desCrypt_cancel {g : List UInt8 -> List UInt8}
    (hf : forall block : List UInt8, block.length = 8 ->
      (f block).length = 8)
    (hg : forall block : List UInt8, block.length = 8 ->
      g (f block) = block)
    (blocks : Nat) {buf : List UInt8} (hlength : 8 * blocks ≤ buf.length) :
    desCrypt g blocks (desCrypt f blocks buf) = buf := by
  induction blocks generalizing buf with
  | zero => rfl
  | succ blocks ih =>
      have hfirst : (buf.take 8).length = 8 :=
        List.length_take_of_le (by lia)
      rw [desCrypt, desCrypt, List.take_left' (hf _ hfirst),
        List.drop_left' (hf _ hfirst), hg _ hfirst,
        ih (by rw [List.length_drop]; lia), List.take_append_drop]

end DesBuffers

theorem Ciphers.Lawful.des_recovers {C : Ciphers} (hC : C.Lawful)
    (blocks : Nat) {m n : Nat} (hm : blocks ≤ m) (hn : blocks ≤ n)
    {plain received : List UInt8} (hplain : 8 * blocks ≤ plain.length)
    (hreceived : 8 * blocks ≤ received.length)
    (h : received.take (8 * blocks) =
      (desCrypt C.desEncrypt m plain).take (8 * blocks)) :
    (desCrypt C.desDecrypt n received).take (8 * blocks) =
      plain.take (8 * blocks) := by
  rw [take_desCrypt hC.desDecrypt_length hn hreceived, h,
    take_desCrypt hC.desEncrypt_length hm hplain,
    desCrypt_cancel hC.desEncrypt_length hC.des]
  exact Nat.le_of_eq (List.length_take_of_le hplain).symm

/-!
## How versions encode a password
-/

inductive LoginKind where
  | account
  | imbc
deriving DecidableEq

namespace LoginKind

def packet : LoginKind -> PacketType
  | account => TS_CA_ACCOUNT
  | imbc => TS_CA_IMBC_ACCOUNT

def NameFits (version : Version) (name : Packet.CharString) : LoginKind -> Prop
  | account => 0 ∉ name ∧
      name.length <
        if atLeast EPIC_9_6_6 version then 56
        else if atLeast EPIC_5_2 version then 61 else 19
  | imbc => 0 ∉ name ∧
      name.length <
        if atLeast EPIC_9_6_6 version then 64
        else if atLeast EPIC_7_4 version then 61 else 24

def passwordField (version : Version) (r : Record) :
    LoginKind -> List UInt8
  | account =>
      if atLeast EPIC_8_1_1_RSA version then
        let passwordAes := r.object "passwordAes"
        if atLeast EPIC_9_6_7 version then
          bytesOfVector (passwordAes.vector "password_dyn")
        else
          bytesOfArray (passwordAes.array "password")
            (if atLeast EPIC_9_6_6 version then 516 else 77)
      else
        bytesOfArray ((r.object "passwordDes").array "password")
          (if atLeast EPIC_5_2 version then 61 else 32)
  | imbc =>
      if atLeast EPIC_8_1_1_RSA version then
        bytesOfVector ((r.object "passwordAes").vector "password")
      else bytesOfArray ((r.object "passwordPlain").array "password") 48

variable (C : Ciphers)

/-- The password in the scheme of a version; behind a NUL is anything. -/
def Encodes (version : Version) (key : List UInt8) (r : Record)
    (password : List UInt8) (kind : LoginKind) : Prop :=
  let field := kind.passwordField version r
  if atLeast EPIC_8_1_1_RSA version then
    let encrypted := C.aesEncrypt key password
    (r.object "passwordAes").integer "password_size" = encrypted.length ∧
      field.take encrypted.length = encrypted
  else
    exists rest, (password ++ 0 :: rest).length = field.length ∧
      field =
        match kind with
        | account =>
            C.desEncryptBuffer (password ++ 0 :: rest) field.length
        | imbc => password ++ 0 :: rest

/-- What a server takes for the password. -/
def decode (version : Version) (key : List UInt8) (r : Record)
    (kind : LoginKind) : List UInt8 :=
  let field := kind.passwordField version r
  cut (if atLeast EPIC_8_1_1_RSA version then
      C.aesDecrypt key (field.take
        ((r.object "passwordAes").integer "password_size").toNat)
    else
      match kind with
      | account => C.desDecryptBuffer field field.length
      | imbc => field)

end LoginKind

/-!
## The exchange
-/

/-- Members of a local packet that nothing has assigned. -/
def Metatype.Unassigned (name : String) (r : Record) : Metatype -> Prop
  | Metatype.simple _ member _ => member.Fits (r.integer name)
  | Metatype.array _ member n _ =>
      forall i, i < n -> member.Fits (r.array name i)
  | Metatype.dynarray _ _ => r.vector name = []
  | Metatype.endarray _ _ => r.vector name = []
  | Metatype.string _ _ => r.string name = []
  | Metatype.dynstring _ _ => r.string name = []
  | Metatype.endstring _ _ => r.string name = []
  | _ => True

/--
A local packet that was default-initialised: numbers are anything that their
type holds, containers are empty.
-/
def Struct.Unassigned : Struct -> Record -> Prop
  | Struct.nil, _ => True
  | Struct.field name _ metatype rest, r =>
      Metatype.Unassigned name r metatype ∧ Struct.Unassigned rest r
  | Struct.object name _ shape type rest, r =>
      (match shape with
        | Shape.simple _ => Struct.Unassigned type (r.object name)
        | Shape.array n => forall i, i < n ->
            Struct.Unassigned type (r.objectArray name i)
        | _ => r.objectVector name = []) ∧
        Struct.Unassigned rest r

/-- Everything that a login depends on. -/
structure Exchange (C : Ciphers) where
  kind : LoginKind
  converter : SpecificPacketConverter C
  clientKey : C.RsaKey
  serverKey : List UInt8
  /-- What the client sends when it has this key. -/
  login : List UInt8 -> Record
  atKey : Surroundings C
  atLogin : Surroundings C
  atServerKey : Surroundings C
  atSelect : Surroundings C
  /-- The local packets of the endpoints, and the memory they write. -/
  memory : Record
  garbage : Nat -> UInt8
  /-- The members of `TS_AC_SELECT_SERVER` besides the key. -/
  selectServer : Record
  oneTimeKey : UInt64

namespace Exchange

variable {C : Ciphers} (client server : Version) (x : Exchange C)

/-- An endpoint gets the first packet of a conversion. -/
def received (side : Side) (packet : PacketType) (version : Version)
    (result : Conversion C) : Option Record :=
  match result.sent with
  | sent :: _ =>
      if sent.side = side then do
        let bytes <- sendBytes sent.packet version sent.fields x.garbage
        if SpecificPacketConverter.packetId bytes =
            (packet.getId version).toNat then
          (process packet version bytes x.memory).join
        else none
      else none
  | [] => none

/-- A client asks for a key if its version encrypts with one. -/
def asksForKey : Option (SpecificPacketConverter C × List UInt8) :=
  if atLeast EPIC_8_1_1_RSA client then do
    let bytes <- sendBytes TS_CA_RSA_PUBLIC_KEY client
      (Record.zero.setVector "key"
        (vectorOfBytes (C.pemPublicKey x.clientKey))) x.garbage
    let result <- x.converter.convertAuthPacketAndSend client server x.atKey
      bytes
    let answer <- x.received Side.client TS_AC_AES_KEY_IV client result
    pure (result.converter,
      C.privateDecrypt x.clientKey (bytesOfVector (answer.vector "data")))
  else pure (x.converter, [])

/-- A server whose version encrypts answers with its key first. -/
def answersWithKey (result : Conversion C) : Option (Conversion C) :=
  if atLeast EPIC_8_1_1_RSA server then do
    let asked <- x.received Side.server TS_CA_RSA_PUBLIC_KEY server result
    let bytes <- sendBytes TS_AC_AES_KEY_IV server
      (Record.zero.setVector "data" (vectorOfBytes
        (C.publicEncrypt (bytesOfVector (asked.vector "key")) x.serverKey)))
      x.garbage
    result.converter.convertAuthPacketAndSend client server x.atServerKey
      bytes
  else pure result

/-- The converter and the key of the client, and what the server gets. -/
def logsIn : Option (SpecificPacketConverter C × List UInt8 × Record) := do
  let asked <- x.asksForKey client server
  let bytes <- sendBytes x.kind.packet client (x.login asked.2) x.garbage
  let result <- asked.1.convertAuthPacketAndSend client server x.atLogin bytes
  let result <- x.answersWithKey client server result
  let pkt <- x.received Side.server x.kind.packet server result
  pure (result.converter, asked.2, pkt)

/-- The server sends the one-time key in the scheme of its version. -/
def selectPacket : Record :=
  if atLeast EPIC_8_1_1_RSA server then
    let encrypted := C.aesEncrypt x.serverKey
      (uint64.encode x.oneTimeKey.toNat)
    (x.selectServer.setInteger "encrypted_data_size"
      encrypted.length).setArray "encrypted_data" (arrayOfBytes encrypted)
  else
    x.selectServer.setInteger "one_time_key"
      (int64.cast x.oneTimeKey.toNat)

def recoversOtp (s : SpecificPacketConverter C) (key : List UInt8) :
    Option Int := do
  let bytes <- sendBytes TS_AC_SELECT_SERVER server (x.selectPacket server)
    x.garbage
  let result <- s.convertAuthPacketAndSend client server x.atSelect bytes
  let pkt <- x.received Side.client TS_AC_SELECT_SERVER client result
  if atLeast EPIC_8_1_1_RSA client then
    let data := bytesOfArray (pkt.array "encrypted_data") 24
    pure (SpecificPacketConverter.otpOfBytes (C.aesDecrypt key
      (data.take (pkt.integer "encrypted_data_size").toNat)))
  else pure (uint64.cast (pkt.integer "one_time_key"))

/-- A login of this name and password that the client can send. -/
structure Offers (name : Packet.CharString) (password : List UInt8) : Prop where
  name : forall key, (x.login key).string "account" = name
  encodes : forall key,
    x.kind.Encodes C client key (x.login key) password
  sendable : forall key, x.kind.packet.Sendable client (x.login key)
  /-- Longer packets do not reach the converter. -/
  size : forall key,
    7 + (x.kind.packet.fields.widths client (x.login key)).sum ≤ 65536
  randomKey : x.atKey.randomKey.length = 32
  serverKey : x.serverKey.length = 32
  loginPkt : Struct.Unassigned x.kind.packet.fields x.atLogin.pkt
  accountPkt : Struct.Unassigned x.kind.packet.fields x.atServerKey.accountPkt
  selectServer : uint16.Fits (x.selectServer.integer "result") ∧
    uint32.Fits (x.selectServer.integer "pending_time")

/-- The login and the one-time key arrive as they were sent. -/
def Survives (name : Packet.CharString) (password : List UInt8) : Prop :=
  exists s key pkt,
    x.logsIn client server = some (s, key, pkt) ∧
      pkt.string "account" = name ∧
      x.kind.decode C server x.serverKey pkt = password ∧
      x.recoversOtp client server s key = some (x.oneTimeKey.toNat : Int)

end Exchange

end Converter
end Rzu
