import Rzu.Converter.LoginPackets

/-!
# Credentials through the converter

A login keeps its name and its password from one version to another, and the
one-time key comes back.
-/

namespace Rzu
namespace Converter

open Library Packet Auth

variable {C : Ciphers} {client server version : Version}

theorem length_desCrypt {f : List UInt8 -> List UInt8}
    (hf : forall block : List UInt8, block.length = 8 ->
      (f block).length = 8)
    {blocks : Nat} {buf : List UInt8} (h : 8 * blocks ≤ buf.length) :
    (desCrypt f blocks buf).length = buf.length := by
  induction blocks generalizing buf with
  | zero => rfl
  | succ blocks ih =>
      have hdrop : (buf.drop 8).length = buf.length - 8 := List.length_drop
      rw [desCrypt, List.length_append,
        hf _ (List.length_take_of_le (by lia)), ih (by lia)]
      lia

theorem take_password {password : List UInt8} (h : password.length ≤ 31)
    (rest : List UInt8) :
    (password ++ 0 :: rest).take 32 =
      password ++ 0 :: rest.take (31 - password.length) := by
  have hsplit : 32 - password.length = 31 - password.length + 1 := by lia
  rw [List.take_append, List.take_of_length_le (by lia), hsplit,
    List.take_succ_cons]

theorem Ciphers.Lawful.length_encrypted (hC : C.Lawful)
    (key : List UInt8) {plain : List UInt8} (h : plain.length ≤ 48) :
    (C.aesEncrypt key plain).length ≤ 64 := by
  rw [hC.aes_length]
  lia

/--
The converter compares the version as an `int`, the packets do not look at its
flags: the two agree wherever both decide about a login.
-/
def LoginKind.Comparable (version : Version) : LoginKind -> Prop
  | account =>
      intAtLeast EPIC_8_1_1_RSA version = atLeast EPIC_8_1_1_RSA version ∧
        (atLeast EPIC_8_1_1_RSA version = true ->
          intAtLeast EPIC_9_6_7 version = atLeast EPIC_9_6_7 version)
  | imbc => intAtLeast EPIC_8_1_1_RSA version =
      atLeast EPIC_8_1_1_RSA version

theorem LoginKind.Comparable.rsa {kind : LoginKind}
    (h : kind.Comparable version) :
    intAtLeast EPIC_8_1_1_RSA version = atLeast EPIC_8_1_1_RSA version := by
  cases kind with
  | account => exact h.left
  | imbc => exact h

/-!
## What the converter reads
-/

namespace SpecificPacketConverter

variable {s : SpecificPacketConverter C} {r : Record}
variable {key password : List UInt8}

theorem take_accountPassword (hcomp : LoginKind.account.Comparable client)
    (h811 : atLeast EPIC_8_1_1_RSA client = true) {n : Nat} (hn : n ≤ 77)
    (pkt : Record) :
    (accountPassword client pkt).take n =
      (LoginKind.account.passwordField client pkt).take n := by
  rw [accountPassword, LoginKind.passwordField, hcomp.right h811,
    if_pos h811]
  split
  · rfl
  · split
    · rfl
    · rw [take_bytesOfArray _ (Nat.le_trans hn (by decide)),
        take_bytesOfArray _ hn]

theorem decryptAccount_plain (hC : C.Lawful)
    (hcomp : LoginKind.account.Comparable client)
    (hencodes : LoginKind.account.Encodes C client key r password)
    (hkey : atLeast EPIC_8_1_1_RSA client = true -> s.clientAesCipher = key)
    {pkt : Record}
    (hfield : LoginKind.account.passwordField client pkt =
      LoginKind.account.passwordField client r)
    (hsize : atLeast EPIC_8_1_1_RSA client = true ->
      (pkt.object "passwordAes").integer "password_size" =
        (r.object "passwordAes").integer "password_size")
    (hbora : isBora pkt = false) (hnul : 0 ∉ password)
    (hshort : password.length ≤ 31) :
    (decryptAccount client s pkt).2 = password := by
  rw [decryptAccount, hcomp.rsa]
  rw [LoginKind.Encodes] at hencodes
  split
  · rename_i h811
    rw [if_pos h811] at hencodes
    rcases hencodes with ⟨hannounced, hencrypted⟩
    have hle := hC.length_encrypted key (Nat.le_trans hshort (by decide))
    have hbora' (pkt' : Record)
        (hname : pkt'.string "account" = pkt.string "account")
        (hpassword : (pkt'.object "passwordAes").integer "password_size" =
          (pkt.object "passwordAes").integer "password_size") :
        isBora pkt' = false := by
      rw [isBora, hname, hpassword]
      exact hbora
    have hnot : isBora (if intAtLeast EPIC_9_6_7 client = true then
        pkt.setObject "passwordAes"
          ((pkt.object "passwordAes").setVector "password_dyn" [])
        else pkt) = false := by
      split
      · apply hbora'
        · rfl
        · rw [Record.object_setObject, if_pos rfl,
            Record.setVector_integer]
      · exact hbora
    simp only [hnot, Bool.false_eq_true, if_false]
    rw [hsize h811, hannounced, Int.toNat_natCast,
      take_accountPassword hcomp h811 (Nat.le_trans hle (by decide)), hfield,
      hencrypted, hkey h811, hC.aes]
  · rename_i h811
    rw [if_neg h811] at hencodes
    rcases hencodes with ⟨rest, hlength, hencrypted⟩
    let array := (pkt.object "passwordDes").array "password"
    let size := if intAtLeast EPIC_5_1 client then 61 else 32
    have hfieldEq : LoginKind.account.passwordField client r =
        bytesOfArray array (if atLeast EPIC_5_2 client then 61 else 32) := by
      rw [← hfield, LoginKind.passwordField, if_neg h811]
    have hfieldLength : 32 ≤
        (LoginKind.account.passwordField client r).length := by
      rw [hfieldEq, length_bytesOfArray]
      split
      all_goals decide
    have hsizeLe : 32 ≤ size := by
      simp only [size]
      split
      all_goals decide
    have htake : (bytesOfArray array 61).take 32 =
        (desCrypt C.desEncrypt
          ((LoginKind.account.passwordField client r).length / 8)
          (password ++ 0 :: rest)).take 32 := by
      have hboth := congrArg (List.take 32) hencrypted
      rw [hfieldEq] at hboth ⊢
      rw [take_bytesOfArray _ (by split <;> decide)] at hboth
      rw [take_bytesOfArray _ (by decide), hboth]
      rfl
    have hrecovered := hC.des_recovers 4
      (show 4 ≤ (LoginKind.account.passwordField client r).length / 8 by lia)
      (show 4 ≤ size / 8 by lia)
      (show 8 * 4 ≤ (password ++ 0 :: rest).length by lia)
      (show 8 * 4 ≤ (bytesOfArray array 61).length by
        rw [length_bytesOfArray]
        decide) htake
    apply cut_of_take hnul (n := 32)
    refine ⟨rest.take (31 - password.length), ?_⟩
    rw [← take_password hshort, List.take_take, Nat.min_eq_left hsizeLe]
    exact hrecovered

end SpecificPacketConverter

/-!
## What the server gets
-/

theorem decode_des (hC : C.Lawful)
    (h811 : ¬atLeast EPIC_8_1_1_RSA server = true)
    {password : List UInt8} (hnul : 0 ∉ password)
    (hshort : password.length ≤ 31) {size : Nat} (hsize : 32 ≤ size)
    (hle : size ≤ 61) {r : Record}
    (hr : (r.object "passwordDes").array "password" =
      arrayOfBytes (C.desEncryptBuffer
        (copyOver password (List.replicate 61 0)) size))
    (key : List UInt8) :
    LoginKind.account.decode C server key r = password := by
  let plain := copyOver password (List.replicate 61 0)
  have hplain : plain = password ++ 0 :: List.replicate (60 - password.length)
      0 := by
    have hrest : 61 - password.length = 60 - password.length + 1 := by lia
    simp only [plain]
    rw [copyOver_short (by rw [List.length_replicate]; lia),
      List.drop_replicate, hrest, List.replicate_succ]
  have hlength : plain.length = 61 := by
    simp only [plain, length_copyOver, List.length_replicate]
  have hsent : (C.desEncryptBuffer plain size).length = 61 := by
    rw [Ciphers.desEncryptBuffer,
      length_desCrypt hC.desEncrypt_length (by lia), hlength]
  let width := if atLeast EPIC_5_2 server then 61 else 32
  have hwidth : 32 ≤ width ∧ width ≤ 61 := by
    simp only [width]
    split
    all_goals decide
  have hfield : LoginKind.account.passwordField server r =
      (C.desEncryptBuffer plain size).take width := by
    rw [LoginKind.passwordField, if_neg h811, hr]
    exact take_arrayOfBytes (by lia)
  have hfieldLength :
      (LoginKind.account.passwordField server r).length = width := by
    rw [hfield, List.length_take_of_le (by lia)]
  have hrecovered := hC.des_recovers 4 (show 4 ≤ size / 8 by lia)
    (show 4 ≤ width / 8 by lia) (show 8 * 4 ≤ plain.length by lia)
    (show 8 * 4 ≤ (LoginKind.account.passwordField server r).length by lia)
    (by
      rw [hfield, List.take_take, Nat.min_eq_left hwidth.left]
      rfl)
  rw [LoginKind.decode, if_neg h811]
  apply cut_of_take hnul (n := 32)
  refine ⟨(List.replicate (60 - password.length) 0).take
    (31 - password.length), ?_⟩
  simp only [hfieldLength]
  rw [← take_password hshort, ← hplain]
  exact hrecovered

theorem decode_aes (hC : C.Lawful) (h811 : atLeast EPIC_8_1_1_RSA server = true)
    {kind : LoginKind} {key plain : List UInt8} {r : Record}
    (hsize : (r.object "passwordAes").integer "password_size" =
      (C.aesEncrypt key plain).length)
    (hfield : (kind.passwordField server r).take
      (C.aesEncrypt key plain).length = C.aesEncrypt key plain) :
    kind.decode C server key r = cut plain := by
  unfold LoginKind.decode
  simp only [h811, if_true, hsize, Int.toNat_natCast, hfield, hC.aes]

theorem decode_overwrite (kind : LoginKind) (version : Version)
    (key : List UInt8) (r g : Record) :
    kind.decode C version key (kind.packet.fields.overwrite version r g) =
      kind.decode C version key r := by
  unfold LoginKind.decode
  rw [passwordField_overwrite]
  split
  · rename_i h811
    rw [password_size_overwrite version r g kind h811]
  · rfl

theorem fits_uint32_of_le {n : Nat} (h : n ≤ 64) : uint32.Fits (n : Int) := by
  have hunsigned : ¬uint32.signed = true := Bool.false_ne_true
  have hmodulus : uint32.modulus = 4294967296 := by decide
  rw [IntType.Fits, if_neg hunsigned, hmodulus]
  lia

namespace SpecificPacketConverter

variable {s : SpecificPacketConverter C} {around : Surroundings C}

theorem fits_resized {plain : List UInt8} (h : plain.length ≤ 64) :
    (forall val, val ∈ vectorOfBytes (resizeAtLeast 64 plain) ->
      Packet.Fits uint8 uint8 val) ∧
    (vectorOfBytes (resizeAtLeast 64 plain)).length ≤ 1024 := by
  refine ⟨fun val hval => fits_vectorOfBytes hval, ?_⟩
  rw [length_vectorOfBytes]
  exact length_resizeAtLeast_le (by decide) (by lia)

theorem imbcAccountPkt_sent (around : Surroundings C) (hC : C.Lawful)
    (h811 : atLeast EPIC_8_1_1_RSA server = true)
    (hname : LoginKind.imbc.NameFits server s.account.account)
    (hplain : s.account.password.length ≤ 48) :
    ImbcFits server (s.imbcAccountPkt around) ∧
      LoginKind.imbc.decode C server s.serverAesCipher
        (s.imbcAccountPkt around) = cut s.account.password := by
  let encrypted := C.aesEncrypt s.serverAesCipher s.account.password
  have hle : encrypted.length ≤ 64 :=
    hC.length_encrypted s.serverAesCipher hplain
  have hstring : (s.imbcAccountPkt around).string "account" =
      s.account.account := by
    simp [imbcAccountPkt, Record.setObject]
  have hsize : ((s.imbcAccountPkt around).object
      "passwordAes").integer "password_size" = encrypted.length := by
    simp [imbcAccountPkt, Record.object_setObject, encrypted]
  have hpassword : ((s.imbcAccountPkt around).object
      "passwordAes").vector "password" =
        vectorOfBytes (resizeAtLeast 64 encrypted) := by
    simp [imbcAccountPkt, Record.object_setObject, encrypted]
  constructor
  · exact {
      name := by rw [hstring]; exact hname
      passwordPlain := fun hold => absurd h811 hold
      password_size := fun _ => by rw [hsize]; exact fits_uint32_of_le hle
      password := fun _ => by rw [hpassword]; exact fits_resized hle }
  · apply decode_aes hC h811 hsize
    rw [LoginKind.passwordField, if_pos h811, hpassword,
      bytesOfVector_vectorOfBytes]
    exact take_resizeAtLeast 64 encrypted

theorem accountPkt_sent (around : Surroundings C) (hC : C.Lawful)
    (h811 : atLeast EPIC_8_1_1_RSA server = true)
    (hcomp : LoginKind.account.Comparable server)
    (hname : LoginKind.account.NameFits server s.account.account)
    (hbora : s.account.isBoraAccount = false)
    (hplain : s.account.password.length ≤ 48)
    (hinfos : InfosFit s.account.additionalInfos)
    (haround : Struct.Unassigned TS_CA_ACCOUNT.fields around.accountPkt) :
    AccountFits server (s.accountPkt server around) ∧
      LoginKind.account.decode C server s.serverAesCipher
        (s.accountPkt server around) = cut s.account.password := by
  let encrypted := C.aesEncrypt s.serverAesCipher s.account.password
  have hle : encrypted.length ≤ 64 :=
    hC.length_encrypted s.serverAesCipher hplain
  have hAes : (s.accountPkt server around).object "passwordAes" =
      setAccountPassword server (around.accountPkt.object "passwordAes")
        encrypted.length encrypted := by
    simp only [accountPkt, hbora, Record.object_setObject, if_true,
      Bool.false_eq_true, if_false]
    rfl
  have hstring : (s.accountPkt server around).string "account" =
      s.account.account := by
    simp [accountPkt, Record.setObject, Record.setObjectVector]
  have hsent : (s.accountPkt server around).objectVector
      "additionalInfos" = s.account.additionalInfos := by
    simp [accountPkt, Record.setObject, Record.setObjectVector]
  have hstamp : (s.accountPkt server around).array "mac_stamp" =
      around.accountPkt.array "mac_stamp" := rfl
  have hsize : ((s.accountPkt server around).object
      "passwordAes").integer "password_size" = encrypted.length := by
    rw [hAes, setAccountPassword]
    split
    · rw [Record.setVector_integer, Record.integer_setInteger, if_pos rfl]
    · rw [Record.setArray_integer, Record.integer_setInteger, if_pos rfl]
  have h967 : intAtLeast EPIC_9_6_7 server = atLeast EPIC_9_6_7 server :=
    hcomp.right h811
  constructor
  · exact {
      name := by rw [hstring]; exact hname
      mac_stamp := fun _ i hi => by
        rw [hstamp]
        exact haround.right.right.right.left i hi
      passwordDes := fun hold => absurd h811 hold
      password_size := fun _ => by rw [hsize]; exact fits_uint32_of_le hle
      password := fun _ hold i _ => by
        rw [hAes, setAccountPassword, h967, if_neg hold,
          Record.array_setArray, if_pos rfl]
        exact (fits_arrayOfBytes _ i).left
      password_dyn := fun hnew => by
        rw [hAes, setAccountPassword, h967, if_pos hnew,
          Record.vector_setVector, if_pos rfl]
        exact fits_resized hle
      infos := fun _ => by rw [hsent]; exact hinfos }
  · apply decode_aes hC h811 hsize
    rw [LoginKind.passwordField, if_pos h811, hAes, setAccountPassword, h967]
    split
    · simp only [Record.vector_setVector, if_true,
        bytesOfVector_vectorOfBytes]
      exact take_resizeAtLeast 64 encrypted
    · simp only [Record.array_setArray, if_true]
      have hfull : (copyOver encrypted (List.replicate 516 0)).length =
          516 := by
        rw [length_copyOver, List.length_replicate]
      have hcopied : (copyOver encrypted (List.replicate 516 0)).take
          encrypted.length = encrypted :=
        take_copyOver (by rw [List.length_replicate]; lia)
      split
      · rw [take_bytesOfArray _ (by lia), take_arrayOfBytes (by lia)]
        exact hcopied
      · rw [take_bytesOfArray _ (by lia), take_arrayOfBytes (by lia)]
        exact hcopied

end SpecificPacketConverter

/-!
## The exchange of keys
-/

namespace Exchange

variable {x : Exchange C} {name : Packet.CharString} {password : List UInt8}

theorem received_sent {side : Side} {packet : PacketType}
    {result : Conversion C} {r : Record} {rest : List Sent}
    (hsent : result.sent = ⟨side, packet, r⟩ :: rest)
    (hsendable : packet.Sendable version r)
    (hversion : packet.fields.VersionConditions) :
    x.received side packet version result =
      some (packet.fields.overwrite version r x.memory) := by
  rcases sendBytes_carries hsendable hversion x.garbage with
    ⟨bytes, hbytes, hcarries⟩
  rw [received, hsent]
  simp only [if_true, hbytes, Option.bind_eq_bind, Option.bind_some,
    if_pos hcarries.id, hcarries.processed, Option.join_some]

theorem asksForKey_eq (client server : Version) (hC : C.Lawful)
    (hkey : x.atKey.randomKey.length = 32) :
    exists s key, x.asksForKey client server = some (s, key) ∧
      (atLeast EPIC_8_1_1_RSA client = true -> s.clientAesCipher = key) := by
  rw [asksForKey]
  split
  · let asked := Record.zero.setVector "key"
      (vectorOfBytes (C.pemPublicKey x.clientKey))
    have hasked : asked.vector "key" =
        vectorOfBytes (C.pemPublicKey x.clientKey) := by simp [asked]
    have hsendable : TS_CA_RSA_PUBLIC_KEY.Sendable client asked :=
      sendable_bytes rfl (by decide) (by decide) hasked
        (hC.pem_length x.clientKey) client
    rcases sendBytes_carries hsendable byteStruct_version x.garbage with
      ⟨bytes, hbytes, hcarries⟩
    have hpkt : (TS_CA_RSA_PUBLIC_KEY.fields.overwrite client asked
        x.atKey.pkt).vector "key" = asked.vector "key" :=
      vector_overwrite_bytes client asked x.atKey.pkt
    let result := x.converter.onRsaPublicKey x.atKey
      (TS_CA_RSA_PUBLIC_KEY.fields.overwrite client asked x.atKey.pkt)
    let data := C.publicEncrypt (C.pemPublicKey x.clientKey)
      x.atKey.randomKey
    let answer := x.atKey.aesPkt.setVector "data" (vectorOfBytes data)
    have hsent : result.sent = [⟨Side.client, TS_AC_AES_KEY_IV, answer⟩] := by
      change [(⟨Side.client, TS_AC_AES_KEY_IV, _⟩ : Sent)] = _
      rw [hpkt, hasked, bytesOfVector_vectorOfBytes]
    have hanswer : answer.vector "data" = vectorOfBytes data := by
      simp [answer]
    have hreceived := received_sent (x := x) hsent
      (sendable_bytes rfl (by decide) (by decide) hanswer
        (Nat.le_trans (hC.rsa_length _ _) (by decide)) client)
      byteStruct_version
    refine ⟨result.converter, x.atKey.randomKey, ?_, fun _ => rfl⟩
    have hrecovered : C.privateDecrypt x.clientKey (bytesOfVector
        ((TS_AC_AES_KEY_IV.fields.overwrite client answer
          x.memory).vector "data")) = x.atKey.randomKey := by
      have hdata : (TS_AC_AES_KEY_IV.fields.overwrite client answer
          x.memory).vector "data" = answer.vector "data" :=
        vector_overwrite_bytes client answer x.memory
      rw [hdata, hanswer, bytesOfVector_vectorOfBytes]
      exact hC.rsa x.clientKey _ hkey
    rw [hbytes, Option.bind_eq_bind, Option.bind_some,
      SpecificPacketConverter.convert_rsaPublicKey hcarries,
      Option.bind_eq_bind, Option.bind_some, hreceived, Option.bind_eq_bind,
      Option.bind_some, hrecovered]
    rfl
  · rename_i hplain
    exact ⟨x.converter, [], rfl, fun hrsa => absurd hrsa hplain⟩

end Exchange

/-!
## The login
-/

structure Forwards (server : Version) (kind : LoginKind)
    (name : Packet.CharString) (password key : List UInt8) (result : Conversion C)
    (fields : Record) : Prop where
  sent : result.sent = [⟨Side.server, kind.packet, fields⟩]
  sendable : kind.packet.Sendable server fields
  name : fields.string "account" = name
  password : kind.decode C server key fields = password

namespace Exchange

variable {x : Exchange C} {name : Packet.CharString} {password : List UInt8}

theorem answersWithKey_eq (client : Version) (hC : C.Lawful)
    (h811 : atLeast EPIC_8_1_1_RSA server = true)
    (hkey : x.serverKey.length = 32) {result : Conversion C}
    {keyPkt : Record} {rsaKey : C.RsaKey}
    (hsent : result.sent =
      [⟨Side.server, TS_CA_RSA_PUBLIC_KEY, keyPkt⟩])
    (hpem : keyPkt.vector "key" = vectorOfBytes (C.pemPublicKey rsaKey))
    (hcipher : result.converter.serverRsaCipher = some rsaKey) :
    exists pkt,
      x.answersWithKey client server result =
        some (result.converter.onAesKeyIv server x.atServerKey pkt) ∧
      result.converter.withServerKey (bytesOfVector (pkt.vector "data")) =
        { result.converter with serverAesCipher := x.serverKey } := by
  have hreceived := received_sent (x := x) hsent
    (sendable_bytes rfl (by decide) (by decide) hpem
      (hC.pem_length rsaKey) server) byteStruct_version
  have hasked : (TS_CA_RSA_PUBLIC_KEY.fields.overwrite server keyPkt
      x.memory).vector "key" = keyPkt.vector "key" :=
    vector_overwrite_bytes server keyPkt x.memory
  let data := C.publicEncrypt (C.pemPublicKey rsaKey) x.serverKey
  let answer := Record.zero.setVector "data" (vectorOfBytes data)
  have hanswer : answer.vector "data" = vectorOfBytes data := by
    simp [answer]
  have hsendable : TS_AC_AES_KEY_IV.Sendable server answer :=
    sendable_bytes rfl (by decide) (by decide) hanswer
      (Nat.le_trans (hC.rsa_length _ _) (by decide)) server
  rcases sendBytes_carries hsendable byteStruct_version x.garbage with
    ⟨bytes, hbytes, hcarries⟩
  refine ⟨TS_AC_AES_KEY_IV.fields.overwrite server answer x.atServerKey.pkt,
    ?_, ?_⟩
  · rw [answersWithKey, if_pos h811, hreceived, Option.bind_eq_bind,
      Option.bind_some, hasked, hpem, bytesOfVector_vectorOfBytes, hbytes,
      Option.bind_eq_bind, Option.bind_some,
      SpecificPacketConverter.convert_aesKeyIv hcarries]
  · have hdata : (TS_AC_AES_KEY_IV.fields.overwrite server answer
        x.atServerKey.pkt).vector "data" = answer.vector "data" :=
      vector_overwrite_bytes server answer x.atServerKey.pkt
    have hrecovered : result.converter.receivedKey data = x.serverKey := by
      rw [SpecificPacketConverter.receivedKey, hcipher]
      exact hC.rsa rsaKey _ hkey
    rw [hdata, hanswer, bytesOfVector_vectorOfBytes,
      SpecificPacketConverter.withServerKey, hrecovered, if_pos hkey]

def withKey (x : Exchange C) (s : SpecificPacketConverter C)
    (around : Surroundings C) (account : PendingAccount) :
    SpecificPacketConverter C where
  clientAesCipher := s.clientAesCipher
  serverAesCipher := x.serverKey
  serverRsaCipher := some (s.serverRsaCipher.getD around.generatedKey)
  account := account

theorem answersWithKey_waiting (client : Version) (hC : C.Lawful)
    (h811 : atLeast EPIC_8_1_1_RSA server = true)
    (hkey : x.serverKey.length = 32) (s : SpecificPacketConverter C)
    (around : Surroundings C) (account : PendingAccount)
    (hbora : account.useImbc = false -> account.isBoraAccount = false) :
    x.answersWithKey client server (s.askForKey around account) =
      some ⟨(x.withKey s around account).clearPassword,
        [if account.useImbc then
          ⟨Side.server, TS_CA_IMBC_ACCOUNT,
            (x.withKey s around account).imbcAccountPkt x.atServerKey⟩
        else
          ⟨Side.server, TS_CA_ACCOUNT,
            (x.withKey s around account).accountPkt server x.atServerKey⟩],
        false⟩ := by
  rcases answersWithKey_eq (x := x) client hC h811 hkey
      (show (s.askForKey around account).sent = [_] from rfl) (by simp)
      (show (s.askForKey around account).converter.serverRsaCipher = some _
        from rfl) with
    ⟨pkt, hanswer, hcipher⟩
  rw [hanswer, SpecificPacketConverter.onAesKeyIv, hcipher]
  change some (if account.useImbc = true then _ else _) = _
  by_cases himbc : account.useImbc = true
  · rw [if_pos himbc, if_pos himbc]
    rfl
  · rw [if_neg himbc, if_neg himbc]
    have hplain : ¬(s.askForKey around account).converter.account.isBoraAccount
        = true := by
      change ¬account.isBoraAccount = true
      rw [hbora (Bool.eq_false_iff.mpr himbc)]
      exact Bool.false_ne_true
    rw [if_neg hplain]
    rfl

end Exchange

namespace SpecificPacketConverter

variable {s : SpecificPacketConverter C} {pkt : Record}

theorem decryptAccount_rest (client : Version)
    (s : SpecificPacketConverter C) (pkt : Record) :
    (decryptAccount client s pkt).1.string "account" =
        pkt.string "account" ∧
      (decryptAccount client s pkt).1.objectVector "additionalInfos" =
        pkt.objectVector "additionalInfos" := by
  unfold decryptAccount
  split
  · dsimp only
    split
    all_goals split
    all_goals exact ⟨rfl, rfl⟩
  · exact ⟨rfl, rfl⟩

theorem onAccount_waits {around : Surroundings C}
    (hserver : intAtLeast EPIC_8_1_1_RSA server = true)
    (hbora : (intAtLeast EPIC_8_1_1_RSA client && isBora pkt) = false) :
    s.onAccount client server around pkt =
      s.askForKey around
        { useImbc := false
          account := pkt.string "account"
          password := (decryptAccount client s pkt).2
          additionalInfos := pkt.objectVector "additionalInfos"
          isBoraAccount := false } := by
  rcases decryptAccount_rest client s pkt with
    ⟨hstring, hvector⟩
  simp only [onAccount, if_pos hserver, hbora, hstring, hvector]

end SpecificPacketConverter

namespace Exchange

variable {x : Exchange C} {name : Packet.CharString} {password : List UInt8}

theorem forwards_account (hC : C.Lawful)
    (hcompServer : LoginKind.account.Comparable server)
    (hkey : x.serverKey.length = 32)
    (haround : Struct.Unassigned TS_CA_ACCOUNT.fields
      x.atServerKey.accountPkt)
    {s : SpecificPacketConverter C} {pkt : Record}
    (hbora : (intAtLeast EPIC_8_1_1_RSA client &&
      SpecificPacketConverter.isBora pkt) = false)
    (hplain : (SpecificPacketConverter.decryptAccount client s pkt).2 =
      password)
    (hname : LoginKind.account.NameFits server (pkt.string "account"))
    (hinfos : InfosFit (pkt.objectVector "additionalInfos"))
    (hnul : 0 ∉ password) (hshort : password.length ≤ 31) :
    exists result fields,
      x.answersWithKey client server
          (s.onAccount client server x.atLogin pkt) = some result ∧
        Forwards server LoginKind.account (pkt.string "account") password
          x.serverKey result fields ∧
        result.converter.clientAesCipher = s.clientAesCipher ∧
        (atLeast EPIC_8_1_1_RSA server = true ->
          result.converter.serverAesCipher = x.serverKey) := by
  let decrypted := SpecificPacketConverter.decryptAccount client s pkt
  have hrest : decrypted.1.string "account" = pkt.string "account" ∧
      decrypted.1.objectVector "additionalInfos" =
        pkt.objectVector "additionalInfos" :=
    SpecificPacketConverter.decryptAccount_rest client s pkt
  rcases hrest with ⟨hstring, hvector⟩
  by_cases h811 : atLeast EPIC_8_1_1_RSA server = true
  · have hint : intAtLeast EPIC_8_1_1_RSA server = true :=
      hcompServer.rsa.trans h811
    let account : PendingAccount :=
      { useImbc := false
        account := pkt.string "account"
        password := password
        additionalInfos := pkt.objectVector "additionalInfos"
        isBoraAccount := false }
    have hresult : s.onAccount client server x.atLogin pkt =
        s.askForKey x.atLogin account := by
      rw [SpecificPacketConverter.onAccount_waits hint hbora, hplain]
    have hsent := SpecificPacketConverter.accountPkt_sent
      (s := x.withKey s x.atLogin account) x.atServerKey hC h811
      hcompServer hname rfl (Nat.le_trans hshort (by decide)) hinfos haround
    rw [hresult, answersWithKey_waiting client hC h811 hkey s x.atLogin
      account (fun _ => rfl)]
    refine ⟨_, _, rfl, ⟨rfl, hsent.left.sendable, ?_, ?_⟩, rfl,
      fun _ => rfl⟩
    · simp [SpecificPacketConverter.accountPkt, Record.setObject,
        Record.setObjectVector, withKey, account]
    · exact hsent.right.trans (cut_self hnul)
  · have hint : ¬intAtLeast EPIC_8_1_1_RSA server = true := by
      rw [hcompServer.rsa]
      exact h811
    let size := if intAtLeast EPIC_5_1 server then 61 else 32
    have hsize : 32 ≤ size ∧ size ≤ 61 := by
      simp only [size]
      split
      all_goals decide
    let fields := decrypted.1.setObject "passwordDes"
      ((decrypted.1.object "passwordDes").setArray "password"
        (arrayOfBytes (C.desEncryptBuffer
          (copyOver password (List.replicate 61 0)) size)))
    have hDes : (fields.object "passwordDes").array "password" =
        arrayOfBytes (C.desEncryptBuffer
          (copyOver password (List.replicate 61 0)) size) := by
      simp [fields, Record.object_setObject]
    have hfits : AccountFits server fields := {
      name := by
        change LoginKind.account.NameFits server
          (decrypted.1.string "account")
        rw [hstring]
        exact hname
      mac_stamp := fun h966 =>
        absurd (atLeast_mono (by decide) h966) h811
      passwordDes := fun _ i _ => by
        rw [hDes]
        exact (fits_arrayOfBytes _ i).left
      password_size := fun hnew => absurd hnew h811
      password := fun hnew => absurd hnew h811
      password_dyn := fun h967 => absurd (atLeast_mono (by decide) h967) h811
      infos := fun _ => by
        change InfosFit (decrypted.1.objectVector "additionalInfos")
        rw [hvector]
        exact hinfos }
    refine ⟨s.onAccount client server x.atLogin pkt, fields, ?_, ?_, ?_, ?_⟩
    · rw [answersWithKey, if_neg h811]
      rfl
    · refine ⟨?_, hfits.sendable, hstring,
        decode_des hC h811 hnul hshort hsize.left hsize.right hDes _⟩
      rw [SpecificPacketConverter.onAccount, if_neg hint, hplain]
      rfl
    · rw [SpecificPacketConverter.onAccount, if_neg hint]
    · exact fun hnew => absurd hnew h811

theorem decryptImbcAccount_plain (hC : C.Lawful)
    (hcomp : LoginKind.imbc.Comparable client)
    {s : SpecificPacketConverter C} {key : List UInt8} {r pkt : Record}
    (hencodes : LoginKind.imbc.Encodes C client key r password)
    (hkey : atLeast EPIC_8_1_1_RSA client = true -> s.clientAesCipher = key)
    (hfield : LoginKind.imbc.passwordField client pkt =
      LoginKind.imbc.passwordField client r)
    (hsize : atLeast EPIC_8_1_1_RSA client = true ->
      (pkt.object "passwordAes").integer "password_size" =
        (r.object "passwordAes").integer "password_size")
    (hnul : 0 ∉ password) (hshort : password.length ≤ 31) :
    cut (s.decryptImbcAccount client pkt) = password ∧
      (s.decryptImbcAccount client pkt).length ≤ 48 ∧
      (atLeast EPIC_8_1_1_RSA client = true ->
        s.decryptImbcAccount client pkt = password) ∧
      (¬atLeast EPIC_8_1_1_RSA client = true ->
        (s.decryptImbcAccount client pkt).length = 48) := by
  have hrsa : intAtLeast EPIC_8_1_1_RSA client =
      atLeast EPIC_8_1_1_RSA client := hcomp
  rw [LoginKind.passwordField, LoginKind.passwordField] at hfield
  rw [LoginKind.Encodes, LoginKind.passwordField] at hencodes
  rw [SpecificPacketConverter.decryptImbcAccount, hrsa]
  by_cases h811 : atLeast EPIC_8_1_1_RSA client = true
  · rw [if_pos h811, if_pos h811] at hfield
    simp only [h811, if_true] at hencodes
    have hplain : C.aesDecrypt s.clientAesCipher
        ((bytesOfVector ((pkt.object "passwordAes").vector "password")).take
          ((pkt.object "passwordAes").integer "password_size").toNat) =
        password := by
      rw [hsize h811, hencodes.left, Int.toNat_natCast, hfield,
        hencodes.right, hkey h811, hC.aes]
    simp only [h811, if_true, hplain]
    exact ⟨cut_self hnul, Nat.le_trans hshort (by decide), fun _ => trivial,
      fun hold => absurd trivial hold⟩
  · rw [if_neg h811, if_neg h811] at hfield
    simp only [h811, if_false, Bool.false_eq_true] at hencodes
    rcases hencodes with ⟨rest, -, hplain⟩
    rw [if_neg h811, hfield]
    refine ⟨?_, ?_, ?_, ?_⟩
    · rw [hplain]
      exact cut_append hnul rest
    · rw [length_bytesOfArray]
    · exact fun hnew => absurd hnew h811
    · exact fun _ => length_bytesOfArray _ _

/--
The bytes of an IMBC password that reach the server: without keys they are
copied over what the packet of the converter holds.
-/
def forwardedImbc (server : Version) (plain : List UInt8) (pkt : Record) :
    List UInt8 :=
  if atLeast EPIC_8_1_1_RSA server then plain
  else copyOver plain
    (bytesOfArray ((pkt.object "passwordPlain").array "password") 48)

theorem forwards_imbc (hC : C.Lawful)
    (hcompServer : LoginKind.imbc.Comparable server)
    (hkey : x.serverKey.length = 32) {s : SpecificPacketConverter C}
    {pkt : Record}
    (hlength : (s.decryptImbcAccount client pkt).length ≤ 48)
    (hname : LoginKind.imbc.NameFits server (pkt.string "account")) :
    exists result fields,
      x.answersWithKey client server
          (s.onImbcAccount client server x.atLogin pkt) = some result ∧
        Forwards server LoginKind.imbc (pkt.string "account")
          (cut (forwardedImbc server (s.decryptImbcAccount client pkt) pkt))
          x.serverKey result fields ∧
        result.converter.clientAesCipher = s.clientAesCipher ∧
        (atLeast EPIC_8_1_1_RSA server = true ->
          result.converter.serverAesCipher = x.serverKey) := by
  let plain := s.decryptImbcAccount client pkt
  by_cases h811 : atLeast EPIC_8_1_1_RSA server = true
  · have hint : intAtLeast EPIC_8_1_1_RSA server = true :=
      hcompServer.rsa.trans h811
    let account : PendingAccount :=
      { s.account with
        useImbc := true
        account := pkt.string "account"
        password := plain }
    have hnever : account.useImbc = false ->
        account.isBoraAccount = false := fun himbc => (nomatch himbc)
    have hresult : s.onImbcAccount client server x.atLogin pkt =
        s.askForKey x.atLogin account := by
      rw [SpecificPacketConverter.onImbcAccount, if_pos hint]
    have hsent := SpecificPacketConverter.imbcAccountPkt_sent
      (s := x.withKey s x.atLogin account) x.atServerKey hC h811 hname
      hlength
    rw [hresult, answersWithKey_waiting client hC h811 hkey s x.atLogin
      account hnever, forwardedImbc, if_pos h811]
    refine ⟨_, _, rfl, ⟨rfl, hsent.left.sendable, ?_, hsent.right⟩, rfl,
      fun _ => rfl⟩
    simp [SpecificPacketConverter.imbcAccountPkt, Record.setObject, withKey,
      account]
  · have hint : ¬intAtLeast EPIC_8_1_1_RSA server = true := by
      rw [hcompServer.rsa]
      exact h811
    let copied := copyOver plain
      (bytesOfArray ((pkt.object "passwordPlain").array "password") 48)
    have hcopied : copied.length = 48 := by
      simp only [copied, length_copyOver, length_bytesOfArray]
    let fields := pkt.setObject "passwordPlain"
      ((pkt.object "passwordPlain").setArray "password"
        (arrayOfBytes copied))
    have hPlain : (fields.object "passwordPlain").array "password" =
        arrayOfBytes copied := by
      simp [fields, Record.object_setObject]
    have hfits : ImbcFits server fields := {
      name := hname
      passwordPlain := fun _ i _ => by
        rw [hPlain]
        exact (fits_arrayOfBytes _ i).left
      password_size := fun hnew => absurd hnew h811
      password := fun hnew => absurd hnew h811 }
    refine ⟨s.onImbcAccount client server x.atLogin pkt, fields, ?_, ?_, ?_,
      ?_⟩
    · rw [answersWithKey, if_neg h811]
      rfl
    · refine ⟨?_, hfits.sendable, rfl, ?_⟩
      · rw [SpecificPacketConverter.onImbcAccount, if_neg hint]
        rfl
      · have hall := take_arrayOfBytes (Nat.le_of_eq hcopied.symm)
        rw [List.take_of_length_le (Nat.le_of_eq hcopied)] at hall
        rw [LoginKind.decode, if_neg h811, LoginKind.passwordField,
          if_neg h811, hPlain, forwardedImbc, if_neg h811]
        simp only [hall]
        rfl
    · rw [SpecificPacketConverter.onImbcAccount, if_neg hint]
    · exact fun hnew => absurd hnew h811

end Exchange

/-!
## The one-time key
-/

theorem uint64_cast_int64 (n : UInt64) :
    uint64.cast (int64.cast n.toNat) = n.toNat := by
  have hsigned : int64.modulus = 2 ^ 64 := by decide
  have hmodulus : uint64.modulus = 2 ^ 64 := by decide
  have hunsigned : ¬uint64.signed = true := Bool.false_ne_true
  have hlt := n.toNat_lt
  have hinner : int64.cast n.toNat = (n.toNat : Int) ∨
      int64.cast n.toNat = (n.toNat : Int) - 2 ^ 64 := by
    have hcast := int64.leNat_encode (n.toNat : Int)
    rw [hsigned] at hcast
    rw [IntType.cast, IntType.decode, hsigned]
    split
    · right
      lia
    · left
      lia
  have houter (m : Int) : uint64.cast m = m % 2 ^ 64 := by
    have hcast := uint64.leNat_encode m
    rw [hmodulus] at hcast
    rw [IntType.cast, IntType.decode,
      if_neg (fun hboth => hunsigned hboth.left), hcast]
  rw [houter]
  rcases hinner with hinner | hinner
  all_goals rw [hinner]
  all_goals lia

theorem otpOfBytes_encode (n : UInt64) :
    SpecificPacketConverter.otpOfBytes (uint64.encode n.toNat) = n.toNat := by
  have hlength : (uint64.encode (n.toNat : Int)).length = 8 :=
    IntType.encode_length _ _
  have hmodulus : uint64.modulus = 2 ^ 64 := by decide
  have hlt := n.toNat_lt
  have hcast := uint64.leNat_encode (n.toNat : Int)
  rw [SpecificPacketConverter.otpOfBytes, hlength, if_pos (Nat.le_refl 8),
    List.take_of_length_le (Nat.le_of_eq hlength), hcast, hmodulus]
  lia

theorem select_overwrite (version : Version) (r g : Record) :
    (¬atLeast EPIC_8_1_1_RSA version = true ->
      (TS_AC_SELECT_SERVER.fields.overwrite version r g).integer
        "one_time_key" = r.integer "one_time_key") ∧
    (atLeast EPIC_8_1_1_RSA version = true ->
      (TS_AC_SELECT_SERVER.fields.overwrite version r g).integer
        "encrypted_data_size" = r.integer "encrypted_data_size" ∧
      bytesOfArray ((TS_AC_SELECT_SERVER.fields.overwrite version r g).array
        "encrypted_data") 24 =
          bytesOfArray (r.array "encrypted_data") 24) ∧
    (TS_AC_SELECT_SERVER.fields.overwrite version r g).integer "result" =
      r.integer "result" ∧
    (TS_AC_SELECT_SERVER.fields.overwrite version r g).integer
      "pending_time" = r.integer "pending_time" := by
  by_cases h811 : atLeast EPIC_8_1_1_RSA version = true
  · refine ⟨fun hold => absurd h811 hold, fun _ => ⟨?_, ?_⟩, ?_, ?_⟩
    · simp [TS_AC_SELECT_SERVER, Struct.overwrite, since, upTo, always,
        Metatype.restore, Metatype.copyDefaultValue, h811]
    · apply bytesOfArray_congr
      intro i hi
      simp [TS_AC_SELECT_SERVER, Struct.overwrite, since, upTo, always,
        Metatype.restore, Metatype.copyDefaultValue, h811, hi]
    · simp [TS_AC_SELECT_SERVER, Struct.overwrite, since, upTo, always,
        Metatype.restore, Metatype.copyDefaultValue, h811]
    · simp [TS_AC_SELECT_SERVER, Struct.overwrite, since, upTo, always,
        Metatype.restore, Metatype.copyDefaultValue, h811]
  · refine ⟨fun _ => ?_, fun hnew => absurd hnew h811, ?_, ?_⟩
    all_goals simp [TS_AC_SELECT_SERVER, Struct.overwrite, since, upTo,
      always, Metatype.restore, Metatype.copyDefaultValue, h811]

theorem fits_int32_of_le {n : Nat} (h : n ≤ 64) : int32.Fits (n : Int) := by
  have hsigned : int32.signed = true := rfl
  have hmodulus : int32.modulus = 4294967296 := by decide
  rw [IntType.Fits, if_pos hsigned, hmodulus]
  lia

namespace Exchange

variable {x : Exchange C}

theorem selectPacket_fits (hC : C.Lawful)
    (hselect : uint16.Fits (x.selectServer.integer "result") ∧
      uint32.Fits (x.selectServer.integer "pending_time")) :
    SelectFits server (x.selectPacket server) := by
  have hlength : (C.aesEncrypt x.serverKey
      (uint64.encode x.oneTimeKey.toNat)).length ≤ 64 :=
    hC.length_encrypted _ (by rw [IntType.encode_length]; decide)
  unfold selectPacket
  split
  · rename_i h811
    exact {
      result := hselect.left
      pending_time := hselect.right
      one_time_key := fun hold => absurd h811 hold
      encrypted_data_size := fun _ => by
        simpa using fits_int32_of_le hlength
      encrypted_data := fun _ i _ => by
        simpa using (fits_arrayOfBytes _ i).left }
  · rename_i h811
    exact {
      result := hselect.left
      pending_time := hselect.right
      one_time_key := fun _ => by
        simpa using IntType.fits_cast int64 x.oneTimeKey.toNat
      encrypted_data_size := fun hnew => absurd hnew h811
      encrypted_data := fun hnew => absurd hnew h811 }

theorem length_encryptedOtp (hC : C.Lawful) (key : List UInt8)
    (otp : Int) : (C.aesEncrypt key (uint64.encode otp)).length = 16 := by
  have hlength : (uint64.encode otp).length = 8 := IntType.encode_length _ _
  rw [hC.aes_length, hlength]

theorem receivedOtp_eq (hC : C.Lawful)
    (hserver : intAtLeast EPIC_8_1_1_RSA server =
      atLeast EPIC_8_1_1_RSA server) {s : SpecificPacketConverter C}
    (hkey : atLeast EPIC_8_1_1_RSA server = true ->
      s.serverAesCipher = x.serverKey) (g : Record) :
    s.receivedOtp server (TS_AC_SELECT_SERVER.fields.overwrite server
      (x.selectPacket server) g) = x.oneTimeKey.toNat := by
  rcases select_overwrite server (x.selectPacket server) g with
    ⟨hplain, hencrypted, -, -⟩
  rw [SpecificPacketConverter.receivedOtp, hserver]
  split
  · rename_i h811
    rcases hencrypted h811 with ⟨hsize, hdata⟩
    let encrypted := C.aesEncrypt x.serverKey
      (uint64.encode x.oneTimeKey.toNat)
    have hlength : encrypted.length = 16 := length_encryptedOtp hC _ _
    have hpacket : x.selectPacket server =
        (x.selectServer.setInteger "encrypted_data_size"
          encrypted.length).setArray "encrypted_data"
            (arrayOfBytes encrypted) := by
      rw [selectPacket, if_pos h811]
    have hsent : (bytesOfArray ((x.selectPacket server).array
        "encrypted_data") 24).take 16 = encrypted := by
      rw [hpacket, Record.array_setArray, if_pos rfl,
        take_bytesOfArray _ (by decide), take_arrayOfBytes (by lia),
        List.take_of_length_le (by lia)]
    have hannounced : (x.selectPacket server).integer
        "encrypted_data_size" = 16 := by
      rw [hpacket, Record.setArray_integer, Record.integer_setInteger,
        if_pos rfl, hlength]
      rfl
    rw [hdata, hsize, hannounced]
    change SpecificPacketConverter.otpOfBytes (C.aesDecrypt
      s.serverAesCipher (List.take 16 _)) = _
    rw [hsent, hkey h811, hC.aes]
    exact otpOfBytes_encode x.oneTimeKey
  · rename_i h811
    rw [hplain h811, selectPacket, if_neg h811, Record.integer_setInteger,
      if_pos rfl]
    exact uint64_cast_int64 x.oneTimeKey

theorem recoversOtp_eq (hC : C.Lawful)
    (hclient : intAtLeast EPIC_8_1_1_RSA client =
      atLeast EPIC_8_1_1_RSA client)
    (hserver : intAtLeast EPIC_8_1_1_RSA server =
      atLeast EPIC_8_1_1_RSA server)
    (hselect : uint16.Fits (x.selectServer.integer "result") ∧
      uint32.Fits (x.selectServer.integer "pending_time"))
    {s : SpecificPacketConverter C} {key : List UInt8}
    (hclientKey : atLeast EPIC_8_1_1_RSA client = true ->
      s.clientAesCipher = key)
    (hserverKey : atLeast EPIC_8_1_1_RSA server = true ->
      s.serverAesCipher = x.serverKey) :
    x.recoversOtp client server s key = some (x.oneTimeKey.toNat : Int) := by
  have hfits : SelectFits server (x.selectPacket server) :=
    selectPacket_fits hC hselect
  rcases sendBytes_carries hfits.sendable select_version x.garbage with
    ⟨bytes, hbytes, hcarries⟩
  let pkt := TS_AC_SELECT_SERVER.fields.overwrite server
    (x.selectPacket server) x.atSelect.pkt
  have hotp : s.receivedOtp server pkt = x.oneTimeKey.toNat :=
    receivedOtp_eq hC hserver hserverKey _
  rcases select_overwrite server (x.selectPacket server) x.atSelect.pkt with
    ⟨-, -, hresult, hpending⟩
  have hresultFits : uint16.Fits (pkt.integer "result") := by
    rw [show pkt.integer "result" = _ from hresult]
    exact hfits.result
  have hpendingFits : uint32.Fits (pkt.integer "pending_time") := by
    rw [show pkt.integer "pending_time" = _ from hpending]
    exact hfits.pending_time
  rw [recoversOtp, hbytes, Option.bind_eq_bind, Option.bind_some,
    SpecificPacketConverter.convert_selectServer hcarries,
    Option.bind_eq_bind, Option.bind_some]
  change Option.bind (x.received Side.client TS_AC_SELECT_SERVER client
    (s.onSelectServer client server pkt)) _ = _
  by_cases h811 : atLeast EPIC_8_1_1_RSA client = true
  · let encrypted := C.aesEncrypt s.clientAesCipher
      (uint64.encode x.oneTimeKey.toNat)
    have hlength : encrypted.length = 16 := length_encryptedOtp hC _ _
    let data := copyOver encrypted
      (bytesOfArray (pkt.array "encrypted_data") 24)
    have hdata : data.length = 24 := by
      simp only [data, length_copyOver, length_bytesOfArray]
    let fields := (pkt.setArray "encrypted_data"
      (arrayOfBytes data)).setInteger "encrypted_data_size" encrypted.length
    have hsent : (s.onSelectServer client server pkt).sent =
        [⟨Side.client, TS_AC_SELECT_SERVER, fields⟩] := by
      simp only [SpecificPacketConverter.onSelectServer, hclient, h811,
        if_true, hotp]
      rfl
    have hsendable : TS_AC_SELECT_SERVER.Sendable client fields :=
      SelectFits.sendable {
        result := hresultFits
        pending_time := hpendingFits
        one_time_key := fun hold => absurd h811 hold
        encrypted_data_size := fun _ => by
          simpa [fields] using fits_int32_of_le (by lia)
        encrypted_data := fun _ i _ => by
          simpa [fields] using (fits_arrayOfBytes data i).left }
    rcases select_overwrite client fields x.memory with
      ⟨-, hencrypted, -, -⟩
    rcases hencrypted h811 with ⟨hsize, hreceived⟩
    have hcopied : data.take 16 = encrypted := by
      rw [← hlength]
      exact take_copyOver (by rw [length_bytesOfArray]; lia)
    have hannounced : fields.integer "encrypted_data_size" = 16 := by
      simp only [fields, Record.integer_setInteger, if_true, hlength]
      rfl
    have hfield : (bytesOfArray (fields.array "encrypted_data") 24).take 16 =
        encrypted := by
      simp only [fields, Record.setInteger_array, Record.array_setArray,
        if_true]
      rw [take_bytesOfArray _ (by decide), take_arrayOfBytes (by lia)]
      exact hcopied
    rw [received_sent hsent hsendable select_version, Option.bind_some,
      if_pos h811, hsize, hreceived, hannounced]
    change some (SpecificPacketConverter.otpOfBytes (C.aesDecrypt key
      (List.take 16 _))) = _
    rw [hfield, ← hclientKey h811, hC.aes, otpOfBytes_encode]
  · let fields := pkt.setInteger "one_time_key"
      (int64.cast x.oneTimeKey.toNat)
    have hint : ¬intAtLeast EPIC_8_1_1_RSA client = true := by
      rw [hclient]
      exact h811
    have hsent : (s.onSelectServer client server pkt).sent =
        [⟨Side.client, TS_AC_SELECT_SERVER, fields⟩] := by
      simp only [SpecificPacketConverter.onSelectServer, hint, if_false, hotp,
        Bool.false_eq_true]
      rfl
    have hsendable : TS_AC_SELECT_SERVER.Sendable client fields :=
      SelectFits.sendable {
        result := hresultFits
        pending_time := hpendingFits
        one_time_key := fun _ => by
          simpa [fields] using IntType.fits_cast int64 x.oneTimeKey.toNat
        encrypted_data_size := fun hnew => absurd hnew h811
        encrypted_data := fun hnew => absurd hnew h811 }
    rcases select_overwrite client fields x.memory with ⟨hplain, -, -, -⟩
    rw [received_sent hsent hsendable select_version, Option.bind_some,
      if_neg h811, hplain h811]
    simp only [fields, Record.integer_setInteger, if_true]
    rw [uint64_cast_int64]
    rfl

theorem infos_fit {r g : Record}
    (hsendable : TS_CA_ACCOUNT.Sendable client r)
    (hsize : 7 + (TS_CA_ACCOUNT.fields.widths client r).sum ≤ 65536)
    (hg : g.objectVector "additionalInfos" = []) :
    InfosFit ((TS_CA_ACCOUNT.fields.overwrite client r g).objectVector
      "additionalInfos") := by
  by_cases h966 : atLeast EPIC_9_6_6 client = true
  · rw [(account_members _ _ _).additionalInfos, if_pos h966, hg]
    exact infosFit_nil
  · rw [(account_members _ _ _).additionalInfos, if_neg h966, hg,
      List.nil_append]
    apply InfosFit.overwrite
    have hrange : forall item, item ∈ r.objectVector "additionalInfos" ->
        TS_ACCOUNT_ADDITIONAL_INFO.InRange client item :=
      (hsendable.range.right.right.right.right.right.right.left (by
        simp [upTo, h966])).left
    constructor
    · exact fun item hitem =>
        (info_inRange_iff client item).mp (hrange item hitem)
    · rw [account_widths, List.sum_append, if_neg h966, sum_infos] at hsize
      lia

theorem received_forwarded {kind : LoginKind} {key : List UInt8}
    {result : Conversion C} {fields : Record} {name : Packet.CharString}
    {password : List UInt8}
    (h : Forwards server kind name password key result fields) :
    exists pkt,
      x.received Side.server kind.packet server result = some pkt ∧
        pkt.string "account" = name ∧
        kind.decode C server key pkt = password := by
  refine ⟨kind.packet.fields.overwrite server fields x.memory,
    received_sent h.sent h.sendable (kind_version kind), ?_, ?_⟩
  · rw [string_overwrite, h.name]
  · rw [decode_overwrite, h.password]

end Exchange

/-!
## Versions that understand each other
-/

/-- `"bora"` -/
def bora : Packet.CharString := "bora".toUTF8.data.toList

/--
The versions are compared alike by the converter and by the packets, and an
IMBC login does not go from a version with keys to one without.
-/
def LoginKind.Convertible (client server : Version) (kind : LoginKind) :
    Prop :=
  kind.Comparable client ∧ kind.Comparable server ∧
    (kind = imbc -> atLeast EPIC_8_1_1_RSA client = true ->
      atLeast EPIC_8_1_1_RSA server = true)

def Preserved (client server : Version) (kind : LoginKind)
    (name : Packet.CharString) (password : List UInt8) : Prop :=
  forall (C : Ciphers) (x : Exchange C), C.Lawful -> x.kind = kind ->
    x.Offers client name password -> x.Survives client server name password

namespace Exchange

variable {x : Exchange C} {kind : LoginKind} {name : Packet.CharString}
variable {password : List UInt8}

/-- A login, from the packet of the client on. -/
theorem logsIn_eq (server : Version) (hC : C.Lawful) (hkind : x.kind = kind)
    (hoffers : x.Offers client name password) :
    exists (s : SpecificPacketConverter C) (key bytes : List UInt8),
      (atLeast EPIC_8_1_1_RSA client = true -> s.clientAesCipher = key) ∧
        Carries kind.packet client (x.login key) bytes ∧
        x.logsIn client server =
          (s.convertAuthPacketAndSend client server x.atLogin bytes).bind
            fun converted =>
              (x.answersWithKey client server converted).bind fun result =>
                (x.received Side.server kind.packet server result).map
                  fun pkt => (result.converter, key, pkt) := by
  rcases x.asksForKey_eq client server hC hoffers.randomKey with
    ⟨s, key, hasked, hkey⟩
  have hsendable := hoffers.sendable key
  rw [hkind] at hsendable
  rcases sendBytes_carries hsendable (kind_version kind) x.garbage with
    ⟨bytes, hbytes, hcarries⟩
  refine ⟨s, key, bytes, hkey, hcarries, ?_⟩
  rw [logsIn, hasked, Option.bind_eq_bind, Option.bind_some, hkind, hbytes,
    Option.bind_eq_bind, Option.bind_some]
  simp only [Option.bind_eq_bind, Option.pure_def, Option.map_eq_bind]
  rfl

theorem forwards_login (h : kind.Convertible client server)
    (hC : C.Lawful) (hkind : x.kind = kind)
    (hoffers : x.Offers client name password)
    (hname : kind.NameFits server name) (hbora : name ≠ bora)
    (hnul : 0 ∉ password) (hshort : password.length ≤ 31)
    {s : SpecificPacketConverter C} {key bytes : List UInt8}
    (hkey : atLeast EPIC_8_1_1_RSA client = true -> s.clientAesCipher = key)
    (hcarries : Carries kind.packet client (x.login key) bytes) :
    exists converted result fields,
      s.convertAuthPacketAndSend client server x.atLogin bytes =
          some converted ∧
        x.answersWithKey client server converted = some result ∧
        Forwards server kind name password x.serverKey result fields ∧
        result.converter.clientAesCipher = s.clientAesCipher ∧
        (atLeast EPIC_8_1_1_RSA server = true ->
          result.converter.serverAesCipher = x.serverKey) := by
  rcases h with ⟨hclient, hserver, hkeys⟩
  let r := x.login key
  let pkt := kind.packet.fields.overwrite client r x.atLogin.pkt
  have hencodes := hoffers.encodes key
  have hsendable := hoffers.sendable key
  have hwidths := hoffers.size key
  have hlogin := hoffers.loginPkt
  have haccount := hoffers.accountPkt
  rw [hkind] at hencodes hsendable hwidths hlogin haccount
  have hstring : pkt.string "account" = name :=
    (string_overwrite client r x.atLogin.pkt kind).trans (hoffers.name key)
  have hfield : kind.passwordField client pkt =
      kind.passwordField client r :=
    passwordField_overwrite client r x.atLogin.pkt kind
  have hsize (h811 : atLeast EPIC_8_1_1_RSA client = true) :
      (pkt.object "passwordAes").integer "password_size" =
        (r.object "passwordAes").integer "password_size" :=
    password_size_overwrite client r x.atLogin.pkt kind h811
  have hnot : SpecificPacketConverter.isBora pkt = false := by
    have hother : pkt.string "account" ≠ "bora".toUTF8.data.toList := by
      rw [hstring]
      exact hbora
    rw [SpecificPacketConverter.isBora, decide_eq_false hother,
      Bool.false_and]
  rw [← hstring] at hname ⊢
  cases kind with
  | account =>
      let s' : SpecificPacketConverter C :=
        { s with account := { s.account with isBoraAccount := false } }
      have hplain := SpecificPacketConverter.decryptAccount_plain (s := s')
        hC hclient hencodes hkey hfield hsize hnot hnul hshort
      have hempty : x.atLogin.pkt.objectVector "additionalInfos" = [] :=
        hlogin.right.right.right.right.right.right.left
      have hneither : (intAtLeast EPIC_8_1_1_RSA client &&
          SpecificPacketConverter.isBora pkt) = false := by
        rw [hnot, Bool.and_false]
      rcases forwards_account (s := s') hC hserver hoffers.serverKey
          haccount hneither hplain hname
          (infos_fit hsendable hwidths hempty) hnul hshort with
        ⟨result, fields, hresult⟩
      exact ⟨_, result, fields,
        SpecificPacketConverter.convert_account hcarries, hresult⟩
  | imbc =>
      rcases decryptImbcAccount_plain hC hclient hencodes hkey hfield hsize
          hnul hshort with
        ⟨hcut, hlength, -, hwhole⟩
      have hsame : cut (forwardedImbc server
          (s.decryptImbcAccount client pkt) pkt) = password := by
        by_cases h811 : atLeast EPIC_8_1_1_RSA server = true
        · rw [forwardedImbc, if_pos h811]
          exact hcut
        · have hplain := hwhole (fun hnew => h811 (hkeys rfl hnew))
          rw [forwardedImbc, if_neg h811, copyOver_full
            (by rw [length_bytesOfArray]; exact hplain)]
          exact hcut
      rcases forwards_imbc (x := x) hC hserver hoffers.serverKey hlength
          hname with
        ⟨result, fields, hresult⟩
      rw [hsame] at hresult
      exact ⟨_, result, fields,
        SpecificPacketConverter.convert_imbcAccount hcarries, hresult⟩

end Exchange

theorem preserved_of_convertible {kind : LoginKind} {name : Packet.CharString}
    {password : List UInt8} (h : kind.Convertible client server)
    (hname : kind.NameFits server name) (hbora : name ≠ bora)
    (hnul : 0 ∉ password) (hshort : password.length ≤ 31) :
    Preserved client server kind name password := by
  intro C x hC hkind hoffers
  rcases x.logsIn_eq server hC hkind hoffers with
    ⟨s, key, bytes, hkey, hcarries, hlogs⟩
  rcases x.forwards_login h hC hkind hoffers hname hbora hnul hshort hkey
      hcarries with
    ⟨converted, result, fields, hconverted, hanswered, hforwards, hclient,
      hserver⟩
  rcases Exchange.received_forwarded (x := x) hforwards with
    ⟨pkt, hreceived, hstring, hdecode⟩
  refine ⟨result.converter, key, pkt, ?_, hstring, ?_, ?_⟩
  · rw [hlogs, hconverted, Option.bind_some, hanswered, Option.bind_some,
      hreceived, Option.map_some]
  · rw [hkind]
    exact hdecode
  · apply Exchange.recoversOtp_eq hC h.left.rsa h.right.left.rsa
      hoffers.selectServer
    · intro h811
      rw [hclient]
      exact hkey h811
    · exact hserver

end Converter
end Rzu
